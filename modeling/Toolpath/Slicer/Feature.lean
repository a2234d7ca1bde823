import Toolpath.Color

/-! The features that each slicer names in its comments, with their colors and uses. -/

namespace Toolpath

structure Feature where
  name : String
  color : Color
  isPerimeter : Bool
  isSupport : Bool
  deriving DecidableEq

namespace Feature

def unknownColor : Color := .rgb 0.5 0.5 0.5

def wall (name : String) (r g b : Float32) : Feature := ⟨name, .rgb r g b, true, false⟩
def inner (name : String) (r g b : Float32) : Feature := ⟨name, .rgb r g b, false, false⟩
def support (name : String) (r g b : Float32) : Feature := ⟨name, .rgb r g b, false, true⟩

def curaFeatures : List Feature := [
  wall "SKIN" 1.0 0.9 0.3,
  wall "WALL-OUTER" 1.0 0.5 0.2,
  wall "WALL-INNER" 0.59 0.19 0.16,
  inner "FILL" 0.95 0.25 0.25,
  inner "SKIRT" 0.0 0.53 0.43,
  support "SUPPORT" 0.0 1.0 0.0,
  support "SUPPORT-INTERFACE" 0.0 0.5 0.0,
  inner "PRIME-TOWER" 0.7 0.89 0.67,
  inner "Custom" 0.5 0.5 0.5]

def prusaFeatures : List Feature := [
  wall "Perimeter" 1.0 0.9 0.3,
  wall "External perimeter" 1.0 0.5 0.2,
  wall "Overhang perimeter" 0.15 0.16 0.75,
  inner "Internal infill" 0.59 0.19 0.16,
  inner "Solid infill" 0.59 0.19 0.8,
  wall "Top solid infill" 0.95 0.25 0.25,
  inner "Bridge infill" 0.3 0.5 0.73,
  inner "Gap fill" 1.0 1.0 1.0,
  inner "Skirt" 0.0 0.53 0.43,
  inner "Skirt/Brim" 0.0 0.53 0.43,
  support "Support material" 0.0 1.0 0.0,
  support "Support material interface" 0.0 0.5 0.0,
  inner "Wipe tower" 0.7 0.89 0.67,
  inner "Custom" 0.5 0.5 0.5]

def superFeatures : List Feature := [
  wall "Perimeter" 1.0 0.9 0.3,
  wall "External perimeter" 1.0 0.5 0.2,
  inner "Internal infill" 0.59 0.19 0.16,
  wall "Solid infill" 0.59 0.19 0.8,
  wall "Top solid infill" 0.95 0.25 0.25,
  inner "Bridge infill" 0.3 0.5 0.73,
  inner "Gap fill" 1.0 1.0 1.0,
  inner "Skirt" 0.0 0.53 0.43,
  inner "Skirt/Brim" 0.0 0.53 0.43,
  support "Supported material" 0.0 1.0 0.0,
  support "Supported material interface" 0.0 0.5 0.0,
  support "Support material" 0.5 0.5 0.5,
  support "Support material interface" 0.5 0.5 0.5,
  wall "Overhang perimeter" 0.5 0.5 0.5,
  wall "Wipe tower" 0.5 0.5 0.5,
  inner "Custom" 0.5 0.5 0.5]

def orcaFeatures : List Feature := [
  wall "Outer wall" 1.0 0.9 0.3,
  inner "Inner wall" 1.0 0.49 0.22,
  inner "Overhang wall" 0.15 0.16 0.75,
  inner "Sparse infill" 0.69 0.19 0.16,
  inner "Internal solid infill" 0.59 0.33 0.8,
  wall "Top surface" 0.7 0.22 0.22,
  wall "Bottom surface" 0.4 0.36 0.78,
  inner "Bridge" 0.3 0.5 0.73,
  inner "Custom" 0.37 0.82 0.58,
  support "Support" 0.0 1.0 0.0,
  support "Support interface" 0.12 0.38 0.13,
  inner "Prime tower" 0.7 0.89 0.67,
  inner "Internal Bridge" 0.3 0.5 0.73,
  inner "Skirt" 0.0 0.53 0.43]

def ideaFeatures : List Feature := [
  wall "WALL-OUTER" 0.47 0.18 0.18,
  inner "WALL-INNER" 0.0 0.55 0.0,
  inner "FILL" 0.9 0.2 0.2,
  inner "SOLID-FILL" 0.95 0.25 0.25,
  inner "BRIDGE" 0.9 0.15 0.195,
  inner "SKIRT" 0.31 0.12 0.33,
  support "SUPPORT" 0.0 0.53 0.43,
  support "DENSE-SUPPORT" 0.0 0.28 0.55,
  inner "RAFT" 0.59 0.49 0.2,
  inner "CUSTOM" 0.5 0.5 0.5]

def kiriFeatures : List Feature := [
  wall "shells" 1.0 0.9 0.3,
  inner "sparse infill" 0.59 0.19 0.16,
  wall "solid fill" 0.59 0.19 0.8,
  support "Support material" 0.5 0.5 0.5,
  support "Support material interface" 0.5 0.5 0.5,
  wall "Overhang perimeter" 0.5 0.5 0.5,
  wall "Wipe tower" 0.5 0.5 0.5]

end Feature
end Toolpath
