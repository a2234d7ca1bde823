import Toolpath.Decimal.Numeral
import Toolpath.Slicer.Feature
import Toolpath.Text.Blank
import Toolpath.Text.Case
import Toolpath.Text.Split

/-! Slicers and the annotations that they leave in comments. -/

namespace Toolpath

inductive SlicerStyle
  | generic
  | cura
  | prusaSlicer
  | superSlicer
  | orcaSlicer
  | ideaMaker
  | kiriMoto
  deriving DecidableEq, Repr, Inhabited

inductive Annotation
  | feature (name : String)
  | height (h : Float)
  deriving DecidableEq

namespace SlicerStyle

def key : SlicerStyle → String
  | generic => "Generic"
  | cura => "Cura"
  | prusaSlicer => "PrusaSlicer"
  | superSlicer => "SuperSlicer"
  | orcaSlicer => "OrcaSlicer"
  | ideaMaker => "IdeaMaker"
  | kiriMoto => "KiriMoto"

def name : SlicerStyle → String
  | ideaMaker => "ideaMaker"
  | kiriMoto => "Kiri:Moto"
  | style => style.key

/-- Slicers that are built on another one name both and so come first. -/
def signatures : List (String × SlicerStyle) := [
  ("superslicer", superSlicer), ("orcaslicer", orcaSlicer), ("prusaslicer", prusaSlicer),
  ("cura_steamengine", cura), ("generated with cura", cura), ("ideamaker", ideaMaker),
  ("kiri:moto", kiriMoto), ("kirimoto", kiriMoto)]

def detect (head : List Char) : SlicerStyle :=
  let head := Text.lower head
  ((signatures.find? fun s => Text.hasInfix s.1.toList head).map (·.2)).getD generic

def features : SlicerStyle → List Feature
  | generic => []
  | cura => Feature.curaFeatures
  | prusaSlicer => Feature.prusaFeatures
  | superSlicer => Feature.superFeatures
  | orcaSlicer => Feature.orcaFeatures
  | ideaMaker => Feature.ideaFeatures
  | kiriMoto => Feature.kiriFeatures

def lookup? (style : SlicerStyle) (name : String) : Option Feature :=
  style.features.find? (·.name == name)

def featureAfter? (mark : String) (comment : List Char) : Option Annotation :=
  (Text.after? mark.toList comment).map fun name => .feature (String.ofList (Text.trim name))

def typeAnnotation? : List Char → Option Annotation := featureAfter? ";TYPE:"

/-- A height that cannot be read is none. -/
def annotation? (style : SlicerStyle) (comment : List Char) : Option Annotation :=
  let comment := Text.trim comment
  match style with
  | generic => none
  | kiriMoto => featureAfter? "; feature" comment
  | orcaSlicer =>
    match Text.after? ";HEIGHT:".toList comment with
    | some height => (Numeral.float? (Text.trim height)).map .height
    | none => typeAnnotation? comment
  | cura | prusaSlicer | superSlicer | ideaMaker => typeAnnotation? comment

end SlicerStyle
end Toolpath
