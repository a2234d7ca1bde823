import Toolpath.Slicer.Style

/-! The feature that the current moves belong to. -/

namespace Toolpath

structure Classifier where
  style : SlicerStyle
  feature : Option String := none
  entry : Option Feature := none
  heightHint : Option Float := none
  missing : List String := []
  deriving DecidableEq

namespace Classifier

def apply (c : Classifier) : Annotation → Classifier
  | .feature name =>
    let entry := c.style.lookup? name
    { c with
      feature := some name
      entry
      missing := if entry.isNone then c.missing.insert name else c.missing }
  | .height h => { c with heightHint := some h }

def recognize (c : Classifier) (comment : List Char) : Classifier × Bool :=
  match c.style.annotation? comment with
  | some a => (c.apply a, true)
  | none => (c, false)

def color (c : Classifier) : Color := (c.entry.map (·.color)).getD Feature.unknownColor

/-- Unknown features count as perimeter, so that a view of the perimeter keeps them. -/
def isPerimeter (c : Classifier) : Bool := (c.entry.map (·.isPerimeter)).getD true

def isSupport (c : Classifier) : Bool := (c.entry.map (·.isSupport)).getD false

end Classifier
end Toolpath
