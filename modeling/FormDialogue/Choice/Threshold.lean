import FormDialogue.Datum.Basic
import FormDialogue.Failure
import FormDialogue.Number.Shortest

/-! # Thresholds

The count of choices from which automatic layout goes over to lines. A threshold is a number, whole
or not, and it is never below one. What was given as a threshold may also be no number at all; then
no layout that needs it can be made. -/

namespace FormDialogue.Number

def Numeral.text : Numeral → List Char
  | .int n => (toString n).toList
  | .binary x => x.text

def Numeral.below (a b : Numeral) : Bool := a.value.lt b.value

end FormDialogue.Number

namespace FormDialogue.Choice
open Number (Numeral)

/-- The larger of one and a number. What cannot be compared with one counts as one. -/
def atLeastOne (n : Numeral) : Numeral := if (Numeral.int 1).below n then n else .int 1

def defaultThreshold : Numeral := .int 4

inductive Threshold
  | number (n : Numeral)
  | other (typeName : String)
  deriving DecidableEq, Repr

namespace Threshold

instance : Inhabited Threshold := ⟨number defaultThreshold⟩

def ofInt (n : Int) : Threshold := number (.int n)

def ofDatum (d : Datum) : Threshold :=
  match d.asNumeral? with
  | some n => number n
  | none => other d.typeName

end Threshold

end FormDialogue.Choice
