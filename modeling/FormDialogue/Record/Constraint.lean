import FormDialogue.Failure
import FormDialogue.Number.Binary64
import FormDialogue.Regex.Matcher

/-! # Constraints

Bounds for the number and an expression for the text that a field may hold. Bounds are never
inverted, and the expression of a constraint has been compiled. -/

namespace FormDialogue.Record
open Number (Binary64 Numeral)
open Regex (Expression Flags)

structure NumericConstraint where
  least : Binary64
  most : Binary64
  ordered : most.value.lt least.value = false
  deriving DecidableEq

def NumericConstraint.contains (c : NumericConstraint) (v : Numeral) : Bool :=
  c.least.value.le v.value && v.value.le c.most.value

/-- An expression that a text must match as a whole. -/
structure PatternConstraint where
  pattern : String
  expression : Expression
  compiled : Regex.compile .none pattern = .ok expression

def PatternConstraint.accepts (c : PatternConstraint) (text : String) : Except Failure Bool :=
  (c.expression.matchesWhole text).mapError (Failure.ofRefusal c.pattern)

end FormDialogue.Record
