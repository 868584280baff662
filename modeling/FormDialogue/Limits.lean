/-! # Limits

What the surroundings of a program bound, whatever it computes: how many digits a number may have
that is written as a text or read from one, and how deeply calls may be nested. The limit on digits
can be lifted. Where there is one it is never low, and some calls can always be nested. -/

namespace FormDialogue

class Limits where
  /-- The most digits of a number that is written or read. -/
  mostDigits : Option Nat
  /-- The most calls that are nested where an expression is read. -/
  mostCalls : Nat
  mostDigits_ge : ∀ digits, mostDigits = some digits → 640 ≤ digits
  mostCalls_ge : 2 ≤ mostCalls

namespace Limits

instance usual : Limits where
  mostDigits := some 4300
  -- A thousand calls can be nested, but some of them lead to where an expression is read.
  mostCalls := 980
  mostDigits_ge := by simp
  mostCalls_ge := by decide

/-- The limit that a number of digits exceeds. -/
def exceeded? [Limits] (digits : Nat) : Option Nat := mostDigits.filter (· < digits)

/-- The limit for which an integer is too long to be written. -/
def unwritten? [Limits] (n : Int) : Option Nat :=
  mostDigits.filter fun digits => Nat.pow 10 digits ≤ n.natAbs

section
variable [Limits] {digits : Nat} {n : Int}

theorem exceeded?_of_small (h : digits < 640) : exceeded? digits = none := by
  refine Option.filter_eq_none_iff.2 fun limit hlimit => ?_
  have hge := mostDigits_ge limit hlimit
  simp only [decide_eq_true_eq, Nat.not_lt]
  omega

theorem unwritten?_of_small (h : n.natAbs ≤ 640) : unwritten? n = none := by
  refine Option.filter_eq_none_iff.2 fun limit hlimit => ?_
  have hge := mostDigits_ge limit hlimit
  have hpow : limit < Nat.pow 10 limit := Nat.lt_pow_self (by decide)
  simp only [decide_eq_true_eq, Nat.not_le]
  omega

end

end Limits

end FormDialogue
