import FormDialogue.Proofs.Validation.Acceptance
import FormDialogue.Validation.Model

/-! # Bounds of numbers

Bounds are refused if the upper one is less than the lower one. The undefined number is less than
nothing and nothing is less than it, so it passes as a bound. Bounds that were accepted are in order
and contain themselves just when both are defined; otherwise they contain nothing. In any case they
contain what lies between two values that they contain. -/

namespace FormDialogue
open Number (Binary64 Extended Numeral)

namespace Number

namespace Extended
variable {a b c : Extended}

theorem le_self_iff : a.le a = true ↔ a ≠ undefined := by
  cases a <;> simp [le]

theorem defined_of_le (h : a.le b = true) : a ≠ undefined ∧ b ≠ undefined := by
  cases a <;> cases b <;> simp_all [le]

theorem le_trans (hab : a.le b = true) (hbc : b.le c = true) : a.le c = true := by
  cases b with
  | undefined => exact absurd rfl (defined_of_le hab).2
  | bottom =>
    -- Only the bottom is at most the bottom.
    cases a with
    | bottom => exact hbc
    | _ => cases hab
  | top =>
    cases c with
    | top => exact hab
    | _ => cases hbc
  | real y =>
    cases a <;> cases c <;> simp_all [le]
    exact Rat.le_trans hab hbc

/-- Defined values are in one order or the other. -/
theorem lt_eq_false_iff : a.lt b = false ↔ b.le a = true ∨ b = undefined ∨ a = undefined := by
  cases a <;> cases b <;> simp [lt]

end Extended

theorem Binary64.value_eq_undefined_iff {x : Binary64} : x.value = .undefined ↔ x = .nan := by
  cases x with
  | nan => simp [value]
  | infinite negative => cases negative <;> simp [value]
  | finite negative mantissa exponent => simp [value]

end Number

namespace Record.NumericConstraint
variable {c : NumericConstraint} {a v b : Numeral}

def IsDefined (c : NumericConstraint) : Prop := c.least ≠ .nan ∧ c.most ≠ .nan

theorem contains_iff :
    c.contains v = true ↔ c.least.value.le v.value = true ∧ v.value.le c.most.value = true :=
  Bool.and_eq_true_iff

theorem isDefined_of_contains (h : c.contains v = true) : c.IsDefined := by
  obtain ⟨hleast, hmost⟩ := contains_iff.1 h
  exact ⟨fun hnan => (Extended.defined_of_le hleast).1 (Binary64.value_eq_undefined_iff.2 hnan),
    fun hnan => (Extended.defined_of_le hmost).2 (Binary64.value_eq_undefined_iff.2 hnan)⟩

theorem le_iff_isDefined (c : NumericConstraint) :
    c.least.value.le c.most.value = true ↔ c.IsDefined := by
  constructor
  · intro h
    obtain ⟨hleast, hmost⟩ := Extended.defined_of_le h
    exact ⟨fun hnan => hleast (Binary64.value_eq_undefined_iff.2 hnan),
      fun hnan => hmost (Binary64.value_eq_undefined_iff.2 hnan)⟩
  · rintro ⟨hleast, hmost⟩
    obtain hle | hundefined | hundefined := Extended.lt_eq_false_iff.1 c.ordered
    · exact hle
    · exact absurd (Binary64.value_eq_undefined_iff.1 hundefined) hleast
    · exact absurd (Binary64.value_eq_undefined_iff.1 hundefined) hmost

theorem contains_least_iff (c : NumericConstraint) :
    c.contains (.binary c.least) = true ↔ c.IsDefined := by
  refine ⟨isDefined_of_contains, fun h => contains_iff.2 ⟨?_, (le_iff_isDefined c).2 h⟩⟩
  exact Extended.le_self_iff.2 fun hnan => h.1 (Binary64.value_eq_undefined_iff.1 hnan)

theorem contains_most_iff (c : NumericConstraint) :
    c.contains (.binary c.most) = true ↔ c.IsDefined := by
  refine ⟨isDefined_of_contains, fun h => contains_iff.2 ⟨(le_iff_isDefined c).2 h, ?_⟩⟩
  exact Extended.le_self_iff.2 fun hnan => h.2 (Binary64.value_eq_undefined_iff.1 hnan)

theorem contains_between (ha : c.contains a = true) (hb : c.contains b = true)
    (hav : a.value.le v.value = true) (hvb : v.value.le b.value = true) : c.contains v = true :=
  contains_iff.2 ⟨Extended.le_trans (contains_iff.1 ha).1 hav,
    Extended.le_trans hvb (contains_iff.1 hb).2⟩

end Record.NumericConstraint

namespace Validation
open Record (NumericConstraint)
variable {entries : List (String × Datum)} {least most : Binary64} {c : NumericConstraint}

theorem checkNumeric_dict (hleast : required "min" checkNumber entries = .accepted least)
    (hmost : required "max" checkNumber entries = .accepted most) :
    checkNumeric (.dict entries) = checkBounds least most := by
  rw [checkNumeric, hleast, hmost]
  rfl

theorem checkBounds_eq_accepted (h : checkBounds least most = .accepted c) :
    c.least = least ∧ c.most = most := by
  rw [checkBounds] at h
  split at h
  · cases h
    exact ⟨rfl, rfl⟩
  · cases h

theorem exists_checkBounds_iff :
    (∃ c, checkBounds least most = .accepted c) ↔
      least.value.le most.value = true ∨ least = .nan ∨ most = .nan := by
  rw [← Binary64.value_eq_undefined_iff, ← Binary64.value_eq_undefined_iff,
    ← Extended.lt_eq_false_iff, checkBounds]
  split
  · next h => exact ⟨fun _ => h, fun _ => ⟨_, rfl⟩⟩
  · next h =>
    refine ⟨fun ⟨c, hc⟩ => ?_, fun hc => absurd hc h⟩
    cases hc

theorem checkBounds_of_inverted (h : ∀ c, checkBounds least most ≠ .accepted c) :
    checkBounds least most = .fault (.rejected (invertedBounds least most)) := by
  rw [checkBounds] at h ⊢
  split
  · next hc =>
    rw [dif_pos hc] at h
    exact absurd rfl (h _)
  · rfl

/-- Two numbers are accepted as bounds if they are in order or one of them is undefined, and are
refused otherwise. Accepted bounds are in order, and contain both ends, just when both are defined;
they contain nothing at all when one is not. What lies between two contained values is contained. -/
theorem bounds_ordered_iff_defined (hleast : required "min" checkNumber entries = .accepted least)
    (hmost : required "max" checkNumber entries = .accepted most) :
    let verdict := checkNumeric (.dict entries)
    ((∃ c, verdict = .accepted c) ↔
      least.value.le most.value = true ∨ least = .nan ∨ most = .nan) ∧
    ((∀ c, verdict ≠ .accepted c) →
      verdict = .fault (.rejected (invertedBounds least most))) ∧
    ∀ c, verdict = .accepted c →
      c.least = least ∧ c.most = most ∧
      (least.value.le most.value = true ↔ least ≠ .nan ∧ most ≠ .nan) ∧
      (c.contains (.binary least) = true ↔ least ≠ .nan ∧ most ≠ .nan) ∧
      (c.contains (.binary most) = true ↔ least ≠ .nan ∧ most ≠ .nan) ∧
      (least = .nan ∨ most = .nan → ∀ v, c.contains v = false) ∧
      ∀ a v b, c.contains a = true → c.contains b = true →
        a.value.le v.value = true → v.value.le b.value = true → c.contains v = true := by
  intro verdict
  have hverdict : verdict = checkBounds least most := checkNumeric_dict hleast hmost
  rw [hverdict]
  refine ⟨exists_checkBounds_iff, checkBounds_of_inverted, fun c hc => ?_⟩
  obtain ⟨rfl, rfl⟩ := checkBounds_eq_accepted hc
  refine ⟨rfl, rfl, c.le_iff_isDefined, c.contains_least_iff, c.contains_most_iff,
    fun hnan v => ?_, fun a v b => NumericConstraint.contains_between⟩
  rw [← Bool.not_eq_true]
  intro hv
  obtain ⟨hleast, hmost⟩ := NumericConstraint.isDefined_of_contains hv
  exact hnan.elim hleast hmost

theorem bounds_ordered_iff_defined_sample :
    let entries : List (String × Datum) := [("min", .real .nan), ("max", .int 1)]
    required "min" checkNumber entries = .accepted .nan ∧
      required "max" checkNumber entries = .accepted (.ofInt 1) ∧
      ∃ c, checkNumeric (.dict entries) = .accepted c ∧
        c.least.value.le c.most.value = false ∧ ∀ v, c.contains v = false := by
  intro entries
  have hleast : required "min" checkNumber entries = .accepted .nan := rfl
  have hmost : required "max" checkNumber entries = .accepted (.ofInt 1) := by
    have hfinite : (Binary64.ofInt 1).isFinite = true := by decide +kernel
    change ((numberOfInt 1).within "max") = _
    rw [numberOfInt, if_pos hfinite]
    rfl
  obtain ⟨haccepted, -, hbounds⟩ := bounds_ordered_iff_defined hleast hmost
  obtain ⟨c, hc⟩ := haccepted.2 (.inr (.inl rfl))
  obtain ⟨hlow, hhigh, hle, -, -, hnothing, -⟩ := hbounds c hc
  refine ⟨hleast, hmost, c, hc, ?_, hnothing (.inl rfl)⟩
  rw [hlow]
  rfl

end Validation

end FormDialogue
