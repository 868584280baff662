import FormDialogue.Proofs.Text.WordStarts
import Mathlib.Data.List.Forall2

/-! # Gaps and words

Other gaps between its words leave a text with the same words. The words keep every character that
is not blank, in order, and they correspond in two texts that correspond character by character. -/

namespace FormDialogue.Text
open Unicode (isBlank)
variable {c : Char} {x y pending pending' : List Char} {r : Char → Char → Prop}

def IsGap (gap : List Char) : Prop := gap ≠ [] ∧ ∀ c ∈ gap, isBlank c = true

/-- The second text is the first one with any of its gaps replaced by other gaps. -/
inductive Respaced : List Char → List Char → Prop
  | nil : Respaced [] []
  | solid {c : Char} {x y : List Char} (hc : isBlank c = false) (h : Respaced x y) :
    Respaced (c :: x) (c :: y)
  | gap {g g' x y : List Char} (hg : IsGap g) (hg' : IsGap g') (h : Respaced x y) :
    Respaced (g ++ x) (g' ++ y)

theorem Respaced.refl (x : List Char) : Respaced x x := by
  induction x with
  | nil => exact .nil
  | cons c x ih =>
    cases hc : isBlank c with
    | true =>
      have hgap : IsGap [c] := ⟨List.cons_ne_nil c [], by simpa using hc⟩
      exact .gap hgap hgap ih
    | false => exact .solid hc ih

theorem IsGap.wordStarts_append {g : List Char} (hg : IsGap g) (b : Bool) (x : List Char) :
    wordStarts b (g ++ x) = wordStarts false x := by
  rw [wordStarts_blanks_append hg.2, List.isEmpty_eq_false_iff.2 hg.1, Bool.and_false]

theorem Respaced.wordStarts_eq (h : Respaced x y) (b : Bool) : wordStarts b x = wordStarts b y := by
  induction h generalizing b with
  | nil => rfl
  | solid hc _ ih => rw [wordStarts_solid hc, wordStarts_solid hc, ih]
  | gap hg hg' _ ih => rw [hg.wordStarts_append, hg'.wordStarts_append, ih]

theorem Respaced.words_eq (h : Respaced x y) : words x = words y :=
  words_eq_iff.2 (h.wordStarts_eq false)

/-! ## Characters that are not blank -/

def solids (x : List Char) : List Char := x.filter fun c => !isBlank c

theorem solids_append (x y : List Char) : solids (x ++ y) = solids x ++ solids y :=
  List.filter_append ..

theorem solids_of_gap (h : ∀ c ∈ x, isBlank c = true) : solids x = [] := by
  simpa [solids] using h

theorem solids_of_solid (h : ∀ c ∈ x, isBlank c = false) : solids x = x := by
  simpa [solids] using h

theorem flatten_wordsFrom (pending x : List Char) :
    (wordsFrom pending x).flatten = pending.reverse ++ solids x := by
  induction x generalizing pending with
  | nil => cases pending <;> simp [wordsFrom, solids]
  | cons c x ih =>
    cases hc : isBlank c with
    | true => cases pending <;> simp [wordsFrom, hc, ih, solids]
    | false => simp [wordsFrom, hc, ih, solids]

theorem flatten_words (x : List Char) : (words x).flatten = solids x := flatten_wordsFrom [] x

/-! ## Texts that correspond -/

theorem forall₂_wordsFrom (hblank : ∀ c d, r c d → isBlank c = isBlank d)
    (hpending : List.Forall₂ r pending pending') (h : List.Forall₂ r x y) :
    List.Forall₂ (List.Forall₂ r) (wordsFrom pending x) (wordsFrom pending' y) := by
  have hempty {p q : List Char} (hpq : List.Forall₂ r p q) : p.isEmpty = q.isEmpty := by
    cases hpq <;> rfl
  induction h generalizing pending pending' with
  | nil =>
    rw [wordsFrom, wordsFrom, hempty hpending]
    split
    · exact .nil
    · exact .cons (List.rel_reverse hpending) .nil
  | @cons c d x y hcd _ ih =>
    rw [wordsFrom, wordsFrom, hblank c d hcd, hempty hpending]
    split
    · split
      · exact ih .nil
      · exact .cons (List.rel_reverse hpending) (ih .nil)
    · exact ih (.cons hcd hpending)

theorem forall₂_words (hblank : ∀ c d, r c d → isBlank c = isBlank d) (h : List.Forall₂ r x y) :
    List.Forall₂ (List.Forall₂ r) (words x) (words y) := forall₂_wordsFrom hblank .nil h

end FormDialogue.Text
