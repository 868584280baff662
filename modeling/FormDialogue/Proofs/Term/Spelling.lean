import FormDialogue.Proofs.Unicode.BlankCase
import FormDialogue.Term.Matcher
import Mathlib.Data.List.Forall2

/-! # Where words occur

A text spells words if it consists of them, compared without regard to case, with blanks between
them. Since a blank character is compared with blank characters only, a text starts with at most one
spelling of given words. The words occur where a spelling is not continued by word characters. -/

namespace FormDialogue.Term
open Regex (matchesCode)
open Unicode (isBlank isWord)
variable {w x y a b : List Char} {words : List (List Char)}

/-- The word, without regard to case. -/
def SameWord (w x : List Char) : Prop :=
  List.Forall₂ (fun c d => matchesCode caselessFlags c.toNat d = true) w x

/-- The words in order, with blanks between them. -/
def Spells : List (List Char) → List Char → Prop
  | [], x => x = []
  | [w], x => SameWord w x
  | w :: rest, x => ∃ y gap z, x = y ++ (gap ++ z) ∧ SameWord w y ∧
      (gap ≠ [] ∧ ∀ c ∈ gap, isBlank c = true) ∧ Spells rest z

/-- The words are spelled from `s` to `t`, and no word character stands next to them. -/
def OccursAt (words : List (List Char)) (text : List Char) (s t : Nat) : Prop :=
  ∃ before body after, text = before ++ (body ++ after) ∧ s = before.length ∧
    t = s + body.length ∧ Spells words body ∧
    (∀ c, before.getLast? = some c → isWord c = false) ∧
    ∀ c, after.head? = some c → isWord c = false

/-- Words as splitting a text at its blanks gives them. -/
def Solid (words : List (List Char)) : Prop :=
  ∀ w ∈ words, w ≠ [] ∧ ∀ c ∈ w, isBlank c = false

instance (words : List (List Char)) : Decidable (Solid words) :=
  decidable_of_iff (words.all fun w => !w.isEmpty && w.all fun c => !isBlank c) (by simp [Solid])

theorem Solid.tail (h : Solid (w :: words)) : Solid words :=
  fun v hv => h v (List.mem_cons_of_mem w hv)

theorem spells_cons {v : List Char} :
    Spells (w :: v :: words) x ↔ ∃ y gap z, x = y ++ (gap ++ z) ∧ SameWord w y ∧
      (gap ≠ [] ∧ ∀ c ∈ gap, isBlank c = true) ∧ Spells (v :: words) z := Iff.rfl

theorem sameWord_unique (hx : SameWord w x) (hy : SameWord w y) (heq : x ++ a = y ++ b) :
    x = y ∧ a = b :=
  List.append_inj heq (hx.length_eq.symm.trans hy.length_eq)

theorem SameWord.head (h : SameWord w x) (hw : w ≠ []) (hsolid : ∀ c ∈ w, isBlank c = false) :
    ∃ c rest, x = c :: rest ∧ isBlank c = false := by
  obtain ⟨c, w, rfl⟩ := List.exists_cons_of_ne_nil hw
  obtain ⟨d, rest, hcd, -, rfl⟩ := List.forall₂_cons_left_iff.1 h
  refine ⟨d, rest, rfl, eq_false_of_ne_true fun hd => ?_⟩
  have hc := Regex.isBlank_of_matchesCode rfl hcd hd
  rw [hsolid c List.mem_cons_self] at hc
  contradiction

theorem spells_head (h : Spells words x) (hne : words ≠ []) (hsolid : Solid words) :
    ∃ c rest, x = c :: rest ∧ isBlank c = false := by
  obtain ⟨w, words, rfl⟩ := List.exists_cons_of_ne_nil hne
  obtain ⟨hw, hblank⟩ := hsolid w List.mem_cons_self
  cases words with
  | nil => exact SameWord.head h hw hblank
  | cons v words =>
    obtain ⟨y, gap, z, rfl, hy, -, -⟩ := spells_cons.1 h
    obtain ⟨c, rest, rfl, hc⟩ := hy.head hw hblank
    exact ⟨c, rest ++ (gap ++ z), rfl, hc⟩

theorem takeWhile_gap {gap : List Char} (hgap : ∀ c ∈ gap, isBlank c = true)
    (hx : ∃ c rest, x = c :: rest ∧ isBlank c = false) :
    (gap ++ x).takeWhile isBlank = gap := by
  obtain ⟨c, rest, rfl, hc⟩ := hx
  rw [List.takeWhile_append_of_pos hgap, List.takeWhile_cons_of_neg (by simp [hc]),
    List.append_nil]

theorem gap_unique {gap gap' : List Char} (hgap : ∀ c ∈ gap, isBlank c = true)
    (hgap' : ∀ c ∈ gap', isBlank c = true) (hx : ∃ c rest, x = c :: rest ∧ isBlank c = false)
    (hy : ∃ c rest, y = c :: rest ∧ isBlank c = false) (heq : gap ++ x = gap' ++ y) :
    gap = gap' ∧ x = y := by
  have h : gap = gap' := by
    rw [← takeWhile_gap hgap hx, ← takeWhile_gap hgap' hy, heq]
  subst h
  exact ⟨rfl, List.append_cancel_left heq⟩

theorem spells_unique (hne : words ≠ []) (hsolid : Solid words) (hx : Spells words x)
    (hy : Spells words y) (heq : x ++ a = y ++ b) : x = y ∧ a = b := by
  induction words generalizing x y with
  | nil => contradiction
  | cons w words ih =>
    cases words with
    | nil => exact sameWord_unique hx hy heq
    | cons v words =>
      obtain ⟨x, gap, u, rfl, hxw, ⟨-, hgap⟩, hu⟩ := spells_cons.1 hx
      obtain ⟨y, gap', u', rfl, hyw, ⟨-, hgap'⟩, hu'⟩ := spells_cons.1 hy
      have hmore := List.cons_ne_nil v words
      -- What follows a gap starts with a character that is not blank, so the gap is known.
      have hstart : ∀ {z c}, Spells (v :: words) z →
          ∃ d rest, z ++ c = d :: rest ∧ isBlank d = false := by
        intro z c hz
        obtain ⟨d, rest, rfl, hd⟩ := spells_head hz hmore hsolid.tail
        exact ⟨d, rest ++ c, rfl, hd⟩
      simp only [List.append_assoc] at heq
      obtain ⟨rfl, hrest⟩ := sameWord_unique hxw hyw heq
      obtain ⟨rfl, hlast⟩ := gap_unique hgap hgap' (hstart hu) (hstart hu') hrest
      obtain ⟨rfl, rfl⟩ := ih hmore hsolid.tail hu hu' hlast
      exact ⟨rfl, rfl⟩

theorem OccursAt.end_unique (hne : words ≠ []) (hsolid : Solid words) {text : List Char}
    {s t t' : Nat} (h : OccursAt words text s t) (h' : OccursAt words text s t') : t = t' := by
  obtain ⟨before, body, after, rfl, rfl, rfl, hbody, -, -⟩ := h
  obtain ⟨before', body', after', htext, hs, rfl, hbody', -, -⟩ := h'
  obtain ⟨rfl, heq⟩ := List.append_inj htext hs
  rw [(spells_unique hne hsolid hbody hbody' heq).1]

end FormDialogue.Term
