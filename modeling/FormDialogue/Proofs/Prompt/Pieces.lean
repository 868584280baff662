import FormDialogue.Prompt.Marker
import Mathlib.Data.List.Infix

/-! # Marks for choices and what is between them

A text is read as marks for choices and single characters. A run consists of marks and gaps; it is
gapped if there is a gap between two of its marks. A text is crowded if a gapped run lies between
two solid characters. -/

namespace FormDialogue.Prompt
open Record (choicesMark)

inductive Piece
  | mark
  | char (c : Char)
  deriving DecidableEq, Repr

namespace Piece

def text : Piece → List Char
  | mark => choicesMark
  | char c => [c]

def spaced : Piece → Char
  | mark => ' '
  | char c => c

/-- Whether a piece can be part of a run. -/
def isLoose : Piece → Bool
  | mark => true
  | char c => isGap c

end Piece

def pieces : List Char → List Piece
  | [] => []
  | '\x7b' :: '|' :: '|' :: '\x7d' :: rest => .mark :: pieces rest
  | c :: rest => .char c :: pieces rest

def textOf (ps : List Piece) : List Char := ps.flatMap Piece.text

/-- The text with a space in place of every mark. -/
def spaceMarks (text : List Char) : List Char := (pieces text).map Piece.spaced

def IsRun (ps : List Piece) : Prop := ∀ p ∈ ps, p.isLoose

/-- There is a gap between two marks. -/
def Gapped (run : List Piece) : Prop :=
  ∃ u g v, run = u ++ .char g :: v ∧ .mark ∈ u ∧ .mark ∈ v

/-- The pieces start with a gapped run that ends at a solid character. -/
def Cramped (ps : List Piece) : Prop :=
  ∃ run y after, ps = run ++ .char y :: after ∧ IsRun run ∧ Gapped run ∧ isSolid y

/-- A gapped run lies between two solid characters. -/
def Crowded (ps : List Piece) : Prop :=
  ∃ before x rest, ps = before ++ .char x :: rest ∧ isSolid x ∧ Cramped rest

variable {c x y : Char} {text rest : List Char} {p : Piece} {ps run u v : List Piece}

/-! ## Reading -/

theorem pieces_mark (rest : List Char) : pieces (choicesMark ++ rest) = .mark :: pieces rest := rfl

theorem pieces_char (h : ¬ choicesMark <+: c :: rest) :
    pieces (c :: rest) = .char c :: pieces rest := by
  rw [pieces.eq_def]
  split
  · contradiction
  · next rest heq => exact absurd (heq ▸ List.prefix_append choicesMark rest) h
  · next heq =>
    rw [List.cons.injEq] at heq
    rw [heq.1, heq.2]

theorem pieces_induction {motive : List Char → Prop} (nil : motive [])
    (mark : ∀ rest, motive rest → motive (choicesMark ++ rest))
    (char : ∀ c rest, ¬ choicesMark <+: c :: rest → motive rest → motive (c :: rest))
    (text : List Char) : motive text := by
  induction hn : text.length using Nat.strong_induction_on generalizing text with
  | _ n ih =>
    subst hn
    by_cases h : choicesMark <+: text
    · obtain ⟨rest, rfl⟩ := h
      have hlength : choicesMark.length = 4 := rfl
      exact mark rest (ih _ (by rw [List.length_append]; omega) rest rfl)
    · cases text with
      | nil => exact nil
      | cons c rest => exact char c rest h (ih _ (Nat.lt_succ_self _) rest rfl)

theorem textOf_append (u v : List Piece) : textOf (u ++ v) = textOf u ++ textOf v :=
  List.flatMap_append

/-! ## Runs -/

theorem IsRun.tail (h : IsRun (p :: ps)) : IsRun ps :=
  fun q hq => h q (List.mem_cons_of_mem p hq)

theorem IsRun.cons (hp : p.isLoose = true) (h : IsRun ps) : IsRun (p :: ps) :=
  fun q hq => (List.mem_cons.1 hq).elim (fun heq => heq ▸ hp) (h q)

theorem IsRun.gap (h : IsRun (.char c :: ps)) : isGap c = true :=
  h (.char c) List.mem_cons_self

theorem isBlank_of_isGap (h : isGap c = true) : Unicode.isBlank c = true := by
  rw [isGap, Bool.or_eq_true, decide_eq_true_eq, decide_eq_true_eq] at h
  rcases h with rfl | rfl <;> decide

theorem isSolid_of_isGap (h : isGap c = true) : isSolid c = false := by
  rw [isSolid, isBlank_of_isGap h, Bool.not_true]

theorem not_gapped_nil : ¬ Gapped [] := by
  rintro ⟨u, g, v, h, -, -⟩
  simp at h

theorem gapped_char : Gapped (.char c :: run) ↔ Gapped run := by
  constructor
  · rintro ⟨u, g, v, h, hu, hv⟩
    cases u with
    | nil => simp at hu
    | cons a u =>
      rw [List.cons_append, List.cons.injEq] at h
      obtain ⟨rfl, rfl⟩ := h
      exact ⟨u, g, v, rfl, by simpa using hu, hv⟩
  · rintro ⟨u, g, v, rfl, hu, hv⟩
    exact ⟨.char c :: u, g, v, rfl, List.mem_cons_of_mem _ hu, hv⟩

theorem gapped_map_char (g : List Char) (ps : List Piece) :
    Gapped (g.map .char ++ ps) ↔ Gapped ps := by
  induction g with
  | nil => rfl
  | cons c g ih => rw [List.map_cons, List.cons_append, gapped_char, ih]

theorem gapped_mark :
    Gapped (.mark :: run) ↔ ∃ u g v, run = u ++ .char g :: v ∧ .mark ∈ v := by
  constructor
  · rintro ⟨u, g, v, h, hu, hv⟩
    cases u with
    | nil => simp at hu
    | cons a u =>
      rw [List.cons_append, List.cons.injEq] at h
      exact ⟨u, g, v, h.2, hv⟩
  · rintro ⟨u, g, v, rfl, hv⟩
    exact ⟨.mark :: u, g, v, rfl, List.mem_cons_self, hv⟩

theorem gapped_mark_mark : Gapped (.mark :: .mark :: run) ↔ Gapped (.mark :: run) := by
  rw [gapped_mark, gapped_mark]
  constructor
  · rintro ⟨u, g, v, h, hv⟩
    cases u with
    | nil => simp at h
    | cons a u =>
      rw [List.cons_append, List.cons.injEq] at h
      exact ⟨u, g, v, h.2, hv⟩
  · rintro ⟨u, g, v, rfl, hv⟩
    exact ⟨.mark :: u, g, v, rfl, hv⟩

theorem gapped_mark_char : Gapped (.mark :: .char c :: run) ↔ .mark ∈ run := by
  rw [gapped_mark]
  constructor
  · rintro ⟨u, g, v, h, hv⟩
    cases u with
    | nil =>
      rw [List.nil_append, List.cons.injEq] at h
      exact h.2 ▸ hv
    | cons a u =>
      rw [List.cons_append, List.cons.injEq] at h
      rw [h.2]
      exact List.mem_append_right _ (List.mem_cons_of_mem _ hv)
  · exact fun h => ⟨[], c, run, rfl, h⟩

theorem Gapped.mark_mem (h : Gapped run) : .mark ∈ run := by
  obtain ⟨u, g, v, rfl, hu, -⟩ := h
  exact List.mem_append_left _ hu

theorem run_unique (hu : IsRun u) (hv : IsRun v) (hx : isGap x = false) (hy : isGap y = false)
    {ps qs : List Piece} (h : u ++ .char x :: ps = v ++ .char y :: qs) :
    u = v ∧ x = y ∧ ps = qs := by
  induction u generalizing v with
  | nil =>
    cases v with
    | nil => simpa using h
    | cons b v =>
      rw [List.nil_append, List.cons_append, List.cons.injEq] at h
      rw [← h.1] at hv
      exact absurd hv.gap (by simp [hx])
  | cons a u ih =>
    cases v with
    | nil =>
      rw [List.nil_append, List.cons_append, List.cons.injEq] at h
      rw [h.1] at hu
      exact absurd hu.gap (by simp [hy])
    | cons b v =>
      rw [List.cons_append, List.cons_append, List.cons.injEq] at h
      obtain ⟨rfl, h⟩ := h
      obtain ⟨rfl, hrest⟩ := ih hu.tail hv.tail h
      exact ⟨rfl, hrest⟩

/-! ## Crowded pieces -/

theorem isGap_of_isSolid (h : isSolid c = true) : isGap c = false := by
  by_contra hgap
  simp [isSolid_of_isGap (by simpa using hgap)] at h

theorem cramped_run (hrun : IsRun run) (hc : isGap c = false) :
    Cramped (run ++ .char c :: ps) ↔ Gapped run ∧ isSolid c = true := by
  constructor
  · rintro ⟨u, y, after, h, hu, hgapped, hy⟩
    obtain ⟨rfl, rfl, -⟩ := run_unique hrun hu hc (isGap_of_isSolid hy) h
    exact ⟨hgapped, hy⟩
  · exact fun h => ⟨run, c, ps, rfl, hrun, h.1, h.2⟩

theorem not_cramped_run (hrun : IsRun run) : ¬ Cramped run := by
  rintro ⟨u, y, after, rfl, -, -, hy⟩
  have hgap := hrun (.char y) (by simp)
  rw [Piece.isLoose, isGap_of_isSolid hy] at hgap
  contradiction

theorem crowded_cons :
    Crowded (p :: ps) ↔ (∃ x, p = .char x ∧ isSolid x = true ∧ Cramped ps) ∨ Crowded ps := by
  constructor
  · rintro ⟨before, x, rest, h, hx, hrest⟩
    cases before with
    | nil =>
      rw [List.nil_append, List.cons.injEq] at h
      exact Or.inl ⟨x, h.1, hx, h.2 ▸ hrest⟩
    | cons a before =>
      rw [List.cons_append, List.cons.injEq] at h
      exact Or.inr ⟨before, x, rest, h.2, hx, hrest⟩
  · rintro (⟨x, rfl, hx, hps⟩ | ⟨before, x, rest, rfl, hx, hrest⟩)
    · exact ⟨[], x, ps, rfl, hx, hps⟩
    · exact ⟨p :: before, x, rest, rfl, hx, hrest⟩

theorem not_crowded_nil : ¬ Crowded [] := by
  rintro ⟨before, x, rest, h, -, -⟩
  simp at h

theorem crowded_char :
    Crowded (.char c :: ps) ↔ isSolid c = true ∧ Cramped ps ∨ Crowded ps := by
  rw [crowded_cons]
  constructor
  · rintro (⟨x, hx, h⟩ | h)
    · cases hx
      exact Or.inl h
    · exact Or.inr h
  · rintro (h | h)
    · exact Or.inl ⟨c, rfl, h⟩
    · exact Or.inr h

theorem crowded_run (hrun : IsRun run) : Crowded (run ++ ps) ↔ Crowded ps := by
  induction run with
  | nil => rfl
  | cons p run ih =>
    rw [List.cons_append, crowded_cons, ih hrun.tail]
    constructor
    · rintro (⟨x, rfl, hx, -⟩ | h)
      · rw [isSolid_of_isGap hrun.gap] at hx
        contradiction
      · exact h
    · exact Or.inr

end FormDialogue.Prompt
