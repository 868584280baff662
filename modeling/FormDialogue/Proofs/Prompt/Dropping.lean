import FormDialogue.Proofs.Prompt.Cutting
import FormDialogue.Proofs.Prompt.MarkRuns
import FormDialogue.Proofs.Text.WordStarts

/-! # Dropping marks and the words around them

A pattern whose marks for choices are dropped keeps its words, as if there were a space for every
mark, unless it is crowded: of two marks between the same two words with a gap between them, the
first one becomes a space and the second one disappears together with this space. -/

namespace FormDialogue.Prompt
open Record (choicesMark)
open Text (words wordStarts)
open Unicode (isBlank)
variable {b : Bool} {c : Char} {x y text rest : List Char} {run : List Piece} {t : Token}

/-! ## Runs and words -/

theorem exists_run (text : List Char) :
    ∃ run rest, IsRun run ∧ text = textOf run ++ rest ∧ pieces text = run ++ pieces rest ∧
      Stops rest := by
  induction text using pieces_induction with
  | nil => exact ⟨[], [], by simp [IsRun], rfl, rfl, by simp [Stops, choicesMark]⟩
  | mark rest ih =>
    obtain ⟨run, rest, hrun, rfl, hpieces, hstops⟩ := ih
    exact ⟨.mark :: run, rest, hrun.cons rfl, rfl, by rw [pieces_mark, hpieces]; rfl, hstops⟩
  | char c rest h ih =>
    by_cases hc : isGap c = true
    · obtain ⟨run, rest, hrun, rfl, hpieces, hstops⟩ := ih
      exact ⟨.char c :: run, rest, hrun.cons hc, rfl, by rw [pieces_char h, hpieces]; rfl, hstops⟩
    · refine ⟨[], c :: rest, by simp [IsRun], rfl, rfl, fun d hd => ?_, h⟩
      obtain rfl := Option.some.inj hd
      exact eq_false_of_ne_true hc

theorem spaceMarks_mark (rest : List Char) :
    spaceMarks (choicesMark ++ rest) = ' ' :: spaceMarks rest := rfl

theorem spaceMarks_char (h : ¬ choicesMark <+: c :: rest) :
    spaceMarks (c :: rest) = c :: spaceMarks rest := by
  rw [spaceMarks, pieces_char h]
  rfl

theorem spaceMarks_run (h : pieces text = run ++ pieces rest) :
    spaceMarks text = run.map Piece.spaced ++ spaceMarks rest := by
  rw [spaceMarks, h, List.map_append]
  rfl

theorem IsRun.spaced_blank (hrun : IsRun run) : ∀ c ∈ run.map Piece.spaced, isBlank c = true := by
  intro c hc
  obtain ⟨p, hp, rfl⟩ := List.mem_map.1 hc
  cases p with
  | mark => decide
  | char d => exact isBlank_of_isGap (hrun _ hp)

theorem wordStarts_cons_iff {b' : Bool} :
    wordStarts b (c :: x) = wordStarts b' (c :: y) ↔
      (isSolid c = true → b = b') ∧ wordStarts (isSolid c) x = wordStarts (isSolid c) y := by
  cases h : isBlank c with
  | true => simp [Text.wordStarts_blank h, isSolid, h]
  | false => simp [Text.wordStarts_solid h, isSolid, h]

/-- The two passes over a text behind a given character keep its words, unless a gapped run comes
between two solid characters. -/
theorem wordStarts_passes (previous : Option Char) (text : List Char) :
    wordStarts (previous.any isSolid) (takeOut (joinAcross previous text)) =
        wordStarts (previous.any isSolid) (spaceMarks text) ↔
      ¬ (previous.any isSolid = true ∧ Cramped (pieces text)) ∧ ¬ Crowded (pieces text) := by
  induction hn : text.length using Nat.strong_induction_on generalizing text previous with
  | _ n ih =>
    subst hn
    obtain ⟨run, rest, hrun, htext, hpieces, hstops⟩ := exists_run text
    obtain ⟨joined, previous', hjoined, hnil, hjoin, hmark⟩ := joinAcross_run hrun hstops previous
    have hspaced := hrun.spaced_blank
    rw [hpieces, spaceMarks_run hpieces, htext, hjoin, Text.wordStarts_blanks_append hspaced]
    cases rest with
    | nil =>
      obtain ⟨g, hg, -, hout⟩ := takeOut_run hjoined hstops
      have hblank : ∀ c ∈ g, isBlank c = true := fun c hc => isBlank_of_isGap (hg c hc)
      have hjoin' : joinAcross previous' [] = [] := by rw [joinAcross]
      have hout' : takeOut [] = [] := by rw [takeOut]
      have hcalm : ¬ Crowded run := by
        rw [← List.append_nil run, crowded_run hrun]
        exact not_crowded_nil
      have hnil : pieces [] = [] := rfl
      rw [hjoin', hout, Text.wordStarts_blanks_append hblank, hout', hnil, List.append_nil]
      exact iff_of_true rfl ⟨fun h => not_cramped_run hrun h.2, hcalm⟩
    | cons c rest =>
      rw [joinAcross_stops hstops]
      obtain ⟨g, hg, hgnil, hout⟩ := takeOut_run hjoined hstops.joinAcross
      have hblank : ∀ c ∈ g, isBlank c = true := fun c hc => isBlank_of_isGap (hg c hc)
      have hrest := ih rest.length (by simp [htext]; omega) (some c) rest rfl
      rw [hout, Text.wordStarts_blanks_append hblank,
        takeOut_copy hstops.joinAcross.cutMark?_eq_none, pieces_char hstops.2,
        cramped_run hrun (hstops.1 c rfl), crowded_run hrun, crowded_char,
        spaceMarks_char hstops.2, wordStarts_cons_iff]
      rw [Option.any_some] at hrest
      rw [hrest]
      -- The words agree here exactly if the run leaves a gap between solid characters.
      have hgapped : Gapped run → .mark ∈ run := Gapped.mark_mem
      have hempty : run = [] → .mark ∉ run := fun h => by simp [h]
      rw [List.head?_cons, Option.any_some] at hmark
      have hleft : (previous.any isSolid && g.isEmpty) = (previous.any isSolid && run.isEmpty) ↔
          (previous.any isSolid = true → (g = [] ↔ run = [])) := by
        cases previous.any isSolid <;> cases g <;> cases run <;> simp
      rw [List.isEmpty_map, hleft, hgnil, hnil, hmark]
      grind

/-! ## Words and placeholders -/

theorem not_blank_of_mem_mark (h : c ∈ t.mark) : isBlank c = false := by
  have hmarks : ∀ t : Token, t.mark.all fun c => !isBlank c := by
    intro t
    cases t <;> decide
  simpa using List.all_eq_true.1 (hmarks t) c h

theorem mark_prefix_of_append_blank (hc : isBlank c = true) (h : t.mark <+: x ++ c :: y) :
    t.mark <+: x := by
  rcases List.prefix_or_prefix_of_prefix h (List.prefix_append x _) with h' | ⟨z, hz⟩
  · exact h'
  · cases z with
    | nil => exact ⟨[], by simpa using hz.symm⟩
    | cons d z =>
      rw [← hz, List.prefix_append_right_inj, List.cons_prefix_cons] at h
      have hd : isBlank d = false := not_blank_of_mem_mark (t := t) (by simp [← hz])
      rw [h.1, hc] at hd
      contradiction

theorem placeholders_nil : placeholders [] = [] := rfl

theorem placeholders_mark (t : Token) (x : List Char) :
    placeholders (t.mark ++ x) = t :: placeholders x := by
  rw [placeholders, Cutting.ofText_mark]
  rfl

theorem placeholders_char (h : ∀ t : Token, ¬ t.mark <+: c :: x) :
    placeholders (c :: x) = placeholders x := by
  rw [placeholders, Cutting.ofText_char h, placeholders]
  cases Cutting.ofText x <;> rfl

theorem placeholders_blank (hc : isBlank c = true) (x : List Char) :
    placeholders (c :: x) = placeholders x := by
  apply placeholders_char
  intro t ht
  have hnil := mark_prefix_of_append_blank (x := []) hc ht
  exact t.mark_ne_nil (List.prefix_nil.1 hnil)

theorem placeholders_append_blank (hc : isBlank c = true) (x y : List Char) :
    placeholders (x ++ c :: y) = placeholders x ++ placeholders y := by
  induction x using reading_induction with
  | nil => exact placeholders_blank hc y
  | mark t x ih => rw [List.append_assoc, placeholders_mark, placeholders_mark, ih]; rfl
  | char d x h ih =>
    have hd : ∀ t : Token, ¬ t.mark <+: d :: (x ++ c :: y) :=
      fun t ht => h t (mark_prefix_of_append_blank hc ht)
    rw [List.cons_append, placeholders_char hd, placeholders_char h, ih]

theorem placeholders_wordsFrom (pending x : List Char) :
    (Text.wordsFrom pending x).flatMap placeholders = placeholders (pending.reverse ++ x) := by
  induction x generalizing pending with
  | nil => cases pending <;> simp [Text.wordsFrom, placeholders_nil]
  | cons c x ih =>
    cases hc : isBlank c with
    | true =>
      have hx : (Text.wordsFrom [] x).flatMap placeholders = placeholders x := ih []
      rw [placeholders_append_blank hc, ← hx]
      cases pending with
      | nil => simp [Text.wordsFrom, hc, placeholders_nil]
      | cons d pending => simp [Text.wordsFrom, hc]
    | false =>
      have hx := ih (c :: pending)
      simpa [Text.wordsFrom, hc] using hx

theorem placeholders_words (x : List Char) : (words x).flatMap placeholders = placeholders x :=
  placeholders_wordsFrom [] x

theorem prefix_of_prefix_spaceMarks {start : List Char} (hspace : ' ' ∉ start)
    (hstart : start <+: spaceMarks text) : start <+: text := by
  induction start generalizing text with
  | nil => exact List.nil_prefix
  | cons d start ih =>
    have hd : d ≠ ' ' := fun h => hspace (h ▸ List.mem_cons_self)
    cases text using pieces_induction with
    | nil => exact absurd hstart (by simp [spaceMarks, pieces])
    | mark rest =>
      rw [spaceMarks_mark, List.cons_prefix_cons] at hstart
      exact absurd hstart.1 hd
    | char c rest h =>
      rw [spaceMarks_char h, List.cons_prefix_cons] at hstart
      rw [hstart.1, List.cons_prefix_cons]
      exact ⟨rfl, ih (fun h => hspace (List.mem_cons_of_mem d h)) hstart.2⟩

theorem spaceMarks_token (ht : t ≠ .choices) (x : List Char) :
    spaceMarks (t.mark ++ x) = t.mark ++ spaceMarks x := by
  cases t with
  | field => rfl
  | value => rfl
  | values => rfl
  | choices => contradiction

theorem placeholders_spaceMarks (x : List Char) :
    placeholders (spaceMarks x) = (placeholders x).filter (· ≠ .choices) := by
  induction x using reading_induction with
  | nil => rfl
  | mark t x ih =>
    rw [placeholders_mark]
    by_cases ht : t = .choices
    · subst ht
      have hspace : spaceMarks (Token.choices.mark ++ x) = ' ' :: spaceMarks x := spaceMarks_mark x
      rw [hspace, placeholders_blank (by decide), ih]
      simp
    · rw [spaceMarks_token ht, placeholders_mark, ih]
      simp [ht]
  | char c x h ih =>
    have hmark : ∀ t : Token, ¬ t.mark <+: c :: spaceMarks x := by
      intro t ht
      rw [← spaceMarks_char (h .choices)] at ht
      refine h t (prefix_of_prefix_spaceMarks (fun hspace => ?_) ht)
      exact absurd (not_blank_of_mem_mark hspace) (by decide)
    rw [spaceMarks_char (h .choices), placeholders_char hmark, placeholders_char h, ih]

/-! ## The whole pattern -/

/-- A text that a pattern becomes without its marks for choices: the words of the pattern with a
space for every mark, and the other placeholders. -/
structure Undamaged (pattern text : List Char) : Prop where
  unmarked : ¬ choicesMark <:+: text
  same_words : words text = words (spaceMarks pattern)
  same_placeholders : placeholders text = (placeholders pattern).filter (· ≠ .choices)

theorem undamaged_of_words (h : words text = words (spaceMarks x)) : Undamaged x text := by
  have hplaceholders : placeholders text = (placeholders x).filter (· ≠ .choices) := by
    rw [← placeholders_words, h, placeholders_words, placeholders_spaceMarks]
  refine ⟨fun hmark => ?_, h, hplaceholders⟩
  have hmem : .choices ∈ placeholders text := mem_placeholders_iff.2 hmark
  simp [hplaceholders] at hmem

/-- Dropping the marks for choices leaves a pattern undamaged exactly if it is not crowded. -/
theorem dropMarks_undamaged_iff (pattern : List Char) :
    Undamaged pattern (dropMarks pattern) ↔ ¬ Crowded (pieces pattern) := by
  have hwords : words (dropMarks pattern) = words (takeOut (joinAcross none pattern)) :=
    Text.words_trim _
  have hpasses := wordStarts_passes none pattern
  rw [Option.any_none, ← Text.words_eq_iff, ← hwords] at hpasses
  constructor
  · exact fun h => (hpasses.1 h.same_words).2
  · exact fun h => undamaged_of_words (hpasses.2 ⟨by simp, h⟩)

-- The second mark takes the space along that the first one has become.
example : dropMarks "a \x7b||\x7d \x7b||\x7d b".toList = "ab".toList := by cbv

end FormDialogue.Prompt
