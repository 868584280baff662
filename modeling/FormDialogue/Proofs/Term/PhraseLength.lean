import FormDialogue.Proofs.Term.Finding
import Mathlib.Data.List.Infix

/-! # The length of runs does not matter

A run of words occurs only where its first word does, and every word is a run by itself. So what
some matcher of a declaration recognizes is the same for every length of runs, and a phrase that is
recognized as a whole is also recognized from its runs. Expressions are used as they are. Nothing
but a length that is too long to be written keeps the matchers from being given. -/

namespace FormDialogue.Term
variable {words : List (List Char)} {text : List Char} {most : Int} {a : Alternative}
  {alternatives : List Alternative} {given : List Given}

/-! ## Runs of a phrase -/

/-- Some run occurs exactly if some word does. -/
theorem exists_run_occurs_iff (hmost : 1 ≤ most) :
    (∃ run ∈ wordRuns words most, Occurs run text) ↔ ∃ w ∈ words, Occurs [w] text := by
  constructor
  · rintro ⟨run, hrun, hoccurs⟩
    obtain ⟨hne, -, hpart⟩ := mem_wordRuns_iff.1 hrun
    obtain ⟨w, rest, rfl⟩ := List.exists_cons_of_ne_nil hne
    exact ⟨w, hpart.subset List.mem_cons_self, hoccurs.head⟩
  · rintro ⟨w, hw, hoccurs⟩
    have hpart : [w] <:+: words := (List.singleton_infix_iff w words).2 hw
    exact ⟨[w], mem_wordRuns_iff.2 ⟨List.cons_ne_nil w [], hmost, hpart⟩, hoccurs⟩

/-! ## Alternatives -/

/-- An alternative is recognized in a text: a phrase when one of its runs occurs. -/
def Alternative.RecognizedIn [Limits] (most : Option Int) (text : String) : Alternative → Prop
  | .phrase t => ∃ run ∈ phraseRuns (phraseWords t) most, Occurs run text.toList
  | .expression p => ∃ m, Matcher.ofExpression p = .ok m ∧ m.matchesIn text = .ok true
  | .unusable .. => False

section
variable [Limits]

theorem Alternative.RecognizedIn.expanded {text : String} (h : a.RecognizedIn none text)
    (hmost : 1 ≤ most) : a.RecognizedIn (some most) text := by
  cases a with
  | phrase t =>
    obtain ⟨run, hrun, hoccurs⟩ := h
    rw [phraseRuns] at hrun
    split at hrun
    · cases hrun
    · next hne =>
      obtain rfl := List.mem_singleton.1 hrun
      obtain ⟨w, rest, hwords⟩ := List.exists_cons_of_ne_nil (by simpa using hne)
      rw [hwords] at hoccurs
      refine (exists_run_occurs_iff hmost).2 ⟨w, ?_, hoccurs.head⟩
      rw [hwords]
      exact List.mem_cons_self
  | expression p => exact h
  | unusable kind text => exact h

end

/-- Some matcher of a list matches the text. -/
def Recognized (ms : List Matcher) (text : String) : Prop := ∃ m ∈ ms, m.matchesIn text = .ok true

theorem recognized_append {ms more : List Matcher} {text : String} :
    Recognized (ms ++ more) text ↔ Recognized ms text ∨ Recognized more text := by
  simp [Recognized, or_and_right, exists_or]

theorem recognized_of_runs {runs : List (List (List Char))} {ms : List Matcher}
    (h : List.Forall₂ Recognizes runs ms) (text : String) :
    Recognized ms text ↔ ∃ run ∈ runs, Occurs run text.toList := by
  induction h with
  | nil => simp [Recognized]
  | @cons run m runs ms hfirst hrest ih =>
    rw [List.exists_mem_cons_iff, ← hfirst.matchesIn_iff text, ← ih]
    exact List.exists_mem_cons_iff _ _ _

section
variable [Limits]

def Alternative.Compiles : Alternative → Prop
  | .phrase _ => True
  | .expression p => ∃ m, Matcher.ofExpression p = .ok m
  | .unusable .. => False

def Compiles (alternatives : List Alternative) : Prop := ∀ a ∈ alternatives, a.Compiles

theorem compiles_cons : Compiles (a :: alternatives) ↔ a.Compiles ∧ Compiles alternatives :=
  List.forall_mem_cons

theorem matchersOf_recognizes (most : Option Int) (a : Alternative) (h : a.Compiles) :
    ∃ ms, matchersOf most a = .ok ms ∧ ∀ text, Recognized ms text ↔ a.RecognizedIn most text := by
  cases a with
  | phrase t =>
    have hsolid : ∀ run ∈ phraseRuns (phraseWords t) most, run ≠ [] ∧ Solid run :=
      fun _ hrun => solid_of_mem_phraseRuns hrun
    obtain ⟨ms, hms, hall⟩ := matchersOfRuns_recognize hsolid
    exact ⟨ms, hms, fun text => recognized_of_runs hall text⟩
  | expression p =>
    obtain ⟨m, hm⟩ := h
    refine ⟨[m], by rw [matchersOf, hm]; rfl, fun text => ?_⟩
    simp [Recognized, Alternative.RecognizedIn, hm]
  | unusable kind text => exact h.elim

theorem matchersOfAll_recognizes (most : Option Int) (h : Compiles alternatives) :
    ∃ ms, matchersOfAll most (alternatives.map .tagged) = .ok ms ∧
      ∀ text, Recognized ms text ↔ ∃ a ∈ alternatives, a.RecognizedIn most text := by
  induction alternatives with
  | nil => exact ⟨[], rfl, fun text => by simp [Recognized]⟩
  | cons a alternatives ih =>
    obtain ⟨ha, halternatives⟩ := compiles_cons.1 h
    obtain ⟨ms, hms, hfirst⟩ := matchersOf_recognizes most a ha
    obtain ⟨more, hmore, hrest⟩ := ih halternatives
    refine ⟨ms ++ more, ?_, fun text => ?_⟩
    · rw [List.map_cons, matchersOfAll, hms, hmore]
      rfl
    · rw [recognized_append, hfirst, hrest, List.exists_mem_cons_iff]

/-! ## Declarations -/

theorem expandTerms_of_written (hmost : 1 ≤ most) (hwritten : Limits.unwritten? most = none) :
    expandTerms given most = matchersOfAll (some most) given := by
  rw [expandTerms, if_neg (by omega)]
  cases matchersOfAll (some most) given with
  | ok ms =>
    rw [hwritten]
    rfl
  | error why => rfl

theorem expandTerms_of_unwritten {limit : Nat} (hmost : 1 ≤ most)
    (hlong : Limits.unwritten? most = some limit) {ms : List Matcher}
    (h : matchersOfAll (some most) given = .ok ms) :
    expandTerms given most = .error (.longNumber limit) := by
  rw [expandTerms, if_neg (by omega), h, hlong]
  rfl

theorem expandGiven_of_classified (hclassified : classifyAll given = .ok alternatives) :
    expandGiven given most = expandTerms (alternatives.map .tagged) most := by
  rw [expandGiven, hclassified]
  rfl

end

end FormDialogue.Term
