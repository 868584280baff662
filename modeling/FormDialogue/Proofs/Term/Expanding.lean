import FormDialogue.Proofs.Term.PhraseLength

/-! # What an expansion fails for

What is given for an expansion is classified first, which fails for the first value that cannot be
asked how it starts. A phrase always has its matchers. So matchers of alternatives are missing only
where an expression is refused, and the first one that is refused says why, whatever the length of
runs. -/

namespace FormDialogue.Term
open Regex (Refusal)
variable {given : List Given} {alternatives : List Alternative} {a : Alternative} {g : Given}
  {most : Option Int} {length : Int} {pattern : String} {why : Failure}

/-! ## Classification -/

section
variable [Limits]

theorem ofExpression_eq_error_iff :
    Matcher.ofExpression pattern = .error why ↔
      ∃ refusal, Regex.compile caselessFlags pattern = .error refusal ∧
        why = .ofRefusal pattern refusal := by
  rw [Matcher.ofExpression, Matcher.create]
  cases Regex.compile caselessFlags pattern with
  | ok expression => simp
  | error refusal => simp [eq_comm]

/-- What an alternative is refused for. A phrase never is. -/
def Alternative.Refused : Alternative → Failure → Prop
  | .phrase _, _ => False
  | .expression pattern, why => ∃ refusal, Regex.compile caselessFlags pattern = .error refusal ∧
      why = .ofRefusal pattern refusal
  | .unusable kind text, why => why = .foreign kind text

/-- The first of the alternatives that is refused, and what for. -/
def FirstRefused (alternatives : List Alternative) (a : Alternative) (why : Failure) : Prop :=
  ∃ before rest, alternatives = before ++ a :: rest ∧ Compiles before ∧ a.Refused why

theorem matchersOf_of_refused (most : Option Int) (h : a.Refused why) :
    matchersOf most a = .error why := by
  cases a with
  | phrase text => exact h.elim
  | expression pattern =>
    rw [matchersOf, ofExpression_eq_error_iff.2 h]
    rfl
  | unusable kind text =>
    cases h
    rfl

theorem Alternative.compiles_or_refused (a : Alternative) : a.Compiles ∨ ∃ why, a.Refused why := by
  cases a with
  | phrase text => exact Or.inl trivial
  | expression pattern =>
    cases hmatcher : Matcher.ofExpression pattern with
    | ok m => exact Or.inl ⟨m, hmatcher⟩
    | error why => exact Or.inr ⟨why, ofExpression_eq_error_iff.1 hmatcher⟩
  | unusable kind text => exact Or.inr ⟨_, rfl⟩

theorem compiles_or_firstRefused (alternatives : List Alternative) :
    Compiles alternatives ∨ ∃ a why, FirstRefused alternatives a why := by
  induction alternatives with
  | nil => exact Or.inl (List.forall_mem_nil _)
  | cons a alternatives ih =>
    obtain hfirst | ⟨why, hrefused⟩ := a.compiles_or_refused
    · obtain hrest | ⟨a', why, before, rest, rfl, hbefore, hrefused⟩ := ih
      · exact Or.inl (compiles_cons.2 ⟨hfirst, hrest⟩)
      · exact Or.inr ⟨a', why, a :: before, rest, rfl, compiles_cons.2 ⟨hfirst, hbefore⟩, hrefused⟩
    · exact Or.inr ⟨a, why, [], alternatives, rfl, List.forall_mem_nil _, hrefused⟩

theorem matchersOfAll_of_refused (most : Option Int) (h : FirstRefused alternatives a why) :
    matchersOfAll most (alternatives.map .tagged) = .error why := by
  obtain ⟨before, rest, rfl, hbefore, hrefused⟩ := h
  induction before with
  | nil =>
    rw [List.nil_append, List.map_cons, matchersOfAll, matchersOf_of_refused most hrefused]
    rfl
  | cons a' before ih =>
    obtain ⟨hfirst, hothers⟩ := compiles_cons.1 hbefore
    obtain ⟨ms, hms, -⟩ := matchersOf_recognizes most a' hfirst
    rw [List.cons_append, List.map_cons, matchersOfAll, hms, ih hothers]
    rfl

theorem exists_matchers_iff :
    (∃ ms, matchersOfAll most (alternatives.map .tagged) = .ok ms) ↔ Compiles alternatives := by
  constructor
  · rintro ⟨ms, hms⟩
    obtain hcompiles | ⟨a, why, hrefused⟩ := compiles_or_firstRefused alternatives
    · exact hcompiles
    · rw [matchersOfAll_of_refused most hrefused] at hms
      cases hms
  · intro hcompiles
    obtain ⟨ms, hms, -⟩ := matchersOfAll_recognizes most hcompiles
    exact ⟨ms, hms⟩

theorem matchersOfAll_eq_error_iff :
    matchersOfAll most (alternatives.map .tagged) = .error why ↔
      ∃ a, FirstRefused alternatives a why := by
  constructor
  · intro h
    obtain hcompiles | ⟨a, why', hrefused⟩ := compiles_or_firstRefused alternatives
    · obtain ⟨ms, hms⟩ := exists_matchers_iff.2 hcompiles
      rw [hms] at h
      cases h
    · rw [matchersOfAll_of_refused most hrefused] at h
      cases h
      exact ⟨a, hrefused⟩
  · rintro ⟨a, hrefused⟩
    exact matchersOfAll_of_refused most hrefused

/-! ## Expansion -/

/-- An expansion gives matchers if the expressions compile and the length can be written. -/
theorem exists_expansion_iff (hlength : 1 ≤ length) :
    (∃ ms, expandTerms (alternatives.map .tagged) length = .ok ms) ↔
      Compiles alternatives ∧ Limits.unwritten? length = none := by
  cases hlong : Limits.unwritten? length with
  | none => simp [expandTerms_of_written hlength hlong, exists_matchers_iff]
  | some limit =>
    simp only [reduceCtorEq, and_false, iff_false]
    rintro ⟨ms, hms⟩
    cases hmatchers : matchersOfAll (some length) (alternatives.map .tagged) with
    | ok ms' =>
      rw [expandTerms_of_unwritten hlength hlong hmatchers] at hms
      cases hms
    | error why =>
      rw [expandTerms, if_neg (by omega), hmatchers] at hms
      cases hms

/-- The first expression that is refused makes an expansion fail, or else the length does. -/
theorem expandTerms_eq_error_iff (hlength : 1 ≤ length) :
    expandTerms (alternatives.map .tagged) length = .error why ↔
      (∃ a, FirstRefused alternatives a why) ∨
        Compiles alternatives ∧ ∃ limit, Limits.unwritten? length = some limit ∧
          why = .longNumber limit := by
  have herror : matchersOfAll (some length) (alternatives.map .tagged) = .error why ↔
      ∃ a, FirstRefused alternatives a why := matchersOfAll_eq_error_iff
  have hmatchers : (∃ ms, matchersOfAll (some length) (alternatives.map .tagged) = .ok ms) ↔
      Compiles alternatives := exists_matchers_iff
  rw [← herror, ← hmatchers, expandTerms, if_neg (by omega)]
  cases matchersOfAll (some length) (alternatives.map .tagged) with
  | error why' => simp [bind, Except.bind]
  | ok ms =>
    cases Limits.unwritten? length with
    | none => simp [bind, Except.bind, pure, Except.pure]
    | some limit => simp [bind, Except.bind, eq_comm]

end

end FormDialogue.Term
