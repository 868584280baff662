import FormDialogue.Proofs.Regex.Refusing
import FormDialogue.Proofs.Term.Routes

/-! # Malformed expressions

An expression that cannot be read is reported as a bad term of the declaration, with the fault and
its place. Some expressions fail in other ways instead: with counts that are too large or too long,
with groups that are nested too deeply, with look-behinds that reach too far, and with heads of
flags that switch to both alphabets. -/

namespace FormDialogue.Term
open Regex (Refusal CountIn LooksBehind Switches Explained counted countOf isNestingMark nested)
variable {given : List Given} {alternatives : List Alternative} {pattern : String}
  {refusal : Refusal} {why : Failure} {g : Given}

/-- A text, or an alternative with a text. -/
def Given.IsText : Given → Prop
  | plain _ | tagged (.phrase _) | tagged (.expression _) => True
  | _ => False

theorem Given.IsText.classify_eq_ok (h : g.IsText) :
    ∃ a, g.classify = .ok a ∧ ∀ kind text, a ≠ .unusable kind text := by
  match g, h with
  | plain text, _ =>
    refine ⟨.ofText text, rfl, ?_⟩
    rw [Alternative.ofText]
    split <;> exact nofun
  | tagged (.phrase text), _ => exact ⟨_, rfl, nofun⟩
  | tagged (.expression pattern), _ => exact ⟨_, rfl, nofun⟩

theorem classifyAll_of_texts (h : ∀ g ∈ given, g.IsText) :
    ∃ alternatives, classifyAll given = .ok alternatives ∧
      ∀ kind text, .unusable kind text ∉ alternatives := by
  induction given with
  | nil => exact ⟨[], rfl, by simp⟩
  | cons g given ih =>
    obtain ⟨hg, hgiven⟩ := List.forall_mem_cons.1 h
    obtain ⟨a, ha, husable⟩ := hg.classify_eq_ok
    obtain ⟨alternatives, halternatives, hall⟩ := ih hgiven
    refine ⟨a :: alternatives, by rw [classifyAll, ha, halternatives]; rfl, fun kind text hmem => ?_⟩
    obtain heq | hmem := List.mem_cons.1 hmem
    · exact husable kind text heq.symm
    · exact hall kind text hmem

section
variable [Limits]

/-- A text that gives no reason for a failure of another kind than a fault of the syntax. -/
structure Moderate (pattern : List Char) : Prop where
  counts : ∀ digits, CountIn pattern digits → (∀ c ∈ digits, c.isDigit = true) →
    Limits.exceeded? digits.length = none ∧ Regex.valueIn 10 digits < Regex.repeatLimit
  shallow : 2 * pattern.countP isNestingMark + 1 < Limits.mostCalls
  near : ¬ LooksBehind pattern
  alphabets : ¬ (Switches 'a' pattern ∧ Switches 'u' pattern)

theorem Moderate.fault (h : Moderate pattern.toList) (hrefusal : Explained pattern.toList refusal) :
    ∃ cause position, refusal = .fault cause position := by
  cases refusal with
  | fault cause position => exact ⟨cause, position, rfl⟩
  | hugeCount =>
    obtain ⟨digits, hcount, hdigits, hlarge⟩ := hrefusal
    exact absurd hlarge (Nat.not_le.2 (h.counts digits hcount hdigits).2)
  | longCount limit length =>
    obtain ⟨digits, hcount, hdigits, rfl, hlong⟩ := hrefusal
    rw [(h.counts digits hcount hdigits).1] at hlong
    cases hlong
  | tooDeep => exact absurd hrefusal (Nat.not_le.2 h.shallow)
  | overreach => exact absurd hrefusal h.near
  | twoAlphabets => exact absurd hrefusal h.alphabets
  | crossedGroup => exact hrefusal.elim

theorem FirstRefused.mem {a : Alternative} (h : FirstRefused alternatives a why) :
    a ∈ alternatives := by
  obtain ⟨before, rest, rfl, -, -⟩ := h
  exact List.mem_append_right before List.mem_cons_self

/-- Among texts nothing but an expression is refused, and the text of that explains it. -/
theorem FirstRefused.explained {a : Alternative} (h : FirstRefused alternatives a why)
    (husable : ∀ kind text, .unusable kind text ∉ alternatives) :
    ∃ pattern refusal, a = .expression pattern ∧ why = .ofRefusal pattern refusal ∧
      Explained pattern.toList refusal := by
  have hmem := h.mem
  obtain ⟨_, _, -, -, hrefused⟩ := h
  cases a with
  | phrase text => exact hrefused.elim
  | expression pattern =>
    obtain ⟨refusal, hcompile, hwhy⟩ := hrefused
    exact ⟨pattern, refusal, rfl, hwhy, Regex.compile_explained rfl rfl hcompile⟩
  | unusable kind text => exact absurd hmem (husable kind text)

end

end FormDialogue.Term

namespace FormDialogue.Action
open Term
open Regex (Refusal counted nested)

/-- An expansion of texts gives matchers exactly when every expression can be read and the length of
runs can be written; otherwise it fails for the first expression that cannot be read, or else for
the length. That is reported as a bad term where the text gives no reason for anything else. A count
in braces that is too large or has too many digits is such a reason, and so are groups that are
nested too deeply; neither is reported as a bad term of the declaration. -/
theorem expansion_reports_refusal [Limits] {given : List Given} (hgiven : ∀ g ∈ given, g.IsText)
    {most : Int} (hmost : 1 ≤ most) (w : Workspace) :
    ∃ alternatives, classifyAll given = .ok alternatives ∧
      let result := ((expandGiven given most).runIn w).1
      ((∃ ms, result = .ok ms) ↔ Compiles alternatives ∧ Limits.unwritten? most = none) ∧
      (∀ why, result = .error why ↔ (∃ a, FirstRefused alternatives a why) ∨
        Compiles alternatives ∧ ∃ limit, Limits.unwritten? most = some limit ∧
          why = .longNumber limit) ∧
      ((∀ pattern, .expression pattern ∈ alternatives → Moderate pattern.toList) →
        Limits.unwritten? most = none → ∀ why, result = .error why →
          ∃ pattern cause position,
            .expression pattern ∈ alternatives ∧ why = .badTerm pattern cause position) ∧
      (∀ before rest c digits, Compiles before → c ∉ "\\()[?*+|\x7b.^$".toList →
        (∀ d ∈ digits, d.isDigit = true) →
        alternatives = before ++ .expression (String.ofList (counted c digits)) :: rest →
        (∀ limit, Limits.exceeded? digits.length = some limit →
          result = .error (.longCount limit digits.length)) ∧
        (Limits.exceeded? digits.length = none → Regex.repeatLimit ≤ Regex.valueIn 10 digits →
          result = .error .hugeCount)) ∧
      ∀ before rest c depth, Compiles before → c ≠ '\\' → c ≠ '?' →
        Limits.mostCalls < 2 * depth →
        alternatives = before ++ .expression (String.ofList (nested depth c)) :: rest →
        result = .error .endless := by
  obtain ⟨alternatives, hclassify, husable⟩ := classifyAll_of_texts hgiven
  refine ⟨alternatives, hclassify, ?_⟩
  intro result
  have hresult : result = Term.expandTerms (alternatives.map .tagged) most := by
    have hexpand : result = ((expandTerms (alternatives.map .tagged) most).runIn w).1 :=
      congrArg Prod.fst (expandGiven_of_classified hclassify)
    rw [hexpand, (runIn_expandTerms _ _ w).1]
  have herror : ∀ why, result = .error why ↔ (∃ a, FirstRefused alternatives a why) ∨
      Compiles alternatives ∧ ∃ limit, Limits.unwritten? most = some limit ∧
        why = .longNumber limit := fun why => by
    rw [hresult, expandTerms_eq_error_iff hmost]
  have hrefused : ∀ {before rest pattern refusal}, Compiles before →
      alternatives = before ++ .expression pattern :: rest →
      Regex.compile caselessFlags pattern = .error refusal →
      result = .error (.ofRefusal pattern refusal) :=
    fun {before rest pattern refusal} hbefore halternatives hcompile =>
      (herror _).2 (Or.inl ⟨_, before, rest, halternatives, hbefore, refusal, hcompile, rfl⟩)
  refine ⟨by rw [hresult, exists_expansion_iff hmost], herror, fun hmoderate hwritten why hwhy => ?_,
    fun before rest c digits hbefore hc hdigits halternatives => ?_,
    fun before rest c depth hbefore hbackslash hquestion hdeep halternatives => ?_⟩
  · obtain ⟨a, ha⟩ | ⟨-, limit, hlong, -⟩ := (herror why).1 hwhy
    · obtain ⟨pattern, refusal, rfl, rfl, hexplained⟩ := ha.explained husable
      obtain ⟨cause, position, rfl⟩ := (hmoderate pattern ha.mem).fault hexplained
      exact ⟨pattern, cause, position, ha.mem, rfl⟩
    · rw [hwritten] at hlong
      cases hlong
  · have hcounted : ∀ refusal, Regex.countOf digits = .error refusal →
        result = .error (.ofRefusal (String.ofList (counted c digits)) refusal) :=
      fun refusal hcount =>
        hrefused hbefore halternatives (Regex.compile_counted rfl hc hdigits hcount)
    exact ⟨fun limit hlong => hcounted _ (Regex.countOf_of_long hlong),
      fun hshort hlarge => hcounted _ (Regex.countOf_of_large hshort hlarge)⟩
  · exact hrefused hbefore halternatives
      (Regex.compile_nested rfl hbackslash hquestion hdeep)

theorem expansion_reports_refusal_sample :
    let given := [Given.plain "Light blue", .plain "(x\x7b4294967295\x7d)"]
    (∀ g ∈ given, g.IsText) ∧
      ((expandGiven given 2).runIn {}).1 = .error .hugeCount := by
  intro given
  have hgiven : ∀ g ∈ given, g.IsText := by simp [given, Given.IsText]
  obtain ⟨alternatives, hclassify, -, -, -, hcounted, -⟩ :=
    expansion_reports_refusal hgiven (by decide : (1 : Int) ≤ 2) {}
  have halternatives : alternatives = [.phrase "Light blue"] ++
      .expression (String.ofList (counted 'x' "4294967295".toList)) :: [] :=
    Except.ok.inj (hclassify.symm.trans (by decide +kernel))
  have hbefore : Compiles [.phrase "Light blue"] := by simp [Compiles, Alternative.Compiles]
  have hdigits : ∀ d ∈ "4294967295".toList, d.isDigit = true :=
    List.all_eq_true.1 (by decide)
  exact ⟨hgiven, (hcounted _ _ 'x' _ hbefore (by decide) hdigits halternatives).2
    (Limits.exceeded?_of_small (by decide)) (by decide +kernel)⟩

end FormDialogue.Action
