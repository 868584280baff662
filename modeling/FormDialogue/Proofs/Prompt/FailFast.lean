import FormDialogue.Proofs.Choice.Rendering
import FormDialogue.Proofs.Prompt.Asking
import FormDialogue.Proofs.Prompt.Substitution
import FormDialogue.Proofs.Workspace.Steps

/-! # A resolved record makes its text

Resolution fails for whatever a record lacks, so that making the text of a resolved record does not.
One thing is left that can go wrong: where choices are laid out one per line, their format may not
fit. -/

namespace FormDialogue
open Choice (EntryFails normalized rendersLines)
open Number (Numeral)
open Prompt (Arguments)
open Record (Options)

theorem Draw.Source.exists_pick (s : Draw.Source) {patterns : List String} (h : patterns ≠ []) :
    ∃ pattern ∈ patterns, ∃ notices, (s.pick patterns).1 = .ok (pattern, notices) := by
  match patterns with
  | [] => exact absurd rfl h
  | [p] => exact ⟨p, List.mem_singleton_self p, [], rfl⟩
  | p :: q :: rest => exact ⟨_, List.getElem_mem _, _, rfl⟩

namespace Prompt
variable {o : Options} {a : Arguments} {n : Numeral} {pattern : String} {why : Failure}

theorem fill_error_of_resolved (hresolved : o.isResolved = true)
    (h : fill pattern o a (.number n) = .error why) :
    ∃ labels, a.choices = some labels ∧ Record.choicesMark <:+: pattern.toList ∧
      rendersLines o.choiceStyle n labels = true ∧ EntryFails labels o why := by
  obtain ⟨labels, hlabels, hmark, hrender⟩ | ⟨-, values, -, -, hlist⟩ := fill_eq_error_iff.1 h
  · exact ⟨labels, hlabels, hmark, Choice.renderChoices_error hresolved hrender⟩
  · obtain ⟨s, hs⟩ := Choice.renderList_of_resolved hresolved values
    rw [hs] at hlist
    cases hlist

end Prompt

namespace Action
variable {c : Ref Cascade} {record : Ref Record} {scopes : List (Option (Ref Record))}
  {w : Workspace}

theorem select_mem (r : Ref Selector) (current : Record) (h : current.patterns ≠ [])
    (v : Workspace) :
    ∃ pattern ∈ current.patterns, ((select r current).runIn v).1 = .ok pattern := by
  obtain ⟨pattern, hmem, notices, hpick⟩ :=
    (v.sources.get (v.selectors.get r).source).exists_pick h
  refine ⟨pattern, hmem, ?_⟩
  rw [(runIn_select r current v).1, hpick]
  rfl

/-- What a record is after a resolution that gave it back. -/
theorem resolved_of_resolve (h : ((resolve c record scopes).runIn w).1 = .ok record) :
    let resolved := ((resolve c record scopes).runIn w).2.store.get record
    resolved.options.isResolved = true ∧ resolved.patterns ≠ [] := by
  intro resolved
  have hrecord : resolved = _ := resolve_record
  rw [resolve_result] at h
  split_ifs at h with hmissing hpatterns
  refine ⟨isResolved_of_missingIn (Classical.not_not.1 hmissing), ?_⟩
  rw [hrecord]
  exact hpatterns

/-- A record that was resolved stays so as long as what is not a call leaves it alone. -/
theorem resolved_of_steps (hrecord : w.store.Has record)
    (hresolved : ((resolve c record scopes).runIn w).1 = .ok record) {steps : List Step}
    (hspared : Step.Along (Step.Spares (· = record)) ((resolve c record scopes).runIn w).2 steps) :
    let current := (Step.run ((resolve c record scopes).runIn w).2 steps).store.get record
    current.options.isResolved = true ∧ current.patterns ≠ [] := by
  intro current
  have hfirst := resolved_of_resolve hresolved
  have hhas : ((resolve c record scopes).runIn w).2.store.Has record :=
    ((Call.fills_resolve c record scopes w).filled record).has hrecord
  have hcurrent : current = ((resolve c record scopes).runIn w).2.store.get record :=
    Step.run_of_resolved hhas hfirst.1 hspared
  rw [hcurrent]
  exact hfirst

/-- The text of a record that was resolved, and was left alone since, fails at most for the format
of its choices, in an entry of choices that are laid out one per line. A pattern is always picked,
and for no pattern of the record does anything else go wrong. -/
theorem format_of_resolved (c : Ref Cascade) (record : Ref Record)
    (scopes : List (Option (Ref Record))) (w : Workspace) (hrecord : w.store.Has record)
    (hresolved : ((resolve c record scopes).runIn w).1 = .ok record) (steps : List Step)
    (hspared : Step.Along (Step.Spares (· = record)) ((resolve c record scopes).runIn w).2 steps)
    (f : Formatter) (n : Numeral) (hthreshold : f.threshold = .number n) (a : Arguments) :
    let v := Step.run ((resolve c record scopes).runIn w).2 steps
    let current := v.store.get record
    let o := current.options
    let result := ((formatWith f current a).runIn v).1
    (∃ pattern ∈ current.patterns, ((select f.selector current).runIn v).1 = .ok pattern ∧
      result = Prompt.fill pattern o a f.threshold) ∧
    (∀ pattern ∈ current.patterns, ∀ why, Prompt.fill pattern o a f.threshold = .error why →
      ∃ labels format i label fault, a.choices = some labels ∧
        Record.choicesMark <:+: pattern.toList ∧ rendersLines o.choiceStyle n labels = true ∧
        o.choiceFormat = some format ∧ (normalized labels o)[i]? = some label ∧
        Format.render format.toList (i + 1) label.toList = .error fault ∧ why = .format fault) ∧
    (∀ need, result ≠ .error (.noPatterns need)) ∧
    ∀ names, result ≠ .error (.unresolved names) := by
  intro v current o result
  obtain ⟨hoptions, hpatterns⟩ := resolved_of_steps hrecord hresolved hspared
  have hfill : ∀ pattern why, Prompt.fill pattern o a f.threshold = .error why →
      ∃ labels, a.choices = some labels ∧ Record.choicesMark <:+: pattern.toList ∧
        rendersLines o.choiceStyle n labels = true ∧ EntryFails labels o why := by
    intro pattern why h
    rw [hthreshold] at h
    exact Prompt.fill_error_of_resolved hoptions h
  obtain ⟨pattern, hmem, hselected⟩ := select_mem f.selector current hpatterns v
  have hresult : result = Prompt.fill pattern o a f.threshold := formatWith_of_selected hselected
  have hformat : ∀ why, result = .error why → ∃ fault, why = .format fault := by
    intro why h
    obtain ⟨labels, -, -, -, format, i, label, fault, -, -, -, hwhy⟩ :=
      hfill pattern why (hresult.symm.trans h)
    exact ⟨fault, hwhy⟩
  refine ⟨⟨pattern, hmem, hselected, hresult⟩, fun pattern _ why h => ?_, fun need h => ?_,
    fun names h => ?_⟩
  · obtain ⟨labels, hlabels, hmark, hlines, format, i, label, fault, hentry⟩ := hfill pattern why h
    exact ⟨labels, format, i, label, fault, hlabels, hmark, hlines, hentry⟩
  · obtain ⟨fault, hwhy⟩ := hformat _ h
    cases hwhy
  · obtain ⟨fault, hwhy⟩ := hformat _ h
    cases hwhy

/-- The sample prompt, resolved, after another record was changed and asked with. Its choices stand
in one line, so that its text is made. -/
theorem format_of_resolved_sample :
    let resolved := (resolve ⟨0⟩ ⟨1⟩ [some ⟨2⟩]).runIn sample
    let steps := [
      Step.elsewhere { resolved.2 with store := resolved.2.store.set ⟨2⟩ .blank },
      Step.call (.resolve ⟨0⟩ ⟨2⟩ [some ⟨1⟩])]
    let v := Step.run resolved.2 steps
    let a : Arguments := ⟨some "colour", none, some ["a", "b"], some ["red", "green"]⟩
    sample.store.Has ⟨1⟩ ∧ resolved.1 = .ok ⟨1⟩ ∧
      Step.Along (Step.Spares (· = ⟨1⟩)) resolved.2 steps ∧
      ∃ text, ((formatWith ⟨⟨0⟩, ⟨0⟩, default⟩ (v.store.get ⟨1⟩) a).runIn v).1 = .ok text := by
  intro resolved steps v a
  have hhas : sample.store.Has ⟨1⟩ := by decide
  have hresolved : resolved.1 = .ok ⟨1⟩ := rfl
  have hspared : Step.Along (Step.Spares (· = ⟨1⟩)) resolved.2 steps := by
    refine ⟨?_, trivial, trivial⟩
    rintro r rfl hr
    exact ⟨hr, Heap.get_set_other (by decide) _⟩
  refine ⟨hhas, hresolved, hspared, ?_⟩
  have hstyle : (v.store.get ⟨1⟩).options.choiceStyle = .inline := rfl
  obtain ⟨⟨pattern, hmem, -, hresult⟩, honly, -⟩ := format_of_resolved ⟨0⟩ ⟨1⟩ [some ⟨2⟩] sample
    hhas hresolved steps hspared ⟨⟨0⟩, ⟨0⟩, default⟩ Choice.defaultThreshold rfl a
  cases hfill : Prompt.fill pattern (v.store.get ⟨1⟩).options a default with
  | ok text => exact ⟨text, hresult.trans hfill⟩
  | error why =>
    obtain ⟨labels, -, -, -, -, -, -, hlines, -⟩ := honly pattern hmem why hfill
    rw [hstyle] at hlines
    cases hlines

end Action

end FormDialogue
