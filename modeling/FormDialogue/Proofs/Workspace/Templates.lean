import FormDialogue.Proofs.Workspace.Registering

/-! # Templates for a usage

A cascade gives the template for a usage in one of two ways. An override is resolved, and refused
if it has no pattern. Without one the registered template is given as it is: registration has made
it set every option, but nothing has looked for its patterns. So what is given can be used, except
for a registered template without patterns. -/

namespace FormDialogue
open Record (Usage)

/-- A text can be made from a record that sets every option and has a pattern. -/
def Record.Usable (r : Record) : Prop := r.options.isResolved = true ∧ r.patterns ≠ []

instance (r : Record) : Decidable r.Usable := inferInstanceAs (Decidable (_ ∧ _))

namespace Action
variable {c : Ref Cascade} {w : Workspace} {usage : Usage} {overrides : List (Option (Ref Record))}
  {first : Ref Record} {rest : List (Ref Record)}

/-- No template is given, or one that can be used, or the look for it fails for want of patterns. -/
def GivesUsable (c : Ref Cascade) (usage : Usage) (overrides : List (Option (Ref Record)))
    (w : Workspace) : Prop :=
  let store := ((resolveTemplate c usage overrides).runIn w).2.store
  match ((resolveTemplate c usage overrides).runIn w).1 with
  | .ok none => True
  | .ok (some t) => (store.get t).Usable
  | .error why => why = .noPatterns .resolution

section Override
variable (h : overrides.reduceOption = first :: rest)
include h

theorem resolveTemplate_override_result
    (hdefaults : (w.store.get (w.cascades.get c).defaults).options.isResolved = true) :
    ((resolveTemplate c usage overrides).runIn w).1 =
      if (w.store.get first).patterns = [] then .error (.noPatterns .resolution)
      else .ok (some first) := by
  rw [resolveTemplate_cons h, resolve_of_resolved first _ hdefaults]
  by_cases hpatterns : (w.store.get first).patterns = []
  · rw [if_pos hpatterns, if_pos hpatterns]
    rfl
  · rw [if_neg hpatterns, if_neg hpatterns]
    rfl

theorem resolveTemplate_override_record :
    ((resolveTemplate c usage overrides).runIn w).2.store.get first =
      { w.store.get first with
        options := .tabulate fun n => w.store.firstSet n (first :: (rest ++
          ((w.cascades.get c).registered usage).toList ++ [(w.cascades.get c).defaults])) } := by
  rw [resolveTemplate_cons h, resolve_record]
  dsimp only
  rw [chainOf, Call.reduceOption_map_some_append]

theorem resolveTemplate_override_resolved
    (hdefaults : (w.store.get (w.cascades.get c).defaults).options.isResolved = true) :
    (((resolveTemplate c usage overrides).runIn w).2.store.get first).options.isResolved =
      true := by
  rw [resolveTemplate_cons h]
  exact isResolved_of_missingIn (missingIn_eq_nil (by simp [chainOf]) hdefaults)

end Override

theorem resolveTemplate_eq_none_iff
    (hdefaults : (w.store.get (w.cascades.get c).defaults).options.isResolved = true) :
    ((resolveTemplate c usage overrides).runIn w).1 = .ok none ↔
      overrides.reduceOption = [] ∧ (w.cascades.get c).registered usage = none := by
  cases hgiven : overrides.reduceOption with
  | nil =>
    rw [resolveTemplate_nil hgiven]
    simp
  | cons first rest =>
    rw [resolveTemplate_override_result hgiven hdefaults]
    split <;> simp

/-- Both ways to a template together: the resolved override, and the registered template as it
is. -/
theorem givesUsable_iff
    (hdefaults : (w.store.get (w.cascades.get c).defaults).options.isResolved = true)
    (hregistered : ∀ t, (w.cascades.get c).registered usage = some t →
      (w.store.get t).options.isResolved = true) :
    GivesUsable c usage overrides w ↔ (overrides.reduceOption = [] →
      ∀ t, (w.cascades.get c).registered usage = some t → (w.store.get t).patterns ≠ []) := by
  cases hgiven : overrides.reduceOption with
  | nil =>
    rw [GivesUsable, resolveTemplate_nil hgiven]
    cases hfound : (w.cascades.get c).registered usage with
    | none => simp
    | some t => simp [Record.Usable, hregistered t hfound]
  | cons first rest =>
    let v := ((resolveTemplate c usage overrides).runIn w).2
    have hresolved : (v.store.get first).options.isResolved = true :=
      resolveTemplate_override_resolved hgiven hdefaults
    have hrecord : v.store.get first = _ := resolveTemplate_override_record hgiven
    simp only [GivesUsable, resolveTemplate_override_result hgiven hdefaults, reduceCtorEq,
      IsEmpty.forall_iff, iff_true]
    by_cases hpatterns : (w.store.get first).patterns = []
    · rw [if_pos hpatterns]
    · rw [if_neg hpatterns]
      refine ⟨hresolved, ?_⟩
      rw [hrecord]
      exact hpatterns

end Action

namespace Construction
open FormDialogue.Action
open Registration (latest)

/-- In every run from the building of a cascade on, there is no template for a usage exactly if no
override is given and none is registered. The first override is given with the first set value of
each option, or refused if it has no pattern. A registered template is given as it is, with all of
its options set; it is the one of the two that can be without patterns. -/
theorem run_gives_templates (w : Workspace) (k : Construction) (c : Ref Cascade)
    (steps : List Step) (hrecords : ∀ r ∈ k.records, w.store.Has r)
    (hbuilt : (k.act.runIn w).1 = .ok c)
    (hsteps : Step.Along (Step.Undisturbing c) (k.act.runIn w).2 steps) (usage : Usage)
    (overrides : List (Option (Ref Record))) :
    let built := (k.act.runIn w).2
    let u := Step.run built steps
    let cascade := u.cascades.get c
    let registered := cascade.registered usage
    let result := ((resolveTemplate c usage overrides).runIn u).1
    let store := ((resolveTemplate c usage overrides).runIn u).2.store
    registered = (latest (k.registrations w ++ Step.registrations c built steps) usage).map
      Registration.template ∧
    (result = .ok none ↔ overrides.reduceOption = [] ∧ registered = none) ∧
    (∀ first rest, overrides.reduceOption = first :: rest →
      let chain := first :: (rest ++ registered.toList ++ [cascade.defaults])
      (result = if (u.store.get first).patterns = [] then .error (.noPatterns .resolution)
        else .ok (some first)) ∧
      store.get first = { u.store.get first with
        options := .tabulate fun n => u.store.firstSet n chain } ∧
      (store.get first).options.isResolved = true) ∧
    (overrides.reduceOption = [] → ∀ t, registered = some t →
      result = .ok (some t) ∧ store = u.store ∧ (u.store.get t).options.isResolved = true) ∧
    (GivesUsable c usage overrides u ↔
      ¬ (overrides.reduceOption = [] ∧ ∃ t, registered = some t ∧
        (u.store.get t).patterns = [])) := by
  intro built u cascade registered result store
  obtain ⟨hc, o, ho, hregistry⟩ := registry_act hrecords (Prod.ext hbuilt rfl)
  have hlast := Step.registry_run hc ho hregistry hsteps
  have hdefaults : (u.store.get cascade.defaults).options.isResolved = true :=
    hlast.resolved_of_guards ho (.inl rfl)
  have hregistered : ∀ t, registered = some t → (u.store.get t).options.isResolved = true :=
    fun t ht => hlast.resolved_of_guards ho (.inr ⟨usage, ht⟩)
  refine ⟨hlast.registered usage, resolveTemplate_eq_none_iff hdefaults,
    fun first rest hgiven => ?_, fun hgiven t ht => ?_, ?_⟩
  · exact ⟨resolveTemplate_override_result hgiven hdefaults,
      resolveTemplate_override_record hgiven, resolveTemplate_override_resolved hgiven hdefaults⟩
  · have hrun : (resolveTemplate c usage overrides).runIn u = (.ok registered, u) :=
      resolveTemplate_nil hgiven
    refine ⟨?_, congrArg (fun run => run.2.store) hrun, hregistered t ht⟩
    rw [← ht]
    exact congrArg Prod.fst hrun
  · rw [givesUsable_iff hdefaults hregistered]
    push Not
    rfl

/-- Complete defaults, a template without patterns, and one with a pattern. -/
def bareSample : Workspace where
  store := List.foldl Heap.push .empty [
    ⟨.plain, [], completeOptions, false⟩,
    ⟨.template .help, [], {}, true⟩,
    ⟨.template .help, ["Say \x7b&\x7d."], { separator := some " / " }, true⟩]

theorem run_gives_templates_sample :
    let k : Construction := .ofRecords ⟨0⟩ []
    let built := (k.act.runIn bareSample).2
    let steps := [Step.call (.register ⟨0⟩ ⟨1⟩)]
    let u := Step.run built steps
    (∀ r ∈ k.records, bareSample.store.Has r) ∧ (k.act.runIn bareSample).1 = .ok ⟨0⟩ ∧
      Step.Along (Step.Undisturbing ⟨0⟩) built steps ∧
      ((resolveTemplate ⟨0⟩ .help [none, some ⟨2⟩]).runIn u).1 = .ok (some ⟨2⟩) ∧
      ((resolveTemplate ⟨0⟩ .help [some ⟨1⟩]).runIn u).1 = .error (.noPatterns .resolution) ∧
      ((resolveTemplate ⟨0⟩ .help [none]).runIn u).1 = .ok (some ⟨1⟩) ∧
      ¬ GivesUsable ⟨0⟩ .help [none] u := by
  intro k built steps u
  have hrecords : ∀ r ∈ k.records, bareSample.store.Has r := by decide
  have hbuilt : (k.act.runIn bareSample).1 = .ok ⟨0⟩ := rfl
  have hsteps : Step.Along (Step.Undisturbing ⟨0⟩) built steps := ⟨fun _ => by decide, trivial⟩
  have h := run_gives_templates bareSample k ⟨0⟩ steps hrecords hbuilt hsteps .help
  have hregistered : (u.cascades.get ⟨0⟩).registered .help = some ⟨1⟩ := rfl
  obtain ⟨-, -, hother, -, -⟩ := h [none, some ⟨2⟩]
  obtain ⟨-, -, hsame, -, -⟩ := h [some ⟨1⟩]
  obtain ⟨-, -, -, hdirect, husable⟩ := h [none]
  refine ⟨hrecords, hbuilt, hsteps, (hother ⟨2⟩ [] rfl).1, (hsame ⟨1⟩ [] rfl).1,
    (hdirect rfl ⟨1⟩ hregistered).1, fun hgives => ?_⟩
  exact husable.1 hgives ⟨rfl, ⟨1⟩, hregistered, rfl⟩

end Construction

end FormDialogue
