import FormDialogue.Proofs.Cascade.Registry
import FormDialogue.Proofs.Prompt.Asking
import FormDialogue.Proofs.Workspace.Steps

/-! # Runs over a registry

From the building of a cascade on, the cascade keeps its registry in every run, as long as what is
not a call leaves the cascade, its defaults and its templates alone. The history of a run is what
was registered on the cascade, by its building or by a call. -/

namespace FormDialogue
open Record (Options Usage)

namespace Step
open Cascade (Registry)
variable {w : Workspace} {c : Ref Cascade} {d : Ref Record} {o : Options}
  {history : List Registration} {step : Step} {steps : List Step}

/-- What a step registers on a cascade. -/
def registration? (c : Ref Cascade) (w : Workspace) : Step → Option Registration
  | call (.register x template) => if x = c then Registration.of? w.store template else none
  | call _ | elsewhere _ => none

def registrations (c : Ref Cascade) : Workspace → List Step → List Registration
  | _, [] => []
  | w, step :: rest => (step.registration? c w).toList ++ registrations c (step.next w) rest

/-- What is registered on the cascade exists, and what is not a call changes neither the cascade nor
a record that it relies on. -/
def Undisturbing (c : Ref Cascade) (w : Workspace) : Step → Prop
  | call (.register x template) => x = c → w.store.Has template
  | call _ => True
  | elsewhere after =>
    after.cascades.Has c ∧ after.cascades.get c = w.cascades.get c ∧
      (elsewhere after).Spares (w.cascades.get c).Guards w

theorem registration?_of_other {made : Call} (h : ∀ template, made ≠ .register c template) :
    (call made).registration? c w = none := by
  cases made with
  | register x template =>
    apply if_neg
    rintro rfl
    exact h template rfl
  | _ => rfl

theorem registry_next (hc : w.cascades.Has c) (ho : o.isResolved = true)
    (h : Registry d o history (w.cascades.get c) w.store) (hstep : step.Undisturbing c w) :
    (step.next w).cascades.Has c ∧
      Registry d o (history ++ (step.registration? c w).toList) ((step.next w).cascades.get c)
        (step.next w).store := by
  cases step with
  | elsewhere after =>
    obtain ⟨hhas, hget, hspares⟩ := hstep
    refine ⟨hhas, ?_⟩
    rw [registration?, Option.toList_none, List.append_nil, next, hget]
    exact h.congr fun r hr => hspares r hr (h.has_of_guards hr)
  | call made =>
    by_cases hmade : ∃ template, made = .register c template
    · obtain ⟨template, rfl⟩ := hmade
      obtain ⟨hstore, hget, hhas, -⟩ := Call.register_after c template w
      refine ⟨hhas c hc, ?_⟩
      rw [next, hstore, hget, registration?, if_pos rfl]
      exact h.register ho (hstep rfl)
    · -- Every other call leaves the cascade as it is and fills records at most.
      obtain ⟨hhas, hget⟩ := made.cascade_after hc fun template he => hmade ⟨template, he⟩
      have hnone := registration?_of_other (w := w) fun template he => hmade ⟨template, he⟩
      refine ⟨hhas, ?_⟩
      rw [hnone, Option.toList_none, List.append_nil, next, hget]
      exact h.of_filled ho fun r hr => ⟨_, _, Call.filledFrom_after made hr⟩

theorem registry_run (hc : w.cascades.Has c) (ho : o.isResolved = true)
    (h : Registry d o history (w.cascades.get c) w.store)
    (hsteps : Along (Undisturbing c) w steps) :
    Registry d o (history ++ registrations c w steps) ((run w steps).cascades.get c)
      (run w steps).store := by
  induction steps generalizing w history with
  | nil =>
    rw [registrations, List.append_nil]
    exact h
  | cons step rest ih =>
    obtain ⟨hstep, hrest⟩ := hsteps
    obtain ⟨hhas, hnext⟩ := registry_next hc ho h hstep
    have hlast := ih hhas hnext hrest
    rw [List.append_assoc] at hlast
    exact hlast

end Step

namespace Action
open Cascade
variable {w : Workspace} {d : Ref Record} {templates : List (Ref Record)} {names : List String}

theorem buildCascade_eq_unresolved_iff :
    ((buildCascade d templates).runIn w).1 = .error (.unresolved names) ↔
      (w.store.get d).options.isResolved = false ∧ names = w.store.unresolved d := by
  rw [(runIn_buildCascade d templates w).1]
  cases hresolved : (w.store.get d).options.isResolved with
  | false =>
    rw [create_of_unresolved hresolved]
    simp [Outcome.failed, Except.map, eq_comm]
  | true =>
    rw [create_of_resolved hresolved]
    constructor
    · intro h
      cases hall : (registerAll ⟨d, fun _ => none⟩ w.store templates).2.result with
      | ok cascade =>
        rw [hall] at h
        cases h
      | error why =>
        obtain ⟨typeName, rfl⟩ := registerAll_error hall
        rw [hall] at h
        cases h
    · rintro ⟨h, -⟩
      cases h

theorem buildCascade_store_of_unresolved (h : (w.store.get d).options.isResolved = false)
    (templates : List (Ref Record)) :
    ((buildCascade d templates).runIn w).2.store = w.store := by
  obtain ⟨-, notices, hstate⟩ := runIn_buildCascade d templates w
  rw [hstate, create_of_unresolved h]

end Action

inductive Construction
  | ofRecords (defaults : Ref Record) (templates : List (Ref Record))
  | ofSettings (settings : Settings)

namespace Construction
open Cascade FormDialogue.Action
open Registration (latest)
variable {w v : Workspace} {c : Ref Cascade}

def act : Construction → Action (Ref Cascade)
  | ofRecords defaults templates => buildCascade defaults templates
  | ofSettings settings => cascadeOfSettings settings

def records : Construction → List (Ref Record)
  | ofRecords defaults templates => defaults :: templates
  | ofSettings _ => []

def defaults (w : Workspace) : Construction → Ref Record
  | ofRecords defaults _ => defaults
  | ofSettings _ => w.store.fresh

def registrations (w : Workspace) : Construction → List Registration
  | ofRecords defaults templates => Registration.inTurn defaults w.store templates
  | ofSettings _ => []

theorem registry_build {d : Ref Record} {templates : List (Ref Record)} (hd : w.store.Has d)
    (hhas : ∀ t ∈ templates, w.store.Has t)
    (hok : (buildCascade d templates).runIn w = (.ok c, v)) :
    v.cascades.Has c ∧ (w.store.get d).options.isResolved = true ∧
      Registry d (w.store.get d).options (Registration.inTurn d w.store templates)
        (v.cascades.get c) v.store := by
  obtain ⟨hresult, notices, hstate⟩ := runIn_buildCascade d templates w
  rw [hok] at hresult hstate
  dsimp only at hresult hstate
  subst hstate
  cases hcreate : (create d templates w.store).2.result with
  | error why =>
    rw [hcreate] at hresult
    cases hresult
  | ok cascade =>
    rw [hcreate] at hresult
    cases hresult
    dsimp only
    rw [Heap.get_push_fresh]
    exact ⟨Nat.lt_succ_self _, registry_create hd hhas hcreate⟩

theorem registry_act {k : Construction} (hrecords : ∀ r ∈ k.records, w.store.Has r)
    (hok : k.act.runIn w = (.ok c, v)) :
    v.cascades.Has c ∧ ∃ o, o.isResolved = true ∧
      Registry (k.defaults w) o (k.registrations w) (v.cascades.get c) v.store := by
  cases k with
  | ofRecords defaults templates =>
    have hd := hrecords defaults List.mem_cons_self
    have hhas := fun t ht => hrecords t (List.mem_cons_of_mem defaults ht)
    obtain ⟨hc, ho, h⟩ := registry_build hd hhas hok
    exact ⟨hc, _, ho, h⟩
  | ofSettings settings =>
    rw [act, runIn_cascadeOfSettings] at hok
    cases hdefaults : settings.defaults with
    | error why =>
      rw [hdefaults] at hok
      cases hok
    | ok record =>
      rw [hdefaults] at hok
      have hfresh : (w.store.push record).Has w.store.fresh := Nat.lt_succ_self _
      obtain ⟨hc, ho, h⟩ := registry_build hfresh (fun t ht => by cases ht) hok
      exact ⟨hc, _, ho, h⟩

/-- In every run from the building of a cascade on, its defaults are the same and set every option;
for a usage it holds the template that was registered last, which has kept its usage and has the
options from then, filled from the defaults; and nothing is unresolved in a resolution. A cascade is
refused for its defaults before any of the templates is filled. -/
theorem run_keeps_registry (w : Workspace) :
    (∀ (k : Construction) (c : Ref Cascade) (steps : List Step),
      (∀ r ∈ k.records, w.store.Has r) → (k.act.runIn w).1 = .ok c →
      Step.Along (Step.Undisturbing c) (k.act.runIn w).2 steps →
      let built := (k.act.runIn w).2
      let v := Step.run built steps
      let cascade := v.cascades.get c
      let o := (v.store.get cascade.defaults).options
      let history := k.registrations w ++ Step.registrations c built steps
      (cascade.defaults = k.defaults w ∧ o.isResolved = true) ∧
      (∀ usage, cascade.registered usage = (latest history usage).map Registration.template) ∧
      (∀ usage entry, latest history usage = some entry →
        let template := v.store.get entry.template
        template.usage? = some usage ∧ template.options.isResolved = true ∧
          template.options = entry.options.fill o) ∧
      (∀ record scopes names,
        ((resolve c record scopes).runIn v).1 ≠ .error (.unresolved names)) ∧
      ∀ usage overrides names,
        ((resolveTemplate c usage overrides).runIn v).1 ≠ .error (.unresolved names)) ∧
    ∀ d templates,
      (∀ names, ((buildCascade d templates).runIn w).1 = .error (.unresolved names) ↔
        (w.store.get d).options.isResolved = false ∧ names = w.store.unresolved d) ∧
      ((w.store.get d).options.isResolved = false →
        ((buildCascade d templates).runIn w).2.store = w.store) := by
  constructor
  · intro k c steps hrecords hbuilt hsteps built v cascade o history
    obtain ⟨hc, first, hfirst, hregistry⟩ := registry_act hrecords (Prod.ext hbuilt rfl)
    have h : Registry (k.defaults w) first history cascade v.store :=
      Step.registry_run hc hfirst hregistry hsteps
    have ho : o = first := by
      rw [← h.options, ← h.defaults]
    have hdefaults : o.isResolved = true := by
      rw [ho]
      exact hfirst
    refine ⟨⟨h.defaults, hdefaults⟩, h.registered, fun usage entry hlatest => ?_,
      resolve_ne_unresolved hdefaults, resolveTemplate_ne_unresolved hdefaults⟩
    have hentry := h.entries usage entry hlatest
    obtain rfl : entry.usage = usage := Registration.usage_of_latest hlatest
    exact ⟨hentry.usage, h.resolved_of_guards hfirst (h.guards_template hlatest),
      ho ▸ hentry.options⟩
  · intro d templates
    exact ⟨fun _ => buildCascade_eq_unresolved_iff,
      fun h => buildCascade_store_of_unresolved h templates⟩

theorem run_keeps_registry_sample :
    let k : Construction := .ofRecords ⟨0⟩ [⟨3⟩]
    let built := (k.act.runIn sample).2
    let steps := [Step.call (.register ⟨1⟩ ⟨4⟩), .call (.resolve ⟨1⟩ ⟨1⟩ [some ⟨3⟩, some ⟨4⟩])]
    let v := Step.run built steps
    (∀ r ∈ k.records, sample.store.Has r) ∧ (k.act.runIn sample).1 = .ok ⟨1⟩ ∧
      Step.Along (Step.Undisturbing ⟨1⟩) built steps ∧
      (v.cascades.get ⟨1⟩).registered .help = some ⟨4⟩ ∧
      (v.store.get ⟨4⟩).options = { completeOptions with separator := some " / " } := by
  intro k built steps v
  have hrecords : ∀ r ∈ k.records, sample.store.Has r := by decide
  have hbuilt : (k.act.runIn sample).1 = .ok ⟨1⟩ := rfl
  have hsteps : Step.Along (Step.Undisturbing ⟨1⟩) built steps :=
    ⟨fun _ => by decide, trivial, trivial⟩
  obtain ⟨-, hregistered, hentries, -⟩ :=
    (run_keeps_registry sample).1 k ⟨1⟩ steps hrecords hbuilt hsteps
  have hlatest : latest (k.registrations sample ++ Step.registrations ⟨1⟩ built steps) .help =
      some ⟨.help, ⟨4⟩, { separator := some " / " }⟩ := by decide +kernel
  have hoptions := (hentries .help _ hlatest).2.2
  refine ⟨hrecords, hbuilt, hsteps, ?_, ?_⟩
  · rw [hregistered .help, hlatest]
    rfl
  · rw [hoptions]
    decide +kernel

end Construction

end FormDialogue
