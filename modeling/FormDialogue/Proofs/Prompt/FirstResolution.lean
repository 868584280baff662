import FormDialogue.Proofs.Draw.Answers
import FormDialogue.Proofs.Prompt.Reaching
import FormDialogue.Proofs.Workspace.Registering
import Mathlib.Data.List.Find

/-! # First resolutions

A declaration is asked for with a record of its own, if it has one, and asking resolves that record.
Once it is resolved nothing leaks into it any more: whatever is registered or resolved afterwards,
and whatever record stands for the type, later texts are made with the same options. A declaration
without a record of its own is asked for with the template that was registered last, which stays as
it is. -/

namespace FormDialogue
open Prompt (Arguments)
open Record (Declaration Options Usage)

/-! ## Records of a declaration -/

def Record.Declaration.records (d : Declaration) : List (Ref Record) :=
  d.prompt.toList ++ d.templates

/-- The record of its own that a declaration is asked for with. -/
def ownRecord? (w : Workspace) (d : Ref Declaration) (usage : Usage) : Option (Ref Record) :=
  (w.declarations.get d).prompt.or ((w.declarations.get d).template? w.store usage)

namespace Action
variable {w v : Workspace} {d : Ref Declaration} {usage : Usage} {own : Ref Record}

theorem ownRecord?_eq_some_iff :
    ownRecord? w d usage = some own ↔
      (w.declarations.get d).prompt = some own ∨
        (w.declarations.get d).prompt = none ∧
          (w.declarations.get d).template? w.store usage = some own :=
  Option.or_eq_some_iff

theorem ownRecord?_eq_none_iff :
    ownRecord? w d usage = none ↔ (w.declarations.get d).prompt = none ∧
      (w.declarations.get d).template? w.store usage = none :=
  Option.or_eq_none_iff

theorem mem_records_of_own (h : ownRecord? w d usage = some own) :
    own ∈ (w.declarations.get d).records := by
  obtain hprompt | ⟨-, htemplate⟩ := ownRecord?_eq_some_iff.1 h
  · exact List.mem_append_left _ (Option.mem_toList.2 hprompt)
  · exact List.mem_append_right _ (List.mem_of_find?_eq_some htemplate)

/-! ## Asking with a record of the declaration -/

theorem resolve_eq_ok {c : Ref Cascade} {scopes : List (Option (Ref Record))} {q : Ref Record}
    (h : ((resolve c own scopes).runIn w).1 = .ok q) : q = own := by
  rw [resolve_result] at h
  split_ifs at h
  exact (Except.ok.inj h).symm

/-- Asking resolves the record of the declaration, and goes on with what it has become. -/
theorem promptRecord_of_own (hfits : Fits w d) (hown : ownRecord? w d usage = some own)
    (c : Ref Cascade) (typePrompt : Option (Ref Record)) :
    ∃ scopes,
      let resolved := (resolve c own scopes).runIn w
      let asked := (promptRecord c d usage typePrompt).runIn w
      asked.2 = resolved.2 ∧
      (∀ why, resolved.1 = .error why → asked.1 = .error why) ∧
      (∀ q, resolved.1 = .ok q → ∃ record, asked.1 = .ok record ∧
        record.patterns = (resolved.2.store.get own).patterns ∧
        record.options = (resolved.2.store.get own).options) := by
  obtain hprompt | ⟨hprompt, htemplate⟩ := ownRecord?_eq_some_iff.1 hown
  · refine ⟨[typePrompt], ?_⟩
    intro resolved asked
    have hasked : asked = (resolve c own [typePrompt] >>= getRecord).runIn w :=
      promptRecord_of_prompt hfits hprompt
    rw [hasked, runIn_bind]
    cases hresult : resolved.1 with
    | error why =>
      exact ⟨rfl, fun _ h => by cases h; rfl, nofun⟩
    | ok q =>
      obtain rfl := resolve_eq_ok hresult
      exact ⟨rfl, nofun, fun _ _ => ⟨_, rfl, rfl, rfl⟩⟩
  · refine ⟨[(w.cascades.get c).registered usage], ?_⟩
    intro resolved asked
    have hfound := resolveTemplate_of_template (c := c) htemplate
    cases hresult : resolved.1 with
    | error why =>
      have hfailed : (resolveTemplate c usage
          [(w.declarations.get d).template? w.store usage]).runIn w = (.error why, resolved.2) := by
        rw [hfound, show ((resolve c own _).runIn w).1 = .error why from hresult]
        rfl
      have hasked : asked = _ := promptRecord_of_failure hfits hprompt typePrompt hfailed
      rw [hasked]
      exact ⟨rfl, fun _ h => by cases h; rfl, nofun⟩
    | ok q =>
      obtain rfl := resolve_eq_ok hresult
      have hok : (resolveTemplate c usage [(w.declarations.get d).template? w.store usage]).runIn w =
          (.ok (some q), resolved.2) := by
        rw [hfound, show ((resolve c q _).runIn w).1 = .ok q from hresult]
        rfl
      have hasked : asked = _ := promptRecord_of_template hfits hprompt typePrompt hok
      rw [hasked]
      exact ⟨rfl, nofun, fun _ _ => ⟨_, rfl, rfl, rfl⟩⟩

theorem resolve_of_own_resolved (c : Ref Cascade) (scopes : List (Option (Ref Record)))
    (hresolved : (w.store.get own).options.isResolved = true) :
    ((resolve c own scopes).runIn w).1 =
        (if (w.store.get own).patterns = [] then .error (.noPatterns .resolution) else .ok own) ∧
      ((resolve c own scopes).runIn w).2.store.get own = w.store.get own := by
  have hmissing : missingIn w (chainOf w c own scopes) = [] :=
    missingIn_eq_nil List.mem_cons_self hresolved
  rw [resolve_result, if_neg (not_not_intro hmissing)]
  exact ⟨rfl, (resolve_prepares c own scopes w).resolved own hresolved⟩

section Asking
variable {g : Ref Formatter} {typePrompt : Option (Ref Record)} {value : Option String}
  {choices : Option (List String)}

theorem resolved_of_promptFor (hfits : Fits w d) (hown : ownRecord? w d usage = some own)
    (h : ∀ names, ((promptFor g d usage typePrompt value choices).runIn w).1 ≠
      .error (.unresolved names)) :
    (((promptFor g d usage typePrompt value choices).runIn w).2.store.get own).options.isResolved =
      true := by
  obtain ⟨scopes, hstate, hfailure, -⟩ :=
    promptRecord_of_own hfits hown (w.formatters.get g).cascade typePrompt
  obtain ⟨_, _, hafter⟩ := promptFor_state g d usage typePrompt value choices w
  rw [hafter, hstate]
  apply isResolved_of_missingIn
  -- Otherwise resolution fails with the names of what is missing, and asking fails with it.
  by_contra hmissing
  have hresolve : ((resolve (w.formatters.get g).cascade own scopes).runIn w).1 = _ :=
    resolve_result
  rw [if_pos hmissing] at hresolve
  exact h _ (promptFor_of_failure (hfailure _ hresolve))

/-- A record of the declaration that is resolved is used as it is. -/
theorem promptFor_of_resolved (hfits : Fits w d) (hown : ownRecord? w d usage = some own)
    (hresolved : (w.store.get own).options.isResolved = true) (g : Ref Formatter)
    (typePrompt : Option (Ref Record)) (value : Option String) (choices : Option (List String)) :
    ((promptFor g d usage typePrompt value choices).runIn w).1 =
      if (w.store.get own).patterns = [] then .error (.noPatterns .resolution)
      else textOf (w.formatters.get g) (w.store.get own).patterns (w.store.get own).options
        ⟨some (w.declarations.get d).description, value, none, choices⟩ w := by
  let c := (w.formatters.get g).cascade
  obtain ⟨scopes, hstate, hfailure, hsuccess⟩ := promptRecord_of_own hfits hown c typePrompt
  obtain ⟨hresult, hkept⟩ := resolve_of_own_resolved c scopes hresolved
  by_cases hpatterns : (w.store.get own).patterns = []
  · rw [if_pos hpatterns] at hresult ⊢
    exact promptFor_of_failure (hfailure _ hresult)
  · rw [if_neg hpatterns] at hresult ⊢
    obtain ⟨record, hasked, hsame, hoptions⟩ := hsuccess own hresult
    obtain ⟨notices, hafter⟩ := resolve_state c own scopes w
    rw [hkept] at hsame hoptions
    rw [promptFor_of_record hfits (Prod.ext hasked (hstate.trans hafter)), hsame, hoptions]

end Asking

theorem promptFor_of_no_own (hfits : Fits w d) (hown : ownRecord? w d usage = none)
    (g : Ref Formatter) (typePrompt : Option (Ref Record)) (value : Option String)
    (choices : Option (List String)) :
    let f := w.formatters.get g
    let declared := w.declarations.get d
    let registered := (w.cascades.get f.cascade).registered usage
    let later := (promptFor g d usage typePrompt value choices).runIn w
    (∀ template, registered = some template → later.1 = textOf f (w.store.get template).patterns
      (w.store.get template).options ⟨some declared.description, value, none, choices⟩ w) ∧
    (registered = none →
      later.1 = .error (.noPatterns (.declaration (Text.quote declared.name) usage))) ∧
    ∀ q, later.2.store.get q = w.store.get q := by
  intro f declared registered later
  obtain ⟨hprompt, htemplate⟩ := ownRecord?_eq_none_iff.1 hown
  refine ⟨fun template => promptFor_of_registered hfits hprompt htemplate,
    promptFor_of_nothing hfits hprompt htemplate, fun q => ?_⟩
  have hfills := Call.fills_promptFor g d usage typePrompt value choices w
  have hnothing : Call.filling w (.promptFor g d usage typePrompt value choices) = ⟨[], []⟩ := by
    rw [Call.filling, Call.promptFilling, runIn_promptOf hfits, runIn_templateFor hfits, hprompt,
      htemplate]
  rw [hnothing] at hfills
  exact (hfills.filled q).get_of_not_mem List.not_mem_nil

/-- What the source of a formatter answers next to a draw below a bound. -/
def nextAnswer (w : Workspace) (f : Formatter) (upper : Nat) : Except Failure Nat :=
  ((w.sources.get (w.selectors.get f.selector).source).next upper).1

theorem textOf_congr {f g : Formatter} (hthreshold : g.threshold = f.threshold)
    (patterns : List String) (o : Options) (a : Arguments)
    (hdraw : nextAnswer v g patterns.length = nextAnswer w f patterns.length) :
    textOf g patterns o a v = textOf f patterns o a w := by
  rw [textOf, formatWith_result, textOf, formatWith_result, hthreshold,
    Draw.Source.pick_congr hdraw]

end Action

/-! ## Leaving a declaration alone -/

namespace Call
open FormDialogue.Action
variable {w : Workspace}

theorem declared_of_quiet {a : Action Unit} (h : Quiet a) (w : Workspace) :
    (a.runIn w).2.declarations = w.declarations ∧ (a.runIn w).2.misfits = w.misfits := by
  obtain ⟨_, _, hstate⟩ := h w
  rw [hstate]
  exact ⟨rfl, rfl⟩

theorem declared_build (defaults : Ref Record) (templates : List (Ref Record)) (w : Workspace) :
    ((buildCascade defaults templates).runIn w).2.declarations = w.declarations ∧
      ((buildCascade defaults templates).runIn w).2.misfits = w.misfits := by
  obtain ⟨-, _, hstate⟩ := runIn_buildCascade defaults templates w
  rw [hstate]
  exact ⟨rfl, rfl⟩

/-- No call assigns to a declaration. -/
theorem declared_after (call : Call) (w : Workspace) :
    (call.after w).declarations = w.declarations ∧ (call.after w).misfits = w.misfits := by
  have halike : ∀ {v : Workspace}, Alike w v → v.declarations = w.declarations ∧
      v.misfits = w.misfits := fun h => ⟨h.declarations, h.misfits⟩
  cases call with
  | inherit specific general => exact ⟨rfl, rfl⟩
  | build defaults templates =>
    rw [after, act, runIn_discard]
    exact declared_build defaults templates w
  | buildFrom settings =>
    rw [after, act, runIn_discard, runIn_cascadeOfSettings]
    cases settings.defaults with
    | error why => exact ⟨rfl, rfl⟩
    | ok record => exact declared_build _ _ { w with store := w.store.push record }
  | register c template =>
    obtain ⟨_, hstate⟩ := register_state c template w
    rw [after, act, hstate]
    exact ⟨rfl, rfl⟩
  | resolve c record scopes =>
    rw [after, act, runIn_discard]
    exact halike (resolve_prepares c record scopes w).alike
  | resolveTemplate c usage overrides =>
    rw [after, act, runIn_discard]
    exact halike (resolveTemplate_prepares c usage overrides w).alike
  | promptFor f d usage typePrompt value choices =>
    rw [after, act, runIn_discard]
    exact halike (promptFor_alike f d usage typePrompt value choices w)
  | format f record a => exact declared_of_quiet (quiet_format f record a) w
  | render renderer record labels => exact declared_of_quiet (quiet_render renderer record labels) w
  | renderChoices record labels style threshold =>
    exact declared_of_quiet (quiet_renderChoices record labels style threshold) w
  | renderList record values => exact declared_of_quiet (quiet_renderList record values) w

end Call

open FormDialogue.Action (Fits)

/-- A declaration is the same after some steps: nothing was assigned to it, and its records are
there with their kinds and patterns, and unchanged if they were resolved. -/
structure SameDeclared (d : Ref Declaration) (w v : Workspace) : Prop where
  declaration : v.declarations.get d = w.declarations.get d
  fits : Fits v d
  has : ∀ q ∈ (w.declarations.get d).records, v.store.Has q
  kind : ∀ q ∈ (w.declarations.get d).records, (v.store.get q).kind = (w.store.get q).kind
  resolved : ∀ q ∈ (w.declarations.get d).records, (w.store.get q).options.isResolved = true →
    v.store.get q = w.store.get q

namespace SameDeclared
variable {w v u : Workspace} {d : Ref Declaration} {usage : Usage}

theorem refl (hfits : Fits w d) (hhas : ∀ q ∈ (w.declarations.get d).records, w.store.Has q) :
    SameDeclared d w w := ⟨rfl, hfits, hhas, fun _ _ => rfl, fun _ _ _ => rfl⟩

theorem has_after (h : SameDeclared d w v) :
    ∀ q ∈ (v.declarations.get d).records, v.store.Has q := by
  rw [h.declaration]
  exact h.has

theorem trans (h : SameDeclared d w v) (hu : SameDeclared d v u) : SameDeclared d w u := by
  obtain ⟨hdeclaration, hfits, hhas, hkind, hresolved⟩ := hu
  rw [h.declaration] at hdeclaration hhas hkind hresolved
  refine ⟨hdeclaration, hfits, hhas, fun q hq => (hkind q hq).trans (h.kind q hq),
    fun q hq hq' => ?_⟩
  have hkept := h.resolved q hq hq'
  rw [hresolved q hq (by rw [hkept]; exact hq'), hkept]

theorem own (h : SameDeclared d w v) (usage : Usage) :
    ownRecord? v d usage = ownRecord? w d usage := by
  have hfound : (w.declarations.get d).template? v.store usage =
      (w.declarations.get d).template? w.store usage := by
    refine List.find?_congr fun t ht => ?_
    have hkind := h.kind t (List.mem_append_right _ ht)
    rw [Record.usage?, hkind, Record.usage?]
  rw [ownRecord?, h.declaration, hfound, ownRecord?]

end SameDeclared

namespace Step
variable {w : Workspace} {d : Ref Declaration} {step : Step} {steps : List Step}

/-- What is not a call assigns neither to a declaration nor to its records. -/
def SparesDeclared (d : Ref Declaration) (w : Workspace) : Step → Prop
  | call _ => True
  | elsewhere after =>
    after.declarations.get d = w.declarations.get d ∧ Fits after d ∧
      (elsewhere after).Spares (· ∈ (w.declarations.get d).records) w

theorem sameDeclared_next (hfits : Fits w d)
    (hhas : ∀ q ∈ (w.declarations.get d).records, w.store.Has q)
    (hstep : step.SparesDeclared d w) : SameDeclared d w (step.next w) := by
  cases step with
  | call made =>
    obtain ⟨hdeclarations, hmisfits⟩ := made.declared_after w
    have hfilled := fun q hq => made.filledFrom_after (hhas q hq)
    refine ⟨by rw [next, hdeclarations], ?_, fun q hq => (hfilled q hq).has (hhas q hq),
      fun q hq => (hfilled q hq).kind, fun q hq => (hfilled q hq).get_of_resolved⟩
    intro m hm
    rw [next, hmisfits] at hm
    exact hfits m hm
  | elsewhere after =>
    obtain ⟨hdeclaration, hfits', hspares⟩ := hstep
    have hkept := fun q hq => hspares q hq (hhas q hq)
    exact ⟨hdeclaration, hfits', fun q hq => (hkept q hq).1,
      fun q hq => congrArg Record.kind (hkept q hq).2, fun q hq _ => (hkept q hq).2⟩

theorem sameDeclared_run (hfits : Fits w d)
    (hhas : ∀ q ∈ (w.declarations.get d).records, w.store.Has q)
    (hsteps : Along (SparesDeclared d) w steps) : SameDeclared d w (run w steps) := by
  induction steps generalizing w with
  | nil => exact .refl hfits hhas
  | cons step rest ih =>
    obtain ⟨hstep, hrest⟩ := hsteps
    have hnext := sameDeclared_next hfits hhas hstep
    exact hnext.trans (ih hnext.fits hnext.has_after hrest)

/-! ## Registering -/

/-- What is not a call leaves a cascade as it is. -/
def SparesCascade (c : Ref Cascade) (w : Workspace) : Step → Prop
  | call _ => True
  | elsewhere after => after.cascades.Has c ∧ after.cascades.get c = w.cascades.get c

variable {c : Ref Cascade}

theorem registered_next (hc : w.cascades.Has c) (hstep : step.SparesCascade c w) (usage : Usage) :
    (step.next w).cascades.Has c ∧ ((step.next w).cascades.get c).registered usage =
      ((Registration.latest (step.registration? c w).toList usage).map Registration.template).or
        ((w.cascades.get c).registered usage) := by
  cases step with
  | elsewhere after =>
    refine ⟨hstep.1, ?_⟩
    rw [next, hstep.2]
    rfl
  | call made =>
    by_cases hmade : ∃ template, made = .register c template
    · obtain ⟨template, rfl⟩ := hmade
      obtain ⟨-, hget, hhas, -⟩ := Call.register_after c template w
      refine ⟨hhas c hc, ?_⟩
      rw [next, hget, Cascade.register_result, registration?, if_pos rfl]
      cases Registration.of? w.store template with
      | none => rfl
      | some entry =>
        by_cases husage : usage = entry.usage
        · subst husage
          rw [Option.toList_some, ← List.nil_append [entry], Registration.latest_append_same]
          exact if_pos rfl
        · rw [Option.toList_some, ← List.nil_append [entry],
            Registration.latest_append_other [] husage]
          exact if_neg husage
    · obtain ⟨hhas, hget⟩ := made.cascade_after hc fun template he => hmade ⟨template, he⟩
      have hnone := registration?_of_other (w := w) fun template he => hmade ⟨template, he⟩
      refine ⟨hhas, ?_⟩
      rw [next, hget, hnone]
      rfl

/-- The template for a usage is the one that was registered last, in the run or before it. -/
theorem registered_run (hc : w.cascades.Has c) (hsteps : Along (SparesCascade c) w steps)
    (usage : Usage) :
    ((run w steps).cascades.get c).registered usage =
      ((Registration.latest (registrations c w steps) usage).map Registration.template).or
        ((w.cascades.get c).registered usage) := by
  induction steps generalizing w with
  | nil => rfl
  | cons step rest ih =>
    obtain ⟨hstep, hrest⟩ := hsteps
    obtain ⟨hhas, hnext⟩ := registered_next hc hstep usage
    rw [run_cons, ih hhas hrest, hnext, registrations, Registration.latest_append, Option.map_or,
      Option.or_assoc]

end Step

namespace Action
open Step (SparesDeclared SparesCascade registrations run)
variable {w : Workspace} {d : Ref Declaration} {usage : Usage}

theorem sameDeclared_promptFor (hfits : Fits w d)
    (hrecords : ∀ q ∈ (w.declarations.get d).records, w.store.Has q) (f : Ref Formatter)
    (usage : Usage) (typePrompt : Option (Ref Record)) (value : Option String)
    (choices : Option (List String)) :
    SameDeclared d w ((promptFor f d usage typePrompt value choices).runIn w).2 := by
  have hnext : SameDeclared d w
      (Step.next w (.call (.promptFor f d usage typePrompt value choices))) :=
    Step.sameDeclared_next hfits hrecords trivial
  rw [Step.next, Call.after, Call.act, runIn_discard] at hnext
  exact hnext

theorem promptFor_of_same {own : Ref Record} (hsame : SameDeclared d w v)
    (hown : ownRecord? w d usage = some own)
    (hresolved : (w.store.get own).options.isResolved = true) :
    let resolved := w.store.get own
    v.store.get own = resolved ∧ ∀ g typePrompt value choices,
      ((promptFor g d usage typePrompt value choices).runIn v).1 =
        if resolved.patterns = [] then .error (.noPatterns .resolution)
        else textOf (v.formatters.get g) resolved.patterns resolved.options
          ⟨some (w.declarations.get d).description, value, none, choices⟩ v := by
  intro resolved
  have hkept : v.store.get own = resolved :=
    hsame.resolved own (mem_records_of_own hown) hresolved
  refine ⟨hkept, fun g typePrompt value choices => ?_⟩
  rw [promptFor_of_resolved hsame.fits ((hsame.own usage).trans hown)
    (by rw [hkept]; exact hresolved), hkept, hsame.declaration]

/-- The first resolution of the record of a declaration wins: asking resolves it, unless it fails
for what is left unset, and from then on the record is the same and every text is made with its
options, whatever formatter asks, whatever record stands for the type, and whatever was registered,
replaced or resolved in between. So the texts are the same for the same answers of the sources. A
declaration without a record of its own is asked for with the template that was registered last for
the usage, and no record changes. -/
theorem first_resolution_wins (d : Ref Declaration) (usage : Usage) (w : Workspace)
    (hfits : Fits w d) (hrecords : ∀ q ∈ (w.declarations.get d).records, w.store.Has q) :
    (∀ own, ownRecord? w d usage = some own → ∀ f typePrompt value choices,
      let first := (promptFor f d usage typePrompt value choices).runIn w
      let resolved := first.2.store.get own
      ((∀ names, first.1 ≠ .error (.unresolved names)) → resolved.options.isResolved = true) ∧
      (resolved.options.isResolved = true → ∀ steps, Step.Along (SparesDeclared d) first.2 steps →
        let u := run first.2 steps
        u.store.get own = resolved ∧ ∀ g typePrompt value choices,
          ((promptFor g d usage typePrompt value choices).runIn u).1 =
            if resolved.patterns = [] then .error (.noPatterns .resolution)
            else textOf (u.formatters.get g) resolved.patterns resolved.options
              ⟨some (w.declarations.get d).description, value, none, choices⟩ u) ∧
      (resolved.options.isResolved = true → ∀ steps steps',
        Step.Along (SparesDeclared d) first.2 steps → Step.Along (SparesDeclared d) first.2 steps' →
        let u := run first.2 steps
        let v := run first.2 steps'
        ∀ g g', (u.formatters.get g).threshold = (v.formatters.get g').threshold →
          nextAnswer u (u.formatters.get g) resolved.patterns.length =
            nextAnswer v (v.formatters.get g') resolved.patterns.length →
          ∀ typePrompt typePrompt' value choices,
            ((promptFor g d usage typePrompt value choices).runIn u).1 =
              ((promptFor g' d usage typePrompt' value choices).runIn v).1)) ∧
    (ownRecord? w d usage = none → ∀ c steps, w.cascades.Has c →
      Step.Along (SparesDeclared d) w steps → Step.Along (SparesCascade c) w steps →
      let u := run w steps
      let last := ((Registration.latest (registrations c w steps) usage).map
        Registration.template).or ((w.cascades.get c).registered usage)
      ∀ f, (u.formatters.get f).cascade = c → ∀ typePrompt value choices,
        let later := (promptFor f d usage typePrompt value choices).runIn u
        (∀ template, last = some template → later.1 = textOf (u.formatters.get f)
          (u.store.get template).patterns (u.store.get template).options
          ⟨some (w.declarations.get d).description, value, none, choices⟩ u) ∧
        (last = none → later.1 = .error (.noPatterns
          (.declaration (Text.quote (w.declarations.get d).name) usage))) ∧
        ∀ q, later.2.store.get q = u.store.get q) := by
  constructor
  · intro own hown f typePrompt value choices first resolved
    have hfirst : SameDeclared d w first.2 :=
      sameDeclared_promptFor hfits hrecords f usage typePrompt value choices
    have hrun : ∀ steps, Step.Along (SparesDeclared d) first.2 steps →
        SameDeclared d first.2 (run first.2 steps) := fun steps =>
      Step.sameDeclared_run hfirst.fits hfirst.has_after
    have hown' : ownRecord? first.2 d usage = some own := (hfirst.own usage).trans hown
    refine ⟨resolved_of_promptFor hfits hown, fun hresolved steps hsteps => ?_, ?_⟩
    · rw [← hfirst.declaration]
      exact promptFor_of_same (hrun steps hsteps) hown' hresolved
    · intro hresolved steps steps' hsteps hsteps' u v g g' hthreshold hdraw typePrompt typePrompt'
        value choices
      rw [(promptFor_of_same (hrun steps hsteps) hown' hresolved).2,
        (promptFor_of_same (hrun steps' hsteps') hown' hresolved).2,
        textOf_congr hthreshold _ _ _ hdraw]
  · intro hown c steps hc hsteps hcascade u last f hf typePrompt value choices later
    have hsame : SameDeclared d w u := Step.sameDeclared_run hfits hrecords hsteps
    obtain ⟨hlast, hnothing, hstore⟩ :=
      promptFor_of_no_own hsame.fits ((hsame.own usage).trans hown) f typePrompt value choices
    rw [hf, Step.registered_run hc hcascade usage, hsame.declaration] at hlast hnothing
    exact ⟨hlast, hnothing, hstore⟩

/-- Beside a declaration with a prompt, one without a record of its own. -/
def bareSample : Workspace :=
  { sample with declarations :=
      sample.declarations.push ⟨"roof_colour", none, none, [], none, none, none, false⟩ }

theorem first_resolution_wins_sample :
    let first := ((promptFor ⟨0⟩ ⟨0⟩ .string (some ⟨2⟩) none none).runIn bareSample).2
    let steps := [Step.call (.register ⟨0⟩ ⟨3⟩), .call (.register ⟨0⟩ ⟨4⟩)]
    Fits bareSample ⟨0⟩ ∧ Fits bareSample ⟨1⟩ ∧
      (first.store.get ⟨1⟩).options.isResolved = true ∧
      ((promptFor ⟨0⟩ ⟨0⟩ .string none none (some ["red", "green", "blue"])).runIn
        (run first steps)).1 = .ok "Which paint colour? (red; green or else blue)" ∧
      ((promptFor ⟨0⟩ ⟨1⟩ .help none none none).runIn (run bareSample steps)).1 =
        .ok "Name the roof colour." := by
  intro first steps
  have hfits : ∀ d, Fits bareSample d := by
    intro d m hm
    cases hm
  have hresolved : (first.store.get ⟨1⟩).options.isResolved = true := rfl
  have hasked := (first_resolution_wins ⟨0⟩ .string bareSample (hfits _) (by decide)).1 ⟨1⟩ rfl
    ⟨0⟩ (some ⟨2⟩) none none
  have hbare := (first_resolution_wins ⟨1⟩ .help bareSample (hfits _) (by decide)).2 rfl ⟨0⟩ steps
    (by decide) ⟨trivial, trivial, trivial⟩ ⟨trivial, trivial, trivial⟩ ⟨0⟩ rfl none none none
  refine ⟨hfits _, hfits _, hresolved, ?_, ?_⟩
  · rw [(hasked.2.1 hresolved steps ⟨trivial, trivial, trivial⟩).2]
    decide +kernel
  · rw [hbare.1 ⟨4⟩ rfl]
    decide +kernel

end Action

end FormDialogue
