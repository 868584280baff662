import FormDialogue.Proofs.Cascade.Filling
import FormDialogue.Proofs.Workspace.Quiet
import FormDialogue.Proofs.Workspace.Resolving
import Mathlib.Data.List.ReduceOption

/-! # Calls on cascades

A run is a sequence of calls that fill records, build cascades, register and resolve, and make
texts. Every call fills certain records from a certain chain and does nothing else to the records
that exist, whether it succeeds or not. So an option that is set stays, whatever comes after. -/

namespace FormDialogue
open Choice (Renderer Threshold)
open Prompt (Arguments)
open Record (Declaration OptionName Options Usage)
open Store (FilledFrom)

inductive Call
  | inherit (specific general : Ref Record)
  | build (defaults : Ref Record) (templates : List (Ref Record))
  | buildFrom (settings : Settings)
  | register (c : Ref Cascade) (template : Ref Record)
  | resolve (c : Ref Cascade) (record : Ref Record) (scopes : List (Option (Ref Record)))
  | resolveTemplate (c : Ref Cascade) (usage : Usage) (overrides : List (Option (Ref Record)))
  | promptFor (f : Ref Formatter) (d : Ref Declaration) (usage : Usage)
      (typePrompt : Option (Ref Record)) (value : Option String) (choices : Option (List String))
  | format (f : Ref Formatter) (record : Ref Record) (a : Arguments)
  | render (renderer : Ref Renderer) (record : Ref Record) (labels : List String)
  | renderChoices (record : Ref Record) (labels : List String) (style : Option Datum)
      (threshold : Threshold)
  | renderList (record : Ref Record) (values : List String)

/-- The records that a call fills, and the chain that it fills them from. -/
structure Filling where
  records : List (Ref Record)
  chain : List (Ref Record)

namespace Call
open FormDialogue.Action

def act : Call → Action Unit
  | inherit specific general => Action.inherit specific general
  | build defaults templates => discard (buildCascade defaults templates)
  | buildFrom settings => discard (cascadeOfSettings settings)
  | register c template => Action.register c template
  | resolve c record scopes => discard (Action.resolve c record scopes)
  | resolveTemplate c usage overrides => discard (Action.resolveTemplate c usage overrides)
  | promptFor f d usage typePrompt value choices =>
    discard (Action.promptFor f d usage typePrompt value choices)
  | format f record a => do
    let w ← get
    discard (formatWith (w.formatters.get f) (w.store.get record) a)
  | render renderer record labels => do
    let w ← get
    discard (Action.render (w.renderers.get renderer) labels (w.store.get record).options)
  | renderChoices record labels style threshold => do
    let o := (← getRecord record).options
    let renderer ← Action.ofExcept (Choice.rendererFor o style threshold)
    discard (Action.render renderer labels o)
  | renderList record values => do
    discard (Action.ofExcept (Choice.renderList values (← getRecord record).options))

/-- The workspace after a call, also after one that fails. -/
def after (w : Workspace) (call : Call) : Workspace := (call.act.runIn w).2

def promptFilling (w : Workspace) (c : Cascade) (d : Ref Declaration) (usage : Usage)
    (typePrompt : Option (Ref Record)) : Filling :=
  match ((promptOf d).runIn w).1, ((templateFor d usage).runIn w).1 with
  | .ok (some prompt), _ => ⟨[prompt], typePrompt.toList ++ [c.defaults]⟩
  | .ok none, .ok (some template) => ⟨[template], (c.registered usage).toList ++ [c.defaults]⟩
  | _, _ => ⟨[], []⟩

def filling (w : Workspace) : Call → Filling
  | inherit specific general => ⟨[specific], [general]⟩
  | build defaults templates => ⟨templates, [defaults]⟩
  | register c template => ⟨[template], [(w.cascades.get c).defaults]⟩
  | resolve c record scopes => ⟨[record], scopes.reduceOption ++ [(w.cascades.get c).defaults]⟩
  | resolveTemplate c usage overrides =>
    match overrides.reduceOption with
    | [] => ⟨[], []⟩
    | first :: rest =>
      ⟨[first],
        rest ++ ((w.cascades.get c).registered usage).toList ++ [(w.cascades.get c).defaults]⟩
  | promptFor f d usage typePrompt _ _ =>
    promptFilling w (w.cascades.get (w.formatters.get f).cascade) d usage typePrompt
  | buildFrom .. | format .. | render .. | renderChoices .. | renderList .. => ⟨[], []⟩

/-! ## Calls that only fill -/

/-- A workspace after another in which records were filled and nothing was built or registered. -/
structure Fills (F : Filling) (w v : Workspace) : Prop where
  cascades : v.cascades = w.cascades
  filled : ∀ q, FilledFrom F.records F.chain w.store v.store q

variable {w v u : Workspace} {F : Filling} {q : Ref Record}

theorem Fills.refl (F : Filling) (w : Workspace) : Fills F w w :=
  ⟨rfl, fun _ => .of_eq id rfl⟩

theorem Fills.quiet (h : Fills F w v)
    (hu : ∃ sources notices, u = { v with sources := sources, notices := notices }) :
    Fills F w u := by
  obtain ⟨sources, notices, rfl⟩ := hu
  exact ⟨h.cascades, h.filled⟩

theorem fills_resolve (c : Ref Cascade) (record : Ref Record) (scopes : List (Option (Ref Record)))
    (w : Workspace) :
    Fills ⟨[record], scopes.reduceOption ++ [(w.cascades.get c).defaults]⟩ w
      ((Action.resolve c record scopes).runIn w).2 := by
  obtain ⟨notices, hstate⟩ := resolve_state c record scopes w
  rw [hstate]
  exact ⟨rfl, Cascade.filledFrom_resolve _ record scopes w.store⟩

theorem reduceOption_map_some (rest : List (Ref Record)) :
    (rest.map some).reduceOption = rest := by
  simp [List.reduceOption]

theorem reduceOption_map_some_append (rest : List (Ref Record)) (x : Option (Ref Record)) :
    (rest.map some ++ [x]).reduceOption = rest ++ x.toList := by
  rw [List.reduceOption_append, reduceOption_map_some, List.reduceOption_singleton]

theorem fills_resolveTemplate (c : Ref Cascade) (usage : Usage)
    (overrides : List (Option (Ref Record))) (w : Workspace) :
    Fills (filling w (.resolveTemplate c usage overrides)) w
      ((Action.resolveTemplate c usage overrides).runIn w).2 := by
  cases hchain : overrides.reduceOption with
  | nil =>
    rw [resolveTemplate_nil hchain]
    exact .refl _ w
  | cons first rest =>
    have h := fills_resolve c first (rest.map some ++ [(w.cascades.get c).registered usage]) w
    rw [reduceOption_map_some_append] at h
    rw [resolveTemplate_cons hchain, filling, hchain]
    exact h

theorem fills_promptRecord (c : Ref Cascade) (d : Ref Declaration) (usage : Usage)
    (typePrompt : Option (Ref Record)) (w : Workspace) :
    Fills (promptFilling w (w.cascades.get c) d usage typePrompt) w
      ((promptRecord c d usage typePrompt).runIn w).2 := by
  rw [promptRecord, runIn_bind, promptOf_state]
  unfold promptFilling
  cases ((promptOf d).runIn w).1 with
  | error why => exact .refl _ w
  | ok prompt =>
    cases prompt with
    | some prompt =>
      have h := fills_resolve c prompt [typePrompt] w
      rw [List.reduceOption_singleton] at h
      exact h.quiet (state_bind_quiet (fun _ => quiet_of_unchanged fun _ => rfl) w)
    | none =>
      dsimp only
      rw [runIn_bind, templateFor_state]
      cases ((templateFor d usage).runIn w).1 with
      | error why => exact .refl _ w
      | ok own =>
        have h := fills_resolveTemplate c usage [own] w
        refine Fills.quiet (v := ((Action.resolveTemplate c usage [own]).runIn w).2) ?_
          (state_bind_quiet (fun found => ?_) w)
        · cases own with
          | none => exact h
          | some template => exact h
        · cases found with
          | some template => exact quiet_of_unchanged fun _ => rfl
          | none =>
            exact (quiet_nameOf d).bind fun _ => (quiet_report _).bind fun _ => quiet_throw _

theorem fills_promptFor (f : Ref Formatter) (d : Ref Declaration) (usage : Usage)
    (typePrompt : Option (Ref Record)) (value : Option String) (choices : Option (List String))
    (w : Workspace) :
    Fills (filling w (.promptFor f d usage typePrompt value choices)) w
      ((Action.promptFor f d usage typePrompt value choices).runIn w).2 := by
  rw [Action.promptFor, runIn_bind_ok (runIn_get w)]
  refine (fills_promptRecord (w.formatters.get f).cascade d usage typePrompt w).quiet
    (state_bind_quiet (fun record => ?_) w)
  exact (quiet_describeField d).bind fun _ => quiet_formatWith _ _ _

theorem quiet_discard {α : Type} {a : Action α} (h : Quiet a) : Quiet (discard a) := by
  intro w
  rw [runIn_discard]
  exact h w

theorem quiet_format (f : Ref Formatter) (record : Ref Record) (a : Arguments) :
    Quiet (format f record a).act :=
  quiet_get.bind fun _ => quiet_discard (quiet_formatWith _ _ _)

theorem quiet_render (renderer : Ref Renderer) (record : Ref Record) (labels : List String) :
    Quiet (render renderer record labels).act :=
  quiet_get.bind fun _ => quiet_discard (Action.quiet_render _ _ _)

theorem quiet_getRecord (r : Ref Record) : Quiet (getRecord r) := quiet_of_unchanged fun _ => rfl

theorem quiet_renderChoices (record : Ref Record) (labels : List String) (style : Option Datum)
    (threshold : Threshold) : Quiet (renderChoices record labels style threshold).act :=
  (quiet_getRecord record).bind fun _ => (quiet_ofExcept _).bind fun _ =>
    quiet_discard (Action.quiet_render _ _ _)

theorem quiet_renderList (record : Ref Record) (values : List String) :
    Quiet (renderList record values).act :=
  (quiet_getRecord record).bind fun _ => quiet_discard (quiet_ofExcept _)

/-- Calls that neither build a cascade nor register a template. -/
def onlyFills : Call → Bool
  | build .. | buildFrom .. | register .. => false
  | inherit .. | resolve .. | resolveTemplate .. | promptFor .. | format .. | render ..
  | renderChoices .. | renderList .. => true

theorem fills_after (call : Call) (h : call.onlyFills = true) (w : Workspace) :
    Fills (call.filling w) w (call.after w) := by
  cases call with
  | inherit specific general => exact ⟨rfl, Store.filledFrom_inherit w.store specific general⟩
  | resolve c record scopes =>
    rw [after, act, runIn_discard]
    exact fills_resolve c record scopes w
  | resolveTemplate c usage overrides =>
    rw [after, act, runIn_discard]
    exact fills_resolveTemplate c usage overrides w
  | promptFor f d usage typePrompt value choices =>
    rw [after, act, runIn_discard]
    exact fills_promptFor f d usage typePrompt value choices w
  | format f record a => exact (Fills.refl _ w).quiet (quiet_format f record a w)
  | render renderer record labels =>
    exact (Fills.refl _ w).quiet (quiet_render renderer record labels w)
  | renderChoices record labels style threshold =>
    exact (Fills.refl _ w).quiet (quiet_renderChoices record labels style threshold w)
  | renderList record values => exact (Fills.refl _ w).quiet (quiet_renderList record values w)
  | build | buildFrom | register => cases h

/-! ## Calls that build or register -/

theorem filledFrom_build (defaults : Ref Record) (templates : List (Ref Record)) (w : Workspace)
    (q : Ref Record) :
    FilledFrom templates [defaults] w.store
      ((buildCascade defaults templates).runIn w).2.store q := by
  obtain ⟨-, notices, hstate⟩ := runIn_buildCascade defaults templates w
  rw [hstate]
  exact Cascade.filledFrom_create defaults templates w.store q

theorem filledFrom_buildFrom (settings : Settings) (hq : w.store.Has q) :
    FilledFrom [] [] w.store ((cascadeOfSettings settings).runIn w).2.store q := by
  rw [runIn_cascadeOfSettings]
  cases settings.defaults with
  | error why => exact .of_eq id rfl
  | ok record =>
    have hpush : (w.store.push record).get q = w.store.get q := Heap.get_push_old hq record
    have hhas : (w.store.push record).Has q := Nat.lt_succ_of_lt hq
    have hbuild := filledFrom_build w.store.fresh [] { w with store := w.store.push record } q
    exact .of_eq (fun _ => hbuild.has hhas) ((hbuild.get_of_not_mem List.not_mem_nil).trans hpush)

theorem filledFrom_register (c : Ref Cascade) (template : Ref Record) (w : Workspace)
    (q : Ref Record) :
    FilledFrom [template] [(w.cascades.get c).defaults] w.store
      ((Action.register c template).runIn w).2.store q := by
  obtain ⟨notices, hstate⟩ := register_state c template w
  rw [hstate, Cascade.register_store]
  exact Store.filledFrom_inherit w.store template _ q

theorem register_after (c : Ref Cascade) (template : Ref Record) (w : Workspace) :
    let outcome := (w.cascades.get c).register template w.store
    let v := (register c template).after w
    v.store = outcome.1 ∧ v.cascades.get c = outcome.2.result.toOption.getD (w.cascades.get c) ∧
      (∀ x, w.cascades.Has x → v.cascades.Has x) ∧
      ∀ x, x ≠ c → v.cascades.get x = w.cascades.get x := by
  intro outcome v
  obtain ⟨notices, hstate⟩ := register_state c template w
  have hv : v = _ := hstate
  rw [hv]
  refine ⟨rfl, ?_⟩
  dsimp only
  cases outcome.2.result with
  | ok cascade =>
    exact ⟨Heap.get_set_same _ c cascade, fun _ => id, fun _ hx => Heap.get_set_other hx cascade⟩
  | error why => exact ⟨rfl, fun _ => id, fun _ _ => rfl⟩

/-- What a call does to a record that exists: it fills it, if at all, from the chain of the call. -/
theorem filledFrom_after (call : Call) (hq : w.store.Has q) :
    FilledFrom (call.filling w).records (call.filling w).chain w.store (call.after w).store q := by
  cases hfills : call.onlyFills with
  | true => exact (fills_after call hfills w).filled q
  | false =>
    cases call with
    | build defaults templates =>
      rw [after, act, runIn_discard]
      exact filledFrom_build defaults templates w q
    | buildFrom settings =>
      rw [after, act, runIn_discard]
      exact filledFrom_buildFrom settings hq
    | register c template => exact filledFrom_register c template w q
    | _ => cases hfills

theorem keeps_build (defaults : Ref Record) (templates : List (Ref Record)) {c : Ref Cascade}
    (hc : w.cascades.Has c) :
    let v := ((buildCascade defaults templates).runIn w).2
    v.cascades.Has c ∧ v.cascades.get c = w.cascades.get c := by
  intro v
  obtain ⟨-, notices, hstate⟩ := runIn_buildCascade defaults templates w
  have hv : v = _ := hstate
  rw [hv]
  dsimp only
  cases (Cascade.create defaults templates w.store).2.result with
  | ok cascade => exact ⟨Nat.lt_succ_of_lt hc, Heap.get_push_old hc cascade⟩
  | error why => exact ⟨hc, rfl⟩

/-- A call leaves a cascade as it is, unless it registers a template on it. -/
theorem cascade_after (call : Call) {c : Ref Cascade} (hc : w.cascades.Has c)
    (hother : ∀ template, call ≠ .register c template) :
    (call.after w).cascades.Has c ∧ (call.after w).cascades.get c = w.cascades.get c := by
  cases hfills : call.onlyFills with
  | true =>
    rw [(fills_after call hfills w).cascades]
    exact ⟨hc, rfl⟩
  | false =>
    cases call with
    | build defaults templates =>
      rw [after, act, runIn_discard]
      exact keeps_build defaults templates hc
    | buildFrom settings =>
      rw [after, act, runIn_discard, runIn_cascadeOfSettings]
      cases settings.defaults with
      | error why => exact ⟨hc, rfl⟩
      | ok record =>
        let u : Workspace := { w with store := w.store.push record }
        exact keeps_build (w := u) w.store.fresh [] hc
    | register x template =>
      have hx : c ≠ x := by
        rintro rfl
        exact hother template rfl
      obtain ⟨-, -, hhas, hkept⟩ := register_after x template w
      exact ⟨hhas c hc, hkept c hx⟩
    | _ => cases hfills

/-! ## Runs -/

def run (w : Workspace) (calls : List Call) : Workspace := calls.foldl after w

theorem run_append (w : Workspace) (calls more : List Call) :
    run w (calls ++ more) = run (run w calls) more := List.foldl_append

theorem run_singleton (w : Workspace) (call : Call) : run w [call] = call.after w := rfl

theorem run_keeps (calls : List Call) (hq : w.store.Has q) :
    (run w calls).store.Has q ∧
      ((run w calls).store.get q).kind = (w.store.get q).kind ∧
      ((run w calls).store.get q).patterns = (w.store.get q).patterns ∧
      ((run w calls).store.get q).localizable = (w.store.get q).localizable ∧
      ∀ n, (w.store.get q).options.isUnset n = false →
        ((run w calls).store.get q).options.get n = (w.store.get q).options.get n := by
  induction calls generalizing w with
  | nil => exact ⟨hq, rfl, rfl, rfl, fun _ _ => rfl⟩
  | cons call rest ih =>
    have hstep := filledFrom_after call hq
    obtain ⟨hhas, hkind, hpatterns, hlocalizable, hset⟩ := ih (hstep.has hq)
    refine ⟨hhas, hkind.trans hstep.kind, hpatterns.trans hstep.patterns,
      hlocalizable.trans hstep.localizable, fun n hn => ?_⟩
    have hkept := hstep.get_of_set hn
    have hn' : ((call.after w).store.get q).options.isUnset n = false := by
      rw [Options.isUnset, hkept]
      exact hn
    exact (hset n hn').trans hkept

/-- In a run of calls, whether they fail or not, a record that exists keeps its kind with its usage,
its patterns and whether it is localized, and every option that it sets. A call changes no record
but those that it fills, and it only changes an option that is unset, which then takes the value of
another record of the chain. -/
theorem run_only_fills (w : Workspace) (calls : List Call) :
    (∀ before rest, calls = before ++ rest → ∀ r, (run w before).store.Has r →
      let old := (run w before).store.get r
      let new := (run w calls).store.get r
      (run w calls).store.Has r ∧ new.kind = old.kind ∧ new.patterns = old.patterns ∧
        new.localizable = old.localizable ∧
        ∀ n, old.options.isUnset n = false → new.options.get n = old.options.get n) ∧
    (∀ before call rest, calls = before ++ call :: rest →
      let old := (run w before).store
      let new := (run w (before ++ [call])).store
      let filling := call.filling (run w before)
      ∀ r, old.Has r →
        (r ∉ filling.records → new.get r = old.get r) ∧
        ∀ n, (new.get r).options.get n ≠ (old.get r).options.get n →
          (old.get r).options.isUnset n = true ∧
            ∃ q ∈ filling.chain, q ≠ r ∧
              (old.get q).options.get n = (new.get r).options.get n) := by
  constructor
  · rintro before rest rfl r hr
    rw [run_append]
    exact run_keeps rest hr
  · rintro before call rest - old new filling r hr
    have hstep : FilledFrom filling.records filling.chain old new r := by
      have hnew : new = (call.after (run w before)).store := by
        rw [← run_singleton, ← run_append]
      rw [hnew]
      exact filledFrom_after call hr
    refine ⟨hstep.get_of_not_mem, fun n hchanged => ?_⟩
    obtain hsame | ⟨-, hunset, hgiver⟩ := hstep.options n
    · exact absurd hsame hchanged
    · exact ⟨hunset, hgiver⟩

end Call

end FormDialogue
