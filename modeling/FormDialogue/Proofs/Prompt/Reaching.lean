import FormDialogue.Proofs.Prompt.Asking
import FormDialogue.Proofs.Workspace.Alike

/-! # Before a pattern is picked

Looking up and resolving the record for a text fills options and draws nothing. Where the defaults
set every option, whether a record is found, and with which patterns, does not depend on any option
that is filled. -/

namespace FormDialogue
open Record (Declaration Usage)

/-- What happens before a pattern is picked: records are filled, and no source is drawn from. -/
structure Prepares (w v : Workspace) : Prop where
  alike : Alike w v
  sources : v.sources = w.sources
  resolved : ∀ q, (w.store.get q).options.isResolved = true → v.store.get q = w.store.get q

namespace Prepares
variable {w v u : Workspace}

theorem refl (w : Workspace) : Prepares w w := ⟨.refl w, rfl, fun _ _ => rfl⟩

theorem trans (h : Prepares w v) (hu : Prepares v u) : Prepares w u where
  alike := h.alike.trans hu.alike
  sources := hu.sources.trans h.sources
  resolved := by
    intro q hq
    have hv := h.resolved q hq
    rw [hu.resolved q (by rw [hv]; exact hq), hv]

end Prepares

namespace Action
variable {α β : Type} {a : Action α} {w : Workspace} {c : Ref Cascade} {d : Ref Declaration}
  {usage : Usage}

def OnlyPrepares (a : Action α) : Prop := ∀ w, Prepares w (a.runIn w).2

theorem OnlyPrepares.bind {f : α → Action β} (ha : OnlyPrepares a) (hf : ∀ x, OnlyPrepares (f x)) :
    OnlyPrepares (a >>= f) := by
  intro w
  rw [runIn_bind]
  cases (a.runIn w).1 with
  | ok x => exact (ha w).trans (hf x _)
  | error why => exact ha w

theorem Reads.onlyPrepares (h : Reads a) : OnlyPrepares a := by
  intro w
  rw [h.state]
  exact .refl w

theorem getRecord_prepares (r : Ref Record) : OnlyPrepares (getRecord r) := fun w => .refl w

theorem report_prepares (notices : List Logging.Notice) : OnlyPrepares (report notices) :=
  fun _ => ⟨.quiet ⟨_, _, rfl⟩, rfl, fun _ _ => rfl⟩

theorem resolve_prepares (c : Ref Cascade) (record : Ref Record)
    (scopes : List (Option (Ref Record))) : OnlyPrepares (resolve c record scopes) := by
  intro w
  obtain ⟨notices, hstate⟩ := resolve_state c record scopes w
  have hfilled := Cascade.filledFrom_resolve (w.cascades.get c) record scopes w.store
  rw [hstate]
  exact ⟨⟨⟨_, _, _, rfl⟩, fun q => (hfilled q).kind, fun q => (hfilled q).patterns⟩, rfl,
    fun q hq => (hfilled q).get_of_resolved hq⟩

theorem resolveTemplate_prepares (c : Ref Cascade) (usage : Usage)
    (overrides : List (Option (Ref Record))) :
    OnlyPrepares (resolveTemplate c usage overrides) := by
  intro w
  cases hchain : overrides.reduceOption with
  | nil =>
    rw [resolveTemplate_nil hchain]
    exact .refl w
  | cons first rest =>
    rw [resolveTemplate_cons hchain]
    exact resolve_prepares c first _ w

theorem promptRecord_prepares (c : Ref Cascade) (d : Ref Declaration) (usage : Usage)
    (typePrompt : Option (Ref Record)) : OnlyPrepares (promptRecord c d usage typePrompt) := by
  refine (reads_promptOf d).onlyPrepares.bind fun prompt => ?_
  cases prompt with
  | some prompt =>
    exact (resolve_prepares c prompt [typePrompt]).bind fun q => getRecord_prepares q
  | none =>
    refine (reads_templateFor d usage).onlyPrepares.bind fun own => ?_
    refine (resolveTemplate_prepares c usage [own]).bind fun found => ?_
    cases found with
    | some template => exact getRecord_prepares template
    | none =>
      refine (reads_nameOf d).onlyPrepares.bind fun name => ?_
      exact (report_prepares _).bind fun _ => (reads_throw _).onlyPrepares

/-- What follows the look for a record only draws and reports. -/
theorem promptFor_state (f : Ref Formatter) (d : Ref Declaration) (usage : Usage)
    (typePrompt : Option (Ref Record)) (value : Option String) (choices : Option (List String))
    (w : Workspace) :
    ∃ sources notices, ((promptFor f d usage typePrompt value choices).runIn w).2 =
      { ((promptRecord (w.formatters.get f).cascade d usage typePrompt).runIn w).2 with
        sources := sources
        notices := notices } := by
  rw [promptFor, runIn_bind_ok (runIn_get w)]
  refine state_bind_quiet (fun record => ?_) w
  exact (quiet_describeField d).bind fun _ => quiet_formatWith _ _ _

theorem promptFor_alike (f : Ref Formatter) (d : Ref Declaration) (usage : Usage)
    (typePrompt : Option (Ref Record)) (value : Option String) (choices : Option (List String))
    (w : Workspace) : Alike w ((promptFor f d usage typePrompt value choices).runIn w).2 :=
  (promptRecord_prepares _ d usage typePrompt w).alike.trans
    (.quiet (promptFor_state f d usage typePrompt value choices w))

/-- The patterns of a record that is resolved before it is used. -/
def usable? (patterns : List String) : Option (List String) :=
  if patterns = [] then none else some patterns

/-- The patterns to ask for a field with, if the asking gets as far as that. -/
def promptPatterns? (w : Workspace) (c : Ref Cascade) (d : Ref Declaration) (usage : Usage) :
    Option (List String) :=
  match ((promptOf d).runIn w).1 with
  | .error _ => none
  | .ok (some prompt) => usable? (w.store.get prompt).patterns
  | .ok none =>
    match ((templateFor d usage).runIn w).1 with
    | .error _ => none
    | .ok (some template) => usable? (w.store.get template).patterns
    | .ok none => ((w.cascades.get c).registered usage).map fun t => (w.store.get t).patterns

theorem promptPatterns?_congr {v : Workspace} (h : Alike w v) (c : Ref Cascade)
    (d : Ref Declaration) (usage : Usage) :
    promptPatterns? v c d usage = promptPatterns? w c d usage := by
  simp only [promptPatterns?, (reads_promptOf d).result h, (reads_templateFor d usage).result h,
    h.cascades, h.patterns]

/-- Asking without anything declared or registered fails, whatever the name of the field is. -/
theorem nothing_declared (d : Ref Declaration) (usage : Usage) (w : Workspace) :
    ((nameOf d >>= fun name => do
      report [.nothingDeclared usage name.shown]
      throw (.noPatterns (.declaration (String.ofList name.quoted) usage)) :
        Action Record).runIn w).1.toOption = none := by
  rw [runIn_bind]
  cases ((nameOf d).runIn w).1 with
  | error why => rfl
  | ok name => rfl

section Patterns
variable (hdefaults : (w.store.get (w.cascades.get c).defaults).options.isResolved = true)
include hdefaults

theorem resolve_patterns (record : Ref Record) (scopes : List (Option (Ref Record))) :
    ((resolve c record scopes >>= getRecord).runIn w).1.toOption.map Record.patterns =
      usable? (w.store.get record).patterns := by
  rw [runIn_bind, resolve_of_resolved record scopes hdefaults, usable?]
  by_cases hpatterns : (w.store.get record).patterns = []
  · rw [if_pos hpatterns, if_pos hpatterns]
    rfl
  · rw [if_neg hpatterns, if_neg hpatterns]
    exact congrArg some ((resolve_prepares c record scopes w).alike.patterns record)

theorem promptRecord_patterns (d : Ref Declaration) (usage : Usage)
    (typePrompt : Option (Ref Record)) :
    ((promptRecord c d usage typePrompt).runIn w).1.toOption.map Record.patterns =
      promptPatterns? w c d usage := by
  rw [promptRecord, runIn_bind, promptOf_state, promptPatterns?]
  cases ((promptOf d).runIn w).1 with
  | error why => rfl
  | ok prompt =>
    cases prompt with
    | some prompt => exact resolve_patterns hdefaults prompt [typePrompt]
    | none =>
      dsimp only
      rw [runIn_bind, templateFor_state]
      cases ((templateFor d usage).runIn w).1 with
      | error why => rfl
      | ok own =>
        dsimp only
        rw [runIn_bind]
        cases own with
        | none =>
          rw [resolveTemplate_nil rfl]
          cases (w.cascades.get c).registered usage with
          | some template => rfl
          | none => exact congrArg _ (nothing_declared d usage w)
        | some template =>
          have hfirst : [some template].reduceOption = template :: [] := rfl
          rw [resolveTemplate_cons hfirst, resolve_of_resolved template _ hdefaults]
          dsimp only
          rw [usable?]
          by_cases hpatterns : (w.store.get template).patterns = []
          · rw [if_pos hpatterns, if_pos hpatterns]
            rfl
          · rw [if_neg hpatterns, if_neg hpatterns]
            exact congrArg some ((resolve_prepares c template _ w).alike.patterns template)

end Patterns

end Action

end FormDialogue
