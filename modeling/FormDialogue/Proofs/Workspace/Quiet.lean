import FormDialogue.Proofs.Workspace.Running
import FormDialogue.Workspace.Prompting

/-! # Quiet actions

An action is quiet when it changes nothing in a workspace but the sources of draws and the notices.
What reads records and declarations is quiet, and so is everything that makes text from them. -/

namespace FormDialogue.Action
open Choice (Renderer)
open Prompt (Arguments)
open Record (Declaration Options Usage)
variable {α β : Type} {a : Action α}

def Quiet (a : Action α) : Prop :=
  ∀ w, ∃ sources notices, (a.runIn w).2 = { w with sources := sources, notices := notices }

theorem quiet_of_unchanged (h : ∀ w, (a.runIn w).2 = w) : Quiet a :=
  fun w => ⟨w.sources, w.notices, h w⟩

theorem quiet_pure (x : α) : Quiet (pure x) := quiet_of_unchanged fun _ => rfl

theorem quiet_throw (why : Failure) : Quiet (throw why : Action α) :=
  quiet_of_unchanged fun _ => rfl

theorem quiet_get : Quiet (get : Action Workspace) := quiet_of_unchanged fun _ => rfl

theorem quiet_ofExcept (e : Except Failure α) : Quiet (ofExcept e) :=
  quiet_of_unchanged fun w => by rw [runIn_ofExcept]

theorem quiet_report (notices : List Logging.Notice) : Quiet (report notices) :=
  fun w => ⟨w.sources, notices.reverse ++ w.notices, by rw [runIn_report]⟩

/-- What follows an action quietly leaves the workspace as the action does. -/
theorem state_bind_quiet {f : α → Action β} (hf : ∀ x, Quiet (f x)) (w : Workspace) :
    ∃ sources notices, ((a >>= f).runIn w).2 =
      { (a.runIn w).2 with sources := sources, notices := notices } := by
  rw [runIn_bind]
  cases (a.runIn w).1 with
  | error why => exact ⟨_, _, rfl⟩
  | ok x => exact hf x (a.runIn w).2

theorem Quiet.bind {f : α → Action β} (ha : Quiet a) (hf : ∀ x, Quiet (f x)) :
    Quiet (a >>= f) := by
  intro w
  obtain ⟨sources, notices, hv⟩ := ha w
  obtain ⟨sources', notices', hu⟩ := state_bind_quiet (a := a) hf w
  exact ⟨sources', notices', by rw [hu, hv]⟩

theorem Quiet.bind_option {γ : Type} {a : Action (Option γ)} {f : Option γ → Action β}
    (ha : Quiet a) (hsome : ∀ x, Quiet (f (some x))) (hnone : Quiet (f none)) :
    Quiet (a >>= f) := by
  refine ha.bind fun found => ?_
  cases found with
  | some x => exact hsome x
  | none => exact hnone

/-! ## Declarations -/

theorem runIn_misfit? (d : Ref Declaration) (field : String) (w : Workspace) :
    (misfit? d field).runIn w =
      (.ok ((w.misfits.find? fun m => m.declaration == d && m.field == field).map Misfit.value),
        w) := rfl

theorem quiet_misfit? (d : Ref Declaration) (field : String) : Quiet (misfit? d field) :=
  quiet_of_unchanged fun w => by rw [runIn_misfit?]

theorem promptOf_state (d : Ref Declaration) (w : Workspace) : ((promptOf d).runIn w).2 = w := by
  rw [promptOf, runIn_bind_ok (runIn_misfit? d "prompt" w)]
  cases w.misfits.find? fun m => m.declaration == d && m.field == "prompt" with
  | none => rfl
  | some m => rfl

theorem templateFor_state (d : Ref Declaration) (usage : Usage) (w : Workspace) :
    ((templateFor d usage).runIn w).2 = w := by
  rw [templateFor, runIn_bind_ok (runIn_get w), runIn_bind_ok (runIn_misfit? d "templates" w)]
  cases w.misfits.find? fun m => m.declaration == d && m.field == "templates" with
  | none => rfl
  | some m =>
    dsimp only [Option.map_some]
    rw [runIn_ofExcept]

theorem quiet_nameOf (d : Ref Declaration) : Quiet (nameOf d) :=
  (quiet_misfit? d "name").bind fun _ => quiet_get.bind fun _ => quiet_pure _

theorem quiet_spacedName (d : Ref Declaration) : Quiet (spacedName d) := by
  refine (quiet_nameOf d).bind fun name => ?_
  cases name.asText? with
  | some s => exact quiet_pure _
  | none => exact quiet_throw _

theorem quiet_describeWithin (fuel : Nat) (d : Ref Declaration) :
    Quiet (describeWithin fuel d) := by
  induction fuel generalizing d with
  | zero => exact quiet_throw _
  | succ fuel ih =>
    unfold describeWithin
    refine (quiet_misfit? d "describe").bind fun found => ?_
    have htext : ∀ text : String, Quiet (pure text) := quiet_pure
    dsimp only
    split
    · exact quiet_get.bind fun _ => (quiet_pure _).bind_option htext (quiet_spacedName d)
    · exact (ih _).bind fun _ => (quiet_pure _).bind_option htext (quiet_spacedName d)
    · exact (quiet_throw _).bind_option htext (quiet_spacedName d)

theorem quiet_describeField (d : Ref Declaration) : Quiet (describeField d) :=
  quiet_get.bind fun _ => quiet_describeWithin _ _

/-! ## Texts -/

theorem runIn_select (r : Ref Selector) (record : Record) (w : Workspace) :
    let source := (w.selectors.get r).source
    let picked := (w.sources.get source).pick record.patterns
    ((select r record).runIn w).1 = picked.1.map Prod.fst ∧
      ∃ notices, ((select r record).runIn w).2 =
        { w with sources := w.sources.set source picked.2, notices := notices } := by
  intro source picked
  have hset : (select r record).runIn w =
      (ofExcept picked.1 >>= fun choice => do report choice.2; return choice.1).runIn
        { w with sources := w.sources.set source picked.2 } := rfl
  rw [hset, runIn_bind, runIn_ofExcept]
  cases picked.1 with
  | error why => exact ⟨rfl, w.notices, rfl⟩
  | ok choice => exact ⟨rfl, choice.2.reverse ++ w.notices, rfl⟩

theorem quiet_select (r : Ref Selector) (record : Record) : Quiet (select r record) := by
  intro w
  obtain ⟨notices, h⟩ := (runIn_select r record w).2
  exact ⟨_, notices, h⟩

theorem quiet_formatWith (f : Formatter) (record : Record) (a : Arguments) :
    Quiet (formatWith f record a) :=
  (quiet_select f.selector record).bind fun _ => (quiet_report _).bind fun _ => quiet_ofExcept _

theorem quiet_render (renderer : Renderer) (labels : List String) (o : Options) :
    Quiet (render renderer labels o) :=
  (quiet_report _).bind fun _ => quiet_ofExcept _

/-- What a text is made from: the pattern that the source of the selector picks, filled. -/
theorem formatWith_result (f : Formatter) (record : Record) (a : Arguments) (w : Workspace) :
    ((formatWith f record a).runIn w).1 =
      ((w.sources.get (w.selectors.get f.selector).source).pick record.patterns).1.bind
        fun picked => Prompt.fill picked.1 record.options a f.threshold := by
  have hselect := (runIn_select f.selector record w).1
  rw [formatWith, runIn_bind, hselect]
  cases ((w.sources.get (w.selectors.get f.selector).source).pick record.patterns).1 with
  | error why => rfl
  | ok picked =>
    change ((report _ >>= fun _ => ofExcept _).runIn _).1 = _
    rw [runIn_bind_ok (runIn_report _ _), runIn_ofExcept]
    rfl

/-- Making a text draws as the selection does, also if the pattern cannot be filled. -/
theorem formatWith_state (f : Formatter) (record : Record) (a : Arguments) (w : Workspace) :
    let source := (w.selectors.get f.selector).source
    ∃ notices, ((formatWith f record a).runIn w).2 = { w with
      sources := w.sources.set source ((w.sources.get source).pick record.patterns).2
      notices := notices } := by
  intro source
  obtain ⟨notices, hstate⟩ := (runIn_select f.selector record w).2
  rw [formatWith, runIn_bind]
  cases ((select f.selector record).runIn w).1 with
  | error why => exact ⟨notices, hstate⟩
  | ok pattern =>
    dsimp only
    rw [runIn_bind_ok (runIn_report _ _), runIn_ofExcept, hstate]
    exact ⟨_, rfl⟩

end FormDialogue.Action
