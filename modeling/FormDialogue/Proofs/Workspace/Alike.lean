import FormDialogue.Proofs.Workspace.Calls

/-! # Workspaces that are alike

Making texts fills options, draws and reports, and changes nothing else. What is read from a
declaration depends on the declarations and on the kinds of records only, so it is the same in
workspaces that differ in anything else. -/

namespace FormDialogue

/-- The workspaces have the same declarations, and the same kinds of records. -/
structure AlikeDeclared (w v : Workspace) : Prop where
  declarations : v.declarations = w.declarations
  misfits : v.misfits = w.misfits
  kind : ∀ q, (v.store.get q).kind = (w.store.get q).kind

namespace AlikeDeclared
variable {w v : Workspace}

theorem refl (w : Workspace) : AlikeDeclared w w := ⟨rfl, rfl, fun _ => rfl⟩

theorem usage (h : AlikeDeclared w v) (q : Ref Record) :
    (v.store.get q).usage? = (w.store.get q).usage? := by
  rw [Record.usage?, h.kind q, Record.usage?]

end AlikeDeclared

/-- Nothing but options, sources of draws and notices tells the workspaces apart. -/
structure Alike (w v : Workspace) : Prop where
  rest : ∃ store sources notices,
    v = { w with store := store, sources := sources, notices := notices }
  kind : ∀ q, (v.store.get q).kind = (w.store.get q).kind
  patterns : ∀ q, (v.store.get q).patterns = (w.store.get q).patterns

namespace Alike
variable {w v u : Workspace}

theorem refl (w : Workspace) : Alike w w :=
  ⟨⟨_, _, _, rfl⟩, fun _ => rfl, fun _ => rfl⟩

theorem symm (h : Alike w v) : Alike v w := by
  obtain ⟨⟨store, sources, notices, rfl⟩, hkind, hpatterns⟩ := h
  exact ⟨⟨w.store, w.sources, w.notices, rfl⟩, fun q => (hkind q).symm,
    fun q => (hpatterns q).symm⟩

theorem trans (h : Alike w v) (hu : Alike v u) : Alike w u := by
  obtain ⟨⟨store, sources, notices, rfl⟩, hkind, hpatterns⟩ := h
  obtain ⟨⟨store', sources', notices', rfl⟩, hkind', hpatterns'⟩ := hu
  exact ⟨⟨store', sources', notices', rfl⟩, fun q => (hkind' q).trans (hkind q),
    fun q => (hpatterns' q).trans (hpatterns q)⟩

theorem quiet (hv : ∃ sources notices, v = { w with sources := sources, notices := notices }) :
    Alike w v := by
  obtain ⟨sources, notices, rfl⟩ := hv
  exact ⟨⟨_, _, _, rfl⟩, fun _ => rfl, fun _ => rfl⟩

theorem declarations (h : Alike w v) : v.declarations = w.declarations := by
  obtain ⟨⟨_, _, _, rfl⟩, -, -⟩ := h
  rfl

theorem misfits (h : Alike w v) : v.misfits = w.misfits := by
  obtain ⟨⟨_, _, _, rfl⟩, -, -⟩ := h
  rfl

theorem cascades (h : Alike w v) : v.cascades = w.cascades := by
  obtain ⟨⟨_, _, _, rfl⟩, -, -⟩ := h
  rfl

theorem selectors (h : Alike w v) : v.selectors = w.selectors := by
  obtain ⟨⟨_, _, _, rfl⟩, -, -⟩ := h
  rfl

theorem formatters (h : Alike w v) : v.formatters = w.formatters := by
  obtain ⟨⟨_, _, _, rfl⟩, -, -⟩ := h
  rfl

theorem declared (h : Alike w v) : AlikeDeclared w v := ⟨h.declarations, h.misfits, h.kind⟩

end Alike

namespace Action
open Record (Declaration Usage)
variable {α β : Type} {a : Action α} {w : Workspace}

/-! ## Reading -/

/-- An action that changes nothing, and gives the same in workspaces with the same declarations. -/
def Reads (a : Action α) : Prop := ∀ w v, AlikeDeclared w v → a.runIn v = ((a.runIn w).1, v)

theorem Reads.state (h : Reads a) (w : Workspace) : (a.runIn w).2 = w :=
  congrArg Prod.snd (h w w (.refl w))

theorem Reads.result_of_declared {v : Workspace} (h : Reads a) (hv : AlikeDeclared w v) :
    (a.runIn v).1 = (a.runIn w).1 := by
  rw [h w v hv]

theorem Reads.result {v : Workspace} (h : Reads a) (hv : Alike w v) :
    (a.runIn v).1 = (a.runIn w).1 := h.result_of_declared hv.declared

theorem reads_pure (x : α) : Reads (pure x) := fun _ _ _ => rfl

theorem reads_throw (why : Failure) : Reads (throw why : Action α) := fun _ _ _ => rfl

theorem reads_ofExcept (e : Except Failure α) : Reads (ofExcept e) :=
  fun w v _ => by rw [runIn_ofExcept, runIn_ofExcept]

theorem Reads.bind {f : α → Action β} (ha : Reads a) (hf : ∀ x, Reads (f x)) :
    Reads (a >>= f) := by
  intro w v hv
  rw [runIn_bind, runIn_bind, ha w v hv, ha.state w]
  cases (a.runIn w).1 with
  | ok x => exact hf x w v hv
  | error why => rfl

theorem Reads.bind_option {γ : Type} {a : Action (Option γ)} {f : Option γ → Action β}
    (ha : Reads a) (hsome : ∀ x, Reads (f (some x))) (hnone : Reads (f none)) :
    Reads (a >>= f) := by
  refine ha.bind fun found => ?_
  cases found with
  | some x => exact hsome x
  | none => exact hnone

/-- What follows a look at the workspace has to be the same for the same declarations. -/
theorem reads_get {f : Workspace → Action β} (hsame : ∀ w v, AlikeDeclared w v → f v = f w)
    (hf : ∀ w, Reads (f w)) : Reads (get >>= f) := by
  intro w v hv
  rw [runIn_bind_ok (runIn_get v), runIn_bind_ok (runIn_get w), hsame w v hv]
  exact hf w w v hv

theorem reads_misfit? (d : Ref Declaration) (field : String) : Reads (misfit? d field) := by
  intro w v hv
  rw [runIn_misfit?, runIn_misfit?, hv.misfits]

theorem reads_promptOf (d : Ref Declaration) : Reads (promptOf d) := by
  refine (reads_misfit? d "prompt").bind_option (fun _ => reads_throw _) ?_
  exact reads_get (fun w v hv => by rw [hv.declarations]) fun _ => reads_pure _

theorem firstTemplate_congr {v : Workspace} (hv : AlikeDeclared w v) (usage : Usage)
    (items : List Datum) :
    firstTemplate v.store usage items = firstTemplate w.store usage items := by
  induction items with
  | nil => rfl
  | cons item items ih =>
    rw [firstTemplate, firstTemplate]
    cases templateRef? item with
    | none => rfl
    | some r =>
      dsimp only
      rw [hv.usage r, ih]

theorem templateAmong_congr {v : Workspace} (hv : AlikeDeclared w v) (usage : Usage)
    (d : Datum) :
    templateAmong v.store usage d = templateAmong w.store usage d := by
  unfold templateAmong
  split
  · exact firstTemplate_congr hv usage _
  all_goals rfl

theorem template?_congr {v : Workspace} (hv : AlikeDeclared w v) (declared : Declaration)
    (usage : Usage) :
    declared.template? v.store usage = declared.template? w.store usage := by
  have husage : (fun r => decide ((v.store.get r).usage? = some usage)) =
      fun r => decide ((w.store.get r).usage? = some usage) := by
    funext r
    rw [hv.usage r]
  rw [Declaration.template?, husage, Declaration.template?]

theorem reads_templateFor (d : Ref Declaration) (usage : Usage) : Reads (templateFor d usage) := by
  refine reads_get (fun w v hv => ?_) fun w =>
    (reads_misfit? d "templates").bind_option (fun _ => reads_ofExcept _) (reads_pure _)
  rw [hv.declarations]
  refine congrArg _ (funext fun found => ?_)
  cases found with
  | some x => exact congrArg ofExcept (templateAmong_congr hv usage x)
  | none => exact congrArg pure (template?_congr hv _ usage)

theorem reads_nameOf (d : Ref Declaration) : Reads (nameOf d) :=
  (reads_misfit? d "name").bind fun _ =>
    reads_get (fun w v hv => by rw [hv.declarations]) fun _ => reads_pure _

theorem reads_spacedName (d : Ref Declaration) : Reads (spacedName d) := by
  refine (reads_nameOf d).bind fun name => ?_
  cases name.asText? with
  | some s => exact reads_pure _
  | none => exact reads_throw _

theorem reads_describeWithin (fuel : Nat) (d : Ref Declaration) :
    Reads (describeWithin fuel d) := by
  induction fuel generalizing d with
  | zero => exact reads_throw _
  | succ fuel ih =>
    unfold describeWithin
    refine (reads_misfit? d "describe").bind fun found => ?_
    have htext : ∀ text : String, Reads (pure text) := reads_pure
    dsimp only
    split
    · exact reads_get (fun w v hv => by rw [hv.declarations]) fun _ =>
        (reads_pure _).bind_option htext (reads_spacedName d)
    · exact (ih _).bind fun _ => (reads_pure _).bind_option htext (reads_spacedName d)
    · exact (reads_throw _).bind_option htext (reads_spacedName d)

theorem reads_describeField (d : Ref Declaration) : Reads (describeField d) :=
  reads_get (fun w v hv => by rw [hv.declarations]) fun _ => reads_describeWithin _ d

end Action

end FormDialogue
