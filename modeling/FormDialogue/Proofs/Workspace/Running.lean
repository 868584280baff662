import FormDialogue.Workspace.Basic

/-! # Running actions

An action on a workspace gives its result and the workspace that it leaves. Every basic action has
an equation for this, and a sequence of actions runs one after the other until one of them fails. -/

namespace FormDialogue.Action
variable {α β : Type}

/-- The result of an action in a workspace, and the workspace afterwards. -/
def runIn (a : Action α) (w : Workspace) : Except Failure α × Workspace := (ExceptT.run a).run w

@[simp] theorem runIn_pure (x : α) (w : Workspace) :
    (pure x : Action α).runIn w = (.ok x, w) := rfl

@[simp] theorem runIn_throw (why : Failure) (w : Workspace) :
    (throw why : Action α).runIn w = (.error why, w) := rfl

@[simp] theorem runIn_get (w : Workspace) : (get : Action Workspace).runIn w = (.ok w, w) := rfl

@[simp] theorem runIn_set (v w : Workspace) :
    (set v : Action PUnit).runIn w = (.ok ⟨⟩, v) := rfl

@[simp] theorem runIn_modify (f : Workspace → Workspace) (w : Workspace) :
    (modify f : Action PUnit).runIn w = (.ok ⟨⟩, f w) := rfl

theorem runIn_bind (a : Action α) (f : α → Action β) (w : Workspace) :
    (a >>= f).runIn w =
      match (a.runIn w).1 with
      | .ok x => (f x).runIn (a.runIn w).2
      | .error why => (.error why, (a.runIn w).2) := by
  unfold runIn
  rw [ExceptT.run_bind, StateT.run_bind]
  rcases (ExceptT.run a).run w with ⟨result, v⟩
  cases result with
  | ok x => rfl
  | error why => rfl

theorem runIn_bind_ok {a : Action α} {w v : Workspace} {x : α} (h : a.runIn w = (.ok x, v))
    (f : α → Action β) : (a >>= f).runIn w = (f x).runIn v := by
  rw [runIn_bind, h]

theorem runIn_bind_error {a : Action α} {w v : Workspace} {why : Failure}
    (h : a.runIn w = (.error why, v)) (f : α → Action β) :
    (a >>= f).runIn w = (.error why, v) := by
  rw [runIn_bind, h]

theorem exists_of_bind_eq_ok {a : Action α} {f : α → Action β} {w : Workspace} {y : β}
    (h : ((a >>= f).runIn w).1 = .ok y) :
    ∃ x, (a.runIn w).1 = .ok x ∧ ((f x).runIn (a.runIn w).2).1 = .ok y := by
  rw [runIn_bind] at h
  cases hx : (a.runIn w).1 with
  | ok x =>
    rw [hx] at h
    exact ⟨x, rfl, h⟩
  | error why =>
    rw [hx] at h
    cases h

theorem map_eq_ok_iff {f : α → β} {e : Except Failure α} {y : β} :
    e.map f = .ok y ↔ ∃ x, e = .ok x ∧ f x = y := by
  cases e <;> simp [Except.map]

theorem runIn_map (f : α → β) (a : Action α) (w : Workspace) :
    (f <$> a).runIn w = ((a.runIn w).1.map f, (a.runIn w).2) := by
  rw [map_eq_pure_bind, runIn_bind]
  cases (a.runIn w).1 <;> rfl

theorem runIn_discard (a : Action α) (w : Workspace) :
    (discard a).runIn w = ((a.runIn w).1.map fun _ => ⟨⟩, (a.runIn w).2) := by
  rw [show discard a = a >>= fun _ => pure ⟨⟩ from rfl, runIn_bind]
  rcases a.runIn w with ⟨result, v⟩
  cases result with
  | ok x => rfl
  | error why => rfl

@[simp] theorem runIn_ofExcept (e : Except Failure α) (w : Workspace) :
    (ofExcept e).runIn w = (e, w) := by
  cases e <;> rfl

@[simp] theorem runIn_report (notices : List Logging.Notice) (w : Workspace) :
    (report notices).runIn w = (.ok (), { w with notices := notices.reverse ++ w.notices }) := rfl

theorem runIn_ofOutcome (o : Outcome α) (w : Workspace) :
    (ofOutcome o).runIn w = (o.result, { w with notices := o.notices.reverse ++ w.notices }) := by
  rw [ofOutcome, runIn_bind_ok (runIn_report _ _), runIn_ofExcept]

theorem runIn_onStore (f : Store → Store × Outcome α) (w : Workspace) :
    (onStore f).runIn w = ((f w.store).2.result,
      { w with
        store := (f w.store).1
        notices := (f w.store).2.notices.reverse ++ w.notices }) := by
  rw [onStore, runIn_bind_ok (runIn_get w)]
  rcases f w.store with ⟨store, outcome⟩
  rw [runIn_bind_ok (runIn_set _ _), runIn_ofOutcome]

end FormDialogue.Action
