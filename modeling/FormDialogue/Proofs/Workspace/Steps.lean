import FormDialogue.Proofs.Workspace.Calls

/-! # Steps between calls

Between the calls of a run anything else may happen to a workspace. A step is a call or something
else, of which only the workspace that it leaves is known. A record that sets all of its options
stays as it is as long as what is not a call leaves it alone. -/

namespace FormDialogue

inductive Step
  | call (made : Call)
  | elsewhere (after : Workspace)

namespace Step
variable {w : Workspace} {r : Ref Record}

def next (w : Workspace) : Step → Workspace
  | call made => made.after w
  | elsewhere after => after

def run (w : Workspace) (steps : List Step) : Workspace := steps.foldl next w

theorem run_cons (w : Workspace) (step : Step) (rest : List Step) :
    run w (step :: rest) = run (step.next w) rest := rfl

/-- Every step meets a condition in the workspace in which it is taken. -/
def Along (P : Workspace → Step → Prop) : Workspace → List Step → Prop
  | _, [] => True
  | w, step :: rest => P w step ∧ Along P (step.next w) rest

/-- What is not a call leaves some records as they are. -/
def Spares (kept : Ref Record → Prop) (w : Workspace) : Step → Prop
  | call _ => True
  | elsewhere after =>
    ∀ r, kept r → w.store.Has r → after.store.Has r ∧ after.store.get r = w.store.get r

theorem next_of_resolved {kept : Ref Record → Prop} {step : Step} (hspares : step.Spares kept w)
    (hkept : kept r) (hr : w.store.Has r)
    (hresolved : (w.store.get r).options.isResolved = true) :
    (step.next w).store.Has r ∧ (step.next w).store.get r = w.store.get r := by
  cases step with
  | call made =>
    have h := Call.filledFrom_after made hr
    exact ⟨h.has hr, h.get_of_resolved hresolved⟩
  | elsewhere after => exact hspares r hkept hr

theorem run_of_resolved {steps : List Step} (hr : w.store.Has r)
    (hresolved : (w.store.get r).options.isResolved = true)
    (hsteps : Along (Spares (· = r)) w steps) :
    (run w steps).store.get r = w.store.get r := by
  induction steps generalizing w with
  | nil => rfl
  | cons step rest ih =>
    obtain ⟨hstep, hrest⟩ := hsteps
    obtain ⟨hhas, hget⟩ := next_of_resolved hstep rfl hr hresolved
    rw [run_cons, ih hhas (by rw [hget]; exact hresolved) hrest, hget]

end Step

end FormDialogue
