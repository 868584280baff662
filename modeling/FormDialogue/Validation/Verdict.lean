import FormDialogue.Failure
import FormDialogue.Validation.Issue

/-! # Verdicts

The outcome of checking data. Independent parts are all checked, and their issues are collected in
order. Only an expression that cannot be compiled for its size stops a check at once. -/

namespace FormDialogue.Validation

inductive Verdict (α : Type)
  | accepted (a : α)
  | refused (issues : List Issue)
  | aborted (why : Failure)

namespace Verdict
variable {α β γ : Type}

def fault (f : Fault) : Verdict α := refused [⟨[], f⟩]

def map (f : α → β) : Verdict α → Verdict β
  | accepted a => accepted (f a)
  | refused issues => refused issues
  | aborted why => aborted why

/-- Both checks, with the issues of the first before those of the second. -/
def both (f : α → β → γ) : Verdict α → Verdict β → Verdict γ
  | aborted why, _ => aborted why
  | accepted _, aborted why => aborted why
  | refused _, aborted why => aborted why
  | accepted a, accepted b => accepted (f a b)
  | accepted _, refused issues => refused issues
  | refused issues, accepted _ => refused issues
  | refused issues, refused more => refused (issues ++ more)

instance : Functor Verdict := ⟨map, fun a => map fun _ => a⟩

instance : Applicative Verdict where
  pure := accepted
  seq f x := both (fun g a => g a) f (x ())

/-- A second check of what the first has accepted. -/
def andThen (v : Verdict α) (next : α → Verdict β) : Verdict β :=
  match v with
  | accepted a => next a
  | refused issues => refused issues
  | aborted why => aborted why

/-- The issues seen from outside: they lie within `name`. -/
def within (name : String) : Verdict α → Verdict α
  | refused issues => refused (issues.map (Issue.within name))
  | v => v

def each (check : β → Verdict α) (position : Nat) : List β → Verdict (List α)
  | [] => accepted []
  | b :: rest =>
    both List.cons ((check b).within (toString position)) (each check (position + 1) rest)

/-- What was accepted, or a failure that reports the issues for a model. -/
def orFail (model : String) : Verdict α → Except Failure α
  | accepted a => .ok a
  | refused issues => .error (.invalid ⟨model, issues⟩)
  | aborted why => .error why

end Verdict

end FormDialogue.Validation
