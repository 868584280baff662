import FormDialogue.Cascade.Inherit
import FormDialogue.Failure
import FormDialogue.Logging.Notice

/-! # Cascades

A cascade ends the inheritance of options: it holds a record of defaults that sets every option, and
at most one template for each usage. Registered templates are filled from the defaults. Every
operation gives the new store with the outcome, since what has been filled in stays also when the
operation fails. -/

namespace FormDialogue
open Logging (Notice)
open Record (Usage)

structure Cascade where
  defaults : Ref Record
  registered : Usage → Option (Ref Record)

/-- An outcome with what was reported on the way to it. -/
structure Outcome (α : Type) where
  notices : List Notice
  result : Except Failure α

namespace Outcome
variable {α : Type}

def done (a : α) : Outcome α := ⟨[], .ok a⟩

def failed (why : Failure) (notices : List Notice) : Outcome α := ⟨notices, .error why⟩

end Outcome

namespace Cascade

instance : Inhabited Cascade := ⟨⟨⟨0⟩, fun _ => none⟩⟩

def assign (c : Cascade) (usage : Usage) (template : Ref Record) : Cascade :=
  { c with registered := fun u => if u = usage then some template else c.registered u }

/-- Makes a template the one for its usage, after filling it from the defaults. A record without
a usage is filled, too, but not registered. -/
def register (c : Cascade) (template : Ref Record) (s : Store) :
    Store × Outcome Cascade :=
  let s := s.inherit template c.defaults
  match (s.get template).usage? with
  | none => (s, .failed (.noAttribute (s.get template).kind.role.title "usage") [])
  | some usage =>
    let replaced := if (c.registered usage).isSome then [.replaced usage] else []
    (s, ⟨replaced, .ok (c.assign usage template)⟩)

def registerAll (c : Cascade) (s : Store) : List (Ref Record) → Store × Outcome Cascade
  | [] => (s, .done c)
  | template :: rest =>
    match c.register template s with
    | (s, ⟨notices, .error why⟩) => (s, ⟨notices, .error why⟩)
    | (s, ⟨notices, .ok c⟩) =>
      let (s, outcome) := c.registerAll s rest
      (s, { outcome with notices := notices ++ outcome.notices })

/-- A cascade over defaults, which have to set every option, with templates to register. -/
def create (defaults : Ref Record) (templates : List (Ref Record)) (s : Store) :
    Store × Outcome Cascade :=
  match s.unresolved defaults with
  | [] => registerAll ⟨defaults, fun _ => none⟩ s templates
  | names => (s, .failed (.unresolved names) [.incompleteDefaults names])

/-- Whether a record can be used: it sets every option and has a pattern. -/
def readiness (s : Store) (record : Ref Record) : Outcome Unit :=
  match s.unresolved record with
  | [] =>
    if (s.get record).patterns.isEmpty then .failed (.noPatterns .resolution) [.noPatterns]
    else .done ()
  | names => .failed (.unresolved names) []

/-- Fills a record from its scopes, the nearest first, and from the defaults. -/
def resolve (c : Cascade) (record : Ref Record) (scopes : List (Option (Ref Record))) (s : Store) :
    Store × Outcome Unit :=
  let s := s.inheritAll record (scopes.reduceOption ++ [c.defaults])
  (s, readiness s record)

/-- The template for a usage: the first override, resolved through the others and the registered
template, or else the registered template as it is. -/
def resolveTemplate (c : Cascade) (usage : Usage) (overrides : List (Option (Ref Record)))
    (s : Store) : Store × Outcome (Option (Ref Record)) :=
  match overrides.reduceOption with
  | [] => (s, .done (c.registered usage))
  | first :: rest =>
    let (s, outcome) := c.resolve first (rest.map some ++ [c.registered usage]) s
    (s, ⟨outcome.notices, outcome.result.map fun _ => some first⟩)

end Cascade

end FormDialogue
