import FormDialogue.Cascade.Basic
import FormDialogue.Choice.Renderer
import FormDialogue.Draw.Source
import FormDialogue.Logging.State
import FormDialogue.Settings.Load

/-! # Workspaces

Everything that is shared and may change: the records and declarations, cascades, sources of draws,
settings, the components built from them, and the state of logging. An action works on a workspace
and may fail; what it has changed by then stays. -/

namespace FormDialogue
open Choice (Renderer Threshold)
open Draw (Generator Source)
open Logging (Notice)
open Record (Declaration Style)

/-- Picks the patterns of records by draws from a shared source. -/
structure Selector where
  source : Ref Source
  deriving DecidableEq, Repr

instance : Inhabited Selector := ⟨⟨⟨0⟩⟩⟩

/-- Makes prompts, with patterns picked by a selector and records resolved by a cascade. -/
structure Formatter where
  selector : Ref Selector
  cascade : Ref Cascade
  threshold : Threshold
  deriving DecidableEq, Repr

instance : Inhabited Formatter := ⟨⟨⟨0⟩, ⟨0⟩, default⟩⟩

/-- Compiles terms; all of them do it alike. -/
structure Compiler where
  deriving DecidableEq, Repr, Inhabited

/-- Components that are built from settings on first use and kept. -/
structure Components where
  settings : Ref Settings
  source : Option (Ref Source) := none
  selector : Option (Ref Selector) := none
  cascade : Option (Ref Cascade) := none
  compiler : Option (Ref Compiler) := none
  formatter : Option (Ref Formatter) := none
  renderer : Style → Option (Ref Renderer) := fun _ => none

instance : Inhabited Components := ⟨{ settings := ⟨0⟩ }⟩

/-- A value that was assigned to a field of a declaration and does not fit it. -/
structure Misfit where
  declaration : Ref Declaration
  field : String
  value : Datum

/-- All attributes of a record, which were replaced at once and without a check. They are there for
who looks at the record; whatever else is done with it goes by the attributes that were checked. -/
structure Replaced where
  record : Ref Record
  attributes : List (String × Datum)

structure Workspace where
  store : Store := .empty
  /-- Attributes that stand in front of those of their records. -/
  replaced : List Replaced := []
  declarations : Heap Declaration := .empty
  misfits : List Misfit := []
  cascades : Heap Cascade := .empty
  sources : Heap Source := .empty
  selectors : Heap Selector := .empty
  formatters : Heap Formatter := .empty
  renderers : Heap Renderer := .empty
  compilers : Heap Compiler := .empty
  settings : Heap Settings := .empty
  components : Heap Components := .empty
  /-- What components draw from if their settings have no seed. -/
  entropy : Ref Components → Generator := fun _ => default
  /-- How many values that never change were made. -/
  values : Nat := 0
  /-- The settings that everyone shares. -/
  shared : Option (Ref Settings) := none
  logging : Logging.State := .initial
  /-- Why a file cannot be made for log lines, by its path. -/
  disk : String → Option Failure := fun _ => none
  /-- What was reported, the latest first. -/
  notices : List Notice := []

/-- The attributes of a record that was given others at once. -/
def Workspace.replaced? (w : Workspace) (r : Ref Record) : Option (List (String × Datum)) :=
  (w.replaced.find? fun x => x.record == r).map Replaced.attributes

abbrev Action := ExceptT Failure (StateM Workspace)

namespace Action
variable {α : Type}

def report (notices : List Notice) : Action Unit :=
  modify fun w => { w with notices := notices.reverse ++ w.notices }

def ofExcept : Except Failure α → Action α
  | .ok a => pure a
  | .error why => throw why

def ofOutcome (o : Outcome α) : Action α := do
  report o.notices
  ofExcept o.result

def onStore (f : Store → Store × Outcome α) : Action α := do
  let w ← get
  let (store, outcome) := f w.store
  set { w with store := store }
  ofOutcome outcome

def getRecord (r : Ref Record) : Action Record := do return (← get).store.get r

def newRecord (record : Record) : Action (Ref Record) := do
  let w ← get
  set { w with store := w.store.push record }
  return w.store.fresh

def newValue : Action (Ref α) := do
  let w ← get
  set { w with values := w.values + 1 }
  return ⟨w.values⟩

end Action

end FormDialogue
