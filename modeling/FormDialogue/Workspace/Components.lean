import FormDialogue.Workspace.Prompting

/-! # Settings, logging and components in a workspace

Settings are loaded from an origin, and one set of them is shared by all who ask for it. Components
are built from settings when they are first asked for, and are the same ever after. A component that
could not be built is tried anew at the next request. -/

namespace FormDialogue.Action
open Choice (Renderer)
open Draw (Source)
open Record (Style)
open Settings (Origin)

def newSettings (s : Settings) : Action (Ref Settings) := do
  let w ← get
  set { w with settings := w.settings.push s }
  return w.settings.fresh

def loadSettings (o : Origin) : Action (Ref Settings) := do
  newSettings (← ofExcept (Settings.load o))

def getSettings (r : Ref Settings) : Action Settings := do return (← get).settings.get r

def assignSettings (r : Ref Settings) (name : String) (v : Datum) : Action Unit :=
  assignOpen "Settings" computedAlways name <|
    match SettingName.ofName? name with
    | some n => modify fun w => { w with settings := w.settings.modify r fun s => s.assign n v }
    | none => throw (.noField "Settings" name)

/-- The plain set-up of logging from settings, for the logger that belongs to them. -/
def configureLogging (own : String) (r : Ref Settings) : Action Unit := do
  let meaning ← ofExcept (← getSettings r).level
  let w ← get
  let (logging, result) := w.logging.configure own meaning
  set { w with logging := logging }
  ofExcept result

/-- The settings that everyone shares. They are loaded at the first request, shared from then on,
and logging is set up from them. -/
def sharedSettings (own : String) (o : Origin) : Action (Ref Settings) := do
  match (← get).shared with
  | some r => return r
  | none =>
    let r ← loadSettings o
    modify fun w => { w with shared := some r }
    configureLogging own r
    return r

/-- Makes a file for log lines, if the disk does not refuse it. -/
def openFile (path : String) : Action Unit := do
  match (← get).disk path with
  | some why => throw why
  | none => modify fun w => { w with logging := w.logging.addFile path }

/-- The full set-up of logging. The console is there also when the file of the settings or the disk
refuses. -/
def setupLogging (r : Ref Settings) : Action Unit := do
  let s ← getSettings r
  modify fun w => { w with
    logging := w.logging.setupConsole (Logging.State.setupLevel s.levelName) }
  match ← ofExcept s.logFile with
  | some path => openFile path
  | none => return

def newComponents (settings : Ref Settings) : Action (Ref Components) := do
  let w ← get
  set { w with components := w.components.push { settings := settings } }
  return w.components.fresh

def getComponents (r : Ref Components) : Action Components := do return (← get).components.get r

def componentSettings (r : Ref Components) : Action Settings := do
  getSettings (← getComponents r).settings

def keep (r : Ref Components) (f : Components → Components) : Action Unit :=
  modify fun w => { w with components := w.components.modify r f }

def sourceOf (r : Ref Components) : Action (Ref Source) := do
  match (← getComponents r).source with
  | some source => return source
  | none =>
    let seed := (← componentSettings r).datum .randomSeed
    report [.newSource (!seed.isNull)]
    let source ← newSource (← ofExcept (Source.ofDatum seed ((← get).entropy r)))
    keep r fun c => { c with source := some source }
    return source

def selectorOf (r : Ref Components) : Action (Ref Selector) := do
  match (← getComponents r).selector with
  | some selector => return selector
  | none =>
    let selector ← newSelector (← sourceOf r)
    keep r fun c => { c with selector := some selector }
    return selector

def cascadeOf (r : Ref Components) : Action (Ref Cascade) := do
  match (← getComponents r).cascade with
  | some cascade => return cascade
  | none =>
    report [.newCascade]
    let cascade ← cascadeOfSettings (← componentSettings r)
    keep r fun c => { c with cascade := some cascade }
    return cascade

def newCompiler : Action (Ref Compiler) := do
  let w ← get
  set { w with compilers := w.compilers.push {} }
  return w.compilers.fresh

def compilerOf (r : Ref Components) : Action (Ref Compiler) := do
  match (← getComponents r).compiler with
  | some compiler => return compiler
  | none =>
    let compiler ← newCompiler
    keep r fun c => { c with compiler := some compiler }
    return compiler

def rendererOf {α : Type} [Choice.Askable α] (r : Ref Components) (asked : α) :
    Action (Ref Renderer) := do
  let style ← ofExcept (Choice.styleOf asked)
  match (← getComponents r).renderer style with
  | some renderer => return renderer
  | none =>
    report [.newRenderer style]
    let threshold := (← componentSettings r).threshold
    let renderer ← newRenderer (← ofExcept (Renderer.create style threshold))
    keep r fun c => { c with
      renderer := fun x => if x = style then some renderer else c.renderer x }
    return renderer

def formatterOf (r : Ref Components) : Action (Ref Formatter) := do
  match (← getComponents r).formatter with
  | some formatter => return formatter
  | none =>
    let selector ← selectorOf r
    let cascade ← cascadeOf r
    let threshold := (← componentSettings r).threshold
    let formatter ← newFormatter ⟨selector, cascade, threshold⟩
    keep r fun c => { c with formatter := some formatter }
    return formatter

end FormDialogue.Action
