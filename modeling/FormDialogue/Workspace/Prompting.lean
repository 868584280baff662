import FormDialogue.Prompt.Placeholder
import FormDialogue.Workspace.Records

/-! # Cascades, draws and prompts in a workspace

Cascades over shared records, selection by draws from shared sources, and the prompts made with
both. -/

namespace FormDialogue.Action
open Choice (Renderer Rendering)
open Draw (Source)
open Prompt (Arguments)
open Record (Declaration Options Style Usage)

def newCascade (c : Cascade) : Action (Ref Cascade) := do
  let w ← get
  set { w with cascades := w.cascades.push c }
  return w.cascades.fresh

def getCascade (r : Ref Cascade) : Action Cascade := do return (← get).cascades.get r

def buildCascade (defaults : Ref Record) (templates : List (Ref Record)) :
    Action (Ref Cascade) := do
  newCascade (← onStore (Cascade.create defaults templates))

def cascadeOfSettings (s : Settings) : Action (Ref Cascade) := do
  let defaults ← newRecord (← ofExcept s.defaults)
  buildCascade defaults []

def register (r : Ref Cascade) (template : Ref Record) : Action Unit := do
  let c ← getCascade r
  let c ← onStore (c.register template)
  modify fun w => { w with cascades := w.cascades.set r c }

/-- Resolves a record and gives it back. -/
def resolve (r : Ref Cascade) (record : Ref Record) (scopes : List (Option (Ref Record))) :
    Action (Ref Record) := do
  let c ← getCascade r
  onStore (c.resolve record scopes)
  return record

def resolveTemplate (r : Ref Cascade) (usage : Usage) (overrides : List (Option (Ref Record))) :
    Action (Option (Ref Record)) := do
  let c ← getCascade r
  onStore (c.resolveTemplate usage overrides)

def newSource (s : Source) : Action (Ref Source) := do
  let w ← get
  set { w with sources := w.sources.push s }
  report s.greeting
  return w.sources.fresh

def drawAll (r : Ref Source) (uppers : List Int) : Action (List (Except Failure Nat)) := do
  let w ← get
  let (answers, source) := (w.sources.get r).nextAll uppers
  set { w with sources := w.sources.set r source }
  return answers

def newSelector (source : Ref Source) : Action (Ref Selector) := do
  let w ← get
  set { w with selectors := w.selectors.push ⟨source⟩ }
  return w.selectors.fresh

def select (r : Ref Selector) (record : Record) : Action String := do
  let w ← get
  let ref := (w.selectors.get r).source
  let (picked, source) := (w.sources.get ref).pick record.patterns
  set { w with sources := w.sources.set ref source }
  let (pattern, notices) ← ofExcept picked
  report notices
  return pattern

def selectMany (r : Ref Selector) (record : Record) : Nat → Action (List String)
  | 0 => pure []
  | times + 1 => do
    let pattern ← select r record
    let more ← selectMany r record times
    return pattern :: more

def newFormatter (f : Formatter) : Action (Ref Formatter) := do
  let w ← get
  set { w with formatters := w.formatters.push f }
  return w.formatters.fresh

/-- The text of a record: one of its patterns with its placeholders filled. -/
def formatWith (f : Formatter) (record : Record) (a : Arguments) : Action String := do
  let pattern ← select f.selector record
  report (Prompt.fillNotices pattern record.options a f.threshold)
  ofExcept (Prompt.fill pattern record.options a f.threshold)

/-- The record to ask for a field with: its own prompt, resolved, or the template for the usage. -/
def promptRecord (c : Ref Cascade) (declaration : Ref Declaration) (usage : Usage)
    (typePrompt : Option (Ref Record)) : Action Record := do
  match ← promptOf declaration with
  | some prompt => getRecord (← resolve c prompt [typePrompt])
  | none =>
    match ← resolveTemplate c usage [← templateFor declaration usage] with
    | some template => return (← getRecord template).asPrompt
    | none =>
      let name ← nameOf declaration
      report [.nothingDeclared usage name.shown]
      throw (.noPatterns (.declaration (String.ofList name.quoted) usage))

def promptFor (r : Ref Formatter) (declaration : Ref Declaration) (usage : Usage)
    (typePrompt : Option (Ref Record)) (value : Option String) (choices : Option (List String)) :
    Action String := do
  let w ← get
  let f := w.formatters.get r
  let record ← promptRecord f.cascade declaration usage typePrompt
  formatWith f record ⟨some (← describeField declaration), value, none, choices⟩

def newRenderer (renderer : Renderer) : Action (Ref Renderer) := do
  let w ← get
  set { w with renderers := w.renderers.push renderer }
  return w.renderers.fresh

def render (renderer : Renderer) (labels : List String) (o : Options) : Action Rendering := do
  report (renderer.notices labels)
  ofExcept (renderer.render labels o)

/-- Expands terms and reports how many matchers there are. -/
def expandTerms [Limits] (given : List Term.Given) (most : Int) : Action (List Term.Matcher) := do
  let matchers ← ofExcept (Term.expandTerms given most)
  report [.expanded given.length matchers.length most]
  return matchers

def expandGiven [Limits] (given : List Term.Given) (most : Int) : Action (List Term.Matcher) := do
  let alternatives ← ofExcept (Term.classifyAll given)
  expandTerms (alternatives.map .tagged) most

def compileSpec [Limits] (spec : Term.TermSpec) (asked : Option Int) : Action (List Term.Matcher) :=
  match spec.lengthFor asked with
  | none => ofExcept (Term.compileTerms spec.given)
  | some length => expandTerms spec.given length

end FormDialogue.Action
