import FormDialogue.Validation.Declaration
import FormDialogue.Workspace.Basic

/-! # Records and declarations in a workspace

Building records and declarations from data, changing them, and copying them. A value is checked
before it is assigned to a record, and an assignment that fails changes nothing. The fields of a
declaration take any value. Nothing is checked where the attributes of a record are replaced all at
once; what further operations make of such a record is not described. -/

namespace FormDialogue.Action
open Record (Declaration Describe Kind NumericConstraint OptionName PatternConstraint Role Usage)
open Term (TermSpec)
open Validation (Built Fault Issue Verdict)

def buildRecord (role : Role) (d : Datum) : Action (Ref Record) := do
  match ← ofExcept ((Validation.checkRecord role d).orFail role.title) with
  | .existing ref => return ref
  | .fresh record => newRecord record

/-- Where the classes of records are found. -/
def classPath (role : Role) : String := "formflow.strategies.template_engine.models." ++ role.title

/-- A record of patterns and named options, which must not name what is given by itself. -/
def recordOf (role : Role) (patterns : List Datum) (options : List (String × Datum)) :
    Action (Ref Record) :=
  if (Datum.entry? "cls" options).isSome then
    throw (.givenTwice "TemplateConfig.of()" "argument 'cls'")
  else if (Datum.entry? "patterns" options).isSome then
    throw (.givenTwice (classPath role ++ "()") "keyword argument 'patterns'")
  else buildRecord role (.dict (("patterns", .list patterns) :: options))

def assigned (record : Record) (name : String) (d : Datum) : Verdict Record :=
  match name, record.kind with
  | "patterns", _ => (Validation.checkList Validation.checkText d).map fun v =>
      { record with patterns := v }
  | "localizable", _ => (Validation.checkFlag d).map fun v => { record with localizable := v }
  | "usage", .template _ =>
    (Validation.checkUsage d).map fun v => { record with kind := .template v }
  | name, _ =>
    match OptionName.ofName? name with
    | some n => (Validation.checkOption n.kind d).map fun v =>
        { record with options := record.options.assign n v }
    | none => .fault (.noAttribute name)

def assignOption (r : Ref Record) (name : String) (d : Datum) : Action Unit := do
  let record ← getRecord r
  let changed ← ofExcept (((assigned record name d).within name).orFail record.kind.role.title)
  modify fun w => { w with store := w.store.set r changed }

def appendPattern (r : Ref Record) (pattern : String) : Action Unit :=
  modify fun w =>
    let extended (record : Record) := { record with patterns := record.patterns ++ [pattern] }
    { w with store := w.store.modify r extended }

def promptFrom (r : Ref Record) : Action (Ref Record) := do newRecord (← getRecord r).asPrompt

def copyOf (r : Ref Record) : Action (Ref Record) := do newRecord (← getRecord r)

def inherit (specific general : Ref Record) : Action Unit :=
  modify fun w => { w with store := w.store.inherit specific general }

def settle : Built Record → Action (Ref Record)
  | .existing ref => pure ref
  | .fresh record => newRecord record

def settleAll : List (Built Record) → Action (List (Ref Record))
  | [] => pure []
  | part :: rest => do
    let ref ← settle part
    let more ← settleAll rest
    return ref :: more

def newDeclaration (d : Declaration) : Action (Ref Declaration) := do
  let w ← get
  set { w with declarations := w.declarations.push d }
  return w.declarations.fresh

def buildDeclaration : Datum → Action (Ref Declaration)
  | .object (.declaration ref) => pure ref
  | d => do
    let draft ← ofExcept ((Validation.checkDeclaration d).orFail "FieldDeclaration")
    let prompt ← match draft.prompt with
      | some part => some <$> settle part
      | none => pure none
    let templates ← settleAll draft.templates
    newDeclaration ⟨draft.name, draft.describe, prompt, templates, draft.terms, draft.numeric,
      draft.pattern, draft.optional⟩

def templateRef? : Datum → Option (Ref Record)
  | .object (.record ref .template) => some ref
  | _ => none

/-- The declaration with a value in one of its fields, if the value fits. -/
def fitted? (d : Declaration) (name : String) (v : Datum) : Option Declaration :=
  match name, v with
  | "name", .text s => some { d with name := s }
  | "describe", .null => some { d with describe := none }
  | "describe", .object (.describe _ x) => some { d with describe := some x }
  | "prompt", .null => some { d with prompt := none }
  | "prompt", .object (.record ref _) => some { d with prompt := some ref }
  | "templates", .list items =>
    (items.mapM templateRef?).map fun refs => { d with templates := refs }
  | "terms", .null => some { d with terms := none }
  | "terms", .object (.terms _ x) => some { d with terms := some x }
  | "numeric", .null => some { d with numeric := none }
  | "numeric", .object (.numeric _ x) => some { d with numeric := some x }
  | "pattern", .null => some { d with pattern := none }
  | "pattern", .object (.pattern _ x) => some { d with pattern := some x }
  | "optional", .bool b => some { d with optional := b }
  | _, _ => none

def assignField (r : Ref Declaration) (name : String) (v : Datum) : Action Unit := do
  if !Validation.declarationFields.contains name then throw (.noField "FieldDeclaration" name)
  let w ← get
  let others := w.misfits.filter fun m => !(m.declaration == r && m.field == name)
  match fitted? (w.declarations.get r) name v with
  | some d => set { w with declarations := w.declarations.set r d, misfits := others }
  | none => set { w with misfits := ⟨r, name, v⟩ :: others }

/-- The value in a field that does not fit it. -/
def misfit? (r : Ref Declaration) (name : String) : Action (Option Datum) := do
  let found := (← get).misfits.find? fun m => m.declaration == r && m.field == name
  return found.map Misfit.value

/-- The name of a field, which may be any value. -/
def nameOf (r : Ref Declaration) : Action Datum := do
  return (← misfit? r "name").getD (.text ((← get).declarations.get r).name)

def spacedName (r : Ref Declaration) : Action String := do
  let name ← nameOf r
  match name.asText? with
  | some s => return Declaration.spaced s
  | none => throw (.noAttribute name.typeName "replace")

/-- The text shown for the field of a declaration. Where another declaration stands for its
description, it is what is shown for that one; the fuel bounds how many follow each other. -/
def describeWithin : Nat → Ref Declaration → Action String
  | 0, _ => throw .endless
  | fuel + 1, r => do
    let described ← match ← misfit? r "describe" with
      | none => pure ((← get).declarations.get r).described
      | some (.object (.declaration other)) =>
        let text ← describeWithin fuel other
        pure (if text.isEmpty then none else some text)
      | some v => throw (.noAttribute v.typeName "description")
    match described with
    | some text => return text
    | none => spacedName r

def describeField (r : Ref Declaration) : Action String := do
  describeWithin ((← get).declarations.size + 1) r

/-- The first of several values that is a template for a usage; all before it have to be
templates. -/
def firstTemplate (store : Store) (usage : Usage) :
    List Datum → Except Failure (Option (Ref Record))
  | [] => .ok none
  | d :: rest =>
    match templateRef? d with
    | none => .error (.noAttribute d.typeName "usage")
    | some r =>
      if (store.get r).usage? = some usage then .ok (some r) else firstTemplate store usage rest

/-- The template for a usage among values that do not fit as templates. -/
def templateAmong (store : Store) (usage : Usage) : Datum → Except Failure (Option (Ref Record))
  | .list items => firstTemplate store usage items
  | .text "" | .dict [] => .ok none
  | .text _ | .dict _ | .member _ => .error (.noAttribute "str" "usage")
  | d =>
    if d.items?.isSome then .error (.noAttribute "tuple" "usage")
    else .error (.notIterable d.typeName)

def templateFor (r : Ref Declaration) (usage : Usage) : Action (Option (Ref Record)) := do
  let w ← get
  match ← misfit? r "templates" with
  | some v => ofExcept (templateAmong w.store usage v)
  | none => return (w.declarations.get r).template? w.store usage

def promptOf (r : Ref Declaration) : Action (Option (Ref Record)) := do
  match ← misfit? r "prompt" with
  | some v => throw (.noAttribute v.typeName "allow_default")
  | none => return ((← get).declarations.get r).prompt

/-- What a record has for an option: the value that was checked, unless its attributes were replaced.
-/
def optionOf (w : Workspace) (r : Ref Record) (n : OptionName) : Except Failure Datum :=
  match w.replaced? r with
  | none => .ok (n.kind.datum ((w.store.get r).options.get n))
  | some attributes =>
    match Datum.entry? n.name attributes with
    | some d => .ok d
    | none => .error (.noAttribute (w.store.get r).kind.role.title n.name)

/-! ## Names of attributes

Names that start with a low line are hidden, and no value for them is checked. Some of them are the
names under which an object keeps itself; the others are assigned to without effect. Some attributes
are computed and cannot be assigned to. -/

def isHidden (name : String) : Bool := name.toList.head? = some '_'

def doubleMark : List Char := ['_', '_']

/-- The names under which an object keeps itself: those between double low lines, and the hidden
routine that assigns to it. -/
def isOwn (name : String) : Bool :=
  (doubleMark.isPrefixOf name.toList && doubleMark.isSuffixOf name.toList) ||
    name == "_setattr_handler"

/-- The attributes that every object has and that are computed. -/
def computedAlways : List String := ["model_fields_set", "model_extra"]

/-- Assigns to an object with some computed attributes, in a way of its own. -/
def assignOpen (model : String) (computed : List String) (name : String) (assign : Action Unit) :
    Action Unit :=
  if isHidden name then pure ()
  else if computed.contains name then throw (.noSetter model name)
  else assign

/-- Assigns to a name of its own of a record. Under one of them it keeps its attributes, which are
replaced as they are given, and under another one its class, which is no data. What it is made up of
otherwise is not described, and is assigned to without effect. -/
def assignOwn (r : Ref Record) (name : String) (d : Datum) : Action Unit :=
  match name, d with
  | "__dict__", .dict entries => modify fun w =>
    { w with replaced := ⟨r, entries⟩ :: w.replaced.filter fun x => !(x.record == r) }
  | "__dict__", d => throw (.notDictionary d.typeName)
  | "__class__", d => throw (.notClass d.typeName)
  | _, _ => pure ()

def assignRecord (r : Ref Record) (name : String) (d : Datum) : Action Unit := do
  let title := (← getRecord r).kind.role.title
  if isOwn name then assignOwn r name d
  else
    assignOpen title (["is_resolved", "allow_numbers"] ++ computedAlways) name
      (assignOption r name d)

def assignDeclaration (r : Ref Declaration) (name : String) (v : Datum) : Action Unit :=
  assignOpen "FieldDeclaration" ("description" :: computedAlways) name (assignField r name v)

/-- A value that never changes is not assigned to, except to its hidden names. -/
def assignFrozen (model name : String) : Action Unit :=
  if isHidden name then pure () else throw (.invalid ⟨model, [⟨[name], .frozen⟩]⟩)

end FormDialogue.Action
