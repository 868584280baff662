import FormDialogue.Proofs.Workspace.Quiet
import FormDialogue.Proofs.Workspace.Resolving
import Mathlib.Data.List.ReduceOption

/-! # Asking for a field

The text that asks for a field is made from the prompt of its declaration, or else from its first
template for the usage, or else from the template registered for the usage. Each of the three
inherits its options along a chain of its own, and only a template that is registered is used as it
stands. -/

namespace FormDialogue.Action
open Prompt (Arguments)
open Record (Declaration OptionName Options Usage)
variable {w v : Workspace} {d : Ref Declaration} {c : Ref Cascade} {usage : Usage}
  {typePrompt : Option (Ref Record)}

/-- The fields of a declaration that are read to ask for it. -/
def askedFields : List String := ["name", "describe", "prompt", "templates"]

/-- All that is read to ask for a field fits where it is. -/
def Fits (w : Workspace) (d : Ref Declaration) : Prop :=
  ∀ m ∈ w.misfits, m.declaration = d → m.field ∉ askedFields

/-! ## Reading a declaration -/

theorem misfit?_of_fits (h : Fits w d) {field : String} (hfield : field ∈ askedFields) :
    (misfit? d field).runIn w = (.ok none, w) := by
  have hnone : (w.misfits.find? fun m => m.declaration == d && m.field == field) = none := by
    rw [List.find?_eq_none]
    intro m hm hfound
    simp only [Bool.and_eq_true, beq_iff_eq] at hfound
    obtain ⟨hd, rfl⟩ := hfound
    exact h m hm hd hfield
  rw [runIn_misfit?, hnone]
  rfl

theorem runIn_promptOf (h : Fits w d) :
    (promptOf d).runIn w = (.ok (w.declarations.get d).prompt, w) := by
  rw [promptOf, runIn_bind_ok (misfit?_of_fits h (by decide))]
  rfl

theorem runIn_templateFor (h : Fits w d) (usage : Usage) :
    (templateFor d usage).runIn w = (.ok ((w.declarations.get d).template? w.store usage), w) := by
  rw [templateFor, runIn_bind_ok (runIn_get w), runIn_bind_ok (misfit?_of_fits h (by decide))]
  rfl

theorem runIn_nameOf (h : Fits w d) :
    (nameOf d).runIn w = (.ok (.text (w.declarations.get d).name), w) := by
  rw [nameOf, runIn_bind_ok (misfit?_of_fits h (by decide))]
  rfl

theorem runIn_spacedName (h : Fits w d) :
    (spacedName d).runIn w = (.ok (Declaration.spaced (w.declarations.get d).name), w) := by
  rw [spacedName, runIn_bind_ok (runIn_nameOf h)]
  rfl

theorem runIn_describeField (h : Fits w d) :
    (describeField d).runIn w = (.ok (w.declarations.get d).description, w) := by
  rw [describeField, runIn_bind_ok (runIn_get w), describeWithin,
    runIn_bind_ok (misfit?_of_fits h (by decide))]
  dsimp only
  rw [runIn_bind_ok (runIn_get w), pure_bind, Declaration.description]
  cases (w.declarations.get d).described with
  | some text => rfl
  | none => exact runIn_spacedName h

/-! ## The record that is asked with -/

section Record
variable (hfits : Fits w d)
include hfits

theorem promptRecord_of_prompt {prompt : Ref Record}
    (hprompt : (w.declarations.get d).prompt = some prompt) :
    (promptRecord c d usage typePrompt).runIn w =
      (resolve c prompt [typePrompt] >>= getRecord).runIn w := by
  rw [promptRecord, runIn_bind_ok (runIn_promptOf hfits), hprompt]

section NoPrompt
variable (hprompt : (w.declarations.get d).prompt = none)
include hprompt

theorem promptRecord_of_template {template : Ref Record} (typePrompt : Option (Ref Record))
    (hfound : (resolveTemplate c usage [(w.declarations.get d).template? w.store usage]).runIn w =
      (.ok (some template), v)) :
    (promptRecord c d usage typePrompt).runIn w = (.ok (v.store.get template).asPrompt, v) := by
  rw [promptRecord, runIn_bind_ok (runIn_promptOf hfits), hprompt]
  dsimp only
  rw [runIn_bind_ok (runIn_templateFor hfits usage), runIn_bind_ok hfound]
  rfl

theorem promptRecord_of_failure {why : Failure} (typePrompt : Option (Ref Record))
    (hfound : (resolveTemplate c usage [(w.declarations.get d).template? w.store usage]).runIn w =
      (.error why, v)) :
    (promptRecord c d usage typePrompt).runIn w = (.error why, v) := by
  rw [promptRecord, runIn_bind_ok (runIn_promptOf hfits), hprompt]
  dsimp only
  rw [runIn_bind_ok (runIn_templateFor hfits usage), runIn_bind_error hfound]

theorem promptRecord_of_nothing
    (hfound : (resolveTemplate c usage [(w.declarations.get d).template? w.store usage]).runIn w =
      (.ok none, w)) :
    ((promptRecord c d usage typePrompt).runIn w).1 =
      .error (.noPatterns (.declaration (Text.quote (w.declarations.get d).name) usage)) := by
  rw [promptRecord, runIn_bind_ok (runIn_promptOf hfits), hprompt]
  dsimp only
  rw [runIn_bind_ok (runIn_templateFor hfits usage), runIn_bind_ok hfound]
  dsimp only
  rw [runIn_bind_ok (runIn_nameOf hfits), runIn_bind_ok (runIn_report _ _), Text.quote]
  rfl

end NoPrompt

end Record

/-! ## The text -/

/-- The text that a formatter makes from patterns and options. -/
def textOf (f : Formatter) (patterns : List String) (o : Options) (a : Arguments) (w : Workspace) :
    Except Failure String :=
  ((formatWith f ⟨.prompt, patterns, o, false⟩ a).runIn w).1

theorem formatWith_eq_textOf {f : Formatter} {record : Record} {a : Arguments}
    (hsources : v.sources = w.sources) (hselectors : v.selectors = w.selectors) :
    ((formatWith f record a).runIn v).1 = textOf f record.patterns record.options a w := by
  rw [textOf, formatWith_result, formatWith_result, hsources, hselectors]

section Text
variable {r : Ref Formatter} {value : Option String} {choices : Option (List String)}

theorem promptFor_of_record (hfits : Fits w d) {asked : Record} {store : Store}
    {notices : List Logging.Notice}
    (hrecord : (promptRecord (w.formatters.get r).cascade d usage typePrompt).runIn w =
      (.ok asked, { w with store := store, notices := notices })) :
    ((promptFor r d usage typePrompt value choices).runIn w).1 =
      textOf (w.formatters.get r) asked.patterns asked.options
        ⟨some (w.declarations.get d).description, value, none, choices⟩ w := by
  let u : Workspace := { w with store := store, notices := notices }
  have hfield : (describeField d).runIn u = (.ok (w.declarations.get d).description, u) :=
    runIn_describeField hfits
  rw [promptFor, runIn_bind_ok (runIn_get w)]
  dsimp only
  rw [runIn_bind_ok hrecord, runIn_bind_ok hfield]
  exact formatWith_eq_textOf rfl rfl

theorem promptFor_of_failure {why : Failure}
    (hrecord : ((promptRecord (w.formatters.get r).cascade d usage typePrompt).runIn w).1 =
      .error why) :
    ((promptFor r d usage typePrompt value choices).runIn w).1 = .error why := by
  rw [promptFor, runIn_bind_ok (runIn_get w)]
  dsimp only
  rw [runIn_bind, hrecord]

/-- The text made with a record that is resolved first. The record itself has to have patterns, and
it takes every option from the first that sets it: the record, its scopes, the defaults. -/
def resolvedText (f : Formatter) (record : Ref Record) (scopes : List (Ref Record)) (a : Arguments)
    (w : Workspace) : Except Failure String :=
  let patterns := (w.store.get record).patterns
  let chain := record :: (scopes ++ [(w.cascades.get f.cascade).defaults])
  if patterns = [] then .error (.noPatterns .resolution)
  else textOf f patterns (.tabulate fun n => w.store.firstSet n chain) a w

theorem resolveTemplate_of_template {template : Ref Record}
    (hown : (w.declarations.get d).template? w.store usage = some template) :
    (resolveTemplate c usage [(w.declarations.get d).template? w.store usage]).runIn w =
      (((resolve c template [(w.cascades.get c).registered usage]).runIn w).1.map some,
        ((resolve c template [(w.cascades.get c).registered usage]).runIn w).2) := by
  have hfirst : [some template].reduceOption = template :: [] := rfl
  rw [hown, resolveTemplate_cons hfirst, List.map_nil, List.nil_append]

theorem resolveTemplate_of_no_template {registered : Option (Ref Record)}
    (hown : (w.declarations.get d).template? w.store usage = none)
    (hregistered : (w.cascades.get c).registered usage = registered) :
    (resolveTemplate c usage [(w.declarations.get d).template? w.store usage]).runIn w =
      (.ok registered, w) := by
  rw [hown, ← hregistered]
  exact resolveTemplate_nil rfl

section Cases
variable (hfits : Fits w d) (hdefaults : (w.store.get
  (w.cascades.get (w.formatters.get r).cascade).defaults).options.isResolved = true)
include hfits

include hdefaults in
theorem promptFor_of_prompt {prompt : Ref Record}
    (hprompt : (w.declarations.get d).prompt = some prompt) :
    ((promptFor r d usage typePrompt value choices).runIn w).1 =
      resolvedText (w.formatters.get r) prompt typePrompt.toList
        ⟨some (w.declarations.get d).description, value, none, choices⟩ w := by
  have hrecord : (promptRecord (w.formatters.get r).cascade d usage typePrompt).runIn w = _ :=
    promptRecord_of_prompt hfits hprompt
  by_cases hpatterns : (w.store.get prompt).patterns = []
  · rw [resolvedText, if_pos hpatterns]
    apply promptFor_of_failure
    rw [hrecord, runIn_bind, resolve_of_no_patterns [typePrompt] hdefaults hpatterns]
  · obtain ⟨store, notices, hresolve, hget⟩ :=
      resolve_of_patterns [typePrompt] hdefaults hpatterns
    rw [runIn_bind_ok hresolve, runIn_getRecord] at hrecord
    rw [promptFor_of_record hfits hrecord, resolvedText, if_neg hpatterns,
      ← List.reduceOption_singleton]
    dsimp only
    rw [hget]
    rfl

include hdefaults in
theorem promptFor_of_template {template : Ref Record}
    (hprompt : (w.declarations.get d).prompt = none)
    (htemplate : (w.declarations.get d).template? w.store usage = some template) :
    ((promptFor r d usage typePrompt value choices).runIn w).1 =
      resolvedText (w.formatters.get r) template
        ((w.cascades.get (w.formatters.get r).cascade).registered usage).toList
        ⟨some (w.declarations.get d).description, value, none, choices⟩ w := by
  have hfound := resolveTemplate_of_template (c := (w.formatters.get r).cascade) htemplate
  by_cases hpatterns : (w.store.get template).patterns = []
  · rw [resolvedText, if_pos hpatterns]
    rw [resolve_of_no_patterns _ hdefaults hpatterns] at hfound
    have hrecord := promptRecord_of_failure hfits hprompt typePrompt hfound
    exact promptFor_of_failure (congrArg Prod.fst hrecord)
  · obtain ⟨store, notices, hresolve, hget⟩ :=
      resolve_of_patterns [(w.cascades.get (w.formatters.get r).cascade).registered usage]
        hdefaults hpatterns
    rw [hresolve] at hfound
    have hrecord := promptRecord_of_template hfits hprompt typePrompt hfound
    rw [promptFor_of_record hfits hrecord, resolvedText, if_neg hpatterns,
      ← List.reduceOption_singleton]
    dsimp only
    rw [hget]
    rfl

theorem promptFor_of_registered {template : Ref Record}
    (hprompt : (w.declarations.get d).prompt = none)
    (hown : (w.declarations.get d).template? w.store usage = none)
    (hregistered :
      (w.cascades.get (w.formatters.get r).cascade).registered usage = some template) :
    ((promptFor r d usage typePrompt value choices).runIn w).1 =
      textOf (w.formatters.get r) (w.store.get template).patterns (w.store.get template).options
        ⟨some (w.declarations.get d).description, value, none, choices⟩ w := by
  have hfound := resolveTemplate_of_no_template hown hregistered
  have hrecord := promptRecord_of_template hfits hprompt typePrompt hfound
  rw [promptFor_of_record hfits hrecord]
  rfl

theorem promptFor_of_nothing (hprompt : (w.declarations.get d).prompt = none)
    (hown : (w.declarations.get d).template? w.store usage = none)
    (hregistered : (w.cascades.get (w.formatters.get r).cascade).registered usage = none) :
    ((promptFor r d usage typePrompt value choices).runIn w).1 =
      .error (.noPatterns (.declaration (Text.quote (w.declarations.get d).name) usage)) := by
  have hfound := resolveTemplate_of_no_template hown hregistered
  exact promptFor_of_failure (promptRecord_of_nothing hfits hprompt hfound)

theorem promptFor_ignores_typePrompt (hprompt : (w.declarations.get d).prompt = none)
    (other : Option (Ref Record)) :
    (promptFor r d usage typePrompt value choices).runIn w =
      (promptFor r d usage other value choices).runIn w := by
  have hrecord : ∀ tp, (promptRecord (w.formatters.get r).cascade d usage tp).runIn w =
      (promptRecord (w.formatters.get r).cascade d usage none).runIn w := by
    intro tp
    rw [promptRecord, promptRecord, runIn_bind_ok (runIn_promptOf hfits),
      runIn_bind_ok (runIn_promptOf hfits), hprompt]
  rw [promptFor, promptFor, runIn_bind_ok (runIn_get w), runIn_bind_ok (runIn_get w)]
  dsimp only
  rw [runIn_bind, hrecord typePrompt, ← hrecord other, ← runIn_bind]

end Cases

theorem description_of_described {declared : Declaration} {text : String}
    (h : declared.describe.bind Record.Describe.description = some text) (hne : text ≠ "") :
    declared.description = text := by
  have hfilter : declared.described = some text := by
    simp [Declaration.described, h, Option.filter, hne]
  rw [Declaration.description, hfilter]
  rfl

theorem description_of_not_described {declared : Declaration}
    (h : ∀ text, declared.describe.bind Record.Describe.description = some text → text = "") :
    declared.description = Declaration.spaced declared.name := by
  have hfilter : declared.described = none := by
    rw [Declaration.described, Option.filter_eq_none_iff]
    intro text htext
    simp [h text htext]
  rw [Declaration.description, hfilter]
  rfl

/-- A field is asked for with the prompt of its declaration, or else with its first template for the
usage, or else with the template that is registered for the usage. A prompt inherits from the record
for its type and the defaults, a template of the declaration from the registered one and the
defaults, and a registered template is used as it stands. -/
theorem promptFor_asks (r : Ref Formatter) (d : Ref Declaration) (usage : Usage)
    (typePrompt : Option (Ref Record)) (value : Option String) (choices : Option (List String))
    (w : Workspace) (hfits : Fits w d)
    (hdefaults : (w.store.get
      (w.cascades.get (w.formatters.get r).cascade).defaults).options.isResolved = true) :
    let f := w.formatters.get r
    let declared := w.declarations.get d
    let own := declared.templates.find? fun t => (w.store.get t).usage? = some usage
    let registered := (w.cascades.get f.cascade).registered usage
    let spaced := String.ofList (declared.name.toList.map fun c => if c = '_' then ' ' else c)
    let nothing : Failure := .noPatterns (.declaration (Text.quote declared.name) usage)
    let a : Arguments := ⟨some declared.description, value, none, choices⟩
    let result := ((promptFor r d usage typePrompt value choices).runIn w).1
    (∀ prompt, declared.prompt = some prompt →
      result = resolvedText f prompt typePrompt.toList a w) ∧
    (declared.prompt = none →
      (∀ template, own = some template → result = resolvedText f template registered.toList a w) ∧
      (own = none →
        (∀ template, registered = some template →
          result = textOf f (w.store.get template).patterns (w.store.get template).options a w) ∧
        (registered = none → result = .error nothing)) ∧
      ∀ other, (promptFor r d usage typePrompt value choices).runIn w =
        (promptFor r d usage other value choices).runIn w) ∧
    (∀ text, declared.describe.bind Record.Describe.description = some text → text ≠ "" →
      declared.description = text) ∧
    ((∀ text, declared.describe.bind Record.Describe.description = some text → text = "") →
      declared.description = spaced) ∧
    nothing.message = "No prompt declared for field " ++ Text.quote declared.name ++
      " and no template registered for usage " ++ Text.quote usage.name := by
  intro f declared own registered spaced nothing a result
  refine ⟨fun prompt hprompt => promptFor_of_prompt hfits hdefaults hprompt,
    fun hprompt => ⟨fun template hown => ?_, fun hown => ⟨fun template hregistered => ?_,
      fun hregistered => ?_⟩, fun other => ?_⟩,
    fun text => description_of_described, description_of_not_described, rfl⟩
  · exact promptFor_of_template hfits hdefaults hprompt hown
  · exact promptFor_of_registered hfits hprompt hown hregistered
  · exact promptFor_of_nothing hfits hprompt hown hregistered
  · exact promptFor_ignores_typePrompt hfits hprompt other

end Text

def completeOptions : Options where
  allowDefault := some true
  choiceCase := .none
  choiceFormat := some "\x7b0\x7d. \x7b1\x7d"
  choiceLastSeparator := some " or "
  choiceParens := some true
  choiceSeparator := some ", "
  choiceStyle := .inline
  feedback := .auto
  fieldCase := .none
  lastSeparator := some " and "
  separator := some ", "
  valueCase := .none

def sampleRecords : List Record := [
  ⟨.plain, [], completeOptions, false⟩,
  ⟨.prompt, ["Which \x7b&\x7d? \x7b||\x7d"], { choiceSeparator := some "; " }, true⟩,
  ⟨.plain, [], { choiceSeparator := some "/", choiceLastSeparator := some " or else " }, true⟩,
  ⟨.template .help, ["Say \x7b&\x7d."], { separator := some "; " }, true⟩,
  ⟨.template .help, ["Name the \x7b&\x7d."], { separator := some " / " }, true⟩]

def sample : Workspace where
  store := sampleRecords.foldl Heap.push .empty
  declarations := Heap.empty.push ⟨"paint_colour", none, some ⟨1⟩, [], none, none, none, false⟩
  cascades := Heap.empty.push ⟨⟨0⟩, fun _ => none⟩
  sources := Heap.empty.push (.scripted [0] 0)
  selectors := Heap.empty.push ⟨⟨0⟩⟩
  formatters := Heap.empty.push ⟨⟨0⟩, ⟨0⟩, default⟩

theorem promptFor_asks_sample :
    Fits sample ⟨0⟩ ∧
      ((promptFor ⟨0⟩ ⟨0⟩ .string (some ⟨2⟩) none (some ["red", "green", "blue"])).runIn sample).1 =
        .ok "Which paint colour? (red; green or else blue)" := by
  have hfits : Fits sample ⟨0⟩ := by intro m hm; cases hm
  have h := (promptFor_asks ⟨0⟩ ⟨0⟩ .string (some ⟨2⟩) none (some ["red", "green", "blue"])
    sample hfits (by decide)).1 ⟨1⟩ rfl
  refine ⟨hfits, h.trans ?_⟩
  rfl

end FormDialogue.Action
