import FormDialogue.Settings.Basic
import FormDialogue.Settings.Dotenv
import FormDialogue.Settings.Path

/-! # Loading settings

Settings are put together from keywords, environment variables, a settings file and their own
defaults, in this order of precedence. Names are compared without regard to case, and unknown names
do not count. Every value is checked, also one that a keyword replaces a bad variable with. -/

namespace FormDialogue.Settings
open Record (OptionKind OptionName labelMark)
open Validation (Fault Verdict)

/-- Where settings come from. Keywords with a leading low line are about the loading itself: they set
nothing, and the file that they may choose is the one whose text is given. -/
structure Origin where
  keywords : List (String × Datum)
  environment : List (String × String)
  file : Option String

def Origin.none : Origin := ⟨[], [], .none⟩

def lowerName (name : String) : String := String.ofList (Text.lower name.toList)

/-- The value of a keyword for a setting. Where no keyword is the name itself, one that differs from
it in case is assumed to count as well. -/
def fromKeywords? (keywords : List (String × Datum)) (name : String) : Option Datum :=
  (Datum.entry? name keywords).orElse fun _ =>
    (keywords.find? fun k => lowerName k.1 == name).map Prod.snd

def fromEnvironment? (environment : List (String × String)) (name : String) : Option Datum :=
  (environment.reverse.find? fun e => lowerName e.1 == name).map fun e => .text e.2

def fromFile? (o : Origin) (name : String) : Option Datum :=
  o.file.bind fun text =>
    let environment := o.environment.map fun e => (e.1.toList, e.2.toList)
    let bound := Dotenv.read environment text.toList
    (bound.reverse.find? fun b => Text.lower b.1 == name.toList).bind fun b =>
      b.2.map fun v => .text (String.ofList v)

def Origin.given? (o : Origin) (n : SettingName) : Option Datum :=
  (fromKeywords? o.keywords n.name).orElse fun _ =>
    (fromEnvironment? o.environment n.name).orElse fun _ => fromFile? o n.name

/-- The values of options in the settings when none is given. -/
def stockOption : (n : OptionName) → n.kind.Concrete
  | .choiceStyle => ⟨Record.Style.auto, rfl⟩
  | .choiceCase => ⟨Text.Casing.none, rfl⟩
  | .fieldCase => ⟨Text.Casing.lower, rfl⟩
  | .valueCase => ⟨Text.Casing.initialUpper, rfl⟩
  | .feedback => ⟨Record.Feedback.auto, rfl⟩
  | .allowDefault => ⟨some true, rfl⟩
  | .choiceParens => ⟨some true, rfl⟩
  | .separator => ⟨some ", ", rfl⟩
  | .lastSeparator => ⟨some " and ", rfl⟩
  | .choiceSeparator => ⟨some ", ", rfl⟩
  | .choiceLastSeparator => ⟨some " or ", rfl⟩
  | .choiceFormat => ⟨some "\x7b0\x7d. \x7b1\x7d", rfl⟩

def stockThreshold : { n : Int // 1 ≤ n } := ⟨4, by decide⟩
def stockLevel : String := "INFO"

/-- A member that is not the undecided one. -/
def checkDecided {α : Type} (unset : α → Bool) (v : Verdict α) :
    Verdict { a : α // unset a = false } :=
  v.andThen fun a =>
    if h : unset a = false then .accepted ⟨a, h⟩
    else .fault (.rejected "global template defaults cannot be 'default'")

/-- A value that ends the inheritance of an option. -/
def checkConcrete : (k : OptionKind) → Datum → Verdict k.Concrete
  | .flag, d => (Validation.checkFlag d).map fun b => ⟨some b, rfl⟩
  | .text, d => (Validation.checkText d).map fun s => ⟨some s, rfl⟩
  | .casing, d => checkDecided (OptionKind.isUnset .casing) (Validation.checkCasing d)
  | .style, d => checkDecided (OptionKind.isUnset .style) (Validation.checkStyle d)
  | .feedback, d => checkDecided (OptionKind.isUnset .feedback) (Validation.checkFeedback d)

/-- A choice format has to have a place for the label. -/
def checkFormat (format : String) : Verdict String :=
  if Text.occurs labelMark format.toList then .accepted format
  else .fault (.rejected ("choice format must contain " ++ String.ofList labelMark ++ ": " ++
    Text.quote format))

def checkOptionSetting (n : OptionName) (d : Datum) : Verdict n.kind.Concrete :=
  match n with
  | .choiceFormat => ((Validation.checkText d).andThen checkFormat).map fun s => ⟨some s, rfl⟩
  | n => checkConcrete n.kind d

/-- The level as it is kept, in upper case. -/
def checkLevel (d : Datum) : Verdict String :=
  (Validation.checkText d).map fun s => String.ofList (Text.upper s.toList)

def checkPath (d : Datum) : Verdict String :=
  match d.asText? with
  | some s => .accepted (plainPath s)
  | none => .fault .path

/-- One setting: what is given for it, or its stock value. -/
def checkSetting {α : Type} (o : Origin) (n : SettingName) (stock : α) (check : Datum → Verdict α) :
    Verdict α :=
  match o.given? n with
  | some d => (check d).within n.name
  | none => .accepted stock

def checkOptions (o : Origin) : List OptionName → Verdict ((n : OptionName) → n.kind.Concrete)
  | [] => .accepted stockOption
  | n :: rest =>
    .both (fun v f m => if h : n = m then h ▸ v else f m)
      (checkSetting o (.option n) (stockOption n) (checkOptionSetting n)) (checkOptions o rest)

/-- The order in which the options are checked. -/
def optionOrder : List OptionName := [.choiceStyle, .choiceCase, .fieldCase, .valueCase, .feedback,
  .allowDefault, .choiceParens, .separator, .lastSeparator, .choiceSeparator, .choiceLastSeparator,
  .choiceFormat]

def checkConfiguration (o : Origin) : Verdict Configuration :=
  Configuration.mk
    <$> checkSetting o .randomSeed none (Validation.checkNullable Validation.checkInt)
    <*> checkSetting o .inlineThreshold stockThreshold Validation.checkPositive
    <*> checkOptions o optionOrder
    <*> checkSetting o .logLevel stockLevel checkLevel
    <*> checkSetting o .logFile none (Validation.checkNullable checkPath)

/-- The settings from an origin, if all that is given for them is in order. -/
def load (o : Origin) : Except Failure Settings :=
  ((checkConfiguration o).map ofConfiguration).orFail "Settings"

def stock : Settings :=
  ofConfiguration ⟨none, stockThreshold, stockOption, stockLevel, none⟩

instance : Inhabited Settings := ⟨stock⟩

end FormDialogue.Settings
