import FormDialogue.Choice.Threshold
import FormDialogue.Logging.Level
import FormDialogue.Validation.Model

/-! # Settings

An accepted configuration: it sets every option that a record can inherit, so that it can end a
cascade, and its choice format has a place for the label. Settings in use may have been assigned
values that were not checked; such a value stands in front of the accepted one. -/

namespace FormDialogue
open Record (OptionKind OptionName Options labelMark)
open Validation (Verdict checkOption)

namespace Record

/-- A value that is not unset. -/
def OptionKind.Concrete (k : OptionKind) : Type := { v : k.Value // k.isUnset v = false }

end Record

/-- The names of settings, in their order. -/
inductive SettingName
  | randomSeed
  | inlineThreshold
  | option (n : OptionName)
  | logLevel
  | logFile
  deriving DecidableEq, Repr

namespace SettingName

def all : List SettingName :=
  [randomSeed, inlineThreshold, option .choiceStyle, option .choiceCase, option .fieldCase,
    option .valueCase, option .feedback, option .allowDefault, option .choiceParens,
    option .separator, option .lastSeparator, option .choiceSeparator,
    option .choiceLastSeparator, option .choiceFormat, logLevel, logFile]

def name : SettingName → String
  | randomSeed => "random_seed"
  | inlineThreshold => "auto_text_inline_threshold"
  | option n => "default_" ++ n.name
  | logLevel => "log_level"
  | logFile => "log_file"

def ofName? (s : String) : Option SettingName := all.find? fun n => n.name == s

end SettingName

structure Configuration where
  randomSeed : Option Int
  inlineThreshold : { n : Int // 1 ≤ n }
  option : (n : OptionName) → n.kind.Concrete
  logLevel : String
  logFile : Option String

namespace Configuration

/-- The options that records inherit in the end. -/
def options (c : Configuration) : Options := .tabulate fun n => (c.option n).val

theorem isUnset_options (c : Configuration) (n : OptionName) : c.options.isUnset n = false := by
  simp [options, Options.isUnset, (c.option n).property]

theorem isResolved_options (c : Configuration) : c.options.isResolved = true := by
  simp [Options.isResolved, Options.unresolved, isUnset_options]

end Configuration

/-- The value of an option as data. -/
def Record.OptionKind.datum : (k : OptionKind) → k.Value → Datum
  | .flag, v => (Option.map Datum.bool v).getD .null
  | .text, v => (Option.map Datum.text v).getD .null
  | .casing, v => .member (.casing v)
  | .style, v => .member (.style v)
  | .feedback, v => .member (.feedback v)

def Configuration.datum (c : Configuration) : SettingName → Datum
  | .randomSeed => (c.randomSeed.map Datum.int).getD .null
  | .inlineThreshold => .int c.inlineThreshold.val
  | .option n => n.kind.datum (c.option n).val
  | .logLevel => .text c.logLevel
  | .logFile => (c.logFile.map Datum.text).getD .null

structure Settings where
  accepted : Configuration
  /-- What was assigned without a check. -/
  assigned : List (SettingName × Datum)

namespace Settings

def ofConfiguration (c : Configuration) : Settings := ⟨c, []⟩

def assigned? (s : Settings) (n : SettingName) : Option Datum :=
  (s.assigned.find? fun a => a.1 == n).map Prod.snd

def datum (s : Settings) (n : SettingName) : Datum := (s.assigned? n).getD (s.accepted.datum n)

def assign (s : Settings) (n : SettingName) (d : Datum) : Settings :=
  { s with assigned := (n, d) :: s.assigned }

/-- The value of an option, which is checked if it was assigned. -/
def option (s : Settings) (n : OptionName) : Verdict n.Value :=
  match s.assigned? (.option n) with
  | some d => (checkOption n.kind d).within n.name
  | none => .accepted (s.accepted.option n).val

def optionsFrom (s : Settings) : List OptionName → Verdict Options
  | [] => .accepted s.accepted.options
  | n :: rest => .both (fun v o => o.assign n v) (s.option n) (s.optionsFrom rest)

/-- The record of defaults that the settings stand for. -/
def defaults (s : Settings) : Except Failure Record :=
  ((s.optionsFrom OptionName.all).map fun o => ⟨.plain, [], o, false⟩).orFail "TemplateConfig"

/-- What is given as the threshold for choices in one line. -/
def threshold (s : Settings) : Choice.Threshold := .ofDatum (s.datum .inlineThreshold)

/-- What the name of the level stands for; only a text can be one. -/
def level (s : Settings) : Except Failure Logging.Meaning :=
  match (s.datum .logLevel).asText? with
  | some name => .ok (.ofName name)
  | none => .error (.levelName (s.datum .logLevel).typeName)

def levelName (s : Settings) : String := ((s.datum .logLevel).asText?).getD ""

/-- The file for log lines. What was assigned without a check is no path, unless it is null. -/
def logFile (s : Settings) : Except Failure (Option String) :=
  match s.assigned? .logFile with
  | none => .ok s.accepted.logFile
  | some .null => .ok none
  | some d => .error (.noAttribute d.typeName "parent")

end Settings

end FormDialogue
