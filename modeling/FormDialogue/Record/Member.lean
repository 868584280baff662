import FormDialogue.Text.Casing

/-! # Enumerated values

The vocabularies that options and templates draw from: how choices are laid out, the case of
names, when to echo, and which question or answer a template is for. Every value has a name, under
which it is written in data. -/

namespace FormDialogue.Record
open Text (Casing)

/-- How a list of choices is laid out. -/
inductive Style
  | default
  | auto
  | autoText
  | inline
  | perLine
  | inlineNoParen
  | buttons
  | carousel
  deriving DecidableEq, Repr

/-- When to echo what was understood. -/
inductive Feedback
  | default
  | auto
  | always
  | never
  deriving DecidableEq, Repr

/-- The built-in slots that a template can fill. -/
inductive Usage
  | none
  | attachmentCollection
  | attachmentCollectionDescription
  | attachmentCollectionHelp
  | attachmentContentTypeValidatorError
  | attachmentContentTypeValidatorHelp
  | attachmentField
  | attachmentFieldDescription
  | attachmentFieldHelp
  | bool
  | boolHelp
  | clarify
  | confirmation
  | currentChoice
  | dateTime
  | dateTimeHelp
  | double
  | doubleHelp
  | enumOneNumberHelp
  | enumManyNumberHelp
  | enumOneWordHelp
  | enumManyWordHelp
  | enumSelectOne
  | enumSelectMany
  | feedback
  | help
  | helpClarify
  | helpConfirm
  | helpNavigation
  | integer
  | integerHelp
  | navigation
  | navigationCommandHelp
  | navigationFormat
  | navigationHelp
  | noPreference
  | notUnderstood
  | statusFormat
  | string
  | stringHelp
  | unspecified
  deriving DecidableEq, Repr

namespace Style

def all : List Style := [default, auto, autoText, inline, perLine, inlineNoParen, buttons, carousel]

def name : Style → String
  | default => "default"
  | auto => "auto"
  | autoText => "auto_text"
  | inline => "inline"
  | perLine => "per_line"
  | inlineNoParen => "inline_no_paren"
  | buttons => "buttons"
  | carousel => "carousel"

def ofName? (s : String) : Option Style := all.find? fun x => x.name == s

end Style

namespace Feedback

def all : List Feedback := [default, auto, always, never]

def name : Feedback → String
  | default => "default"
  | auto => "auto"
  | always => "always"
  | never => "never"

def ofName? (s : String) : Option Feedback := all.find? fun x => x.name == s

end Feedback

namespace Usage

def all : List Usage := [
  none, attachmentCollection, attachmentCollectionDescription, attachmentCollectionHelp,
  attachmentContentTypeValidatorError, attachmentContentTypeValidatorHelp, attachmentField,
  attachmentFieldDescription, attachmentFieldHelp, bool, boolHelp, clarify, confirmation,
  currentChoice, dateTime, dateTimeHelp, double, doubleHelp, enumOneNumberHelp,
  enumManyNumberHelp, enumOneWordHelp, enumManyWordHelp, enumSelectOne, enumSelectMany,
  feedback, help, helpClarify, helpConfirm, helpNavigation, integer, integerHelp, navigation,
  navigationCommandHelp, navigationFormat, navigationHelp, noPreference, notUnderstood,
  statusFormat, string, stringHelp, unspecified]

def name : Usage → String
  | none => "none"
  | attachmentCollection => "attachment_collection"
  | attachmentCollectionDescription => "attachment_collection_description"
  | attachmentCollectionHelp => "attachment_collection_help"
  | attachmentContentTypeValidatorError => "attachment_content_type_validator_error"
  | attachmentContentTypeValidatorHelp => "attachment_content_type_validator_help"
  | attachmentField => "attachment_field"
  | attachmentFieldDescription => "attachment_field_description"
  | attachmentFieldHelp => "attachment_field_help"
  | bool => "bool"
  | boolHelp => "bool_help"
  | clarify => "clarify"
  | confirmation => "confirmation"
  | currentChoice => "current_choice"
  | dateTime => "date_time"
  | dateTimeHelp => "date_time_help"
  | double => "double"
  | doubleHelp => "double_help"
  | enumOneNumberHelp => "enum_one_number_help"
  | enumManyNumberHelp => "enum_many_number_help"
  | enumOneWordHelp => "enum_one_word_help"
  | enumManyWordHelp => "enum_many_word_help"
  | enumSelectOne => "enum_select_one"
  | enumSelectMany => "enum_select_many"
  | feedback => "feedback"
  | help => "help"
  | helpClarify => "help_clarify"
  | helpConfirm => "help_confirm"
  | helpNavigation => "help_navigation"
  | integer => "integer"
  | integerHelp => "integer_help"
  | navigation => "navigation"
  | navigationCommandHelp => "navigation_command_help"
  | navigationFormat => "navigation_format"
  | navigationHelp => "navigation_help"
  | noPreference => "no_preference"
  | notUnderstood => "not_understood"
  | statusFormat => "status_format"
  | string => "string"
  | stringHelp => "string_help"
  | unspecified => "unspecified"

def ofName? (s : String) : Option Usage := all.find? fun x => x.name == s

end Usage

end FormDialogue.Record

namespace FormDialogue.Text.Casing

def all : List Casing := [default, initialUpper, lower, upper, none]

def name : Casing → String
  | default => "default"
  | initialUpper => "initial_upper"
  | lower => "lower"
  | upper => "upper"
  | none => "none"

def ofName? (s : String) : Option Casing := all.find? fun x => x.name == s

end FormDialogue.Text.Casing

namespace FormDialogue.Record

inductive Member
  | style (x : Style)
  | casing (x : Text.Casing)
  | feedback (x : Feedback)
  | usage (x : Usage)
  deriving DecidableEq, Repr

inductive Vocabulary
  | style
  | casing
  | feedback
  | usage
  deriving DecidableEq, Repr

namespace Vocabulary

def title : Vocabulary → String
  | style => "ChoiceStyle"
  | casing => "CaseNormalization"
  | feedback => "FeedbackOptions"
  | usage => "TemplateUsage"

def member? (v : Vocabulary) (s : String) : Option Member :=
  match v with
  | style => (Style.ofName? s).map .style
  | casing => (Text.Casing.ofName? s).map .casing
  | feedback => (Feedback.ofName? s).map .feedback
  | usage => (Usage.ofName? s).map .usage

end Vocabulary

namespace Member

def name : Member → String
  | style x => x.name
  | casing x => x.name
  | feedback x => x.name
  | usage x => x.name

def vocabulary : Member → Vocabulary
  | style _ => .style
  | casing _ => .casing
  | feedback _ => .feedback
  | usage _ => .usage

/-- The values that leave an option to be inherited. -/
def isUnset : Member → Bool
  | style .default | casing .default | feedback .default => true
  | _ => false

end Member

end FormDialogue.Record
