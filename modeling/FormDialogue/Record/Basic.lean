import FormDialogue.Record.Options
import FormDialogue.Text.Occurs

/-! # Records

A record declares a templated text: its candidate patterns and the options that format it. The
prompt of a field and the template of a usage are records too. -/

namespace FormDialogue.Record

/-- What a record is for. Only a template has a usage. -/
inductive Kind
  | plain
  | prompt
  | template (usage : Usage)
  deriving DecidableEq, Repr

/-- A kind without the usage. -/
inductive Role
  | plain
  | prompt
  | template
  deriving DecidableEq, Repr

def Kind.role : Kind → Role
  | plain => .plain
  | prompt => .prompt
  | template _ => .template

def Role.title : Role → String
  | plain => "TemplateConfig"
  | prompt => "Prompt"
  | template => "Template"

/-- A record of any role is acceptable where a plain one is expected. -/
def Role.accepts (expected given : Role) : Bool := expected = .plain || expected = given

/-- Stands in a pattern for the list of choices. -/
def choicesMark : List Char := "\x7b||\x7d".toList

/-- Stands in a choice format for the number of the choice. -/
def numberMark : List Char := "\x7b0\x7d".toList

/-- Stands in a choice format for the label of the choice. -/
def labelMark : List Char := "\x7b1\x7d".toList

end FormDialogue.Record

namespace FormDialogue
open Record (Kind Options Usage choicesMark numberMark)

structure Record where
  kind : Kind
  patterns : List String
  options : Options
  localizable : Bool
  deriving DecidableEq, Repr

namespace Record

def blank : Record := ⟨.plain, [], .unset, true⟩

instance : Inhabited Record := ⟨blank⟩

def usage? (r : Record) : Option Usage :=
  match r.kind with
  | .template usage => some usage
  | .plain | .prompt => none

/-- Choices are numbered and shown, so that a number can answer. -/
def allowsNumbers (r : Record) : Bool :=
  (r.options.choiceFormat.any fun f => Text.occurs numberMark f.toList) &&
    r.patterns.any fun p => Text.occurs choicesMark p.toList

/-- A prompt with the patterns and options of a record, which is not localized. -/
def asPrompt (r : Record) : Record := { r with kind := .prompt, localizable := false }

end Record

end FormDialogue
