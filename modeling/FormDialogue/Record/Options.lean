import FormDialogue.Record.Member

/-! # Options

Twelve options format a record. Each may be unset, and an unset option is inherited. The options of
a record are a value for every name; a value is unset when it is absent or when it is the default
member of its vocabulary. A general record fills the unset options of a specific one. -/

namespace FormDialogue.Record
open Text (Casing)

inductive OptionName
  | allowDefault
  | choiceCase
  | choiceFormat
  | choiceLastSeparator
  | choiceParens
  | choiceSeparator
  | choiceStyle
  | feedback
  | fieldCase
  | lastSeparator
  | separator
  | valueCase
  deriving DecidableEq, Repr

inductive OptionKind
  | flag
  | text
  | casing
  | style
  | feedback
  deriving DecidableEq, Repr

abbrev OptionKind.Value : OptionKind → Type
  | flag => Option Bool
  | text => Option String
  | casing => Casing
  | style => Style
  | feedback => Feedback

namespace OptionKind

def unset : (k : OptionKind) → k.Value
  | flag | text => none
  | casing => Casing.default
  | style => Style.default
  | feedback => Feedback.default

def isUnset : (k : OptionKind) → k.Value → Bool
  | flag, v => Option.isNone v
  | text, v => Option.isNone v
  | casing, v => v == Casing.default
  | style, v => v == Style.default
  | feedback, v => v == Feedback.default

theorem isUnset_iff {k : OptionKind} {v : k.Value} : k.isUnset v = true ↔ v = k.unset := by
  cases k <;> simp [isUnset, unset]

end OptionKind

namespace OptionName

/-- All names, in the order in which they are resolved and reported. -/
def all : List OptionName :=
  [allowDefault, choiceCase, choiceFormat, choiceLastSeparator, choiceParens, choiceSeparator,
    choiceStyle, feedback, fieldCase, lastSeparator, separator, valueCase]

theorem mem_all (n : OptionName) : n ∈ all := by cases n <;> simp [all]

def kind : OptionName → OptionKind
  | allowDefault | choiceParens => .flag
  | choiceCase | fieldCase | valueCase => .casing
  | choiceFormat | choiceLastSeparator | choiceSeparator | lastSeparator | separator => .text
  | choiceStyle => .style
  | feedback => .feedback

abbrev Value (n : OptionName) : Type := n.kind.Value

def name : OptionName → String
  | allowDefault => "allow_default"
  | choiceCase => "choice_case"
  | choiceFormat => "choice_format"
  | choiceLastSeparator => "choice_last_separator"
  | choiceParens => "choice_parens"
  | choiceSeparator => "choice_separator"
  | choiceStyle => "choice_style"
  | feedback => "feedback"
  | fieldCase => "field_case"
  | lastSeparator => "last_separator"
  | separator => "separator"
  | valueCase => "value_case"

def ofName? (s : String) : Option OptionName := all.find? fun n => n.name == s

end OptionName

structure Options where
  allowDefault : Option Bool := none
  choiceCase : Casing := .default
  choiceFormat : Option String := none
  choiceLastSeparator : Option String := none
  choiceParens : Option Bool := none
  choiceSeparator : Option String := none
  choiceStyle : Style := .default
  feedback : Feedback := .default
  fieldCase : Casing := .default
  lastSeparator : Option String := none
  separator : Option String := none
  valueCase : Casing := .default
  deriving DecidableEq, Repr

namespace Options

def get (o : Options) : (n : OptionName) → n.Value
  | .allowDefault => o.allowDefault
  | .choiceCase => o.choiceCase
  | .choiceFormat => o.choiceFormat
  | .choiceLastSeparator => o.choiceLastSeparator
  | .choiceParens => o.choiceParens
  | .choiceSeparator => o.choiceSeparator
  | .choiceStyle => o.choiceStyle
  | .feedback => o.feedback
  | .fieldCase => o.fieldCase
  | .lastSeparator => o.lastSeparator
  | .separator => o.separator
  | .valueCase => o.valueCase

def tabulate (f : (n : OptionName) → n.Value) : Options where
  allowDefault := f .allowDefault
  choiceCase := f .choiceCase
  choiceFormat := f .choiceFormat
  choiceLastSeparator := f .choiceLastSeparator
  choiceParens := f .choiceParens
  choiceSeparator := f .choiceSeparator
  choiceStyle := f .choiceStyle
  feedback := f .feedback
  fieldCase := f .fieldCase
  lastSeparator := f .lastSeparator
  separator := f .separator
  valueCase := f .valueCase

@[simp] theorem get_tabulate (f : (n : OptionName) → n.Value) (n : OptionName) :
    (tabulate f).get n = f n := by
  cases n <;> rfl

theorem ext_get {a b : Options} (h : ∀ n, a.get n = b.get n) : a = b := by
  cases a; cases b
  simp only [mk.injEq]
  exact ⟨h .allowDefault, h .choiceCase, h .choiceFormat, h .choiceLastSeparator, h .choiceParens,
    h .choiceSeparator, h .choiceStyle, h .feedback, h .fieldCase, h .lastSeparator, h .separator,
    h .valueCase⟩

def unset : Options := {}

def isUnset (o : Options) (n : OptionName) : Bool := n.kind.isUnset (o.get n)

def unresolved (o : Options) : List OptionName := OptionName.all.filter o.isUnset

def isResolved (o : Options) : Bool := o.unresolved.isEmpty

/-- The specific options, with the general ones where they are unset. -/
def fill (specific general : Options) : Options :=
  tabulate fun n => if specific.isUnset n then general.get n else specific.get n

def assign (o : Options) (n : OptionName) (v : n.Value) : Options :=
  tabulate fun m => if h : n = m then h ▸ v else o.get m

theorem isResolved_iff {o : Options} : o.isResolved = true ↔ ∀ n, o.isUnset n = false := by
  simp [isResolved, unresolved, OptionName.mem_all]

theorem get_fill_of_unset {a b : Options} {n : OptionName} (h : a.isUnset n = true) :
    (a.fill b).get n = b.get n := by
  simp [fill, h]

theorem get_fill_of_set {a b : Options} {n : OptionName} (h : a.isUnset n = false) :
    (a.fill b).get n = a.get n := by
  simp [fill, h]

theorem isResolved_fill (a : Options) {b : Options} (h : b.isResolved = true) :
    (a.fill b).isResolved = true := by
  rw [isResolved_iff]
  intro n
  cases hn : a.isUnset n with
  | true =>
    rw [isUnset, get_fill_of_unset hn]
    exact isResolved_iff.1 h n
  | false =>
    rw [isUnset, get_fill_of_set hn]
    exact hn

theorem get_assign_same (o : Options) (n : OptionName) (v : n.Value) :
    (o.assign n v).get n = v := by
  simp [assign]

theorem get_assign_other {o : Options} {n m : OptionName} (h : n ≠ m) (v : n.Value) :
    (o.assign n v).get m = o.get m := by
  simp [assign, h]

end Options

end FormDialogue.Record
