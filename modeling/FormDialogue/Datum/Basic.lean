import FormDialogue.Record.Declaration

/-! # Data

What declarations and settings are built from: plain data, members of a vocabulary, and objects
that were built before. The entries of a dictionary are in order, and no name occurs twice. -/

namespace FormDialogue
open Number (Binary64 Numeral)
open Record (Declaration Describe Member NumericConstraint OptionName PatternConstraint Role
  Vocabulary)
open Term (TermSpec)

/-- An object inside data. What never changes is carried along. -/
inductive Object
  | record (ref : Ref Record) (role : Role)
  | describe (ref : Ref Describe) (value : Describe)
  | numeric (ref : Ref NumericConstraint) (value : NumericConstraint)
  | pattern (ref : Ref PatternConstraint) (value : PatternConstraint)
  | terms (ref : Ref TermSpec) (value : TermSpec)
  | declaration (ref : Ref Declaration)
  /-- Settings, by their place among all settings. -/
  | settings (index : Nat)
  | other (typeName : String)

inductive Datum
  | null
  | bool (b : Bool)
  | int (n : Int)
  | real (x : Binary64)
  | text (s : String)
  | list (items : List Datum)
  | dict (entries : List (String × Datum))
  | member (m : Member)
  | object (o : Object)

def Object.typeName : Object → String
  | record _ role => role.title
  | describe .. => "Describe"
  | numeric .. => "NumericConstraint"
  | pattern .. => "PatternConstraint"
  | terms .. => "TermSpec"
  | declaration _ => "FieldDeclaration"
  | settings _ => "Settings"
  | other name => name

/-- How many fields an object has, if they can be listed. -/
def Object.fieldCount? : Object → Option Nat
  | record _ .template => some (OptionName.all.length + 3)
  | record _ _ => some (OptionName.all.length + 2)
  | describe .. => some 6
  | numeric .. | terms .. => some 2
  | pattern .. => some 1
  | declaration _ => some 8
  | settings _ => some (OptionName.all.length + 4)
  | other _ => none

namespace Datum

instance : Inhabited Datum := ⟨null⟩

def typeName : Datum → String
  | null => "NoneType"
  | bool _ => "bool"
  | int _ => "int"
  | real _ => "float"
  | text _ => "str"
  | list _ => "list"
  | dict _ => "dict"
  | member m => m.vocabulary.title
  | object o => o.typeName

def isNull : Datum → Bool
  | null => true
  | _ => false

def asText? : Datum → Option String
  | text s => some s
  | member m => some m.name
  | _ => none

/-- The number that a value is. A truth value counts as zero or one. -/
def asNumeral? : Datum → Option Numeral
  | bool b => some (.int (if b then 1 else 0))
  | int n => some (.int n)
  | real x => some (.binary x)
  | _ => none

/-- The items of a sequence. An object is a sequence of its fields, each paired with its name. -/
def items? : Datum → Option (List Datum)
  | list items => some items
  | object o => o.fieldCount?.map fun n => List.replicate n (list [])
  | _ => none

/-- Whether an option with this value is inherited. -/
def isUnset : Datum → Bool
  | null => true
  | member m => m.isUnset
  | _ => false

def entry? (name : String) (entries : List (String × Datum)) : Option Datum :=
  (entries.find? fun e => e.1 == name).map Prod.snd

end Datum

end FormDialogue
