import FormDialogue.Text.Quoted

/-! # Faults of formats

Every reason for which a format cannot be applied, with its wording. -/

namespace FormDialogue.Format

inductive OperandKind
  | number
  | text
  deriving DecidableEq, Repr

def OperandKind.name : OperandKind → String
  | number => "int"
  | text => "str"

inductive Fault
  | loneOpen
  | loneClose
  | openInName
  | openSpec
  | endInField
  | endInConversion
  | afterConversion
  | tooDeep
  | conversion (c : Char)
  | tooManyDigits
  | manualThenAutomatic
  | automaticThenManual
  | noOperand (index : Nat)
  | noName (name : List Char)
  | afterBracket
  | emptyAttribute
  | openBracket
  | noAttribute (className : String) (name : List Char)
  | noClassAttribute (className : String) (name : List Char)
  | bareAttribute (name : String)
  | notSubscriptable (className : String)
  | classNotSubscriptable (className : String)
  | textIndex
  | indexRange
  | tupleTextIndex
  | tupleRange
  | noSpec (className : String)
  | bothSeparators
  | separatorWith (separator type : Char)
  | noPrecision
  | invalidSpec (spec : List Char) (kind : OperandKind)
  | unknownType (type : Char) (kind : OperandKind)
  | textSign
  | textSpace
  | textNegativeZero
  | textAlternate
  | textAlignment
  | numberPrecision
  | numberNegativeZero
  | codeSign
  | codeAlternate
  | codeRange
  | hugePrecision
  /-- What a thing refuses, by the class of the refusal and with its text. -/
  | foreign (kind text : String)
  deriving DecidableEq, Repr

/-- A type letter as it is shown: by itself, or by its code if it is not a visible letter of the
basic alphabet. -/
def shownType (c : Char) : String :=
  if 32 < c.toNat && c.toNat < 128 then c.toString
  else "\\x" ++ String.ofList (Nat.toDigits 16 c.toNat)

def shownConversion (c : Char) : String :=
  if 32 < c.toNat && c.toNat < 127 then c.toString
  else "\\x" ++ String.ofList (Nat.toDigits 16 c.toNat)

def Fault.message : Fault → String
  | loneOpen => "Single '\x7b' encountered in format string"
  | loneClose => "Single '\x7d' encountered in format string"
  | openInName => "unexpected '\x7b' in field name"
  | openSpec => "unmatched '\x7b' in format spec"
  | endInField => "expected '\x7d' before end of string"
  | endInConversion => "end of string while looking for conversion specifier"
  | afterConversion => "expected ':' after conversion specifier"
  | tooDeep => "Max string recursion exceeded"
  | conversion c => "Unknown conversion specifier " ++ shownConversion c
  | tooManyDigits => "Too many decimal digits in format string"
  | manualThenAutomatic =>
    "cannot switch from manual field specification to automatic field numbering"
  | automaticThenManual =>
    "cannot switch from automatic field numbering to manual field specification"
  | noOperand index =>
    "Replacement index " ++ toString index ++ " out of range for positional args tuple"
  | noName name => Text.quote (String.ofList name)
  | afterBracket => "Only '.' or '[' may follow ']' in format field specifier"
  | emptyAttribute => "Empty attribute in format string"
  | openBracket => "Missing ']' in format string"
  | noAttribute className name =>
    "'" ++ className ++ "' object has no attribute '" ++ String.ofList name ++ "'"
  | noClassAttribute className name =>
    "type object '" ++ className ++ "' has no attribute '" ++ String.ofList name ++ "'"
  | bareAttribute name => name
  | notSubscriptable className => "'" ++ className ++ "' object is not subscriptable"
  | classNotSubscriptable className => "type '" ++ className ++ "' is not subscriptable"
  | textIndex => "string indices must be integers, not 'str'"
  | indexRange => "string index out of range"
  | tupleTextIndex => "tuple indices must be integers or slices, not str"
  | tupleRange => "tuple index out of range"
  | noSpec className => "unsupported format string passed to " ++ className ++ ".__format__"
  | bothSeparators => "Cannot specify both ',' and '_'."
  | separatorWith separator type =>
    "Cannot specify '" ++ separator.toString ++ "' with '" ++ shownType type ++ "'."
  | noPrecision => "Format specifier missing precision"
  | invalidSpec spec kind => "Invalid format specifier '" ++ String.ofList spec ++
      "' for object of type '" ++ kind.name ++ "'"
  | unknownType type kind => "Unknown format code '" ++ shownType type ++
      "' for object of type '" ++ kind.name ++ "'"
  | textSign => "Sign not allowed in string format specifier"
  | textSpace => "Space not allowed in string format specifier"
  | textNegativeZero => "Negative zero coercion (z) not allowed in string format specifier"
  | textAlternate => "Alternate form (#) not allowed in string format specifier"
  | textAlignment => "'=' alignment not allowed in string format specifier"
  | numberPrecision => "Precision not allowed in integer format specifier"
  | numberNegativeZero => "Negative zero coercion (z) not allowed in integer format specifier"
  | codeSign => "Sign not allowed with integer format specifier 'c'"
  | codeAlternate => "Alternate form (#) not allowed with integer format specifier 'c'"
  | codeRange => "%c arg not in range(0x110000)"
  | hugePrecision => "precision too big"
  | foreign _ text => text

end FormDialogue.Format
