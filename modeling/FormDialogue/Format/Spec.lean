import FormDialogue.Format.Piece
import FormDialogue.Unicode.Numeric

/-! # Format specifications

The small language behind the colon of a field: fill and alignment, sign, the coercion of negative
zero, the alternate form, zero padding, width, separators, precision and a type letter, in this
order, each of them optional. -/

namespace FormDialogue.Format

inductive Align
  | left
  | right
  | centre
  /-- Padding between the sign and the digits. -/
  | inner
  deriving DecidableEq, Repr

inductive Separator
  | none
  | comma
  | underscore
  deriving DecidableEq, Repr

def Separator.char? : Separator → Option Char
  | none => Option.none
  | comma => some ','
  | underscore => some '_'

structure Spec where
  fill : Char
  align : Align
  sign : Option Char
  noNegativeZero : Bool
  alternate : Bool
  width : Option Nat
  separator : Separator
  precision : Option Nat
  type : Char
  deriving Repr

def align? : Char → Option Align
  | '<' => some .left
  | '>' => some .right
  | '^' => some .centre
  | '=' => some .inner
  | _ => none

/-- Fill and alignment at the front. A fill needs an alignment behind it. -/
def readAlign : List Char → Option Char × Option Align × List Char
  | c :: d :: rest =>
    match align? d with
    | some a => (some c, some a, rest)
    | none =>
      match align? c with
      | some a => (none, some a, d :: rest)
      | none => (none, none, c :: d :: rest)
  | [c] =>
    match align? c with
    | some a => (none, some a, [])
    | none => (none, none, [c])
  | [] => (none, none, [])

def readSign : List Char → Option Char × List Char
  | c :: rest => if c = '+' || c = '-' || c = ' ' then (some c, rest) else (none, c :: rest)
  | [] => (none, [])

/-- Whether a mark stands at the front, and what follows it. -/
def readMark (mark : Char) : List Char → Bool × List Char
  | c :: rest => if c = mark then (true, rest) else (false, c :: rest)
  | [] => (false, [])

def numberLimit : Nat := Nat.pow 2 63 - 1

/-- A number in decimal digits of any script, if there is one. -/
def readNumber (value : Option Nat) : List Char → Result (Option Nat × List Char)
  | [] => .ok (value, [])
  | c :: rest =>
    match Unicode.digitValue? c with
    | some d =>
      let n := value.getD 0 * 10 + d
      if numberLimit < n then .error .tooManyDigits else readNumber (some n) rest
    | none => .ok (value, c :: rest)

def readSeparator (text : List Char) : Result (Separator × List Char) :=
  let (comma, rest) := readMark ',' text
  let (underscore, rest) := readMark '_' rest
  if comma && underscore then .error .bothSeparators
  else if underscore && (readMark ',' rest).1 then .error .bothSeparators
  else .ok (if comma then .comma else if underscore then .underscore else .none, rest)

def readPrecision (text : List Char) : Result (Option Nat × List Char) :=
  match readMark '.' text with
  | (true, rest) => do
    match ← readNumber none rest with
    | (some n, rest) => return (some n, rest)
    | (none, _) => .error .noPrecision
  | (false, rest) => .ok (none, rest)

/-- Separators go with decimal numbers; a low line also goes with the other bases. -/
def checkSeparator (separator : Separator) (type : Char) : Result Unit :=
  match separator.char? with
  | none => .ok ()
  | some c =>
    if "defgEG%F".toList.contains type then .ok ()
    else if c = '_' && "boxX".toList.contains type then .ok ()
    else .error (.separatorWith c type)

/-- The type letter and the alignment that hold where none is given. -/
def OperandKind.type : OperandKind → Char
  | number => 'd'
  | text => 's'

def OperandKind.align : OperandKind → Align
  | number => .right
  | text => .left

def readSpec (kind : OperandKind) (spec : List Char) : Result Spec := do
  let (fill, align, rest) := readAlign spec
  let (sign, rest) := readSign rest
  let (noNegativeZero, rest) := readMark 'z' rest
  let (alternate, rest) := readMark '#' rest
  let (zeros, rest) := if fill.isNone then readMark '0' rest else (false, rest)
  let (width, rest) ← readNumber none rest
  let (separator, rest) ← readSeparator rest
  let (precision, rest) ← readPrecision rest
  let type ← match rest with
    | [] => .ok kind.type
    | [c] => .ok c
    | _ => .error (.invalidSpec spec kind)
  checkSeparator separator type
  let usual := if zeros && kind = .number then .inner else kind.align
  return ⟨fill.getD (if zeros then '0' else ' '), align.getD usual, sign, noNegativeZero, alternate,
    width, separator, precision, type⟩

end FormDialogue.Format
