import FormDialogue.Format.Spec
import FormDialogue.Number.Shortest

/-! # Writing operands

Texts are cut and padded. Numbers, which are never negative here, are written in a base, as a
character, or in one of the decimal notations; their digits may be grouped, and zeros that fill the
width between sign and digits are grouped too. -/

namespace FormDialogue.Format
open Number (roundHalfEven decimalDigits padLeft)

def fillTo (fill : Char) (align : Align) (width : Nat) (text : List Char) : List Char :=
  let room := width - text.length
  let left := match align with
    | .right => room
    | .centre => room / 2
    | .left | .inner => 0
  List.replicate left fill ++ text ++ List.replicate (room - left) fill

def writeText (spec : Spec) (text : List Char) : Result (List Char) :=
  if spec.sign = some ' ' then .error .textSpace
  else if spec.sign.isSome then .error .textSign
  else if spec.noNegativeZero then .error .textNegativeZero
  else if spec.alternate then .error .textAlternate
  else if spec.align = .inner then .error .textAlignment
  else
    let cut := match spec.precision with
      | some n => text.take n
      | none => text
    .ok (fillTo spec.fill spec.align (spec.width.getD 0) cut)

/-- The least number of digits, in groups of `size` with separators between them, that together
are at least `width` long. -/
def groupedLength (size : Nat) : (fuel width : Nat) → Nat
  | 0, width => width
  | fuel + 1, width =>
    if width ≤ size then max 1 width else size + groupedLength size fuel (width - size - 1)

/-- Digits, least significant first, with a separator after every `size` of them. -/
def groupReversed (size : Nat) (mark : Char) (inGroup : Nat) : List Char → List Char
  | [] => []
  | c :: rest =>
    if inGroup = size then mark :: c :: groupReversed size mark 1 rest
    else c :: groupReversed size mark (inGroup + 1) rest

/-- The digits with separators, after zeros that fill them up to `width`. -/
def grouped (mark : Option Char) (size width : Nat) (digits : List Char) : List Char :=
  match mark with
  | none => padLeft width digits
  | some c =>
    let least := groupedLength size (width + 1) width
    (groupReversed size c 0 (padLeft least digits).reverse).reverse

/-- A number taken apart: what stands before the digits, the digits, and what follows them. -/
structure Written where
  lead : List Char
  digits : List Char
  tail : List Char

def signOf (spec : Spec) : List Char :=
  match spec.sign with
  | some '+' => ['+']
  | some ' ' => [' ']
  | _ => []

def layOut (spec : Spec) (size : Nat) (w : Written) : List Char :=
  let lead := signOf spec ++ w.lead
  let width := spec.width.getD 0
  let zeros :=
    if spec.fill = '0' && spec.align = .inner then width - (lead.length + w.tail.length) else 0
  let digits := if w.digits.isEmpty then [] else grouped spec.separator.char? size zeros w.digits
  match spec.align with
  | .inner =>
    let room := width - (lead.length + digits.length + w.tail.length)
    lead ++ List.replicate room spec.fill ++ digits ++ w.tail
  | align => fillTo spec.fill align width (lead ++ digits ++ w.tail)

def upperAscii (text : List Char) : List Char := text.map Char.toUpper

def writeInBase (spec : Spec) (base : Nat) (mark : List Char) (n : Nat) : List Char :=
  let size := if base = 10 then 3 else 4
  layOut spec size ⟨if spec.alternate then mark else [], Nat.toDigits base n, []⟩

def writeCode (spec : Spec) (n : Nat) : Result (List Char) :=
  if spec.sign.isSome then .error .codeSign
  else if spec.alternate then .error .codeAlternate
  else if 0x10FFFF < n then .error .codeRange
  else .ok (layOut spec 3 ⟨[], [], [Char.ofNat n]⟩)

def writeWhole (spec : Spec) (n : Nat) : Result (List Char) :=
  if spec.precision.isSome then .error .numberPrecision
  else if spec.noNegativeZero then .error .numberNegativeZero
  else
    match spec.type with
    | 'c' => writeCode spec n
    | 'b' => .ok (writeInBase spec 2 ['0', 'b'] n)
    | 'o' => .ok (writeInBase spec 8 ['0', 'o'] n)
    | 'x' => .ok (writeInBase spec 16 ['0', 'x'] n)
    | 'X' =>
      let digits := upperAscii (Nat.toDigits 16 n)
      .ok (layOut spec 4 ⟨if spec.alternate then ['0', 'X'] else [], digits, []⟩)
    | _ => .ok (writeInBase spec 10 [] n)

/-- Digits and decimal exponent of a number rounded to some significant digits. -/
def significant (count n : Nat) : List Char × Nat :=
  let length := (decimalDigits n).length
  if n = 0 then (List.replicate count '0', 0)
  else if length ≤ count then
    (decimalDigits n ++ List.replicate (count - length) '0', length - 1)
  else
    let rounded := decimalDigits (roundHalfEven n (Nat.pow 10 (length - count)))
    if rounded.length = count then (rounded, length - 1) else (rounded.take count, length)

def withFraction (alternate : Bool) (fraction : List Char) : List Char :=
  if fraction.isEmpty then (if alternate then ['.'] else []) else '.' :: fraction

def exponentPart (exponent : Nat) : List Char :=
  'e' :: '+' :: padLeft 2 (decimalDigits exponent)

def scientificParts (alternate : Bool) (precision n : Nat) : List Char × List Char :=
  let (digits, exponent) := significant (precision + 1) n
  (digits.take 1, withFraction alternate (digits.drop 1) ++ exponentPart exponent)

def fixedParts (alternate : Bool) (precision n : Nat) : List Char × List Char :=
  (decimalDigits n, withFraction alternate (List.replicate precision '0'))

def dropZeros (digits : List Char) : List Char := (digits.reverse.dropWhile (· == '0')).reverse

/-- The shorter of the two notations, without zeros at the end unless they are asked for. -/
def generalParts (alternate : Bool) (precision n : Nat) : List Char × List Char :=
  let precision := max 1 precision
  let (digits, exponent) := significant precision n
  let written (fraction : List Char) :=
    withFraction alternate (if alternate then fraction else dropZeros fraction)
  if exponent < precision then
    (digits.take (exponent + 1), written (digits.drop (exponent + 1)))
  else (digits.take 1, written (digits.drop 1) ++ exponentPart exponent)

def precisionLimit : Nat := Nat.pow 2 31 - 1

/-- The digits before the point and what follows them, in one of the decimal notations. -/
def decimalParts (type : Char) (alternate : Bool) (precision n : Nat) : List Char × List Char :=
  match type with
  | 'e' => scientificParts alternate precision n
  | 'E' => (scientificParts alternate precision n).map id upperAscii
  | 'g' => generalParts alternate precision n
  | 'G' => (generalParts alternate precision n).map id upperAscii
  | '%' => (fixedParts alternate precision (100 * n)).map id (· ++ ['%'])
  | _ => fixedParts alternate precision n

def writeDecimal (spec : Spec) (n : Nat) : Result (List Char) :=
  let precision := spec.precision.getD 6
  if precisionLimit < precision then .error .hugePrecision
  else
    let (digits, tail) := decimalParts spec.type spec.alternate precision n
    .ok (layOut spec 3 ⟨[], digits, tail⟩)

def writeNumber (spec : Spec) (n : Nat) : Result (List Char) :=
  if "bcdoxXn".toList.contains spec.type then writeWhole spec n
  else if "eEfFgG%".toList.contains spec.type then writeDecimal spec n
  else .error (.unknownType spec.type .number)

end FormDialogue.Format
