import FormDialogue.Number.Binary64
import FormDialogue.Text.Words

/-! # Reading numbers

The numbers that texts stand for. A plain numeral is read as it is. A loose one is first brought
into its plain form: white space around it, a plus sign, zeros in front, a fraction of zeros and
single low lines inside it are taken away. -/

namespace FormDialogue.Number

/-- White space around a number. The four separators of information are none. -/
def isMargin (c : Char) : Bool := Unicode.isBlank c && !(0x1C ≤ c.toNat && c.toNat ≤ 0x1F)

def trimMargin (text : List Char) : List Char :=
  ((text.dropWhile isMargin).reverse.dropWhile isMargin).reverse

def digitValue (c : Char) : Nat := c.toNat - '0'.toNat

def ofDigits (digits : List Char) : Nat := digits.foldl (fun n c => 10 * n + digitValue c) 0

/-- Whether two low lines stand next to each other. -/
def hasDoubleLine : List Char → Bool
  | '_' :: '_' :: _ => true
  | _ :: rest => hasDoubleLine rest
  | [] => false

/-- A text with single low lines, none of them at an end, without them. -/
def ungrouped? (text : List Char) : Option (List Char) :=
  if text.head? = some '_' || text.getLast? = some '_' || hasDoubleLine text then none
  else if text.contains '_' then some (text.filter (· != '_'))
  else none

/-- What a text that should be an integer turns out to be. -/
inductive IntegerReading
  | value (n : Int)
  | tooLong
  | malformed
  deriving DecidableEq, Repr

/-- The most digits that an integer may have in a text. -/
def mostDigits : Nat := 4300

/-- A minus sign, if any, and digits without needless zeros in front. The digits are counted before
it is seen what comes behind them. -/
def readPlainInt (text : List Char) : IntegerReading :=
  let body := if text.head? = some '-' then text.drop 1 else text
  let digits := body.takeWhile Char.isDigit
  if digits.isEmpty then .malformed
  else if digits.head? = some '0' then if body = ['0'] then .value 0 else .malformed
  else if mostDigits < digits.length then .tooLong
  else if digits.length < body.length then .malformed
  else .value (if text.head? = some '-' then -(ofDigits digits : Int) else ofDigits digits)

/-- The numeral behind zeros and low lines; `last` is the character passed before. Of zeros alone
the last character stays, and before a point the one in front of it. -/
def dropZeros? (last : Char) : List Char → Option (List Char)
  | [] => some [last]
  | c :: rest =>
    if c = '0' || c = '_' then dropZeros? c rest
    else if c = '.' then some (last :: c :: rest)
    else if c.isDigit then some (c :: rest)
    else none

def withoutZeros? : List Char → Option (List Char)
  | [] => none
  | c :: rest =>
    if c = '0' then dropZeros? c rest
    else if c.isDigit || c = '-' then some (c :: rest)
    else none

/-- A plus sign in front is dropped, unless a minus sign follows it. -/
def withoutPlus? : List Char → Option (List Char)
  | '+' :: '-' :: _ => none
  | '+' :: rest => some rest
  | text => some text

/-- A point with nothing but zeros behind it, and at least one, is dropped with them. -/
def withoutZeroFraction (text : List Char) : List Char :=
  let fraction := text.dropWhile (· != '.')
  if 1 < fraction.length && (fraction.drop 1).all (· == '0') then text.takeWhile (· != '.')
  else text

/-- The plain form of a loose numeral, if it has another one. -/
def plainForm? (text : List Char) : Option (List Char) := do
  let unsigned ← withoutPlus? (trimMargin text)
  let bare := withoutZeroFraction (← withoutZeros? unsigned)
  match ungrouped? bare with
  | some plain => some plain
  | none => if bare.length = text.length then none else some bare

/-- The integer that a text stands for. Only a plain numeral is found to be too long. -/
def readInt (text : List Char) : IntegerReading :=
  match readPlainInt text with
  | .malformed =>
    match (plainForm? text).map readPlainInt with
    | some (.value n) => .value n
    | _ => .malformed
  | reading => reading

def takeSign : List Char → Bool × List Char
  | '-' :: rest => (true, rest)
  | '+' :: rest => (false, rest)
  | text => (false, text)

def lowerAscii (text : List Char) : List Char := text.map Char.toLower

/-- The decimal exponent after the digits, if one is written. -/
def readExponent? : List Char → Option Int
  | [] => some 0
  | c :: rest =>
    let (negative, digits) := takeSign rest
    if (c = 'e' || c = 'E') && !digits.isEmpty && digits.all Char.isDigit then
      some (if negative then -(ofDigits digits : Int) else ofDigits digits)
    else none

def readMagnitude? (negative : Bool) (text : List Char) : Option Binary64 :=
  let whole := text.takeWhile Char.isDigit
  let rest := text.dropWhile Char.isDigit
  let behind := if rest.head? = some '.' then rest.drop 1 else []
  let fraction := behind.takeWhile Char.isDigit
  let rest := if rest.head? = some '.' then behind.dropWhile Char.isDigit else rest
  let digits := whole ++ fraction
  if digits.isEmpty then none
  else
    (readExponent? rest).map fun exponent =>
      Binary64.ofDecimal negative (ofDigits digits) digits.length (exponent - fraction.length)

/-- A floating-point number in decimal or scientific notation, an infinity or the undefined
number, whose names may be in any case. -/
def readPlainBinary64? (text : List Char) : Option Binary64 :=
  let (negative, body) := takeSign text
  let name := lowerAscii body
  if name = "inf".toList || name = "infinity".toList then some (.infinite negative)
  else if name = "nan".toList then some .nan
  else readMagnitude? negative body

/-- The floating-point number that a text stands for: with white space around it, or with low lines
inside it, but not with both. -/
def readBinary64? (text : List Char) : Option Binary64 :=
  (readPlainBinary64? (trimMargin text)).orElse fun _ =>
    (ungrouped? text).bind readPlainBinary64?

end FormDialogue.Number
