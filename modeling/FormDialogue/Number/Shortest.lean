import FormDialogue.Number.Binary64

/-! # Shortest decimal text

The text of a floating-point number has the fewest digits that read back as the same number and,
among those, the digits nearest to it. The digits are found by testing, on ever finer decimal
grids, the two neighbours of the number. -/

namespace FormDialogue.Number

/-- A positive decimal number `digits * 10 ^ exponent`. -/
structure Decimal where
  digits : Nat
  exponent : Int
  deriving DecidableEq, Repr

/-- The digits without zeros at the end; the fuel bounds their number. -/
def Decimal.trimFuel : Nat → Decimal → Decimal
  | 0, d => d
  | fuel + 1, d =>
    if d.digits ≠ 0 && d.digits % 10 = 0 then trimFuel fuel ⟨d.digits / 10, d.exponent + 1⟩ else d

def tenTo (num den : Nat) (shift : Int) : Nat × Nat :=
  match shift with
  | .ofNat n => (num * Nat.pow 10 n, den)
  | .negSucc n => (num, den * Nat.pow 10 (n + 1))

/-- A number with the interval of reals that round to it, all in units of one denominator. -/
structure Neighbourhood where
  low : Nat
  centre : Nat
  high : Nat
  den : Nat
  closed : Bool

def Neighbourhood.ofFinite (mantissa : Nat) (exponent : Int) : Neighbourhood :=
  let below := if mantissa = Nat.pow 2 52 && Binary64.minExponent < exponent then 1 else 2
  let (unit, den) := scaled 1 4 exponent
  ⟨(4 * mantissa - below) * unit, 4 * mantissa * unit, (4 * mantissa + 2) * unit, den,
    mantissa % 2 = 0⟩

/-- Whether `digits * 10 ^ exponent` rounds to the number. -/
def Neighbourhood.holds (h : Neighbourhood) (digits : Nat) (exponent : Int) : Bool :=
  let (n, d) := tenTo digits 1 exponent
  let point := n * h.den
  if h.closed then h.low * d ≤ point && point ≤ h.high * d
  else h.low * d < point && point < h.high * d

/-- The better of the two neighbours of the number on the grid of `10 ^ exponent`. -/
def Neighbourhood.onGrid (h : Neighbourhood) (exponent : Int) : Option Decimal :=
  let (n, d) := tenTo h.centre h.den (-exponent)
  let q := n / d
  let twice := 2 * (n % d)
  let down := q ≠ 0 && h.holds q exponent
  let up := h.holds (q + 1) exponent
  if down && up then
    some ⟨if d < twice || (twice = d && q % 2 = 1) then q + 1 else q, exponent⟩
  else if down then some ⟨q, exponent⟩
  else if up then some ⟨q + 1, exponent⟩
  else none

def Neighbourhood.search (h : Neighbourhood) : Nat → Int → Option Decimal
  | 0, _ => none
  | fuel + 1, exponent => (h.onGrid exponent).orElse fun _ => h.search fuel (exponent - 1)

/-- An upper bound for the decimal exponent of the first digit, at most one too high. -/
def firstExponent (num den : Nat) : Int :=
  let bits := leadingBit num den + 1
  Int.fdiv (bits * 30103) 100000 + 1

def shortest (mantissa : Nat) (exponent : Int) : Decimal :=
  let h := Neighbourhood.ofFinite mantissa exponent
  match h.search 20 (firstExponent h.centre h.den) with
  | some d => d.trimFuel 20
  | none => ⟨0, 0⟩

/-- How a number is laid out once its digits are known. -/
structure Layout where
  /-- The least position of the decimal point written without an exponent. -/
  lowest : Int
  /-- The greatest position of the decimal point written without an exponent. -/
  highest : Int
  exponentDigits : Nat

/-- Positional notation from `0.0001` up to sixteen digits before the point; otherwise an exponent
with a sign and at least two digits. -/
def plainLayout : Layout := ⟨-3, 16, 2⟩

def padLeft (width : Nat) (digits : List Char) : List Char :=
  List.replicate (width - digits.length) '0' ++ digits

def decimalDigits (n : Nat) : List Char := Nat.toDigits 10 n

def positional (digits : List Char) (point : Int) : List Char :=
  if point ≤ 0 then '0' :: '.' :: List.replicate point.natAbs '0' ++ digits
  else
    let n := point.toNat
    if digits.length ≤ n then digits ++ List.replicate (n - digits.length) '0' ++ ['.', '0']
    else digits.take n ++ '.' :: digits.drop n

def scientific (width : Nat) (digits : List Char) (exponent : Int) : List Char :=
  let fraction := digits.drop 1
  let tail := if fraction.isEmpty then [] else '.' :: fraction
  digits.take 1 ++ tail ++ 'e' :: (if exponent < 0 then '-' else '+') ::
    padLeft width (decimalDigits exponent.natAbs)

def Layout.write (layout : Layout) (d : Decimal) : List Char :=
  let digits := decimalDigits d.digits
  let point := d.exponent + digits.length
  if layout.lowest ≤ point && point ≤ layout.highest then positional digits point
  else scientific layout.exponentDigits digits (point - 1)

def Binary64.text : Binary64 → List Char
  | .nan => ['n', 'a', 'n']
  | .infinite negative => (if negative then ['-'] else []) ++ ['i', 'n', 'f']
  | .finite negative mantissa exponent =>
    (if negative then ['-'] else []) ++
      if mantissa = 0 then ['0', '.', '0'] else plainLayout.write (shortest mantissa exponent)

end FormDialogue.Number
