/-! # Binary floating-point numbers of 64 bits

A finite number is a sign, a mantissa below `2 ^ 53` and a power of two. A quotient of natural
numbers is rounded to the nearest such number, and a tie goes to the even mantissa. Numbers are
compared by their exact values, so integers of any size can be compared with them. -/

namespace FormDialogue.Number

inductive Binary64
  | nan
  | infinite (negative : Bool)
  | finite (negative : Bool) (mantissa : Nat) (exponent : Int)
  deriving DecidableEq, Repr

/-- The nearest integer to `num / den`; a tie goes to the even one. -/
def roundHalfEven (num den : Nat) : Nat :=
  let q := num / den
  let twice := 2 * (num % den)
  if den < twice || (twice == den && q % 2 == 1) then q + 1 else q

/-- `num * 2 ^ shift / den` as a quotient of natural numbers. -/
def scaled (num den : Nat) (shift : Int) : Nat × Nat :=
  match shift with
  | .ofNat n => (num * Nat.pow 2 n, den)
  | .negSucc n => (num, den * Nat.pow 2 (n + 1))

/-- The exponent of the leading bit of a positive quotient. -/
def leadingBit (num den : Nat) : Int :=
  let guess : Int := (Nat.log2 num : Int) - Nat.log2 den
  let (n, d) := scaled num den (-guess)
  if n < d then guess - 1 else guess

namespace Binary64

def minExponent : Int := -1074
def maxExponent : Int := 971
def mantissaLimit : Nat := Nat.pow 2 53

def zero (negative : Bool) : Binary64 := .finite negative 0 minExponent

/-- The number nearest to `num / den`. Beyond the largest finite number it is infinite. -/
def ofQuotient (negative : Bool) (num den : Nat) : Binary64 :=
  if num = 0 then zero negative
  else
    let exponent := max minExponent (leadingBit num den - 52)
    let (n, d) := scaled num den (-exponent)
    let mantissa := roundHalfEven n d
    if mantissa = mantissaLimit then
      if exponent < maxExponent then .finite negative (mantissaLimit / 2) (exponent + 1)
      else .infinite negative
    else if exponent ≤ maxExponent then .finite negative mantissa exponent
    else .infinite negative

def ofInt (n : Int) : Binary64 := ofQuotient (n < 0) n.natAbs 1

/-- The number nearest to `digits * 10 ^ exponent`, for digits that are no longer than
`length`. Exponents far outside the range are settled without computing the power. -/
def ofDecimal (negative : Bool) (digits length : Nat) (exponent : Int) : Binary64 :=
  if digits = 0 || exponent + length < -400 then zero negative
  else if 400 < exponent + Nat.log2 digits / 4 then .infinite negative
  else
    match exponent with
    | .ofNat n => ofQuotient negative (digits * Nat.pow 10 n) 1
    | .negSucc n => ofQuotient negative digits (Nat.pow 10 (n + 1))

def isFinite : Binary64 → Bool
  | .finite .. => true
  | _ => false

/-- The integer that a whole number is equal to. -/
def toInt? : Binary64 → Option Int
  | .finite negative mantissa exponent =>
    let (n, d) := scaled mantissa 1 exponent
    let whole : Int := (n / d : Nat)
    if n % d = 0 then some (if negative then -whole else whole) else none
  | _ => none

end Binary64

/-- The real line with both infinities, and a value that is not comparable to any. -/
inductive Extended
  | undefined
  | bottom
  | real (value : Rat)
  | top
  deriving DecidableEq, Repr

namespace Extended

def le : Extended → Extended → Bool
  | undefined, _ | _, undefined => false
  | bottom, _ | _, top => true
  | real a, real b => a ≤ b
  | _, _ => false

def lt : Extended → Extended → Bool
  | undefined, _ | _, undefined => false
  | a, b => !le b a

end Extended

def Binary64.value : Binary64 → Extended
  | .nan => .undefined
  | .infinite true => .bottom
  | .infinite false => .top
  | .finite negative mantissa exponent =>
    let (n, d) := scaled mantissa 1 exponent
    .real (mkRat (if negative then -(n : Int) else n) d)

/-- The numbers that a value may be: integers of any size and floating-point numbers. -/
inductive Numeral
  | int (n : Int)
  | binary (x : Binary64)
  deriving DecidableEq, Repr

def Numeral.value : Numeral → Extended
  | .int n => .real n
  | .binary x => x.value

end FormDialogue.Number
