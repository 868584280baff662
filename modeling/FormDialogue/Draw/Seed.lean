import FormDialogue.Datum.Basic
import FormDialogue.Draw.Digest

/-! # Seeds

What a generator can be seeded with: an integer, a floating-point number or a text. Every seed
stands for an integer. A text is followed by its digest, so that similar texts have seeds that
differ much. -/

namespace FormDialogue.Draw
open Number (Binary64)

inductive Seed
  | whole (n : Int)
  | binary (x : Binary64)
  | text (s : String)
  deriving DecidableEq, Repr

namespace Seed

/-- The prime number that the values of floating-point numbers are reduced by. -/
def modulus : Nat := Nat.pow 2 61 - 1

/-- The remainder of a finite number. Powers of two repeat after 61 steps. -/
def remainder (mantissa : Nat) (exponent : Int) : Nat :=
  mantissa * Nat.pow 2 (exponent % 61).toNat % modulus

/-- The integer for a floating-point number, negative ones being counted down from the end of a word
of 64 bits. -/
def ofBinary : Binary64 → Nat
  | .nan => 0
  | .infinite negative => if negative then Nat.pow 2 64 - 314159 else 314159
  | .finite negative mantissa exponent =>
    let r := remainder mantissa exponent
    if !negative || r = 0 then r else if r = 1 then Nat.pow 2 64 - 2 else Nat.pow 2 64 - r

def ofBytes (bytes : List Nat) : Nat := bytes.foldl (fun n b => 256 * n + b) 0

def bytesOfText (s : String) : List Nat := s.toUTF8.toList.map UInt8.toNat

def toInt : Seed → Int
  | whole n => n
  | binary x => ofBinary x
  | text s =>
    let bytes := bytesOfText s
    ofBytes (bytes ++ Digest.ofBytes bytes)

def ofDatum? : Datum → Option Seed
  | .bool b => some (whole (if b then 1 else 0))
  | .int n => some (whole n)
  | .real x => some (binary x)
  | .text s => some (text s)
  | .member m => some (text m.name)
  | _ => none

end Seed

end FormDialogue.Draw
