import FormDialogue.Regex.Basic
import FormDialogue.Unicode.Blank
import FormDialogue.Unicode.Fold
import FormDialogue.Unicode.Numeric

/-! # Tests on single characters

Whether a character is the one an expression names, or one of a set. Without regard to case, the
character read is put into lower case and compared with the lower case of the named one and with
its siblings. The basic alphabet knows the case of its own letters only.

A set that names something with case is compared in lower case throughout. What it names beyond
the first plane is compared as it is written; a range that reaches there also accepts the
characters whose upper case it holds. -/

namespace FormDialogue.Regex
open Unicode (lowerHead upperHead siblings hasCase)

def firstPlane : Nat := 0xFFFF

/-- The character of a code point, unless it is half of a surrogate pair. -/
def charOf? (c : Nat) : Option Char :=
  if c.isValidChar then some (Char.ofNat c) else none

/-- The lower case that caseless comparison goes by. -/
def foldCase (flags : Flags) (c : Char) : Char := if flags.ascii then c.toLower else lowerHead c

def foldCode (flags : Flags) (c : Nat) : Nat :=
  ((charOf? c).map fun x => (foldCase flags x).toNat).getD c

def folds (flags : Flags) (c : Char) : Bool := if flags.ascii then c.isAlpha else hasCase c

def foldsCode (flags : Flags) (c : Nat) : Bool := ((charOf? c).map (folds flags)).getD false

/-- Two lower-case code points of one caseless character. -/
def sameFold (flags : Flags) (a b : Nat) : Bool :=
  a == b || (!flags.ascii && (siblings a).contains b)

def matchesCode (flags : Flags) (c : Nat) (x : Char) : Bool :=
  if flags.caseless && foldsCode flags c then
    sameFold flags (foldCode flags c) (foldCase flags x).toNat
  else x.toNat == c

def CharClass.holds (flags : Flags) (x : Char) : CharClass → Bool
  | .digit => if flags.ascii then x.isDigit else Unicode.isDigit x
  | .blank => if flags.ascii then x = ' ' || (9 ≤ x.toNat && x.toNat ≤ 13) else Unicode.isBlank x
  | .word => if flags.ascii then x.isAlphanum || x = '_' else Unicode.isWord x

/-- The code points whose lower case is the given one. -/
def lowerSources (flags : Flags) (l : Nat) : List Nat :=
  if flags.ascii then
    if 'a'.toNat ≤ l && l ≤ 'z'.toNat then [l, l - 32]
    else if 'A'.toNat ≤ l && l ≤ 'Z'.toNat then [] else [l]
  else
    (if foldCode flags l = l then [l] else []) ++
    (if l = 'i'.toNat then [0x130] else []) ++
    Unicode.lowerShifts.toList.filterMap fun s =>
      let c := Int.toNat (l - s.offset)
      if s.first ≤ c && s.target? c = some l then some c else none

/-- Whether a range holds a character whose lower case agrees with the given lower case. -/
def foldedRange (flags : Flags) (low high l : Nat) : Bool :=
  (l :: if flags.ascii then [] else siblings l).any fun m =>
    (lowerSources flags m).any fun c => low ≤ c && c ≤ high

def shiftsMeet (shifts : Array Unicode.Shift) (low high : Nat) : Bool :=
  shifts.any fun s =>
    let from_ := max low s.first
    let first := from_ + (s.stride - (from_ - s.first) % s.stride) % s.stride
    first ≤ s.last && first ≤ high

def rangeFolds (flags : Flags) (low high : Nat) : Bool :=
  if flags.ascii then
    (max low 'A'.toNat ≤ min high 'Z'.toNat) || (max low 'a'.toNat ≤ min high 'z'.toNat)
  else
    shiftsMeet Unicode.lowerShifts low high || shiftsMeet Unicode.upperShifts low high ||
      Unicode.upperSequences.any fun e => low ≤ e.1 && e.1 ≤ high

/-- Whether a set has to be compared in lower case because of this member. -/
def SetItem.folds (flags : Flags) : SetItem → Bool
  | .code c => firstPlane < c || foldsCode flags c
  | .range low high => firstPlane < high || rangeFolds flags low high
  | .member .. => false

/-- A member of a set against a character, the latter in lower case if the set is compared so. -/
def SetItem.holds (flags : Flags) (x : Char) : SetItem → Bool
  | .code c =>
    if flags.caseless && c ≤ firstPlane then sameFold flags (foldCode flags c) x.toNat
    else x.toNat == c
  | .range low high =>
    let written := low ≤ x.toNat && x.toNat ≤ high
    if !flags.caseless then written
    else
      foldedRange flags low (min high firstPlane) x.toNat ||
        (firstPlane < high &&
          (written || (low ≤ (upperHead x).toNat && (upperHead x).toNat ≤ high)))
  | .member negated cls => cls.holds flags x != negated

def matchesSet (flags : Flags) (items : List SetItem) (x : Char) : Bool :=
  let x := if flags.caseless && items.any (SetItem.folds flags) then foldCase flags x else x
  items.any (SetItem.holds flags x)

end FormDialogue.Regex
