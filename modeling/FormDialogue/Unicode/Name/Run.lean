/-! # Runs of names

The names of consecutive characters in a short form. Each name is written after the one before it:
how many words it starts with in common, its own words, and how many words it ends with in
common. -/

namespace FormDialogue.Unicode

/-- The names of consecutive characters from a first one on, each an entry of a text in pieces. An
entry starts with a small letter from `a` on, which counts the words taken from the front of the
name before; capital words follow; a small letter from `n` on counts the words taken from its end. A
plus sign stands for the name before with the next number, a low line for a code without a name. -/
structure NameRun where
  first : Nat
  pieces : List String

abbrev Words := List (List Char)

def startsEntry (c : Char) : Bool := c = '_' || c = '+' || ('a' ≤ c && c ≤ 'm')

/-- The entries of a text; `entry` is the one that has begun, in reverse. -/
def entriesFrom (entry : List Char) : List Char → List (List Char)
  | [] => [entry.reverse]
  | c :: rest =>
    if startsEntry c then entry.reverse :: entriesFrom [c] rest else entriesFrom (c :: entry) rest

/-- The parts of a text between separators; `part` is the one that has begun, in reverse. -/
def partsAt (separator : Char) (part : List Char) : List Char → Words
  | [] => [part.reverse]
  | c :: rest =>
    if c = separator then part.reverse :: partsAt separator [] rest
    else partsAt separator (c :: part) rest

def wordsOf (text : List Char) : Words := if text.isEmpty then [] else partsAt ' ' [] text

/-- The number that a word ends with, made greater by one, with at least as many digits. -/
def nextNumber (word : List Char) : List Char :=
  let digits := (word.reverse.takeWhile Char.isDigit).reverse
  let n := digits.foldl (fun n c => 10 * n + (c.toNat - '0'.toNat)) 0
  let next := Nat.toDigits 10 (n + 1)
  let zeros := List.replicate (digits.length - next.length) '0'
  word.take (word.length - digits.length) ++ zeros ++ next

def nextInRow : Words → Words
  | [] => []
  | [word] => [nextNumber word]
  | word :: rest => word :: nextInRow rest

/-- How many words at the end a letter keeps. -/
def keptAtEnd (last : Option Char) : Nat :=
  match last with
  | some c => if 'n' ≤ c && c ≤ 'z' then c.toNat - 'n'.toNat + 1 else 0
  | none => 0

/-- The name that an entry stands for behind another name. -/
def nameAfter (before : Words) : List Char → Words
  | [] => []
  | c :: body =>
    if c = '+' then nextInRow before
    else
      let tail := keptAtEnd body.getLast?
      let own := if tail = 0 then body else body.dropLast
      before.take (c.toNat - 'a'.toNat) ++ wordsOf own ++ before.drop (before.length - tail)

/-- The code of a name among entries, the first of which is for `code`. -/
def codeAmong (name : Words) (code : Nat) (before : Words) : List (List Char) → Option Nat
  | [] => none
  | entry :: rest =>
    if entry = ['_'] then codeAmong name (code + 1) before rest
    else
      let words := nameAfter before entry
      if words = name then some code else codeAmong name (code + 1) words rest

def NameRun.find? (r : NameRun) (name : Words) : Option Nat :=
  codeAmong name r.first [] ((entriesFrom [] (r.pieces.flatMap String.toList)).drop 1)

end FormDialogue.Unicode
