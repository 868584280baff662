import FormDialogue.Unicode.Blank
import FormDialogue.Unicode.CaseMap
import FormDialogue.Unicode.Cased
import FormDialogue.Unicode.Numeric

/-! # Case of a text

Lower and upper case of whole texts, and the case of display texts. A capital sigma becomes a
final sigma exactly when a cased character stands before it and none stands after it, with
case-ignorable characters skipped on both sides. The remaining characters have the same mapping
everywhere. -/

namespace FormDialogue.Text
open Unicode (isBlank isCased isCaseIgnorable isWord lowerChar upperChar)

/-- The first character that is not case-ignorable exists and is cased. -/
def meetsCased (text : List Char) : Bool :=
  match text.dropWhile isCaseIgnorable with
  | [] => false
  | c :: _ => isCased c

/-- Lower case in context: `before` is what stands to the left, nearest character first. -/
def lowerIn (before : List Char) (c : Char) (after : List Char) : List Char :=
  if c = 'Σ' then
    if meetsCased before && !meetsCased after then ['ς'] else ['σ']
  else lowerChar c

def lowerFrom (before : List Char) : List Char → List Char
  | [] => []
  | c :: rest => lowerIn before c rest ++ lowerFrom (c :: before) rest

def lower (text : List Char) : List Char := lowerFrom [] text

def upper (text : List Char) : List Char := text.flatMap upperChar

/-- Upper case for the first character of each word that starts with a word character. -/
def capitalizeFrom (start : Bool) : List Char → List Char
  | [] => []
  | c :: rest => (if start && isWord c then upperChar c else [c]) ++ capitalizeFrom (isBlank c) rest

def capitalize (text : List Char) : List Char := capitalizeFrom true text

inductive Casing
  | default
  | initialUpper
  | lower
  | upper
  | none
  deriving DecidableEq, Repr

/-- The text in the given case. An undecided case leaves it as it is. -/
def Casing.apply : Casing → List Char → List Char
  | .lower, text => Text.lower text
  | .upper, text => Text.upper text
  | .initialUpper, text => capitalize (Text.lower text)
  | .default, text | .none, text => text

def normalize (casing : Casing) (text : String) : String :=
  String.ofList (casing.apply text.toList)

theorem normalize_none (text : String) : normalize .none text = text := by
  simp [normalize, Casing.apply]

end FormDialogue.Text
