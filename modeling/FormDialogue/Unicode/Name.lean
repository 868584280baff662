import FormDialogue.Unicode.Name.Abugidas
import FormDialogue.Unicode.Name.Alphabets
import FormDialogue.Unicode.Name.Ancient
import FormDialogue.Unicode.Name.Forms
import FormDialogue.Unicode.Name.Further
import FormDialogue.Unicode.Name.Ideographic
import FormDialogue.Unicode.Name.Notation
import FormDialogue.Unicode.Name.Pictures
import FormDialogue.Unicode.Name.Signs
import FormDialogue.Unicode.Name.Syllabaries
import FormDialogue.Unicode.Name.Symbols

/-! # Character names

The code of a character by its name. Most names are listed, others are made by rule: those of
ideographs and of other signs that are named by their codes, of the syllables of Hangul, and the
short names of selectors. Names are found in any case, but those of unified ideographs and of Hangul
syllables only in capitals. -/

namespace FormDialogue.Unicode

def ideographs : List (Nat × Nat) := [(0x3400, 0x4DBF), (0x4E00, 0x9FFF), (0x20000, 0x2A6DF),
  (0x2A700, 0x2B738), (0x2B740, 0x2B81D), (0x2B820, 0x2CEA1), (0x2CEB0, 0x2EBE0),
  (0x30000, 0x3134A)]

/-- Other signs that are named by their codes: the word for them, the first and the last. -/
def codedSigns : List (String × Nat × Nat) :=
  [("CJK COMPATIBILITY IDEOGRAPH-", 0xF900, 0xFA6D),
    ("CJK COMPATIBILITY IDEOGRAPH-", 0xFA70, 0xFAD9),
    ("CJK COMPATIBILITY IDEOGRAPH-", 0x2F800, 0x2FA1D),
    ("KHITAN SMALL SCRIPT CHARACTER-", 0x18B00, 0x18CD5), ("NUSHU CHARACTER-", 0x1B170, 0x1B2FB)]

def hexCapital? (c : Char) : Option Nat :=
  if c.isDigit then some (c.toNat - '0'.toNat)
  else if 'A' ≤ c && c ≤ 'F' then some (c.toNat - 'A'.toNat + 10)
  else none

def hexCode? : Nat → List Char → Option Nat
  | n, [] => some n
  | n, c :: rest => (hexCapital? c).bind fun d => hexCode? (16 * n + d) rest

def afterPart? (part : String) (name : List Char) : Option (List Char) :=
  if part.toList.isPrefixOf name then some (name.drop part.length) else none

def ideograph? (name : List Char) : Option Nat := do
  let digits ← afterPart? "CJK UNIFIED IDEOGRAPH-" name
  if digits.length = 4 || digits.length = 5 then
    let n ← hexCode? 0 digits
    if ideographs.any fun r => r.1 ≤ n && n ≤ r.2 then some n else none
  else none

/-- The code of a sign that is named by it, in as many digits as it needs. -/
def codedSign? (name : List Char) : Option Nat :=
  codedSigns.findSome? fun (word, first, last) => do
    let digits ← afterPart? word name
    let n ← hexCode? 0 digits
    if first ≤ n && n ≤ last && digits.length = (Nat.toDigits 16 n).length then some n else none

/-- The code of a selector by its short name: sixteen of them come first, the others later. -/
def selector? (name : List Char) : Option Nat := do
  let digits ← afterPart? "VS" name
  if digits.head?.any (· != '0') && digits.all Char.isDigit && digits.length ≤ 3 then
    let n := digits.foldl (fun n c => 10 * n + (c.toNat - '0'.toNat)) 0
    if n ≤ 16 then some (0xFE00 + n - 1)
    else if n ≤ 256 then some (0xE0100 + n - 17)
    else none
  else none

def leadSounds : List String := ["G", "GG", "N", "D", "DD", "R", "M", "B", "BB", "S", "SS", "", "J",
  "JJ", "C", "K", "T", "P", "H"]

def vowelSounds : List String := ["A", "AE", "YA", "YAE", "EO", "E", "YEO", "YE", "O", "WA", "WAE",
  "OE", "YO", "U", "WEO", "WE", "WI", "YU", "EU", "YI", "I"]

def tailSounds : List String := ["", "G", "GG", "GS", "N", "NJ", "NH", "D", "L", "LG", "LM", "LB",
  "LS", "LT", "LP", "LH", "M", "B", "BS", "S", "SS", "NG", "J", "C", "K", "T", "P", "H"]

/-- The longest sound at the front, with its place in the list and the rest behind it. -/
def takeSound (sounds : List String) (name : List Char) : Option (Nat × List Char) :=
  let fits := sounds.zipIdx.filter fun s => s.1.toList.isPrefixOf name
  let longest := fits.foldl
    (fun best s => if best.any fun b => s.1.length ≤ b.1.length then best else some s)
    (none : Option (String × Nat))
  longest.map fun s => (s.2, name.drop s.1.length)

def syllable? (name : List Char) : Option Nat := do
  let sounds ← afterPart? "HANGUL SYLLABLE " name
  let (lead, rest) ← takeSound leadSounds sounds
  let (vowel, rest) ← takeSound vowelSounds rest
  let (tail, rest) ← takeSound tailSounds rest
  if rest.isEmpty then some (0xAC00 + (lead * 21 + vowel) * 28 + tail) else none

def nameRuns : List NameRun :=
  alphabetNames ++ symbolNames ++ syllabaryNames ++ abugidaNames ++ ideographicNames ++ formNames ++
    notationNames ++ pictureNames ++ ancientNames ++ signNames

def listed? (name : List Char) : Option Nat :=
  (furtherNames.lookup (String.ofList name)).orElse fun _ =>
    nameRuns.findSome? fun r => r.find? (wordsOf name)

def named? (name : List Char) : Option Nat :=
  let capital := name.map Char.toUpper
  if name.isEmpty then none
  else
    (ideograph? name).orElse fun _ => (syllable? name).orElse fun _ =>
      (codedSign? capital).orElse fun _ => (selector? capital).orElse fun _ => listed? capital

end FormDialogue.Unicode
