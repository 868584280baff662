import FormDialogue.Regex.Basic
import FormDialogue.Regex.Token
import FormDialogue.Unicode.Name

/-! # Escapes

What a backslash and the character behind it stand for, inside and outside a character set. Both
know control characters, code points in octal and hexadecimal, and characters by name; outside a
set there are anchors and references to groups too. Refusals are placed at the backslash. -/

namespace FormDialogue.Regex

def isOctal (c : Char) : Bool := '0' ≤ c && c ≤ '7'

def isHex (c : Char) : Bool :=
  c.isDigit || ('a' ≤ c && c ≤ 'f') || ('A' ≤ c && c ≤ 'F')

def isAsciiLetter (c : Char) : Bool := c.isUpper || c.isLower

def digitIn (c : Char) : Nat :=
  if c.isDigit then c.toNat - '0'.toNat
  else if c.isLower then c.toNat - 'a'.toNat + 10
  else c.toNat - 'A'.toNat + 10

def valueIn (base : Nat) (digits : List Char) : Nat :=
  digits.foldl (fun n c => n * base + digitIn c) 0

def control? : Char → Option Nat
  | 'a' => some 7
  | 'b' => some 8
  | 'f' => some 12
  | 'n' => some 10
  | 'r' => some 13
  | 't' => some 9
  | 'v' => some 11
  | '\\' => some 92
  | _ => none

def class? : Char → Option SetItem
  | 'd' => some (.member false .digit)
  | 'D' => some (.member true .digit)
  | 's' => some (.member false .blank)
  | 'S' => some (.member true .blank)
  | 'w' => some (.member false .word)
  | 'W' => some (.member true .word)
  | _ => none

def anchor? : Char → Option Anchor
  | 'A' => some .textStart
  | 'Z' => some .textEnd
  | 'b' => some .boundary
  | 'B' => some .noBoundary
  | _ => none

def hexLength? : Char → Option Nat
  | 'x' => some 2
  | 'u' => some 4
  | 'U' => some 8
  | _ => none

/-- A code point in hexadecimal; `start` is the position of the backslash. -/
def readHex (start length : Nat) (c : Char) (s : Source) : Reading (Nat × Source) := do
  let (digits, s) ← s.takeWhile isHex length
  let text := '\\' :: c :: digits
  if digits.length < length then refuse (.incompleteEscape text) start
  else
    let n := valueIn 16 digits
    if n ≤ 0x10FFFF then return (n, s) else refuse (.badEscape text) start

def readNamed (start : Nat) (s : Source) : Reading (Nat × Source) := do
  let (opened, s) ← s.accept '\x7b'
  if !opened then refuse (.missing "\x7b") s.position
  else
    let (name, s) ← s.takeName '\x7d' "character name"
    match Unicode.named? name with
    | some n => return (n, s)
    | none => refuse (.undefinedName name) start

def checkOctal (start : Nat) (digits : List Char) : Reading Nat :=
  let n := valueIn 8 digits
  if n ≤ 0o377 then .ok n else refuse (.octalRange ('\\' :: digits)) start

/-- A code point that is the same inside and outside a set. -/
def readPlain (start : Nat) (c : Char) (s : Source) : Reading (Nat × Source) :=
  match hexLength? c with
  | some length => readHex start length c s
  | none =>
    if c = 'N' then readNamed start s
    else if isAsciiLetter c || c.isDigit then refuse (.badEscape ['\\', c]) start
    else .ok (c.toNat, s)

/-- An escape inside a set, with the source behind the character. -/
def readSetEscape (start : Nat) (c : Char) (s : Source) : Reading (SetItem × Source) :=
  match control? c, class? c with
  | some n, _ => .ok (.code n, s)
  | none, some item => .ok (item, s)
  | none, none =>
    if isOctal c then do
      let (more, s) ← s.takeWhile isOctal 2
      let n ← checkOctal start (c :: more)
      return (.code n, s)
    else do
      let (n, s) ← readPlain start c s
      return (.code n, s)

/-- What the reader knows about the groups of the expression. -/
structure Groups where
  /-- The widths of the groups, whole expression first; an open group has none yet. -/
  widths : List (Option Width)
  names : List (List Char × Nat)
  /-- The number of groups when the outermost look-behind was opened. -/
  lookbehind : Option Nat
  /-- Groups named by number in conditions, with the positions of the numbers. -/
  pending : List (Nat × Nat)
  deriving Repr

namespace Groups

def none : Groups := ⟨[Option.none], [], Option.none, []⟩

def count (g : Groups) : Nat := g.widths.length

def isClosed (g : Groups) (i : Nat) : Bool := ((g.widths[i]?).bind id).isSome

def width (g : Groups) (i : Nat) : Width := ((g.widths[i]?).bind id).getD (0, 0)

def find? (g : Groups) (name : List Char) : Option Nat := g.names.lookup name

def close (g : Groups) (i : Nat) (w : Width) : Groups :=
  { g with widths := g.widths.set i (some w) }

/-- A look-behind must not look at groups that it contains itself. -/
def checkLookbehind (g : Groups) (i position : Nat) : Reading Unit :=
  match g.lookbehind with
  | Option.none => .ok ()
  | some limit =>
    if !g.isClosed i then refuse .openGroupReference position
    else if limit ≤ i then refuse .lookbehindReference position
    else .ok ()

end Groups

/-- One or two digits name a group; three octal digits name a code point. -/
def readReference (g : Groups) (start : Nat) (c : Char) (s : Source) : Reading (Node × Source) := do
  let (more, s) ← s.takeWhile Char.isDigit 1
  let digits := c :: more
  let (third, s) ←
    if more.length = 1 && digits.all isOctal then s.takeWhile isOctal 1 else pure ([], s)
  if third.isEmpty then
    let i := valueIn 10 digits
    if i < g.count then
      if g.isClosed i then
        g.checkLookbehind i s.position
        return (.backref i, s)
      else refuse .openGroupReference start
    else refuse (.invalidReference i) (start + 1)
  else
    let n ← checkOctal start (digits ++ third)
    return (.code false n, s)

/-- An escape outside a set, with the source behind the character. -/
def readEscape (g : Groups) (start : Nat) (c : Char) (s : Source) : Reading (Node × Source) :=
  match anchor? c, class? c, control? c with
  | some a, _, _ => .ok (.anchor a, s)
  | none, some item, _ => .ok (.set false [item], s)
  | none, none, some n => .ok (.code false n, s)
  | none, none, none =>
    if c = '0' then do
      let (more, s) ← s.takeWhile isOctal 2
      return (.code false (valueIn 8 more), s)
    else if c.isDigit then readReference g start c s
    else do
      let (n, s) ← readPlain start c s
      return (.code false n, s)

end FormDialogue.Regex
