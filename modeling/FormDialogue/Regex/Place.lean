import FormDialogue.Regex.CharTest

/-! # Places and attempts

A place in a text keeps the characters on its left, nearest first, and those on its right. An
attempt to go on from a place reaches another one or fails.

A failed attempt tells where it last set out: where it began or took up an alternative, another
number of rounds, or what follows a part that is settled. Single characters, and what can be ruled
out by the next character alone, never set out. It also leaves the marks of the groups it entered.
They are taken back in a loop that can give rounds back; elsewhere, which takes a possessive loop
around the group, a group that had been entered before keeps them. -/

namespace FormDialogue.Regex

/-- The latest starts and ends of groups: group `i` has the numbers `2 * i` and `2 * i + 1`. -/
abbrev Marks := List (Nat × Nat)

def Marks.put (marks : Marks) (i position : Nat) : Marks :=
  (i, position) :: marks.filter (·.1 != i)

/-- The start and the end of a group that has both. -/
def Marks.bounds? (marks : Marks) (group : Nat) : Option (Nat × Nat) :=
  match marks.lookup (2 * group), marks.lookup (2 * group + 1) with
  | some a, some b => some (a, b)
  | _, _ => none

/-- Whether some group starts behind its end. -/
def Marks.areCrossed (marks : Marks) : Bool :=
  marks.any fun m => (bounds? marks (m.1 / 2)).any fun span => span.2 < span.1

structure Place where
  before : List Char
  after : List Char
  position : Nat
  marks : Marks
  deriving DecidableEq, Repr

namespace Place

def start (text : List Char) : Place := ⟨[], text, 0, []⟩

def step? (p : Place) : Option (Char × Place) :=
  match p.after with
  | [] => none
  | c :: rest =>
    some (c, { p with before := c :: p.before, after := rest, position := p.position + 1 })

def mark (p : Place) (i : Nat) : Place := { p with marks := p.marks.put i p.position }

def span? (p : Place) (group : Nat) : Option (Nat × Nat) :=
  (p.marks.bounds? group).filter fun span => span.1 ≤ span.2

def text (p : Place) : List Char := p.before.reverse ++ p.after

def moveTo (p : Place) (position : Nat) : Place :=
  ⟨(p.text.take position).reverse, p.text.drop position, position, p.marks⟩

def back? : Nat → Place → Option Place
  | 0, p => some p
  | n + 1, p =>
    match p.before with
    | [] => none
    | c :: rest =>
      back? n { p with before := rest, after := c :: p.after, position := p.position - 1 }

/-- The place after a failed attempt that left marks. In a loop that can give rounds back they are
as before; elsewhere a mark stays unless its number is beyond those there were. -/
def undo (p : Place) (looped : Bool) (left : Marks) : Place :=
  if looped then p
  else { p with marks := left.filter fun m => p.marks.any fun old => m.1 ≤ old.1 }

end Place

/-- What comes of an attempt: the place it reaches or, if it fails, the marks it leaves and where
it last set out, if it did so at all. -/
inductive Outcome
  | found (p : Place)
  | failed (marks : Marks) (left : Option Nat)
  deriving DecidableEq, Repr

/-- An attempt that ends before it sets out. -/
def Place.blocked (p : Place) : Outcome := .failed p.marks none

namespace Outcome

def place? : Outcome → Option Place
  | found p => some p
  | failed .. => none

/-- A second attempt after a failed one, from the marks it left. -/
def orElse (first : Outcome) (second : Marks → Outcome) : Outcome :=
  match first with
  | found p => found p
  | failed marks left =>
    match second marks with
    | found p => found p
    | failed marks later => failed marks (later.or left)

def andThen (first : Outcome) (next : Place → Outcome) : Outcome :=
  match first with
  | found p => next p
  | failed marks left => failed marks left

/-- An attempt that set out at a position before anything else. -/
def setOut (position : Nat) : Outcome → Outcome
  | failed marks none => failed marks (some position)
  | outcome => outcome

/-- An attempt that comes back to a position when it fails. -/
def backTo (position : Nat) : Outcome → Outcome
  | failed marks _ => failed marks (some position)
  | outcome => outcome

/-- An attempt from a place that is undone there when it fails. -/
def undone (looped : Bool) (p : Place) : Outcome → Outcome
  | failed marks left => failed (p.undo looped marks).marks left
  | outcome => outcome

end Outcome

abbrev Continuation := Place → Outcome

/-- How a part of an expression goes on from a place. -/
abbrev Run := Place → Continuation → Outcome

end FormDialogue.Regex
