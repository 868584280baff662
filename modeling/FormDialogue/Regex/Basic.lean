/-! # Regular expressions

The abstract syntax of expressions and their widths. Characters in an expression are code points,
since an escape may name one that no text holds. A scoped group switches flags on and off for its
body; a look-behind carries the least and the greatest width of its body. -/

namespace FormDialogue.Regex

/-- The flags a matcher looks at, and three that only concern how an expression is read. -/
structure Flags where
  caseless : Bool := false
  multiline : Bool := false
  dotAll : Bool := false
  verbose : Bool := false
  ascii : Bool := false
  unicode : Bool := false
  bare : Bool := false
  deriving DecidableEq, Repr

namespace Flags

def none : Flags := {}

def union (a b : Flags) : Flags :=
  ⟨a.caseless || b.caseless, a.multiline || b.multiline, a.dotAll || b.dotAll,
    a.verbose || b.verbose, a.ascii || b.ascii, a.unicode || b.unicode, a.bare || b.bare⟩

def minus (a b : Flags) : Flags :=
  ⟨a.caseless && !b.caseless, a.multiline && !b.multiline, a.dotAll && !b.dotAll,
    a.verbose && !b.verbose, a.ascii && !b.ascii, a.unicode && !b.unicode, a.bare && !b.bare⟩

def meets (a b : Flags) : Bool :=
  a.caseless && b.caseless || a.multiline && b.multiline || a.dotAll && b.dotAll ||
    a.verbose && b.verbose || a.ascii && b.ascii || a.unicode && b.unicode || a.bare && b.bare

/-- The flags inside a scoped group. Naming an alphabet replaces the outer one. -/
def inside (outer on off : Flags) : Flags :=
  let base :=
    if on.ascii || on.unicode then { outer with ascii := false, unicode := false } else outer
  (base.union on).minus off

end Flags

inductive CharClass
  | digit
  | blank
  | word
  deriving DecidableEq, Repr

inductive SetItem
  | code (c : Nat)
  | range (low high : Nat)
  | member (negated : Bool) (cls : CharClass)
  deriving DecidableEq, Repr

inductive Anchor
  | textStart
  | textEnd
  | lineStart
  | lineEnd
  | boundary
  | noBoundary
  deriving DecidableEq, Repr

inductive Greed
  | greedy
  | lazy
  | possessive
  deriving DecidableEq, Repr

inductive Node
  | empty
  | code (negated : Bool) (c : Nat)
  | set (negated : Bool) (items : List SetItem)
  | any
  | anchor (a : Anchor)
  | seq (first second : Node)
  | choice (first second : Node)
  | loop (greed : Greed) (least : Nat) (most : Option Nat) (body : Node)
  | group (index : Option Nat) (on off : Flags) (body : Node)
  | atomic (body : Node)
  | ahead (negated : Bool) (body : Node)
  | behind (negated : Bool) (least most : Nat) (body : Node)
  | backref (index : Nat)
  | condition (index : Nat) (yes no : Node)
  deriving Repr

namespace Node

def ofItems : List Node → Node
  | [] => empty
  | [n] => n
  | n :: rest => seq n (ofItems rest)

def items : Node → List Node
  | empty => []
  | seq first second => first.items ++ second.items
  | n => [n]

/-- An alternative that is a choice itself stays apart from the alternatives around it. -/
def alternative : Node → Node
  | choice a b => group none .none .none (choice a b)
  | n => n

/-- Alternatives as one node, the first one preferred. -/
def ofBranches : List Node → Node
  | [] => empty
  | [n] => n.alternative
  | n :: rest => choice n.alternative (ofBranches rest)

/-- Equality of nodes without parts; nodes with parts are never the same. -/
def sameLeaf : Node → Node → Bool
  | code n c, code m d => n == m && c == d
  | set n xs, set m ys => n == m && xs == ys
  | any, any => true
  | anchor a, anchor b => a == b
  | backref i, backref j => i == j
  | _, _ => false

def isLoop : Node → Bool
  | loop .. => true
  | _ => false

def isAnchor : Node → Bool
  | anchor _ => true
  | _ => false

/-- The body of a group that neither captures nor switches a flag. -/
def plainBody? : Node → Option Node
  | group none on off body => if on = Flags.none && off = Flags.none then some body else none
  | _ => none

end Node

/-- The number of rounds that stands for any number. -/
def repeatLimit : Nat := 4294967295

/-- The least and the greatest number of characters a node matches, as far as they are counted. -/
abbrev Width := Nat × Nat

def Width.clamp (w : Width) : Width := (min w.1 (repeatLimit - 1), min w.2 repeatLimit)

/-- The width of a node, given the widths of the closed groups. -/
def Node.width (groups : Nat → Width) : Node → Width
  | empty | anchor _ | ahead .. | behind .. => (0, 0)
  | code .. | set .. | any => (1, 1)
  | seq a b => Width.clamp ((a.width groups).1 + (b.width groups).1,
      (a.width groups).2 + (b.width groups).2)
  | choice a b => (min (a.width groups).1 (b.width groups).1,
      max (a.width groups).2 (b.width groups).2)
  | loop _ least most body =>
    let w := body.width groups
    Width.clamp (w.1 * least, w.2 * most.getD repeatLimit)
  | group _ _ _ body | atomic body => body.width groups
  | backref i => groups i
  | condition _ yes no =>
    (min (yes.width groups).1 (no.width groups).1, max (yes.width groups).2 (no.width groups).2)

end FormDialogue.Regex
