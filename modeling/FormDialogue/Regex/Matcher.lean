import FormDialogue.Regex.Loop
import FormDialogue.Regex.Parser

/-! # Matching

A matcher tries the ways to match a node in order of preference and hands each place it reaches to
a continuation, until one succeeds. -/

namespace FormDialogue.Regex

def isWordAt (flags : Flags) : List Char → Bool
  | [] => false
  | c :: _ => CharClass.word.holds flags c

/-- A border between a word character and anything else. An empty text has none, and no place
in it is without one either. -/
def Anchor.holds (flags : Flags) (p : Place) : Anchor → Bool
  | .textStart => p.before.isEmpty
  | .textEnd => p.after.isEmpty
  | .lineStart => p.before.isEmpty || (flags.multiline && p.before.head? == some '\n')
  | .lineEnd => p.after.isEmpty || p.after == ['\n'] ||
      (flags.multiline && p.after.head? == some '\n')
  | .boundary => !(p.before.isEmpty && p.after.isEmpty) &&
      isWordAt flags p.before != isWordAt flags p.after
  | .noBoundary => !(p.before.isEmpty && p.after.isEmpty) &&
      isWordAt flags p.before == isWordAt flags p.after

def oneChar (test : Char → Bool) (p : Place) (k : Continuation) : Outcome :=
  match p.step? with
  | some (c, next) => if test c then k next else p.blocked
  | none => p.blocked

def sameChars (same : Char → Char → Bool) : List Char → Continuation → Continuation
  | [], k, p => k p
  | c :: rest, k, p => oneChar (same c) p (sameChars same rest k)

namespace Node

def isEmpty : Node → Bool
  | empty => true
  | _ => false

/-- The kind of a loop over a node. A set with case is compared in lower case as a whole, and a
character with siblings is compared as a set. -/
def loopKind (flags : Flags) : Node → LoopKind
  | any => .counted
  | code _ c =>
    if flags.caseless && foldsCode flags c && !flags.ascii &&
        !(Unicode.siblings (foldCode flags c)).isEmpty then .walked
    else .counted
  | set _ items => if flags.caseless && items.any (SetItem.folds flags) then .walked else .counted
  | group none on off body => body.loopKind (flags.inside on off)
  | _ => .general

/-- What a node starts with, if that is compared as it is written. An empty node starts with what
follows it. -/
def opening? (flags : Flags) (next : Option Opening) : Node → Option Opening
  | empty => next
  | code false c => if flags.caseless && foldsCode flags c then none else some (.code c)
  | set negated items =>
    if flags.caseless && items.any (SetItem.folds flags) then none
    else some (.set flags negated items)
  | seq a b => a.opening? flags (b.opening? flags next)
  | group none on off body => body.opening? (flags.inside on off) next
  | _ => none

/-- What comes of an alternative at a place. It sets out there unless the next character rules it
out; the rest of the alternatives is no alternative itself. -/
def takenUp (flags : Flags) (looped : Bool) (p : Place) (n : Node) (outcome : Outcome) : Outcome :=
  match n with
  | choice .. => outcome
  | n =>
    if (n.opening? flags none).all (Opening.fits p) then
      (outcome.undone looped p).setOut p.position
    else outcome

end Node

/-- Goes on from a place after a look at another one. -/
def look (looped negated : Bool) (outcome : Outcome) (seen p : Place) (k : Continuation) :
    Outcome :=
  match negated, outcome with
  | false, .found q => (k { p with marks := q.marks }).setOut q.position
  | false, .failed marks left => .failed marks (some (left.getD seen.position))
  | true, .found q => .failed q.marks (some q.position)
  | true, .failed marks left => (k (p.undo looped marks)).setOut (left.getD seen.position)

/-- Runs a node, within a loop that can give rounds back or not, in front of what starts with
`next`: the first place that the continuation accepts. -/
def Node.run (flags : Flags) (looped : Bool) (next : Option Opening) :
    Node → Place → Continuation → Outcome
  | .empty, p, k => k p
  | .code negated c, p, k => oneChar (fun x => matchesCode flags c x != negated) p k
  | .set negated items, p, k => oneChar (fun x => matchesSet flags items x != negated) p k
  | .any, p, k => oneChar (fun x => flags.dotAll || x != '\n') p k
  | .anchor a, p, k => if a.holds flags p then k p else p.blocked
  | .seq a b, p, k =>
    a.run flags looped (b.opening? flags next) p fun q => b.run flags looped next q k
  | .choice a b, p, k =>
    (a.takenUp flags looped p (a.run flags looped none p k)).orElse fun marks =>
      let q := { p with marks := marks }
      b.takenUp flags looped q (b.run flags looped none q k)
  | .loop greed least most body, p, k =>
    let loop : Loop := ⟨body.loopKind flags, least, most, looped⟩
    let inside := looped || greed != .possessive
    loop.run greed next (fun q j => body.run flags inside none q j) p k
  | .group none on off body, p, k => body.run (flags.inside on off) looped next p k
  | .group (some i) on off body, p, k =>
    body.run (flags.inside on off) looped none (p.mark (2 * i)) fun q => k (q.mark (2 * i + 1))
  | .atomic body, p, k =>
    ((body.run flags looped none p .found).backTo p.position).andThen fun q =>
      (k q).setOut q.position
  | .ahead negated body, p, k => look looped negated (body.run flags looped none p .found) p p k
  | .behind negated least _ body, p, k =>
    match p.back? least with
    | some b => look looped negated (body.run flags looped none b .found) b p k
    | none => if negated then k p else p.blocked
  | .backref i, p, k =>
    match p.span? i with
    | some (a, b) =>
      let same (c d : Char) : Bool :=
        if flags.caseless then foldCase flags c == foldCase flags d else c == d
      sameChars same ((p.text.drop a).take (b - a)) k p
    | none => p.blocked
  | .condition i yes no, p, k =>
    if (p.span? i).isSome then yes.run flags looped (if no.isEmpty then next else none) p k
    else no.run flags looped next p k

/-- Whether a member of a set has case, or is a range beyond the first plane. -/
def SetItem.isCased (flags : Flags) : SetItem → Bool
  | .code c => foldsCode flags c
  | .range low high => firstPlane < high || rangeFolds flags low high
  | .member .. => false

/-- The set that a node starts with, if it starts with one whose members have no case. -/
def Node.leadingSet? (flags : Flags) : Node → Option (Bool × List SetItem)
  | .set negated items =>
    if flags.caseless && items.any (SetItem.isCased flags) then none else some (negated, items)
  | .seq first _ => first.leadingSet? flags
  | .group _ on off body => body.leadingSet? (flags.inside on off)
  | _ => none

namespace Expression

/-- Whether a search tries a match in front of a character. An expression that starts with a set is
tried only in front of its members, where the set is read in the alphabet of the whole
expression. -/
def tries (e : Expression) (c : Char) : Bool :=
  match e.root.leadingSet? e.flags with
  | some (negated, items) =>
    items.any (SetItem.holds { e.flags with caseless := false } c) != negated
  | none => true

/-- The end of the preferred match that starts at a place. A match with a group that starts behind
its end cannot be reported. -/
def endFrom? (e : Expression) (p : Place) (k : Continuation) : Reading (Option Nat) :=
  match (e.root.run e.flags false none p k).place? with
  | some q => if q.marks.areCrossed then .error .crossedGroup else .ok (some q.position)
  | none => .ok none

def searchFrom (e : Expression) (before : List Char) :
    List Char → Nat → Reading (Option (Nat × Nat))
  | [], i => (e.endFrom? ⟨before, [], i, []⟩ .found).map (Option.map fun j => (i, j))
  | c :: rest, i =>
    match if e.tries c then e.endFrom? ⟨before, c :: rest, i, []⟩ .found else .ok none with
    | .ok (some j) => .ok (some (i, j))
    | .ok none => searchFrom e (c :: before) rest (i + 1)
    | .error refusal => .error refusal

def search (e : Expression) (text : String) : Reading (Option (Nat × Nat)) :=
  e.searchFrom [] text.toList 0

def matchesWhole (e : Expression) (text : String) : Reading Bool :=
  (e.endFrom? (.start text.toList) fun p => if p.after.isEmpty then .found p else p.blocked).map
    Option.isSome

end Expression

end FormDialogue.Regex
