import FormDialogue.Regex.CharSet
import FormDialogue.Regex.GroupFlags
import FormDialogue.Unicode.Identifier
import FormDialogue.Text.Words
import FormDialogue.Unicode.Numeric

/-! # Reading an expression

The reader keeps a stack of open levels, one for each group that is still open, and reads one
construct at a time. Every step passes at least one token, so as many steps as there are tokens
suffice. Common leaves at the front of all alternatives are taken out of them, and alternatives
of single characters become a set. -/

namespace FormDialogue.Regex

/-- What a level becomes when it is closed. -/
inductive LevelKind
  | whole
  | group (index : Option Nat) (on off : Flags)
  | atomic
  | ahead (negated : Bool)
  /-- The outermost look-behind ends the ban on its own groups. -/
  | behind (negated outermost : Bool)
  /-- A condition, with its first branch once that is complete. -/
  | condition (index : Nat) (yes : Option (List Node))
  deriving Repr

structure Level where
  kind : LevelKind
  start : Nat
  verbose : Bool
  /-- Complete alternatives, in order. -/
  branches : List (List Node)
  /-- The nodes of the current alternative, latest first. -/
  items : List Node
  deriving Repr

structure Reader where
  source : Source
  groups : Groups
  flags : Flags
  level : Level
  outer : List Level
  deriving Repr

/-- The nodes of an alternative in order, with plain groups dissolved. -/
def dissolve (latestFirst : List Node) : List Node :=
  latestFirst.reverse.flatMap fun n =>
    match n.plainBody? with
    | some body => body.items
    | none => [n]

/-- The node at the front of every alternative, if it is a leaf and the same in all. -/
def commonHead? : List (List Node) → Option Node
  | [] | [] :: _ => none
  | (n :: _) :: others =>
    if others.all fun b => match b with
      | m :: _ => n.sameLeaf m
      | [] => false
    then some n else none

/-- Takes the leaves that all alternatives start with out of them. -/
def splitHeads : Nat → List (List Node) → List Node × List (List Node)
  | 0, branches => ([], branches)
  | fuel + 1, branches =>
    match commonHead? branches with
    | some n =>
      let (heads, rest) := splitHeads fuel (branches.map List.tail)
      (n :: heads, rest)
    | none => ([], branches)

/-- The members of alternatives that are single characters or sets. -/
def mergedItems? : List (List Node) → Option (List SetItem)
  | [] => some []
  | [.code false c] :: rest => (mergedItems? rest).map (.code c :: ·)
  | [.set false items] :: rest => (mergedItems? rest).map (items ++ ·)
  | _ => none

def joinBranches (branches : List (List Node)) : Node :=
  match branches with
  | [items] => .ofItems items
  | _ =>
    let (heads, rest) := splitHeads ((branches.headD []).length + 1) branches
    let last :=
      match mergedItems? rest with
      | some items => .set false items.eraseDups
      | none => .ofBranches (rest.map .ofItems)
    .ofItems (heads ++ [last])

/-- The calls that are nested while a level is open. -/
def LevelKind.calls : LevelKind → Nat
  | whole => 0
  | condition .. => 1
  | group .. | atomic | ahead _ | behind .. => 2

namespace Reader

/-- The calls that are nested in front of what is read next. -/
def calls (r : Reader) : Nat := (r.level :: r.outer).foldr (fun l n => l.kind.calls + n) 0

def push (r : Reader) (n : Node) : Reader :=
  { r with level := { r.level with items := n :: r.level.items } }

def openLevel (r : Reader) (kind : LevelKind) (start : Nat) (verbose : Bool) : Reader :=
  { r with level := ⟨kind, start, verbose, [], []⟩, outer := r.level :: r.outer }

def body (l : Level) : Node := joinBranches (l.branches ++ [dissolve l.items])

/-- The reader after the innermost group, which a parenthesis has closed. -/
def closeLevel (r : Reader) (parent : Level) (outer : List Level) : Reader :=
  let inner := r.level
  let back : Reader := { r with level := parent, outer := outer }
  let content := body inner
  let width := content.width r.groups.width
  match inner.kind with
  | .whole => back
  | .group index on off =>
    let groups := match index with
      | some i => r.groups.close i width
      | none => r.groups
    { back with groups := groups }.push (.group index on off content)
  | .atomic => back.push (.atomic content)
  | .ahead negated => back.push (.ahead negated content)
  | .behind negated outermost =>
    let groups := if outermost then { r.groups with lookbehind := none } else r.groups
    { back with groups := groups }.push (.behind negated width.1 width.2 content)
  | .condition index yes =>
    match yes with
    | some first => back.push (.condition index (.ofItems first) (.ofItems (dissolve inner.items)))
    | none => back.push (.condition index (.ofItems (dissolve inner.items)) .empty)

end Reader

/-- A number of rounds. One with too many digits is not read at all. -/
def countOf [Limits] (digits : List Char) : Reading Nat :=
  match Limits.exceeded? digits.length with
  | some limit => .error (.longCount limit digits.length)
  | none =>
    let n := valueIn 10 digits
    if repeatLimit ≤ n then .error .hugeCount else .ok n

/-- The counts in braces, if what follows the opening brace has their form. -/
def readCounts [Limits] (s : Source) : Reading (Option (Nat × Option Nat × Source)) := do
  let start := s.position
  let length := s.rest.length
  let (low, s) ← s.takeWhile Char.isDigit length
  let (comma, s) ← s.accept ','
  let (high, s) ← if comma then s.takeWhile Char.isDigit length else pure (low, s)
  let (closed, s) ← s.accept '\x7d'
  if !closed then return none
  else
    let least ← countOf low
    if high.isEmpty then return some (least, none, s)
    else
      let most ← countOf high
      if most < least then refuse .repeatOrder start else return some (least, some most, s)

def readGreed (s : Source) : Reading (Greed × Source) := do
  let (question, s) ← s.accept '?'
  if question then return (.lazy, s)
  else
    let (plus, s) ← s.accept '+'
    return (if plus then .possessive else .greedy, s)

/-- Repeats the latest node; `start` is the position of the quantifier. -/
def quantify (r : Reader) (start least : Nat) (most : Option Nat) (s : Source) :
    Reading Reader := do
  match r.level.items with
  | [] => refuse .nothingToRepeat start
  | n :: earlier =>
    if n.isAnchor then refuse .nothingToRepeat start
    else if n.isLoop then refuse .multipleRepeat start
    else
      let (greed, s) ← readGreed s
      let loop := Node.loop greed least most (n.plainBody?.getD n)
      return { r with source := s, level := { r.level with items := loop :: earlier } }

def checkName (name : List Char) (s : Source) : Reading Unit :=
  if Unicode.isIdentifier name then .ok ()
  else refuse (.badGroupName name) (s.position - (name.length + 1))

def openGroup (r : Reader) (start : Nat) (name : Option (List Char)) (s : Source) :
    Reading Reader :=
  let index := r.groups.count
  let groups := { r.groups with widths := r.groups.widths ++ [none] }
  let opened (groups : Groups) : Reader :=
    { r with source := s, groups := groups }.openLevel (.group (some index) .none .none) start
      r.level.verbose
  match name with
  | none => .ok (opened groups)
  | some name =>
    match r.groups.find? name with
    | some old => refuse (.redefinedGroup name index old) (s.position - (name.length + 1))
    | none => .ok (opened { groups with names := (name, index) :: groups.names })

def namedReference (r : Reader) (s : Source) : Reading Reader := do
  let (name, s) ← s.takeName ')' "group name"
  checkName name s
  let position := s.position - (name.length + 1)
  match r.groups.find? name with
  | none => refuse (.unknownGroupName name) position
  | some i =>
    if r.groups.isClosed i then
      r.groups.checkLookbehind i s.position
      return { r with source := s }.push (.backref i)
    else refuse .openGroupReference position

/-- The digits of a group number, of any script, with single low lines between them. -/
def groupDigits : (value : Nat) → (started : Bool) → List Char → Option Nat
  | value, started, [] => if started then some value else none
  | value, started, c :: rest =>
    match Unicode.digitValue? c with
    | some d => groupDigits (10 * value + d) true rest
    | none => if c = '_' && started && !rest.isEmpty then groupDigits value false rest else none

/-- A group number of a length that is read; blanks around it and a sign are allowed. -/
def groupNumber? [Limits] (text : List Char) : Option Nat :=
  let digits := text.countP fun c => (Unicode.digitValue? c).isSome
  if (Limits.exceeded? digits).isSome then none
  else
    match Text.trim text with
    | '-' :: rest => (groupDigits 0 false rest).bind fun n => if n = 0 then some 0 else none
    | '+' :: rest => groupDigits 0 false rest
    | rest => groupDigits 0 false rest

def groupLimit : Nat := 1073741823

def openCondition [Limits] (r : Reader) (start : Nat) (s : Source) : Reading Reader := do
  let (name, s) ← s.takeName ')' "group name"
  let position := s.position - (name.length + 1)
  let (index, groups) ←
    if Unicode.isIdentifier name then
      match r.groups.find? name with
      | none => refuse (.unknownGroupName name) position
      | some i => pure (i, r.groups)
    else
      match groupNumber? name with
      | none => refuse (.badGroupName name) position
      | some 0 => refuse .badGroupNumber position
      | some i =>
        if groupLimit ≤ i then refuse (.invalidReference i) position
        else if (r.groups.pending.lookup i).isSome then pure (i, r.groups)
        else pure (i, { r.groups with pending := r.groups.pending ++ [(i, position)] })
  groups.checkLookbehind index s.position
  return { r with source := s, groups := groups }.openLevel (.condition index none) start
    r.level.verbose

def skipComment (start : Nat) : Nat → Source → Reading Source
  | 0, _ => refuse .unterminatedComment start
  | fuel + 1, s => do
    match ← s.take with
    | (none, _) => refuse .unterminatedComment start
    | (some t, s) => if t.is ')' then return s else skipComment start fuel s

/-- Opens a look-behind. Groups opened from here on are out of its reach. -/
def openBehind (r : Reader) (start : Nat) (negated : Bool) (s : Source) : Reader :=
  let groups := match r.groups.lookbehind with
    | some _ => r.groups
    | none => { r.groups with lookbehind := some r.groups.count }
  { r with source := s, groups := groups }.openLevel
    (.behind negated r.groups.lookbehind.isNone) start r.level.verbose

/-- The flags at the head of a group, whose first letter or hyphen has been passed. -/
def openFlags (r : Reader) (start : Nat) (head : FlagHead) (s : Source) : Reading Reader :=
  match head with
  | .whole on =>
    let atStart := r.outer.isEmpty && r.level.branches.isEmpty && r.level.items.isEmpty
    if !atStart then refuse .lateGlobalFlags start
    else
      let flags := r.flags.union on
      .ok { r with source := s, flags := flags, level := { r.level with verbose := flags.verbose } }
  | .one on off =>
    .ok ({ r with source := s }.openLevel (.group none on off) start
      ((r.level.verbose || on.verbose) && !off.verbose))

/-- What follows the opening parenthesis and a question mark. -/
def readExtension [Limits] (r : Reader) (start : Nat) (s : Source) : Reading Reader := do
  match ← s.take with
  | (none, s) => refuse .unexpectedEnd s.position
  | (some t, s) =>
    let plain (kind : LevelKind) : Reader :=
      { r with source := s }.openLevel kind start r.level.verbose
    match t with
    | .char 'P' => do
      let (named, s) ← s.accept '<'
      if named then
        let (name, s) ← s.takeName '>' "group name"
        checkName name s
        openGroup r start (some name) s
      else
        let (reference, s) ← s.accept '='
        if reference then namedReference r s
        else
          match ← s.take with
          | (none, s) => refuse .unexpectedEnd s.position
          | (some u, s) =>
            refuse (.unknownExtension ('P' :: u.text)) (s.position - (u.text.length + 2))
    | .char ':' => return plain (.group none .none .none)
    | .char '#' => do
      let s ← skipComment start (s.rest.length + 1) s
      return { r with source := s }
    | .char '=' => return plain (.ahead false)
    | .char '!' => return plain (.ahead true)
    | .char '<' => do
      match ← s.take with
      | (none, s) => refuse .unexpectedEnd s.position
      | (some u, s) =>
        match u with
        | .char '=' => return openBehind r start false s
        | .char '!' => return openBehind r start true s
        | _ => refuse (.unknownExtension ('<' :: u.text)) (s.position - (u.text.length + 2))
    | .char '(' => openCondition r start s
    | .char '>' => return plain .atomic
    | .char '-' => do
      let (head, s) ← endOn .none '-' s
      openFlags r start head s
    | _ =>
      match t.flag? with
      | some flag => do
        let (head, s) ← readOn .none (s.rest.length + 1) flag s
        openFlags r start head s
      | none => refuse (.unknownExtension t.text) (s.position - (t.text.length + 1))

def readParenthesis [Limits] (r : Reader) (start : Nat) (s : Source) : Reading Reader := do
  let (extended, s) ← s.accept '?'
  if extended then readExtension r start s else openGroup r start none s

def skipLine : Nat → Source → Reading Source
  | 0, s => .ok s
  | fuel + 1, s => do
    match ← s.take with
    | (none, s) => return s
    | (some t, s) => if t.is '\n' then return s else skipLine fuel s

/-- Blanks that do not count in a verbose expression. -/
def isVerboseBlank (c : Char) : Bool :=
  c = ' ' || c = '\t' || c = '\n' || c = '\r' || c = '\x0b' || c = '\x0c'

/-- The reader after one character that is neither a bar nor a closing parenthesis. -/
def readChar [Limits] (r : Reader) (start : Nat) (c : Char) (s : Source) : Reading Reader :=
  let placed (s : Source) (n : Node) : Reader := { r with source := s }.push n
  if r.level.verbose && isVerboseBlank c then .ok { r with source := s }
  else if r.level.verbose && c = '#' then do
    let s ← skipLine (s.rest.length + 1) s
    return { r with source := s }
  else
    match c with
    | '[' => do
      let (n, s) ← readSet start s
      return placed s n
    | '?' => quantify r start 0 (some 1) s
    | '*' => quantify r start 0 none s
    | '+' => quantify r start 1 none s
    | '\x7b' =>
      if s.peek (· == '\x7d') then .ok (placed s (.code false c.toNat))
      else do
        match ← readCounts s with
        | none => return placed s (.code false c.toNat)
        | some (least, most, s) => quantify r start least most s
    | '.' => .ok (placed s .any)
    | '(' => readParenthesis r start s
    | '^' => .ok (placed s (.anchor .lineStart))
    | '$' => .ok (placed s (.anchor .lineEnd))
    | _ => .ok (placed s (.code false c.toNat))

/-- A bar ends an alternative, or the first branch of a condition. -/
def readBar (r : Reader) (s : Source) : Reader :=
  match r.level.kind with
  | .condition index none =>
    let kind := LevelKind.condition index (some (dissolve r.level.items))
    { r with source := s, level := { r.level with kind := kind, items := [] } }
  | _ =>
    let branches := r.level.branches ++ [dissolve r.level.items]
    { r with source := s, level := { r.level with branches := branches, items := [] } }

/-- An expression that has been read: its root and the flags that hold for all of it. -/
structure Expression where
  root : Node
  flags : Flags
  deriving Repr

/-- The references by number to groups that turned out not to exist. -/
def checkPending (g : Groups) : Reading Unit :=
  match g.pending.find? fun p => g.count ≤ p.1 with
  | some (i, position) => refuse (.invalidReference i) position
  | none => .ok ()

/-- The end of the expression, or a parenthesis that closes nothing. -/
def finish (r : Reader) : Reading Expression :=
  if r.flags.ascii && r.flags.unicode then .error .twoAlphabets
  else if !r.source.rest.isEmpty then refuse .unbalanced r.source.position
  else do
    checkPending r.groups
    return ⟨Reader.body r.level, r.flags⟩

/-- A second bar in a condition is refused before it is passed. -/
def Level.isFull (l : Level) : Bool :=
  match l.kind with
  | .condition _ (some _) => true
  | _ => false

/-- The reader after one character, unless a group was opened within too many others. -/
def readNested [Limits] (r : Reader) (start : Nat) (c : Char) (s : Source) : Reading Reader := do
  let r ← readChar r start c s
  if Limits.mostCalls < r.calls then .error .tooDeep else return r

def readAll [Limits] : Nat → Reader → Reading Expression
  | 0, r => finish r
  | fuel + 1, r =>
    let position := r.source.position
    match r.source.next?, r.outer with
    | none, [] => finish r
    | none, _ :: _ => refuse .unterminatedGroup r.level.start
    | some (.char ')'), [] => finish r
    | some (.char ')'), parent :: outer => do
      let (_, s) ← r.source.take
      readAll fuel ({ r with source := s }.closeLevel parent outer)
    | some (.char '|'), _ =>
      if r.level.isFull then refuse .tooManyBranches position
      else do
        let (_, s) ← r.source.take
        readAll fuel (readBar r s)
    | some (.char c), _ => do
      let (_, s) ← r.source.take
      readAll fuel (← readNested r position c s)
    | some (.escape c), _ => do
      let (_, s) ← r.source.take
      let (n, s) ← readEscape r.groups position c s
      readAll fuel ({ r with source := s }.push n)
    | some .dangling, _ => refuse .endInEscape position

def read [Limits] (flags : Flags) (pattern : List Char) : Reading Expression := do
  let source ← Source.ofPattern pattern
  readAll (source.rest.length + 1)
    ⟨source, .none, flags, ⟨.whole, 0, flags.verbose, [], []⟩, []⟩

/-- The first construct that cannot be matched: a look-behind without a fixed width, or a
loop in an expression that forbids them. -/
def Node.check (bare : Bool) : Node → Reading Unit
  | .empty | .code .. | .set .. | .any | .anchor _ | .backref _ => .ok ()
  | .seq a b | .choice a b | .condition _ a b => do
    a.check bare
    b.check bare
  | .loop greed _ _ body =>
    if bare then
      .error (.fault (.bareLoop (match greed with
        | .greedy => "MAX_REPEAT"
        | .lazy => "MIN_REPEAT"
        | .possessive => "POSSESSIVE_REPEAT")) none)
    else body.check bare
  | .group _ _ _ body | .atomic body | .ahead _ body => body.check bare
  | .behind _ least most body =>
    if least ≠ most then .error (.fault .openWidth none) else body.check bare

def reachLimit : Nat := 2147483648

/-- Whether a node looks farther back than a matcher can. -/
def Node.overreaches : Node → Bool
  | .empty | .code .. | .set .. | .any | .anchor _ | .backref _ => false
  | .seq a b | .choice a b | .condition _ a b => a.overreaches || b.overreaches
  | .loop _ _ _ body | .group _ _ _ body | .atomic body | .ahead _ body => body.overreaches
  | .behind _ least _ body => reachLimit ≤ least || body.overreaches

/-- The calls that are nested where a node is translated. The nodes of a sequence are side by side,
and so are the alternatives of a choice. -/
def Node.calls : Node → Nat
  | .empty | .code .. | .set .. | .any | .anchor _ | .backref _ => 0
  | .seq a b => max a.calls b.calls
  | .choice a (.choice b c) => max (a.calls + 1) (choice b c).calls
  | .choice a b | .condition _ a b => max a.calls b.calls + 1
  | .group none on off body => if on = .none && off = .none then body.calls else body.calls + 1
  | .group (some _) _ _ body | .loop _ _ _ body | .atomic body | .ahead _ body
  | .behind _ _ _ body => body.calls + 1

def compile [Limits] (flags : Flags) (pattern : String) : Reading Expression := do
  let e ← read flags pattern.toList
  if Limits.mostCalls < e.root.calls then .error .tooDeep
  else
    e.root.check e.flags.bare
    if e.root.overreaches then .error .overreach else return e

end FormDialogue.Regex
