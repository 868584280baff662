import FormDialogue.Regex.Place

/-! # Loops

A loop that has its least number of rounds stops after a round that did not move, so a loop makes
at most one round more than the text has characters beyond that number. Greedy and lazy loops try
what follows them after every number of rounds. A possessive loop settles each round for good; when
a round fails, the loop is over, and the match goes on from where that round last set out. -/

namespace FormDialogue.Regex

/-- What a match has to start with, where the next character alone tells. -/
inductive Opening
  | code (c : Nat)
  | set (flags : Flags) (negated : Bool) (items : List SetItem)
  deriving Repr

def Opening.fits (p : Place) (o : Opening) : Bool :=
  p.after.head?.any fun x =>
    match o with
    | code c => x.toNat == c
    | set flags negated items => matchesSet flags items x != negated

/-- Whether the next character differs from the one that has to follow. -/
def Opening.excludes (p : Place) : Opening → Bool
  | code c => !(code c).fits p
  | set .. => false

/-- How the rounds of a loop are made. Rounds of one character are counted in one go, or walked
through if they are compared in lower case. -/
inductive LoopKind
  | counted
  | walked
  | general
  deriving DecidableEq, Repr

/-- A loop: its kind, its numbers of rounds, and whether a loop around it can give rounds back. -/
structure Loop where
  kind : LoopKind
  least : Nat
  most : Option Nat
  looped : Bool
  deriving DecidableEq, Repr

namespace Loop

/-- Whether there is one more round after `count` of them, the last of which began at `last`. -/
def allows (l : Loop) (count : Nat) (last : Option Nat) (p : Place) : Bool :=
  l.most.all (count < ·) && last != some p.position

/-- A round more than needed; a general loop takes it back altogether. -/
def extra (l : Loop) (p : Place) (outcome : Outcome) : Outcome :=
  match l.kind with
  | .general => outcome.undone true p
  | _ => outcome

/-- Prefers more rounds: `count` of them are done, the last began at `last`. -/
def greedyRounds (l : Loop) (body : Run) (k : Continuation) :
    (fuel count : Nat) → (last : Option Nat) → Continuation
  | 0, _, _, p => k p
  | fuel + 1, count, last, p =>
    if count < l.least then body p (greedyRounds l body k fuel (count + 1) last)
    else
      let more :=
        if l.allows count last p then
          l.extra p (body p (greedyRounds l body k fuel (count + 1) (some p.position)))
        else p.blocked
      more.orElse fun marks => k { p with marks := marks }

def lazyRounds (l : Loop) (body : Run) (k : Continuation) :
    (fuel count : Nat) → (last : Option Nat) → Continuation
  | 0, _, _, p => k p
  | fuel + 1, count, last, p =>
    if count < l.least then body p (lazyRounds l body k fuel (count + 1) last)
    else
      (k p).orElse fun marks =>
        let q := { p with marks := marks }
        if l.allows count last q then
          body q (lazyRounds l body k fuel (count + 1) (some p.position))
        else q.blocked

/-- As many rounds as there are, each settled for good. -/
def possessiveRounds (l : Loop) (body : Run) :
    (fuel count : Nat) → (last : Option Nat) → Continuation
  | 0, _, _, p => .found p
  | fuel + 1, count, last, p =>
    if count < l.least then
      (body p .found).andThen (possessiveRounds l body fuel (count + 1) last)
    else if l.allows count last p then
      match body p .found with
      | .found q => possessiveRounds l body fuel (count + 1) (some p.position) q
      | .failed _ left => .found (p.moveTo (left.getD p.position))
    else .found p

/-- One round. A walk sets out in front of its character and again behind it. -/
def round (l : Loop) (body : Run) (p : Place) (k : Continuation) : Outcome :=
  match l.kind with
  | .walked => (body p fun q => (k q).setOut q.position).setOut p.position
  | _ => body p k

/-- The rounds of a loop, which all begin at a place. A general loop comes back to it. -/
def begun (l : Loop) (p : Place) (rounds : Outcome) : Outcome :=
  match l.kind with
  | .general => rounds.backTo p.position
  | _ => rounds.setOut p.position

/-- Whether there are characters enough for the least number of rounds of one character. -/
def hasRoom (l : Loop) (p : Place) : Bool :=
  match l.kind with
  | .general => true
  | _ => l.least ≤ p.after.length

/-- What follows a number of greedy rounds, if the next character does not rule it out. A general
loop leaves it to its rounds to undo this. -/
def afterGreedy (l : Loop) (next : Option Opening) (k : Continuation) (p : Place) : Outcome :=
  if next.any (Opening.excludes p) then k p
  else
    match l.kind with
    | .general => (k p).setOut p.position
    | _ => ((k p).undone l.looped p).setOut p.position

/-- What follows a number of lazy rounds. When it fails, a walk has passed one more character. -/
def afterLazy (l : Loop) (body : Run) (k : Continuation) (p : Place) : Outcome :=
  let tail := (k p).undone l.looped p
  match l.kind with
  | .walked => tail.backTo (((body p .found).place?.map Place.position).getD p.position)
  | _ => tail.backTo p.position

/-- What follows possessive rounds that began at a position. -/
def afterPossessive (l : Loop) (start : Nat) (k : Continuation) (p : Place) : Outcome :=
  match l.kind with
  | .counted => (k p).setOut start
  | _ => (k p).setOut p.position

/-- Runs a loop in front of what starts with `next`, given how its body runs. -/
def run (l : Loop) (greed : Greed) (next : Option Opening) (body : Run) (p : Place)
    (k : Continuation) : Outcome :=
  let fuel := l.least + p.position + p.after.length + 2
  if !l.hasRoom p then p.blocked
  else
    match greed with
    | .greedy => l.begun p (l.greedyRounds (l.round body) (l.afterGreedy next k) fuel 0 none p)
    | .lazy => l.begun p (l.lazyRounds (l.round body) (l.afterLazy body k) fuel 0 none p)
    | .possessive =>
      (l.begun p (l.possessiveRounds (l.round body) fuel 0 none p)).andThen
        (l.afterPossessive p.position k)

end Loop

end FormDialogue.Regex
