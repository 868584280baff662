import FormDialogue.Draw.Generator
import FormDialogue.Draw.Seed
import FormDialogue.Failure
import FormDialogue.Logging.Notice

/-! # Sources of draws

A source gives indices below a bound: from a generator, or from a script that is repeated. Without a
seed a generator may start in any state. A draw without a positive bound is refused and leaves the
source as it is. -/

namespace FormDialogue.Draw
open Logging (Notice)

inductive Source
  | seeded (generator : Generator)
  /-- A generator for many threads, and whether there was a seed for it. -/
  | shared (withSeed : Bool) (generator : Generator)
  | scripted (script : List Int) (calls : Nat)
  deriving DecidableEq, Repr

namespace Source

instance : Inhabited Source := ⟨scripted [] 0⟩

def ofSeed (seed : Int) : Source := seeded (.ofSeed seed)

/-- The source for a seed, or else one that goes on from a generator. -/
def ofOptionalSeed (seed : Option Int) (fresh : Generator) : Source :=
  match seed with
  | some n => shared true (.ofSeed n)
  | none => shared false fresh

/-- The source for what was given as a seed, which may be absent. -/
def ofDatum (d : Datum) (fresh : Generator) : Except Failure Source :=
  match d, Seed.ofDatum? d with
  | .null, _ => .ok (ofOptionalSeed none fresh)
  | _, some seed => .ok (ofOptionalSeed (some seed.toInt) fresh)
  | _, none => .error .seed

/-- The seeded source for what was given as a seed; zero is the seed when nothing was. -/
def seededBy (d : Datum) : Except Failure Source :=
  match d, Seed.ofDatum? d with
  | .null, _ => .ok (ofSeed 0)
  | _, some seed => .ok (ofSeed seed.toInt)
  | _, none => .error .seed

/-- The entry of a script for a call; the script is repeated. -/
def scriptEntry (script : List Int) (call : Nat) : Int := script.getD (call % script.length) 0

def reduce {n : Nat} (h : 0 < n) (entry : Int) : Fin n :=
  ⟨(entry % n).toNat, by
    have h0 : (0 : Int) < n := by omega
    have := Int.emod_nonneg entry (Int.ne_of_gt h0)
    have := Int.emod_lt_of_pos entry h0
    omega⟩

def draw {n : Nat} (h : 0 < n) : Source → Fin n × Source
  | seeded g =>
    let (i, g) := g.below h
    (i, seeded g)
  | shared withSeed g =>
    let (i, g) := g.below h
    (i, shared withSeed g)
  | scripted script calls => (reduce h (scriptEntry script calls), scripted script (calls + 1))

def next (s : Source) (upper : Int) : Except Failure Nat × Source :=
  if h : 1 ≤ upper then
    let (i, s) := s.draw (show 0 < upper.toNat by omega)
    (.ok i, s)
  else (.error (.emptyRange upper), s)

def nextAll (s : Source) : List Int → List (Except Failure Nat) × Source
  | [] => ([], s)
  | upper :: rest =>
    let (answer, s) := s.next upper
    let (answers, s) := s.nextAll rest
    (answer :: answers, s)

def calls? : Source → Option Nat
  | scripted _ calls => some calls
  | _ => none

def greeting : Source → List Notice
  | seeded _ => [.sourceReady true]
  | shared withSeed _ => [.sourceReady withSeed]
  | scripted .. => []

/-- One of the patterns. A lone pattern is taken without a draw. -/
def pick (s : Source) : List String → Except Failure (String × List Notice) × Source
  | [] => (.error (.noPatterns .selection), s)
  | [p] => (.ok (p, []), s)
  | p :: q :: rest =>
    let patterns := p :: q :: rest
    let (i, s) := s.draw (show 0 < patterns.length by simp [patterns])
    (.ok (patterns[i], [.selected (i + 1) patterns.length]), s)

end Source

end FormDialogue.Draw
