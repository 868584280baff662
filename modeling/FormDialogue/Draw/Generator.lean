/-! # Word generator

A generator of 32-bit words with a state of 624 words and a twisted recurrence. The state is filled
from a seed of any length. Numbers with more bits are drawn in words, the least significant first,
and a number below a bound is drawn with as few bits as the bound has, again and again until it is
below. -/

namespace FormDialogue.Draw

structure Generator where
  words : Array UInt32
  /-- The next word to be given out. -/
  position : Nat
  deriving DecidableEq, Repr

namespace Generator

instance : Inhabited Generator := ⟨⟨#[], 0⟩⟩

def length : Nat := 624
def distance : Nat := 397

def word (words : Array UInt32) (i : Nat) : UInt32 := words.getD i 0

/-- A word mixed with its own leading bits. -/
def mixed (w factor : UInt32) : UInt32 := (w ^^^ (w >>> 30)) * factor

/-- The state that a single number spreads to. -/
def spread (first : UInt32) : Array UInt32 :=
  (List.range (length - 1)).foldl
    (fun words i => words.push (mixed (word words i) 1812433253 + UInt32.ofNat (i + 1))) #[first]

/-- The place after `i`; the end wraps to the second place, and the last word is kept in front. -/
def advance (words : Array UInt32) (i : Nat) : Array UInt32 × Nat :=
  if i + 1 < length then (words, i + 1)
  else (words.setIfInBounds 0 (word words (length - 1)), 1)

/-- Works the seed into the state, `count` steps from place `i` and seed word `j`. -/
def absorb (key : Array UInt32) : (count : Nat) → Array UInt32 → (i j : Nat) → Array UInt32 × Nat
  | 0, words, i, _ => (words, i)
  | count + 1, words, i, j =>
    let w := (word words i ^^^ mixed (word words (i - 1)) 1664525) + word key j + UInt32.ofNat j
    let (words, i) := advance (words.setIfInBounds i w) i
    absorb key count words i (if j + 1 < key.size then j + 1 else 0)

def stir : (count : Nat) → Array UInt32 → (i : Nat) → Array UInt32
  | 0, words, _ => words
  | count + 1, words, i =>
    let w := (word words i ^^^ mixed (word words (i - 1)) 1566083941) - UInt32.ofNat i
    let (words, i) := advance (words.setIfInBounds i w) i
    stir count words i

def ofKey (key : Array UInt32) : Generator :=
  let (words, i) := absorb key (max length key.size) (spread 19650218) 1 0
  ⟨(stir (length - 1) words i).setIfInBounds 0 0x80000000, length⟩

/-- The words of a number, least significant first; the fuel bounds how many there are. -/
def wordsOf : Nat → Nat → List UInt32
  | 0, _ => []
  | fuel + 1, n =>
    if n < Nat.pow 2 32 then [UInt32.ofNat n] else UInt32.ofNat n :: wordsOf fuel (n / Nat.pow 2 32)

def ofSeed (seed : Int) : Generator :=
  let n := seed.natAbs
  ofKey (wordsOf (Nat.log2 n + 1) n).toArray

/-- One step of the recurrence. -/
def twisted (words : Array UInt32) (i : Nat) : Array UInt32 :=
  let y := (word words i &&& 0x80000000) ||| (word words ((i + 1) % length) &&& 0x7FFFFFFF)
  let far := word words ((i + distance) % length)
  words.setIfInBounds i (far ^^^ (y >>> 1) ^^^ (if y &&& 1 = 1 then 0x9908B0DF else 0))

def renew (words : Array UInt32) : Array UInt32 := (List.range length).foldl twisted words

def temper (y : UInt32) : UInt32 :=
  let y := y ^^^ (y >>> 11)
  let y := y ^^^ ((y <<< 7) &&& 0x9D2C5680)
  let y := y ^^^ ((y <<< 15) &&& 0xEFC60000)
  y ^^^ (y >>> 18)

def next (g : Generator) : UInt32 × Generator :=
  if g.position < length then
    (temper (word g.words g.position), { g with position := g.position + 1 })
  else
    let words := renew g.words
    (temper (word words 0), ⟨words, 1⟩)

def bits (count : Nat) (g : Generator) : Nat × Generator :=
  if count = 0 then (0, g)
  else
    let (w, g) := g.next
    if count ≤ 32 then ((w.toNat >>> (32 - count)), g)
    else
      let (rest, g) := bits (count - 32) g
      (w.toNat + Nat.pow 2 32 * rest, g)
termination_by count

def bitLength (n : Nat) : Nat := if n = 0 then 0 else Nat.log2 n + 1

/-- The first draw below the bound, with as many bits as the bound has in each draw. There is none
if no draw is ever below it. -/
def redraw {n : Nat} (g : Generator) : Option (Fin n × Generator) :=
  let (r, g) := g.bits (bitLength n)
  if hr : r < n then some (⟨r, hr⟩, g) else g |>.redraw
partial_fixpoint

/-- A number below the bound. It stands for nothing if the draws never come to an end. -/
def below {n : Nat} (h : 0 < n) (g : Generator) : Fin n × Generator := g.redraw.getD (⟨0, h⟩, g)

end Generator

end FormDialogue.Draw
