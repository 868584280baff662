/-! # Digests

A digest of 64 bytes of a text of bytes, by the secure hash algorithm with words of 64 bits. The
text is padded to blocks of 128 bytes, and every block is worked into a state of eight words in
eighty rounds. The constants are the first bits behind the point of roots of prime numbers. -/

namespace FormDialogue.Draw.Digest

def isPrime (n : Nat) : Bool := 2 ≤ n && (List.range n).all fun d => d < 2 || n % d != 0

/-- The primes below 410, of which there are eighty. -/
def primes : List Nat := (List.range 410).filter isPrime

/-- The largest number below `high` whose power is at most `n`, if there is one from `low` on; the
fuel bounds the bisections. -/
def rootBetween (power n : Nat) : (fuel low high : Nat) → Nat
  | 0, low, _ => low
  | fuel + 1, low, high =>
    if high ≤ low + 1 then low
    else
      let middle := (low + high) / 2
      if Nat.pow middle power ≤ n then rootBetween power n fuel middle high
      else rootBetween power n fuel low middle

/-- The first 64 bits behind the point of the root of a number below 512. -/
def rootBits (power n : Nat) : UInt64 :=
  UInt64.ofNat (rootBetween power (n * Nat.pow 2 (64 * power)) 80 0 (Nat.pow 2 73))

/-- The word added in each round. -/
def roundWords : Array UInt64 := (primes.map (rootBits 3)).toArray

def start : Array UInt64 := ((primes.take 8).map (rootBits 2)).toArray

def word (words : Array UInt64) (i : Nat) : UInt64 := words.getD i 0

def turn (w : UInt64) (n : Nat) : UInt64 :=
  (w >>> UInt64.ofNat n) ||| (w <<< UInt64.ofNat (64 - n))

def wordOf (bytes : List Nat) : UInt64 := UInt64.ofNat (bytes.foldl (fun n b => 256 * n + b) 0)

/-- The first sixteen words of a block. -/
def blockWords (block : List Nat) : Array UInt64 :=
  ((List.range 16).map fun i => wordOf ((block.drop (8 * i)).take 8)).toArray

/-- The words of a block with the next one, which is mixed from four earlier ones. -/
def extend (words : Array UInt64) (i : Nat) : Array UInt64 :=
  let early := word words (i - 15)
  let late := word words (i - 2)
  let first := turn early 1 ^^^ turn early 8 ^^^ (early >>> 7)
  let second := turn late 19 ^^^ turn late 61 ^^^ (late >>> 6)
  words.push (word words (i - 16) + first + word words (i - 7) + second)

def schedule (block : List Nat) : Array UInt64 :=
  ((List.range 64).map (· + 16)).foldl extend (blockWords block)

def round (words : Array UInt64) (s : Array UInt64) (i : Nat) : Array UInt64 :=
  let a := word s 0
  let b := word s 1
  let c := word s 2
  let e := word s 4
  let chosen := (e &&& word s 5) ^^^ ((e ^^^ 0xFFFFFFFFFFFFFFFF) &&& word s 6)
  let most := (a &&& b) ^^^ (a &&& c) ^^^ (b &&& c)
  let rise := word s 7 + (turn e 14 ^^^ turn e 18 ^^^ turn e 41) + chosen + word roundWords i +
    word words i
  let fall := (turn a 28 ^^^ turn a 34 ^^^ turn a 39) + most
  #[rise + fall, a, b, c, word s 3 + rise, e, word s 5, word s 6]

def absorb (s : Array UInt64) (block : List Nat) : Array UInt64 :=
  let mixed := (List.range 80).foldl (round (schedule block)) s
  ((List.range 8).map fun i => word s i + word mixed i).toArray

/-- The lowest bytes of a number, most significant first. -/
def bytesOf : (count : Nat) → Nat → List Nat
  | 0, _ => []
  | count + 1, n => bytesOf count (n / 256) ++ [n % 256]

/-- A one bit, zeros up to the end of a block, and the length in bits. -/
def padded (bytes : List Nat) : List Nat :=
  let zeros := (239 - bytes.length % 128) % 128
  bytes ++ 128 :: List.replicate zeros 0 ++ bytesOf 16 (8 * bytes.length)

def absorbAll : (blocks : Nat) → List Nat → Array UInt64 → Array UInt64
  | 0, _, s => s
  | blocks + 1, bytes, s => absorbAll blocks (bytes.drop 128) (absorb s (bytes.take 128))

def ofBytes (bytes : List Nat) : List Nat :=
  let text := padded bytes
  (absorbAll (text.length / 128) text start).toList.flatMap fun w => bytesOf 8 w.toNat

end FormDialogue.Draw.Digest
