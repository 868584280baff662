/-! # Tables over code points

Tables are sorted by code point and searched by halving. -/

namespace FormDialogue.Unicode

/-- The last entry between two indices whose key is at most `c`. -/
def lastBelowFrom {α : Type} (key : α → Nat) (table : Array α) (c : Nat) :
    Nat → Nat → Nat → Option α
  | 0, _, _ => none
  | fuel + 1, low, high =>
    if low < high then
      let middle := (low + high) / 2
      match table[middle]? with
      | none => none
      | some x =>
        if c < key x then lastBelowFrom key table c fuel low middle
        else (lastBelowFrom key table c fuel (middle + 1) high).orElse fun _ => some x
    else none

/-- The last entry of a sorted table whose key is at most `c`. -/
def lastBelow {α : Type} (key : α → Nat) (table : Array α) (c : Nat) : Option α :=
  lastBelowFrom key table c (table.size + 1) 0 table.size

/-- Whether a code point lies in one of the inclusive runs. -/
def within (runs : Array (Nat × Nat)) (c : Nat) : Bool :=
  match lastBelow Prod.fst runs c with
  | some run => c ≤ run.2
  | none => false

end FormDialogue.Unicode
