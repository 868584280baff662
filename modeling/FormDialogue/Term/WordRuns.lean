/-! # Word runs

The contiguous runs of a list of words, shorter runs first and runs of one length from left to
right. -/

namespace FormDialogue.Term

def windows {α : Type} (length : Nat) : List α → List (List α)
  | [] => []
  | w :: rest =>
    if length ≤ rest.length + 1 then (w :: rest).take length :: windows length rest else []

/-- The runs of `length` words, then those of one word more, `count` times. -/
def runsFrom {α : Type} (words : List α) : (count length : Nat) → List (List α)
  | 0, _ => []
  | count + 1, length => windows length words ++ runsFrom words count (length + 1)

def wordRuns {α : Type} (words : List α) (most : Int) : List (List α) :=
  runsFrom words (min words.length most.toNat) 1

end FormDialogue.Term
