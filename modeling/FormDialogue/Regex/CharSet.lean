import FormDialogue.Regex.Escape

/-! # Character sets

What stands between brackets: characters, ranges and classes. A closing bracket that comes first
stands for itself, and so does a hyphen that comes last. A set of a single character is that
character. -/

namespace FormDialogue.Regex

/-- A member of a set, or an end of a range, from its token. -/
def readSetItem (start : Nat) (t : Token) (s : Source) : Reading (SetItem × Source) :=
  match t with
  | .escape c => readSetEscape start c s
  | .char c => .ok (.code c.toNat, s)
  | .dangling => refuse .endInEscape start

/-- The range between two members, which must be single characters in order. -/
def rangeOf (low high : SetItem) (lowText highText : List Char) (position : Nat) :
    Reading SetItem :=
  let fault : Reading SetItem :=
    refuse (.badRange lowText highText) (position - (lowText.length + 1 + highText.length))
  match low, high with
  | .code a, .code b => if b < a then fault else .ok (.range a b)
  | _, _ => fault

/-- The members up to the closing bracket; `start` is the position of the opening one. -/
def readSetItems (start : Nat) : Nat → List SetItem → Source → Reading (List SetItem × Source)
  | 0, _, _ => refuse .unterminatedSet start
  | fuel + 1, found, s => do
    let position := s.position
    match ← s.take with
    | (none, _) => refuse .unterminatedSet start
    | (some t, s) =>
      if t.is ']' && !found.isEmpty then return (found, s)
      else
        let (low, s) ← readSetItem position t s
        let (hyphen, s) ← s.accept '-'
        if hyphen then
          let position := s.position
          match ← s.take with
          | (none, _) => refuse .unterminatedSet start
          | (some u, s) =>
            if u.is ']' then return (found ++ [low, .code '-'.toNat], s)
            else
              let (high, s) ← readSetItem position u s
              let range ← rangeOf low high t.text u.text s.position
              readSetItems start fuel (found ++ [range]) s
        else readSetItems start fuel (found ++ [low]) s

def setNode (negated : Bool) (items : List SetItem) : Node :=
  match items.eraseDups with
  | [.code c] => .code negated c
  | distinct => .set negated distinct

/-- The set whose opening bracket, at `start`, has been passed. -/
def readSet (start : Nat) (s : Source) : Reading (Node × Source) := do
  let (negated, s) ← s.accept '^'
  let (items, s) ← readSetItems start (s.rest.length + 1) [] s
  return (setNode negated items, s)

end FormDialogue.Regex
