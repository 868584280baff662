import FormDialogue.Regex.Fault

/-! # Tokens of an expression

An expression is read as single characters and as characters behind a backslash. A backslash at
the very end is refused as soon as it is next to be read. -/

namespace FormDialogue.Regex

inductive Token
  | char (c : Char)
  | escape (c : Char)
  | dangling
  deriving DecidableEq, Repr

namespace Token

def text : Token → List Char
  | char c => [c]
  | escape c => ['\\', c]
  | dangling => ['\\']

def is (t : Token) (c : Char) : Bool := t == char c

end Token

def tokens : List Char → List Token
  | [] => []
  | ['\\'] => [.dangling]
  | '\\' :: c :: rest => .escape c :: tokens rest
  | c :: rest => .char c :: tokens rest

/-- What is still to be read, and the position where it starts. -/
structure Source where
  rest : List Token
  position : Nat
  deriving Repr

abbrev Reading (α : Type) := Except Refusal α

def refuse {α : Type} (cause : Fault) (position : Nat) : Reading α :=
  .error (.fault cause (some position))

namespace Source

def checked (s : Source) : Reading Source :=
  match s.rest with
  | .dangling :: _ => refuse .endInEscape s.position
  | _ => .ok s

def ofPattern (pattern : List Char) : Reading Source := checked ⟨tokens pattern, 0⟩

def next? (s : Source) : Option Token := s.rest.head?

/-- The next token, and what follows it. Nothing follows the end but the end. -/
def take (s : Source) : Reading (Option Token × Source) :=
  match s.rest with
  | [] => .ok (none, s)
  | t :: rest => (checked ⟨rest, s.position + t.text.length⟩).map fun s => (some t, s)

/-- Whether the next token is the character; if so it is passed. -/
def accept (s : Source) (c : Char) : Reading (Bool × Source) :=
  match s.rest with
  | t :: rest =>
    if t.is c then (checked ⟨rest, s.position + t.text.length⟩).map fun s => (true, s)
    else .ok (false, s)
  | [] => .ok (false, s)

def peek (s : Source) (p : Char → Bool) : Bool :=
  match s.rest with
  | .char c :: _ => p c
  | _ => false

def takeWhile (p : Char → Bool) : Nat → Source → Reading (List Char × Source)
  | 0, s => .ok ([], s)
  | limit + 1, s =>
    match s.rest with
    | .char c :: rest =>
      if p c then do
        let s ← checked ⟨rest, s.position + 1⟩
        let (more, s) ← takeWhile p limit s
        return (c :: more, s)
      else return ([], s)
    | _ => .ok ([], s)

/-- The characters before a terminator, which is passed too; they must not be missing. -/
def takeUntil (terminator : Char) (what : String) (name : List Char) :
    Nat → Source → Reading (List Char × Source)
  | 0, s => refuse (.missing what) s.position
  | fuel + 1, s => do
    match ← s.take with
    | (none, s) =>
      if name.isEmpty then refuse (.missing what) s.position
      else refuse (.unterminatedName terminator) (s.position - name.length)
    | (some t, s) =>
      if t.is terminator then
        if name.isEmpty then refuse (.missing what) (s.position - 1) else return (name, s)
      else takeUntil terminator what (name ++ t.text) fuel s

def takeName (s : Source) (terminator : Char) (what : String) : Reading (List Char × Source) :=
  takeUntil terminator what [] (s.rest.length + 1) s

end Source

end FormDialogue.Regex
