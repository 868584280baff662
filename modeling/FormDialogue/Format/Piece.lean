import FormDialogue.Format.Fault

/-! # Pieces of a format

A format is literal text with fields in braces; a doubled brace is a literal one. A field has a
name, perhaps a conversion behind an exclamation mark, and perhaps a specification behind a colon,
which may hold fields of its own. Pieces are read one at a time, so a fault in a later piece does
not hide what the earlier ones do. -/

namespace FormDialogue.Format

structure Field where
  name : List Char
  conversion : Option Char
  spec : List Char
  /-- The specification holds an opening brace. -/
  nested : Bool
  deriving DecidableEq, Repr

abbrev Result (α : Type) := Except Fault α

/-- The name of a field, the character that ends it and the rest. A bracket hides the other
characters up to its closing one. -/
def fieldName (inBracket : Bool) (name : List Char) :
    List Char → Result (List Char × Char × List Char)
  | [] => .error .endInField
  | c :: rest =>
    if inBracket then fieldName (c != ']') (name ++ [c]) rest
    else if c = '\x7b' then .error .openInName
    else if c = '[' then fieldName true (name ++ [c]) rest
    else if c = '\x7d' || c = ':' || c = '!' then .ok (name, c, rest)
    else fieldName false (name ++ [c]) rest

/-- The specification up to the brace that closes the field, at nesting `depth` of braces. -/
def fieldSpec (depth : Nat) (spec : List Char) : List Char → Result (List Char × List Char)
  | [] => .error .openSpec
  | c :: rest =>
    if c = '\x7b' then fieldSpec (depth + 1) (spec ++ [c]) rest
    else if c = '\x7d' then
      match depth with
      | 0 => .ok (spec, rest)
      | depth + 1 => fieldSpec depth (spec ++ [c]) rest
    else fieldSpec depth (spec ++ [c]) rest

def withSpec (name : List Char) (conversion : Option Char) (rest : List Char) :
    Result (Field × List Char) := do
  let (spec, rest) ← fieldSpec 0 [] rest
  return (⟨name, conversion, spec, spec.contains '\x7b'⟩, rest)

/-- A field whose opening brace has been passed. -/
def readField (text : List Char) : Result (Field × List Char) := do
  match ← fieldName false [] text with
  | (name, ':', rest) => withSpec name none rest
  | (name, '!', rest) =>
    match rest with
    | [] => .error .endInConversion
    | [c] => withSpec name (some c) []
    | c :: '\x7d' :: rest => return (⟨name, some c, [], false⟩, rest)
    | c :: ':' :: rest => withSpec name (some c) rest
    | _ => .error .afterConversion
  | (name, _, rest) => return (⟨name, none, [], false⟩, rest)

/-- One step of reading: a literal character, a field, or the end. -/
inductive Piece
  | literal (c : Char) (rest : List Char)
  | field (f : Field) (rest : List Char)
  | finish
  deriving Repr

def isBrace (c : Char) : Bool := c = '\x7b' || c = '\x7d'

def nextPiece : List Char → Result Piece
  | [] => .ok .finish
  | c :: rest =>
    if !isBrace c then .ok (.literal c rest)
    else
      match rest with
      | d :: more =>
        if d = c then .ok (.literal c more)
        else if c = '\x7d' then .error .loneClose
        else (readField rest).map fun (f, rest) => .field f rest
      | [] => .error (if c = '\x7d' then .loneClose else .loneOpen)

end FormDialogue.Format
