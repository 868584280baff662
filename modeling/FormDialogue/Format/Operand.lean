import FormDialogue.Format.Fault
import FormDialogue.Format.Write
import FormDialogue.Number.Shortest

/-! # Operands

What a field of a format can stand for: the number and the text that the format is applied to, and
things that are reached from them by names of attributes and by items. How things are reached, shown
and written is up to the surroundings; it may depend on where they are kept. -/

namespace FormDialogue.Format

inductive Operand (Thing : Type)
  | number (n : Nat)
  | text (t : List Char)
  | thing (t : Thing)

/-- The things that can be reached from numbers and texts. -/
class Things where
  Thing : Type
  /-- What an operand has under the name of an attribute. -/
  part : Operand Thing → List Char → Result (Operand Thing)
  /-- What a thing has in brackets: under a name, which may be an index. -/
  item : Thing → List Char → Option Nat → Result (Operand Thing)
  shown : Thing → List Char
  /-- The thing as it is shown for its quotes. -/
  quoted : Thing → List Char
  /-- The thing as it is shown for its quotes, with characters of the basic alphabet only. -/
  quotedPlain : Thing → List Char
  write : Thing → List Char → Result (List Char)

namespace Operand
variable [Things]

def shown : Operand Things.Thing → List Char
  | number n => Number.decimalDigits n
  | text t => t
  | thing t => Things.shown t

def quoted : Operand Things.Thing → List Char
  | number n => Number.decimalDigits n
  | text t => Text.quoted t
  | thing t => Things.quoted t

def quotedPlain : Operand Things.Thing → List Char
  | number n => Number.decimalDigits n
  | text t => Text.quotedPlain t
  | thing t => Things.quotedPlain t

def convert (o : Operand Things.Thing) : Char → Result (Operand Things.Thing)
  | 's' => .ok (text o.shown)
  | 'r' => .ok (text o.quoted)
  | 'a' => .ok (text o.quotedPlain)
  | c => .error (.conversion c)

/-- The item of an operand in brackets. A text has characters at positions, and a number nothing. -/
def item (o : Operand Things.Thing) (name : List Char) (index : Option Nat) :
    Result (Operand Things.Thing) :=
  match o, index with
  | number _, _ => .error (.notSubscriptable OperandKind.number.name)
  | text _, none => .error .textIndex
  | text t, some i =>
    match t[i]? with
    | some c => .ok (text [c])
    | none => .error .indexRange
  | thing t, _ => Things.item t name index

/-- The operand written by a specification. -/
def write (o : Operand Things.Thing) (spec : List Char) : Result (List Char) :=
  match o with
  | number n =>
    if spec.isEmpty then .ok (Number.decimalDigits n) else do writeNumber (← readSpec .number spec) n
  | text t =>
    if spec.isEmpty then .ok t
    else do
      let s ← readSpec .text spec
      if s.type = 's' then writeText s t else .error (.unknownType s.type .text)
  | thing t => Things.write t spec

end Operand

end FormDialogue.Format
