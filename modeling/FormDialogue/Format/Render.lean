import FormDialogue.Format.Object
import FormDialogue.Format.Piece

/-! # Applying a format

A format is applied to a number and a text, which its fields name by position: field zero is the
number and field one the text. Fields without a name are counted, and a format must not mix counted
and numbered fields. A field may go on to a part of its operand, convert it to a text, and write it
by a specification. -/

namespace FormDialogue.Format

/-- How the fields met so far were named. -/
inductive Numbering
  | undecided
  | manual
  | automatic (next : Nat)
  deriving DecidableEq, Repr

/-- A name that is a number in decimal digits of any script. -/
def wholeNumber (name : List Char) : Result (Option Nat) :=
  match name with
  | [] => .ok none
  | _ =>
    if name.all Unicode.isDigit then (readNumber none name).map Prod.fst
    else
      match readNumber none name with
      | .error fault => .error fault
      | .ok _ => .ok none

/-- The index that a field name stands for, if it is no word, and the numbering afterwards. -/
def indexOf (name : List Char) (numbering : Numbering) : Result (Option Nat × Numbering) := do
  match ← wholeNumber name, name, numbering with
  | _, [], .undecided => return (some 0, .automatic 1)
  | _, [], .automatic next => return (some next, .automatic (next + 1))
  | _, [], .manual => .error .manualThenAutomatic
  | some _, _, .automatic _ => .error .automaticThenManual
  | some i, _, _ => return (some i, .manual)
  | none, _, _ => return (none, numbering)

def isPathMark (c : Char) : Bool := c = '.' || c = '['

section
variable [Things]

def followPath : Nat → List Char → Operand Things.Thing → Result (Operand Things.Thing)
  | 0, _, o => .ok o
  | _ + 1, [], o => .ok o
  | fuel + 1, '.' :: rest, o =>
    let name := rest.takeWhile fun c => !isPathMark c
    if name.isEmpty then .error .emptyAttribute
    else do
      let o ← Things.part o name
      followPath fuel (rest.drop name.length) o
  | fuel + 1, '[' :: rest, o => do
    let name := rest.takeWhile (· != ']')
    if name.length = rest.length then .error .openBracket
    else
      let index ← wholeNumber name
      if name.isEmpty then .error .emptyAttribute
      else
        let o ← o.item name index
        followPath fuel (rest.drop (name.length + 1)) o
  | _ + 1, _ :: _, _ => .error .afterBracket

def operandOf (operands : List (Operand Things.Thing)) (name : List Char) (numbering : Numbering) :
    Result (Operand Things.Thing × Numbering) := do
  let head := name.takeWhile fun c => !isPathMark c
  let (index, numbering) ← indexOf head numbering
  match index with
  | none => .error (.noName head)
  | some i =>
    match operands[i]? with
    | none => .error (.noOperand i)
    | some o => do
      let o ← followPath (name.length + 1) (name.drop head.length) o
      return (o, numbering)

/-- The text of the pieces of a format; `expand` applies the formats inside specifications. -/
def renderPieces (operands : List (Operand Things.Thing))
    (expand : List Char → Numbering → Result (List Char × Numbering)) :
    Nat → List Char → Numbering → Result (List Char × Numbering)
  | 0, _, numbering => .ok ([], numbering)
  | fuel + 1, format, numbering => do
    match ← nextPiece format with
    | .finish => return ([], numbering)
    | .literal c rest =>
      let (text, numbering) ← renderPieces operands expand fuel rest numbering
      return (c :: text, numbering)
    | .field f rest =>
      let (o, numbering) ← operandOf operands f.name numbering
      let o ← match f.conversion with
        | some c => o.convert c
        | none => .ok o
      let (spec, numbering) ← if f.nested then expand f.spec numbering else .ok (f.spec, numbering)
      let written ← o.write spec
      let (text, numbering) ← renderPieces operands expand fuel rest numbering
      return (written ++ text, numbering)

/-- Applies a format whose fields may be nested to a depth. -/
def renderDeep (operands : List (Operand Things.Thing)) :
    Nat → List Char → Numbering → Result (List Char × Numbering)
  | 0, _, _ => .error .tooDeep
  | depth + 1, format, numbering =>
    renderPieces operands (renderDeep operands depth) (format.length + 1) format numbering

def render (format : List Char) (number : Nat) (label : List Char) : Result (List Char) :=
  (renderDeep [.number number, .text label] 2 format .undecided).map Prod.fst

end

end FormDialogue.Format
