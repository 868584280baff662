import FormDialogue.Choice.Renderer
import FormDialogue.Prompt.Marker

/-! # Placeholders

A pattern holds placeholders for the field, its value, a list of values and the list of choices. A
pattern is cut into placeholders and other characters once, from left to right; what is put in for
a placeholder is not looked at again, and a placeholder for which there is nothing stays. -/

namespace FormDialogue.Prompt
open Choice (Rendering Threshold)
open Record (Options)

inductive Token
  | field
  | value
  | values
  | choices
  deriving DecidableEq, Repr

def Token.mark : Token → List Char
  | field => "\x7b&\x7d".toList
  | value => "\x7b\x7d".toList
  | values => "\x7b[]\x7d".toList
  | choices => Record.choicesMark

inductive Segment
  | char (c : Char)
  | token (t : Token)
  deriving DecidableEq, Repr

def segments : List Char → List Segment
  | [] => []
  | '\x7b' :: '\x7d' :: rest => .token .value :: segments rest
  | '\x7b' :: '&' :: '\x7d' :: rest => .token .field :: segments rest
  | '\x7b' :: '[' :: ']' :: '\x7d' :: rest => .token .values :: segments rest
  | '\x7b' :: '|' :: '|' :: '\x7d' :: rest => .token .choices :: segments rest
  | c :: rest => .char c :: segments rest

structure Arguments where
  field : Option String
  value : Option String
  values : Option (List String)
  choices : Option (List String)
  deriving DecidableEq, Repr

def replacement (o : Options) (a : Arguments) (rendered : Option Rendering) :
    Token → Except Failure (Option String)
  | .field => .ok (a.field.map (Text.normalize o.fieldCase))
  | .value => .ok (a.value.map (Text.normalize o.valueCase))
  | .values =>
    match a.values with
    | some values => (Choice.renderList values o).map some
    | none => .ok none
  | .choices =>
    match rendered with
    | some (.text s) => .ok (some s)
    | _ => .ok none

def fillSegment (o : Options) (a : Arguments) (rendered : Option Rendering) :
    Segment → Except Failure (List Char)
  | .char c => .ok [c]
  | .token t =>
    (replacement o a rendered t).map fun s => (s.map String.toList).getD t.mark

def fillSegments (o : Options) (a : Arguments) (rendered : Option Rendering) :
    List Segment → Except Failure (List Char)
  | [] => .ok []
  | s :: rest => do
    let text ← fillSegment o a rendered s
    let more ← fillSegments o a rendered rest
    return text ++ more

/-- The choices, if there are any and the pattern has a place for them. -/
def shownChoices (pattern : List Char) (a : Arguments) : Option (List String) :=
  if Text.occurs Record.choicesMark pattern then a.choices else none

def renderShown (pattern : List Char) (o : Options) (a : Arguments) (threshold : Threshold) :
    Except Failure (Option Rendering) :=
  match shownChoices pattern a with
  | some labels => (Choice.renderChoices labels o none threshold).map some
  | none => .ok none

/-- The pattern to be filled: without marks for choices if the channel lays them out. -/
def layOut (pattern : List Char) : Option Rendering → List Char
  | some (.labels _) => dropMarks pattern
  | some (.text _) | none => pattern

def fill (pattern : String) (o : Options) (a : Arguments) (threshold : Threshold) :
    Except Failure String := do
  let rendered ← renderShown pattern.toList o a threshold
  let text ← fillSegments o a rendered (segments (layOut pattern.toList rendered))
  return String.ofList text

def fillNotices (pattern : String) (o : Options) (a : Arguments) (threshold : Threshold) :
    List Logging.Notice :=
  match shownChoices pattern.toList a, Choice.rendererFor o none threshold with
  | some labels, .ok renderer => renderer.notices labels
  | _, _ => []

end FormDialogue.Prompt
