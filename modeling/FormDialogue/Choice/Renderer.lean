import FormDialogue.Choice.Asked
import FormDialogue.Choice.Threshold
import FormDialogue.Format.Render
import FormDialogue.Logging.Notice
import FormDialogue.Text.Casing

/-! # Lists of choices

How the labels of choices become text: in one line, one per line with their numbers, or in one of
the two ways according to their count. Other styles leave the layout to the channel and only give
the labels. In every style the labels are first put into the case of choices. -/

namespace FormDialogue.Choice
open Logging (Notice)
open Number (Numeral)
open Record (OptionName Options Style)

/-- A list of choices as text, or the labels for the channel to lay out. -/
inductive Rendering
  | text (s : String)
  | labels (items : List String)
  deriving DecidableEq, Repr

inductive Renderer
  | inline (parenthesize : Bool)
  | perLine
  | autoText (threshold : Numeral)
  | presentation
  deriving DecidableEq, Repr

def normalized (labels : List String) (o : Options) : List String :=
  labels.map (Text.normalize o.choiceCase)

def requireText (name : OptionName) (value : Option String) : Except Failure String :=
  match value with
  | some s => .ok s
  | none => .error (.unresolved [name.name])

/-- Several texts joined by two separators, both of which have to be set. -/
def joinItems (separatorName lastName : OptionName) (separator last : Option String) :
    List String → Except Failure String
  | [] => .ok ""
  | [item] => .ok item
  | items => do
    let separator ← requireText separatorName separator
    let last ← requireText lastName last
    return Text.joinWithLast separator last items

def renderInline (parenthesize : Bool) (labels : List String) (o : Options) :
    Except Failure String :=
  if labels.isEmpty then .ok ""
  else do
    let joined ← joinItems .choiceSeparator .choiceLastSeparator o.choiceSeparator
      o.choiceLastSeparator (normalized labels o)
    return if parenthesize && o.choiceParens != some false then "(" ++ joined ++ ")" else joined

/-- The entry of a choice: the format applied to its number and its label. -/
def entry [Format.Things] (format : String) (number : Nat) (label : String) : Except Failure String :=
  match Format.render format.toList number label.toList with
  | .ok text => .ok (String.ofList text)
  | .error fault => .error (.format fault)

/-- The entries of labels numbered from `number`. -/
def entries [Format.Things] (format : String) (number : Nat) :
    List String → Except Failure (List String)
  | [] => .ok []
  | label :: rest => do
    let line ← entry format number label
    let lines ← entries format (number + 1) rest
    return line :: lines

def renderPerLine [Format.Things] (labels : List String) (o : Options) : Except Failure String :=
  if labels.isEmpty then .ok ""
  else do
    let format ← requireText .choiceFormat o.choiceFormat
    let lines ← entries format 1 (normalized labels o)
    return "\n".intercalate lines

namespace Renderer

instance : Inhabited Renderer := ⟨presentation⟩

def ofStyle (style : Style) (threshold : Numeral) : Renderer :=
  match style with
  | .inline => inline true
  | .inlineNoParen => inline false
  | .perLine => perLine
  | .autoText => autoText (atLeastOne threshold)
  | .default | .auto | .buttons | .carousel => presentation

/-- The renderer of a style for what was given as the threshold. Only automatic layout needs it. -/
def create (style : Style) : Threshold → Except Failure Renderer
  | .number n => .ok (ofStyle style n)
  | .other typeName =>
    if style = .autoText then .error (.notComparable ">" typeName "int")
    else .ok (ofStyle style defaultThreshold)

def styles : Renderer → List Style
  | inline true => [.inline]
  | inline false => [.inlineNoParen]
  | perLine => [.perLine]
  | autoText _ => [.autoText]
  | presentation => [.default, .auto, .buttons, .carousel]

def render [Format.Things] (r : Renderer) (labels : List String) (o : Options) :
    Except Failure Rendering :=
  match r with
  | inline parenthesize => (renderInline parenthesize labels o).map .text
  | perLine => (renderPerLine labels o).map .text
  | autoText threshold =>
    if (Numeral.int labels.length).below threshold then (renderInline true labels o).map .text
    else (renderPerLine labels o).map .text
  | presentation => .ok (.labels (normalized labels o))

def notices (r : Renderer) (labels : List String) : List Notice :=
  match r with
  | autoText threshold =>
    if (Numeral.int labels.length).below threshold then []
    else [.manyChoices labels.length (String.ofList threshold.text)]
  | inline _ | perLine | presentation => []

end Renderer

/-- The renderer for the style asked for, or else for the style of the options. -/
def rendererFor {α : Type} [Askable α] (o : Options) (asked : Option α) (threshold : Threshold) :
    Except Failure Renderer := do
  let style ← match asked with
    | none => .ok o.choiceStyle
    | some a => Askable.dispatched a
  Renderer.create style threshold

def renderChoices {α : Type} [Askable α] [Format.Things] (labels : List String) (o : Options) (asked : Option α)
    (threshold : Threshold) : Except Failure Rendering := do
  let r ← rendererFor o asked threshold
  r.render labels o

def renderList (values : List String) (o : Options) : Except Failure String :=
  joinItems .separator .lastSeparator o.separator o.lastSeparator
    (values.map (Text.normalize o.valueCase))

end FormDialogue.Choice
