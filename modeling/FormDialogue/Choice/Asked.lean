import FormDialogue.Datum.Shown

/-! # Styles that are asked for

A style can be asked for with any value that can be compared with the styles. A dispatch compares
the value with one style after the other. The vocabulary of styles takes a member for what it is,
and looks any other value up by its hash among the names of the styles; it compares a value that has
no hash with every name. -/

namespace FormDialogue.Datum

mutual

/-- The limit for which a value cannot be shown, if there is a number in it that is too long. -/
def unwritten? [Limits] : Datum → Option Nat
  | int n => Limits.unwritten? n
  | list items => unwrittenItem? items
  | dict entries => unwrittenValue? entries
  | null | bool _ | real _ | text _ | member _ | object _ => none

def unwrittenItem? [Limits] : List Datum → Option Nat
  | [] => none
  | d :: rest => d.unwritten?.or (unwrittenItem? rest)

def unwrittenValue? [Limits] : List (String × Datum) → Option Nat
  | [] => none
  | (_, d) :: rest => d.unwritten?.or (unwrittenValue? rest)

end

end FormDialogue.Datum

namespace FormDialogue.Choice
open Record (Style)

/-- Values that can be asked with: what they answer when they are taken for a style. -/
class Askable (α : Type) where
  /-- The style that a value is. -/
  own : α → Option Style
  equals : α → Style → Bool
  /-- Whether a value equals the name of a style. -/
  spells : α → Style → Bool
  /-- Whether a value has the hash of the name of a style, if it has a hash at all. -/
  hashed : α → Option (Style → Bool)
  shown : α → Except Failure String

namespace Askable

@[default_instance] instance datum [Limits] : Askable Datum where
  own
    | .member (.style s) => some s
    | _ => none
  equals d s := d.asText? == some s.name
  spells d s := d.asText? == some s.name
  hashed
    | .list _ | .dict _ | .object (.record ..) | .object (.declaration _)
    | .object (.settings _) => none
    | d => some fun s => d.asText? == some s.name
  shown d :=
    match d.unwritten? with
    | some limit => .error (.longNumber limit)
    | none => .ok d.shown

variable {α : Type} [Askable α] (asked : α)

/-- What is said about a value that is no style. -/
def unknown : Failure :=
  match shown asked with
  | .ok text => .unknownStyle text
  | .error why => why

/-- The styles in the order of the cases of a dispatch. -/
def cases : List Style :=
  [.inline, .inlineNoParen, .perLine, .autoText, .default, .auto, .buttons, .carousel]

/-- The style of the first case that a value equals. -/
def dispatched : Except Failure Style :=
  match cases.find? (equals asked) with
  | some style => .ok style
  | none => .error (unknown asked)

/-- The member of the vocabulary for a value. -/
def member? : Option Style :=
  match own asked, hashed asked with
  | some style, _ => some style
  | none, some sameHash => Style.all.find? fun style => sameHash style && spells asked style
  | none, none => Style.all.find? (spells asked)

end Askable

/-- The style of which a value is the member in the vocabulary. -/
def styleOf {α : Type} [Askable α] (asked : α) : Except Failure Style :=
  match Askable.member? asked with
  | some style => .ok style
  | none => .error (Askable.unknown asked)

end FormDialogue.Choice
