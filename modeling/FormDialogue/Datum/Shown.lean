import FormDialogue.Datum.Basic
import FormDialogue.Number.Shortest
import FormDialogue.Text.Casing

/-! # Shown data

How a value is shown in a message. Text is shown by itself, and inside other data between quotes. -/

namespace FormDialogue.Record

def Member.shown (m : Member) : List Char :=
  m.vocabulary.title.toList ++ '.' :: Text.upper m.name.toList

end FormDialogue.Record

namespace FormDialogue.Datum
open Text (separated)

mutual

def quoted : Datum → List Char
  | null => "None".toList
  | bool b => (if b then "True" else "False").toList
  | int n => (toString n).toList
  | real x => x.text
  | text s => Text.quoted s.toList
  | list items => '[' :: separated (quotedItems items) ++ [']']
  | dict entries => '\x7b' :: separated (quotedEntries entries) ++ ['\x7d']
  | member m => '<' :: m.shown ++ ':' :: ' ' :: Text.quoted m.name.toList ++ ['>']
  | object o => '<' :: o.typeName.toList ++ ['>']

def quotedItems : List Datum → List (List Char)
  | [] => []
  | d :: rest => d.quoted :: quotedItems rest

def quotedEntries : List (String × Datum) → List (List Char)
  | [] => []
  | (name, d) :: rest => (Text.quoted name.toList ++ ':' :: ' ' :: d.quoted) :: quotedEntries rest

end

def shown (d : Datum) : String :=
  match d with
  | text s => s
  | member m => String.ofList m.shown
  | _ => String.ofList d.quoted

end FormDialogue.Datum
