import FormDialogue.Heap
import FormDialogue.Record.Basic

/-! # Inheritance between records

A record takes the options it does not set from more general records, the nearest first. Only its
options change, and no other record does. -/

namespace FormDialogue

abbrev Store := Heap Record

namespace Store

def inherit (s : Store) (specific general : Ref Record) : Store :=
  s.modify specific fun r => { r with options := r.options.fill (s.get general).options }

def inheritAll (s : Store) (specific : Ref Record) : List (Ref Record) → Store
  | [] => s
  | general :: rest => (s.inherit specific general).inheritAll specific rest

def unresolved (s : Store) (r : Ref Record) : List String :=
  (s.get r).options.unresolved.map Record.OptionName.name

end Store

end FormDialogue
