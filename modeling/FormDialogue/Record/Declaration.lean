import FormDialogue.Heap
import FormDialogue.Record.Basic
import FormDialogue.Record.Constraint
import FormDialogue.Record.Describe
import FormDialogue.Term.Spec

/-! # Field declarations

All that is declared on one field. Its prompt and its templates are shared records; the rest are
values that never change. -/

namespace FormDialogue.Record
open Term (TermSpec)

structure Declaration where
  name : String
  describe : Option Describe
  prompt : Option (Ref Record)
  templates : List (Ref Record)
  terms : Option TermSpec
  numeric : Option NumericConstraint
  pattern : Option PatternConstraint
  optional : Bool

namespace Declaration

instance : Inhabited Declaration := ⟨⟨"", none, none, [], none, none, none, false⟩⟩

/-- The text shown for a name: its low lines become spaces. -/
def spaced (name : String) : String :=
  String.ofList (name.toList.map fun c => if c = '_' then ' ' else c)

def described (d : Declaration) : Option String :=
  (d.describe.bind Describe.description).filter fun text => !text.isEmpty

def description (d : Declaration) : String := d.described.getD (spaced d.name)

def template? (d : Declaration) (store : Heap Record) (usage : Usage) : Option (Ref Record) :=
  d.templates.find? fun r => (store.get r).usage? = some usage

end Declaration

end FormDialogue.Record
