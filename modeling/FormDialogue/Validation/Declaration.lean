import FormDialogue.Validation.Model

/-! # Declarations as data

A declaration is built from parts that may be objects or data. The records among them are shared, so
they are built only when the whole declaration is accepted. -/

namespace FormDialogue.Validation
open Record (Describe NumericConstraint PatternConstraint Role)
open Term (TermSpec)

/-- A declaration whose records are not yet built. -/
structure DeclarationDraft where
  name : String
  describe : Option Describe
  prompt : Option (Built Record)
  templates : List (Built Record)
  terms : Option TermSpec
  numeric : Option NumericConstraint
  pattern : Option PatternConstraint
  optional : Bool

def declarationFields : List String :=
  ["name", "describe", "prompt", "templates", "terms", "numeric", "pattern", "optional"]

def checkDeclaration : Datum → Verdict DeclarationDraft
  | .dict entries =>
    DeclarationDraft.mk
      <$> required "name" checkText entries
      <*> optional "describe" none (checkNullable checkDescribe) entries
      <*> optional "prompt" none (checkNullable (checkRecord .prompt)) entries
      <*> optional "templates" [] (checkList (checkRecord .template)) entries
      <*> optional "terms" none (checkNullable checkTerms) entries
      <*> optional "numeric" none (checkNullable checkNumeric) entries
      <*> optional "pattern" none (checkNullable checkPattern) entries
      <*> optional "optional" false checkFlag entries
  | _ => .fault (.model "FieldDeclaration")

end FormDialogue.Validation
