import FormDialogue.Number.Shortest
import FormDialogue.Validation.Scalar

/-! # Models of data

Records, descriptions, constraints and term declarations as they are written in data. A model is
written as a dictionary of its fields, and unknown names in it are ignored; an object of the right
kind is taken as it is. -/

namespace FormDialogue.Validation
open Number (Binary64)
open Record (Describe Kind NumericConstraint OptionName Options PatternConstraint Role)
open Term (Alternative PhraseLimit TermSpec)

inductive Built (α : Type)
  | existing (ref : Ref α)
  | fresh (a : α)

def checkOptions (entries : List (String × Datum)) : List OptionName → Verdict Options
  | [] => .accepted .unset
  | n :: rest =>
    .both (fun v o => o.assign n v) (optional n.name n.kind.unset (checkOption n.kind) entries)
      (checkOptions entries rest)

def checkKind (entries : List (String × Datum)) : Role → Verdict Kind
  | .plain => .accepted .plain
  | .prompt => .accepted .prompt
  | .template => (optional "usage" .none checkUsage entries).map .template

def checkRecordFields (role : Role) (entries : List (String × Datum)) : Verdict Record :=
  (fun patterns options localizable kind => ⟨kind, patterns, options, localizable⟩)
    <$> optional "patterns" [] (checkList checkText) entries
    <*> checkOptions entries OptionName.all
    <*> optional "localizable" true checkFlag entries
    <*> checkKind entries role

def checkRecord (role : Role) : Datum → Verdict (Built Record)
  | .object (.record ref given) =>
    if role.accepts given then .accepted (.existing ref) else .fault (.model role.title)
  | .dict entries => (checkRecordFields role entries).map .fresh
  | _ => .fault (.model role.title)

def optionalText (name : String) : List (String × Datum) → Verdict (Option String) :=
  optional name none (checkNullable checkText)

def checkDescribe : Datum → Verdict Describe
  | .object (.describe _ value) => .accepted value
  | .dict entries =>
    Describe.mk <$> optionalText "description" entries <*> optionalText "title" entries
      <*> optionalText "subtitle" entries <*> optionalText "image" entries
      <*> optionalText "message" entries <*> optional "localizable" true checkFlag entries
  | _ => .fault (.model "Describe")

def invertedBounds (least most : Binary64) : String :=
  "min (" ++ String.ofList least.text ++ ") must not exceed max (" ++ String.ofList most.text ++ ")"

/-- Bounds that are not inverted. -/
def checkBounds (least most : Binary64) : Verdict NumericConstraint :=
  if h : most.value.lt least.value = false then .accepted ⟨least, most, h⟩
  else .fault (.rejected (invertedBounds least most))

def checkNumeric : Datum → Verdict NumericConstraint
  | .object (.numeric _ value) => .accepted value
  | .dict entries =>
    (Prod.mk <$> required "min" checkNumber entries <*> required "max" checkNumber entries).andThen
      fun b => checkBounds b.1 b.2
  | _ => .fault (.model "NumericConstraint")

/-- Whether a value lies within bounds. Only a number can be compared with them. -/
def liesWithin (c : NumericConstraint) (d : Datum) : Except Failure Bool :=
  match d.asNumeral? with
  | some n => .ok (c.contains n)
  | none => .error (.notComparable "<=" "float" d.typeName)

def checkExpression (pattern : String) : Verdict PatternConstraint :=
  match h : Regex.compile .none pattern with
  | .ok expression => .accepted ⟨pattern, expression, h⟩
  | .error .hugeCount => .aborted .hugeCount
  | .error .overreach => .aborted .overreach
  | .error .crossedGroup => .aborted .crossedGroup
  | .error .tooDeep => .aborted .endless
  | .error (.longCount limit digits) =>
    .fault (.rejected ((Regex.Refusal.longCount limit digits).message []))
  | .error .twoAlphabets => .fault (.rejected (Regex.Refusal.twoAlphabets.message []))
  | .error (.fault cause position) =>
    .fault (.rejected ("Invalid validation pattern " ++ Text.quote pattern ++ ": " ++
      (Regex.Refusal.fault cause position).message pattern.toList))

def checkPattern : Datum → Verdict PatternConstraint
  | .object (.pattern _ value) => .accepted value
  | .dict entries => required "pattern" (fun d => (checkText d).andThen checkExpression) entries
  | _ => .fault (.model "PatternConstraint")

/-- One of the two forms of an alternative. -/
def checkForm (title field : String) (form : String → Alternative) (d : Datum) :
    Verdict Alternative :=
  Verdict.within title <|
    match d with
    | .dict entries => (required field checkText entries).map form
    | _ => .fault (.value title)

/-- An alternative in the first form that fits, with the issues of both forms if none does. -/
def checkAlternative (d : Datum) : Verdict Alternative :=
  match checkForm "RawPhrase" "text" .phrase d with
  | .refused issues =>
    match checkForm "PrebuiltMatcher" "pattern" .expression d with
    | .refused more => .refused (issues ++ more)
    | v => v
  | v => v

def checkAlternatives : Datum → Verdict (List Alternative) := checkItems .tuple checkAlternative

def checkLimit (d : Datum) : Verdict PhraseLimit :=
  (checkPositive d).map fun n => ⟨n.val, n.property⟩

def checkTerms : Datum → Verdict TermSpec
  | .object (.terms _ value) => .accepted value
  | .dict entries =>
    TermSpec.mk <$> required "alternatives" checkAlternatives entries
      <*> optional "max_phrase" none (checkNullable checkLimit) entries
  | _ => .fault (.model "TermSpec")

end FormDialogue.Validation
