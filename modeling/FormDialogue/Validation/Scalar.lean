import FormDialogue.Datum.Basic
import FormDialogue.Number.Reading
import FormDialogue.Validation.Verdict

/-! # Scalar values of data

Texts, truth values, numbers and members of a vocabulary, as they may be written in data. Texts are
taken only from texts; the others also from texts that stand for them. -/

namespace FormDialogue.Validation
open Number (Binary64 readBinary64? readInt)
open Record (Feedback OptionKind Style Usage)
open Text (Casing)

def checkText (d : Datum) : Verdict String :=
  match d.asText? with
  | some s => .accepted s
  | none => .fault .text

def falseWords : List String := ["0", "off", "f", "false", "n", "no"]
def trueWords : List String := ["1", "on", "t", "true", "y", "yes"]

def flagOfText? (s : String) : Option Bool :=
  let word := s.map Char.toLower
  if falseWords.contains word then some false
  else if trueWords.contains word then some true
  else none

/-- Where the integers of a word of 64 bits end. -/
def wordBound : Int := Int.ofNat (Nat.pow 2 63)

def isSmall (n : Int) : Bool := -wordBound ≤ n && n < wordBound

def flagOfInt (n : Int) : Verdict Bool :=
  if n = 0 then .accepted false
  else if n = 1 then .accepted true
  else if isSmall n then .fault .flagText
  else .fault .flag

/-- The whole number that a floating-point number is, if it lies strictly between the bounds of a
word. -/
def smallWhole? (x : Binary64) : Option Int := x.toInt?.filter fun n => isSmall n && n != -wordBound

def checkFlag (d : Datum) : Verdict Bool :=
  match d with
  | .bool b => .accepted b
  | .int n => flagOfInt n
  | .real x =>
    match smallWhole? x with
    | some n => flagOfInt n
    | none => .fault .flag
  | .text _ | .member _ =>
    match d.asText?.bind flagOfText? with
    | some b => .accepted b
    | none => .fault .flagText
  | _ => .fault .flag

def intOfText (s : String) : Verdict Int :=
  match readInt s.toList with
  | .value n => .accepted n
  | .tooLong => .fault .intSize
  | .malformed => .fault .intText

def intOfReal (x : Binary64) : Verdict Int :=
  if !x.isFinite then .fault .notFinite
  else if x.toInt?.isNone then .fault .intFraction
  else
    match smallWhole? x with
    | some n => .accepted n
    | none => .fault .intSize

def checkInt (d : Datum) : Verdict Int :=
  match d with
  | .bool b => .accepted (if b then 1 else 0)
  | .int n => .accepted n
  | .real x => intOfReal x
  | .text s => intOfText s
  | .member m => intOfText m.name
  | _ => .fault .int

def checkPositive (d : Datum) : Verdict { n : Int // 1 ≤ n } :=
  (checkInt d).andThen fun n => if h : 1 ≤ n then .accepted ⟨n, h⟩ else .fault (.atLeast 1)

def numberOfInt (n : Int) : Verdict Binary64 :=
  let x := Binary64.ofInt n
  if x.isFinite then .accepted x else .fault .number

def checkNumber (d : Datum) : Verdict Binary64 :=
  match d with
  | .bool b => numberOfInt (if b then 1 else 0)
  | .int n => numberOfInt n
  | .real x => .accepted x
  | .text _ | .member _ =>
    match d.asText?.bind fun s => readBinary64? s.toList with
    | some x => .accepted x
    | none => .fault .numberText
  | _ => .fault .number

/-- A member of a vocabulary, by its name or as a member of any vocabulary with that name. -/
def checkMember {α : Type} (names : List String) (ofName? : String → Option α) (d : Datum) :
    Verdict α :=
  match d.asText?.bind ofName? with
  | some a => .accepted a
  | none => .fault (.member names)

def checkCasing : Datum → Verdict Casing :=
  checkMember (Casing.all.map Casing.name) Casing.ofName?

def checkStyle : Datum → Verdict Style := checkMember (Style.all.map Style.name) Style.ofName?

def checkFeedback : Datum → Verdict Feedback :=
  checkMember (Feedback.all.map Feedback.name) Feedback.ofName?

def checkUsage : Datum → Verdict Usage := checkMember (Usage.all.map Usage.name) Usage.ofName?

def checkNullable {α : Type} (check : Datum → Verdict α) : Datum → Verdict (Option α)
  | .null => .accepted none
  | d => (check d).map some

def checkOption : (k : OptionKind) → Datum → Verdict k.Value
  | .flag => checkNullable checkFlag
  | .text => checkNullable checkText
  | .casing => checkCasing
  | .style => checkStyle
  | .feedback => checkFeedback

/-- Every item of a sequence; `otherwise` is the fault of what is none. -/
def checkItems {α : Type} (otherwise : Fault) (check : Datum → Verdict α) (d : Datum) :
    Verdict (List α) :=
  match d.items? with
  | some items => Verdict.each check 0 items
  | none => .fault otherwise

def checkList {α : Type} : (Datum → Verdict α) → Datum → Verdict (List α) := checkItems .list

def required {α : Type} (name : String) (check : Datum → Verdict α)
    (entries : List (String × Datum)) : Verdict α :=
  Verdict.within name <|
    match Datum.entry? name entries with
    | some d => check d
    | none => .fault .missing

def optional {α : Type} (name : String) (absent : α) (check : Datum → Verdict α)
    (entries : List (String × Datum)) : Verdict α :=
  match Datum.entry? name entries with
  | some d => (check d).within name
  | none => .accepted absent

end FormDialogue.Validation
