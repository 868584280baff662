import FormDialogue.Format.Fault
import FormDialogue.Record.Options
import FormDialogue.Regex.Fault
import FormDialogue.Validation.Issue

/-! # Failures

Every cause for which an operation fails, with its wording. A failure is a malformed declaration, a
value outside its vocabulary, or data that was refused; none of them is ever retried. -/

namespace FormDialogue
open Record (Usage Vocabulary)

/-- Where a pattern was needed and there was none. -/
inductive PatternNeed
  | resolution
  | selection
  /-- The name of the field is as it is shown between quotes. -/
  | declaration (field : String) (usage : Usage)
  deriving DecidableEq, Repr

inductive Failure
  | noPatterns (need : PatternNeed)
  | phraseLength (parameter : String) (length : Int)
  | unresolved (names : List String)
  | badTerm (pattern : String) (cause : Regex.Fault) (position : Option Nat)
  | hugeCount
  | longCount (limit digits : Nat)
  /-- A number that is too long to be written. -/
  | longNumber (limit : Nat)
  | overreach
  | twoAlphabets
  | crossedGroup
  | format (fault : Format.Fault)
  | notMember (shown : String) (vocabulary : Vocabulary)
  | unknownStyle (shown : String)
  | invalid (report : Validation.Report)
  | notAlternative (typeName : String)
  | noAttribute (typeName name : String)
  | notComparable (relation left right : String)
  | emptyRange (upper : Int)
  | noField (model name : String)
  | unknownLevel (shown : String)
  | notLevel (shown : String)
  | levelName (typeName : String)
  | seed
  | notIterable (typeName : String)
  | noSetter (typeName name : String)
  | givenTwice (callee name : String)
  | notDictionary (typeName : String)
  | notClass (typeName : String)
  | endless
  /-- What an object or a system from outside refuses, by its class and with its text. -/
  | foreign (kind text : String)
  deriving DecidableEq, Repr

namespace Failure

def message : Failure → String
  | noPatterns .resolution => "Template record declares no patterns"
  | noPatterns .selection => "Cannot select a pattern from an empty pattern list"
  | noPatterns (.declaration field usage) =>
    "No prompt declared for field " ++ field ++
      " and no template registered for usage " ++ Text.quote usage.name
  | phraseLength parameter length =>
    parameter ++ " must be at least 1, got " ++ toString length
  | unresolved names =>
    "Template options still unresolved after applying defaults: " ++ ", ".intercalate names
  | badTerm pattern cause position =>
    "Invalid term pattern " ++ Text.quote pattern ++ ": " ++
      (Regex.Refusal.fault cause position).message pattern.toList
  | hugeCount => Regex.Refusal.hugeCount.message []
  | longCount limit digits => (Regex.Refusal.longCount limit digits).message []
  | longNumber limit => "Exceeds the limit (" ++ toString limit ++
      " digits) for integer string conversion; use sys.set_int_max_str_digits() to increase the limit"
  | overreach => Regex.Refusal.overreach.message []
  | twoAlphabets => Regex.Refusal.twoAlphabets.message []
  | crossedGroup => Regex.Refusal.crossedGroup.message []
  | format fault => fault.message
  | notMember shown vocabulary => shown ++ " is not a valid " ++ vocabulary.title
  | unknownStyle shown => "Unknown choice style: " ++ shown ++ ". Valid options: " ++
      ", ".intercalate (Record.Style.all.map Record.Style.name)
  | invalid report => report.message
  | notAlternative typeName => "Expected RawPhrase or PrebuiltMatcher, got " ++ typeName
  | noAttribute typeName name => "'" ++ typeName ++ "' object has no attribute '" ++ name ++ "'"
  | notComparable relation left right =>
    "'" ++ relation ++ "' not supported between instances of '" ++ left ++ "' and '" ++ right ++ "'"
  | emptyRange upper => "upper must be at least 1, got " ++ toString upper
  | noField model name => "\"" ++ model ++ "\" object has no field \"" ++ name ++ "\""
  | unknownLevel shown => "Unknown level: " ++ shown
  | notLevel shown => "Level not an integer or a valid string: " ++ shown
  | levelName typeName => "attribute name must be string, not '" ++ typeName ++ "'"
  | seed => "The only supported seed types are: None,\nint, float, str, bytes, and bytearray."
  | notIterable typeName => "'" ++ typeName ++ "' object is not iterable"
  | noSetter typeName name =>
    "property '" ++ name ++ "' of '" ++ typeName ++ "' object has no setter"
  | givenTwice callee name => callee ++ " got multiple values for " ++ name
  | notDictionary typeName => "__dict__ must be set to a dictionary, not a '" ++ typeName ++ "'"
  | notClass typeName => "__class__ must be set to a class, not '" ++ typeName ++ "' object"
  | endless => Regex.Refusal.tooDeep.message []
  | foreign _ text => text

def ofRefusal (pattern : String) : Regex.Refusal → Failure
  | .fault cause position => badTerm pattern cause position
  | .hugeCount => hugeCount
  | .longCount limit digits => longCount limit digits
  | .tooDeep => endless
  | .overreach => overreach
  | .twoAlphabets => twoAlphabets
  | .crossedGroup => crossedGroup

/-- What is said about a length that is too small, unless that is too long to be written. -/
def shortPhrase [Limits] (parameter : String) (length : Int) : Failure :=
  match Limits.unwritten? length with
  | some limit => longNumber limit
  | none => phraseLength parameter length

end Failure

end FormDialogue
