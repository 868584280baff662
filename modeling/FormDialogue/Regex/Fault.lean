import FormDialogue.Limits
import FormDialogue.Text.Quoted

/-! # Faults of regular expressions

Every reason for which an expression is refused, with its wording. Most faults have a position in
the expression; in an expression of several lines the line and the column are added. -/

namespace FormDialogue.Regex

inductive Fault
  | endInEscape
  | unexpectedEnd
  | missing (what : String)
  | unterminatedName (terminator : Char)
  | badGroupName (name : List Char)
  | unknownGroupName (name : List Char)
  | redefinedGroup (name : List Char) (new old : Nat)
  | badGroupNumber
  | invalidReference (group : Nat)
  | openGroupReference
  | lookbehindReference
  | incompleteEscape (text : List Char)
  | badEscape (text : List Char)
  | undefinedName (name : List Char)
  | octalRange (text : List Char)
  | unterminatedSet
  | badRange (low high : List Char)
  | repeatOrder
  | nothingToRepeat
  | multipleRepeat
  | unterminatedComment
  | unterminatedGroup
  | unbalanced
  | unknownExtension (text : List Char)
  | tooManyBranches
  | lateGlobalFlags
  | localeFlag
  | alphabetFlags
  | unknownFlag
  | offAlphabet
  | onGlobalFlag
  | offGlobalFlag
  | onAndOff
  | bareLoop (greed : String)
  | openWidth
  deriving DecidableEq, Repr

def Fault.message : Fault → String
  | endInEscape => "bad escape (end of pattern)"
  | unexpectedEnd => "unexpected end of pattern"
  | missing what => "missing " ++ what
  | unterminatedName t => "missing " ++ t.toString ++ ", unterminated name"
  | badGroupName name => "bad character in group name " ++ Text.quote (String.ofList name)
  | unknownGroupName name => "unknown group name " ++ Text.quote (String.ofList name)
  | redefinedGroup name new old =>
    "redefinition of group name " ++ Text.quote (String.ofList name) ++ " as group " ++
      toString new ++ "; was group " ++ toString old
  | badGroupNumber => "bad group number"
  | invalidReference g => "invalid group reference " ++ toString g
  | openGroupReference => "cannot refer to an open group"
  | lookbehindReference => "cannot refer to group defined in the same lookbehind subpattern"
  | incompleteEscape t => "incomplete escape " ++ String.ofList t
  | badEscape t => "bad escape " ++ String.ofList t
  | undefinedName name => "undefined character name " ++ Text.quote (String.ofList name)
  | octalRange t => "octal escape value " ++ String.ofList t ++ " outside of range 0-0o377"
  | unterminatedSet => "unterminated character set"
  | badRange low high => "bad character range " ++ String.ofList low ++ "-" ++ String.ofList high
  | repeatOrder => "min repeat greater than max repeat"
  | nothingToRepeat => "nothing to repeat"
  | multipleRepeat => "multiple repeat"
  | unterminatedComment => "missing ), unterminated comment"
  | unterminatedGroup => "missing ), unterminated subpattern"
  | unbalanced => "unbalanced parenthesis"
  | unknownExtension t => "unknown extension ?" ++ String.ofList t
  | tooManyBranches => "conditional backref with more than two branches"
  | lateGlobalFlags => "global flags not at the start of the expression"
  | localeFlag => "bad inline flags: cannot use 'L' flag with a str pattern"
  | alphabetFlags => "bad inline flags: flags 'a', 'u' and 'L' are incompatible"
  | unknownFlag => "unknown flag"
  | offAlphabet => "bad inline flags: cannot turn off flags 'a', 'u' and 'L'"
  | onGlobalFlag => "bad inline flags: cannot turn on global flag"
  | offGlobalFlag => "bad inline flags: cannot turn off global flag"
  | onAndOff => "bad inline flags: flag turned on and off"
  | bareLoop greed => "internal: unsupported template operator " ++ greed
  | openWidth => "look-behind requires fixed-width pattern"

/-- Why an expression is refused. Some refusals are not faults of the syntax: a repetition count
that no counter holds or that has more digits than are read, parts that are nested too deeply, a
look-behind that reaches farther than a matcher can, and two alphabets for one expression. One
concerns a match: a group in it starts behind its end. -/
inductive Refusal
  | fault (cause : Fault) (position : Option Nat)
  | hugeCount
  | longCount (limit digits : Nat)
  | tooDeep
  | overreach
  | twoAlphabets
  | crossedGroup
  deriving DecidableEq, Repr

/-- The line of a position and its column, both counted from one. -/
def lineColumn (pattern : List Char) (position : Nat) : Nat × Nat :=
  let before := pattern.take position
  (before.count '\n' + 1, (before.reverse.takeWhile (· != '\n')).length + 1)

def Refusal.message (pattern : List Char) : Refusal → String
  | fault cause none => cause.message
  | fault cause (some position) =>
    let text := cause.message ++ " at position " ++ toString position
    if pattern.contains '\n' then
      let (line, column) := lineColumn pattern position
      text ++ " (line " ++ toString line ++ ", column " ++ toString column ++ ")"
    else text
  | hugeCount => "the repetition number is too large"
  | longCount limit digits =>
    "Exceeds the limit (" ++ toString limit ++
      " digits) for integer string conversion: value has " ++ toString digits ++
      " digits; use sys.set_int_max_str_digits() to increase the limit"
  | tooDeep => "maximum recursion depth exceeded"
  | overreach => "invalid SRE code"
  | twoAlphabets => "ASCII and UNICODE flags are incompatible"
  | crossedGroup => "The span of capturing group is wrong, please report a bug for the re module."

end FormDialogue.Regex
