import FormDialogue.Regex.Matcher
import FormDialogue.Term.Alternative
import FormDialogue.Term.WordRuns
import FormDialogue.Text.Casing

/-! # Matchers

A matcher finds a term in free text. The matcher of a phrase accepts its words in order, separated
by blanks, where no word character stands before the first or behind the last. Phrases are put into
lower case, split into words, and may be broken into shorter runs of words. -/

namespace FormDialogue.Term
open Regex (Expression Flags)

/-- The characters that mean something in an expression. -/
def specialChars : List Char := "()[]\x7b\x7d?*+-|^$\\.&~# \t\n\r\x0b\x0c".toList

def literally (word : List Char) : List Char :=
  word.flatMap fun c => if specialChars.contains c then ['\\', c] else [c]

def wordStart : List Char := "(?<!\\w)".toList
def wordEnd : List Char := "(?!\\w)".toList
def wordGap : List Char := "\\s+".toList

def joinWords : List (List Char) → List Char
  | [] => []
  | [w] => literally w
  | w :: rest => literally w ++ wordGap ++ joinWords rest

/-- The expression for whole words in order. -/
def phrasePattern (words : List (List Char)) : String :=
  String.ofList (wordStart ++ joinWords words ++ wordEnd)

def caselessFlags : Flags := { caseless := true }

structure Matcher where
  source : String
  pattern : String
  prebuilt : Bool
  expression : Expression
  deriving Repr

namespace Matcher

/-- A matcher for an expression, compared without regard to case. -/
def create [Limits] (source pattern : String) (prebuilt : Bool) : Except Failure Matcher :=
  match Regex.compile caselessFlags pattern with
  | .ok expression => .ok ⟨source, pattern, prebuilt, expression⟩
  | .error refusal => .error (.ofRefusal pattern refusal)

def ofExpression [Limits] (pattern : String) : Except Failure Matcher := create pattern pattern true

def ofWords [Limits] (words : List (List Char)) : Except Failure Matcher :=
  create (" ".intercalate (words.map String.ofList)) (phrasePattern words) false

def search (m : Matcher) (text : String) : Except Failure (Option (Nat × Nat)) :=
  (m.expression.search text).mapError (Failure.ofRefusal m.pattern)

def matchesIn (m : Matcher) (text : String) : Except Failure Bool :=
  (m.search text).map Option.isSome

end Matcher

def phraseWords (text : String) : List (List Char) := Text.words (Text.lower text.toList)

/-- The runs of words that stand for a phrase; without a length, the whole phrase. -/
def phraseRuns (words : List (List Char)) : Option Int → List (List (List Char))
  | none => if words.isEmpty then [] else [words]
  | some most => wordRuns words most

def matchersOfRuns [Limits] : List (List (List Char)) → Except Failure (List Matcher)
  | [] => .ok []
  | run :: rest => do
    let m ← Matcher.ofWords run
    let more ← matchersOfRuns rest
    return m :: more

def matchersOf [Limits] (most : Option Int) : Alternative → Except Failure (List Matcher)
  | .expression pattern => do
    let m ← Matcher.ofExpression pattern
    return [m]
  | .phrase text => matchersOfRuns (phraseRuns (phraseWords text) most)
  | .unusable kind text => .error (.foreign kind text)

/-- The matchers of alternatives in order. Text that was not classified is refused. -/
def matchersOfAll [Limits] (most : Option Int) : List Given → Except Failure (List Matcher)
  | [] => .ok []
  | .tagged a :: rest => do
    let ms ← matchersOf most a
    let more ← matchersOfAll most rest
    return ms ++ more
  | .plain _ :: _ => .error (.notAlternative "str")
  | .other typeName _ :: _ => .error (.notAlternative typeName)

/-- One matcher for each alternative, except for phrases without words. -/
def compileTerms [Limits] (given : List Given) : Except Failure (List Matcher) :=
  matchersOfAll none given

/-- The matchers of all runs. A length that is too long to be written is not reported, but fails
when everything else is done. -/
def expandTerms [Limits] (given : List Given) (most : Int) : Except Failure (List Matcher) :=
  if most < 1 then .error (.shortPhrase "max_phrase_length" most)
  else do
    let matchers ← matchersOfAll (some most) given
    match Limits.unwritten? most with
    | some limit => .error (.longNumber limit)
    | none => return matchers

/-- The matchers of alternatives that are classified first, all of them before any is expanded. -/
def expandGiven [Limits] (given : List Given) (most : Int) : Except Failure (List Matcher) := do
  let alternatives ← classifyAll given
  expandTerms (alternatives.map .tagged) most

end FormDialogue.Term
