import FormDialogue.Term.Matcher

/-! # Term declarations

The alternatives for one field or value, and the length of the longest run of words to expand
phrases into, if they are to be expanded. Compiling a declaration leaves it as it is. -/

namespace FormDialogue.Term

structure PhraseLimit where
  length : Int
  positive : 1 ≤ length
  deriving DecidableEq, Repr

structure TermSpec where
  alternatives : List Alternative
  maxPhrase : Option PhraseLimit
  deriving DecidableEq, Repr

namespace TermSpec

def declare (given : List Given) : Except Failure TermSpec := do
  let alternatives ← classifyAll given
  return ⟨alternatives, none⟩

def withMaxPhrase [Limits] (s : TermSpec) (length : Int) : Except Failure TermSpec :=
  if h : 1 ≤ length then .ok { s with maxPhrase := some ⟨length, h⟩ }
  else .error (.shortPhrase "max_phrase" length)

/-- The length of runs that holds: the one asked for, else the declared one. -/
def lengthFor (s : TermSpec) (asked : Option Int) : Option Int :=
  asked.orElse fun _ => s.maxPhrase.map PhraseLimit.length

def given (s : TermSpec) : List Given := s.alternatives.map .tagged

def compile [Limits] (s : TermSpec) (asked : Option Int) : Except Failure (List Matcher) :=
  match s.lengthFor asked with
  | none => compileTerms s.given
  | some length => expandTerms s.given length

end TermSpec

end FormDialogue.Term
