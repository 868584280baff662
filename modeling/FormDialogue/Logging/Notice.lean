import FormDialogue.Datum.Shown
import FormDialogue.Logging.Level
import FormDialogue.Record.Member

/-! # Notices

What the parts of the library report while they work: on which channel, how severe, and in which
words. -/

namespace FormDialogue.Logging
open Record (OptionName Style Usage)

inductive Channel
  | cascade
  | selection
  | prompts
  | terms
  | draws
  | choices
  | components
  deriving DecidableEq, Repr

inductive Notice
  | incompleteDefaults (names : List String)
  | replaced (usage : Usage)
  | noPatterns
  | selected (number count : Nat)
  | nothingDeclared (usage : Usage) (field : String)
  | expanded (alternatives matchers : Nat) (most : Int)
  | sourceReady (seeded : Bool)
  | manyChoices (count : Nat) (threshold : String)
  | newSource (seeded : Bool)
  | newCascade
  | newRenderer (style : Style)
  deriving DecidableEq, Repr

namespace Notice

def channel : Notice → Channel
  | incompleteDefaults _ | replaced _ | noPatterns => .cascade
  | selected .. => .selection
  | nothingDeclared .. => .prompts
  | expanded .. => .terms
  | sourceReady _ => .draws
  | manyChoices .. => .choices
  | newSource _ | newCascade | newRenderer _ => .components

def level : Notice → Level
  | incompleteDefaults _ | noPatterns | nothingDeclared .. => .error
  | newSource _ | newCascade => .info
  | replaced _ | selected .. | expanded .. => .debug
  | sourceReady _ | manyChoices .. | newRenderer _ => .debug

def truth (b : Bool) : String := if b then "True" else "False"

def message : Notice → String
  | incompleteDefaults names =>
    "Global template defaults are incomplete: " ++ (Datum.list (names.map .text)).shown
  | replaced usage => "Replacing global template for usage " ++ usage.name
  | noPatterns => "Resolved a template record with no patterns"
  | selected number count => "Selected pattern " ++ toString number ++ " of " ++ toString count
  | nothingDeclared usage field => "No prompt or " ++ usage.name ++ " template for field " ++ field
  | expanded alternatives matchers most =>
    "Expanded " ++ toString alternatives ++ " alternatives into " ++ toString matchers ++
      " matchers (max_phrase_length=" ++ toString most ++ ")"
  | sourceReady seeded => "ThreadSafeRandomSource initialized: seeded=" ++ truth seeded
  | manyChoices count threshold => toString count ++ " choices reach inline threshold " ++
      threshold ++ ", rendering per line"
  | newSource seeded => "Instantiating random source: seeded=" ++ truth seeded
  | newCascade => "Instantiating default cascade from settings"
  | newRenderer style => "Instantiating choice renderer: " ++ style.name

end Notice

end FormDialogue.Logging
