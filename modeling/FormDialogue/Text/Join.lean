/-! # Joined lists

Lists in running text: one separator between most items and another before the last. -/

namespace FormDialogue.Text

/-- `a, b or c`: `last` stands before the final item and `separator` between the others. -/
def joinWithLast (separator last : String) : List String → String
  | [] => ""
  | [item] => item
  | [item, final] => item ++ last ++ final
  | item :: rest => item ++ separator ++ joinWithLast separator last rest

/-- Quoted names in running text: `'a', 'b' or 'c'`. -/
def alternatives (names : List String) : String :=
  joinWithLast ", " " or " (names.map fun name => "'" ++ name ++ "'")

def separated : List (List Char) → List Char
  | [] => []
  | [a] => a
  | a :: rest => a ++ ',' :: ' ' :: separated rest

end FormDialogue.Text
