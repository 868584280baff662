import FormDialogue.Unicode.Blank

/-! # Words

A word is a longest run of characters that are not blank. The words of a text are its words from
left to right; trimming removes the blanks at both ends. -/

namespace FormDialogue.Text
open Unicode (isBlank)

/-- The words of `pending ++ rest`, where `pending` is an unfinished word in reverse. -/
def wordsFrom (pending : List Char) : List Char → List (List Char)
  | [] => if pending.isEmpty then [] else [pending.reverse]
  | c :: rest =>
    if isBlank c then
      if pending.isEmpty then wordsFrom [] rest else pending.reverse :: wordsFrom [] rest
    else wordsFrom (c :: pending) rest

def words (text : List Char) : List (List Char) := wordsFrom [] text

def trimLeft (text : List Char) : List Char := text.dropWhile isBlank

def trimRight (text : List Char) : List Char := (text.reverse.dropWhile isBlank).reverse

def trim (text : List Char) : List Char := trimRight (trimLeft text)

end FormDialogue.Text
