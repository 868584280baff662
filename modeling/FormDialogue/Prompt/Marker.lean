import FormDialogue.Record.Basic
import FormDialogue.Text.Words

/-! # Dropping the choices mark

When choices are laid out by the channel, the marks for them are taken out of a pattern together
with the spaces and tabs next to them. First a mark between two characters that are not blank
becomes a single space; then what is left of the marks disappears, and the text is trimmed. -/

namespace FormDialogue.Prompt
open Record (choicesMark)
open Unicode (isBlank)

def isGap (c : Char) : Bool := c = ' ' || c = '\t'

/-- A part that was cut off the front: its last character and the rest. -/
structure Cut where
  last : Char
  rest : List Char

def dropGap (last : Char) : List Char → Cut
  | [] => ⟨last, []⟩
  | c :: rest => if isGap c then dropGap c rest else ⟨last, c :: rest⟩

/-- A mark at the front, with the gaps on both of its sides. -/
def cutMark? (text : List Char) : Option Cut :=
  match text.dropWhile isGap with
  | '\x7b' :: '|' :: '|' :: '\x7d' :: rest => some (dropGap '\x7d' rest)
  | _ => none

theorem dropGap_rest_length (last : Char) (text : List Char) :
    (dropGap last text).rest.length ≤ text.length := by
  induction text generalizing last with
  | nil => simp [dropGap]
  | cons c rest ih =>
    unfold dropGap
    split
    · have := ih c
      simp only [List.length_cons]
      omega
    · simp

theorem length_dropWhile_le (p : Char → Bool) (text : List Char) :
    (text.dropWhile p).length ≤ text.length := by
  induction text with
  | nil => simp
  | cons c rest ih =>
    simp only [List.dropWhile_cons]
    split
    · simp only [List.length_cons]
      omega
    · simp

theorem cutMark?_rest_length {text : List Char} {cut : Cut} (h : cutMark? text = some cut) :
    cut.rest.length < text.length := by
  unfold cutMark? at h
  split at h
  · next rest heq =>
    have hd := length_dropWhile_le isGap text
    rw [heq] at hd
    have hr := dropGap_rest_length '\x7d' rest
    simp only [Option.some.injEq] at h
    subst h
    simp only [List.length_cons] at hd
    omega
  · simp at h

def isSolid (c : Char) : Bool := !isBlank c

/-- The cut at the front, if it lies between two solid characters. -/
def between? (previous : Option Char) (text : List Char) : Option Cut :=
  if previous.any isSolid then (cutMark? text).filter fun cut => cut.rest.head?.any isSolid
  else none

theorem between?_cutMark? {previous : Option Char} {text : List Char} {cut : Cut}
    (h : between? previous text = some cut) : cutMark? text = some cut := by
  unfold between? at h
  split at h
  · exact (Option.filter_eq_some_iff.1 h).1
  · simp at h

/-- Puts a space for every mark between solid characters; `previous` stands before the text. -/
def joinAcross (previous : Option Char) : List Char → List Char
  | [] => []
  | c :: rest =>
    match _h : between? previous (c :: rest) with
    | some cut => ' ' :: joinAcross (some cut.last) cut.rest
    | none => c :: joinAcross (some c) rest
termination_by text => text.length
decreasing_by
  · exact cutMark?_rest_length (between?_cutMark? _h)
  · exact Nat.lt_succ_self _

/-- Takes every mark out, with the gaps next to it. -/
def takeOut : List Char → List Char
  | [] => []
  | c :: rest =>
    match _h : cutMark? (c :: rest) with
    | some cut => takeOut cut.rest
    | none => c :: takeOut rest
termination_by text => text.length
decreasing_by
  · exact cutMark?_rest_length _h
  · exact Nat.lt_succ_self _

/-- The pattern without its marks for choices. -/
def dropMarks (pattern : List Char) : List Char :=
  Text.trim (takeOut (joinAcross none pattern))

end FormDialogue.Prompt
