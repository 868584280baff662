import FormDialogue.Text.Words
import Mathlib.Data.List.TakeWhile

/-! # Words by their starts

The words of a text are known from its characters that are not blank, each with the information
whether it starts a word. Two texts have the same words exactly when they agree in this, and whether
they do is seen by reading both from left to right. -/

namespace FormDialogue.Text
open Unicode (isBlank)
variable {b : Bool} {c : Char} {x y : List Char}

/-- The characters that are not blank, with whether they start a word; `inWord` tells whether the
text goes on with a word that was started before. -/
def wordStarts (inWord : Bool) : List Char → List (Bool × Char)
  | [] => []
  | c :: rest =>
    if isBlank c then wordStarts false rest else (!inWord, c) :: wordStarts true rest

def inWordAfter (inWord : Bool) : List Char → Bool
  | [] => inWord
  | c :: rest => inWordAfter (!isBlank c) rest

theorem wordStarts_blank (h : isBlank c = true) (b : Bool) (x : List Char) :
    wordStarts b (c :: x) = wordStarts false x := by
  simp [wordStarts, h]

theorem wordStarts_solid (h : isBlank c = false) (b : Bool) (x : List Char) :
    wordStarts b (c :: x) = (!b, c) :: wordStarts true x := by
  simp [wordStarts, h]

theorem wordStarts_append (b : Bool) (x y : List Char) :
    wordStarts b (x ++ y) = wordStarts b x ++ wordStarts (inWordAfter b x) y := by
  induction x generalizing b with
  | nil => rfl
  | cons c x ih =>
    cases h : isBlank c with
    | true => simp [wordStarts_blank h, inWordAfter, h, ih]
    | false => simp [wordStarts_solid h, inWordAfter, h, ih]

theorem wordStarts_blanks (h : ∀ c ∈ x, isBlank c = true) (b : Bool) : wordStarts b x = [] := by
  induction x generalizing b with
  | nil => rfl
  | cons c x ih =>
    rw [wordStarts_blank (h c List.mem_cons_self)]
    exact ih (fun d hd => h d (List.mem_cons_of_mem c hd)) false

theorem inWordAfter_blanks (h : ∀ c ∈ x, isBlank c = true) (b : Bool) :
    inWordAfter b x = (b && x.isEmpty) := by
  induction x generalizing b with
  | nil => simp [inWordAfter]
  | cons c x ih =>
    rw [inWordAfter, ih fun d hd => h d (List.mem_cons_of_mem c hd), h c List.mem_cons_self]
    simp

theorem wordStarts_blanks_append (h : ∀ c ∈ x, isBlank c = true) (b : Bool) (y : List Char) :
    wordStarts b (x ++ y) = wordStarts (b && x.isEmpty) y := by
  rw [wordStarts_append, wordStarts_blanks h, inWordAfter_blanks h, List.nil_append]

/-! ## Trimming -/

theorem wordStarts_trimLeft (x : List Char) :
    wordStarts false (trimLeft x) = wordStarts false x := by
  induction x with
  | nil => rfl
  | cons c x ih =>
    cases h : isBlank c with
    | true => rwa [trimLeft, List.dropWhile_cons_of_pos h, wordStarts_blank h]
    | false => rw [trimLeft, List.dropWhile_cons_of_neg (by simp [h])]

theorem trimRight_append_blanks (x : List Char) :
    ∃ y, x = trimRight x ++ y ∧ ∀ c ∈ y, isBlank c = true := by
  refine ⟨(x.reverse.takeWhile isBlank).reverse, ?_, fun c hc => ?_⟩
  · rw [trimRight, ← List.reverse_append, List.takeWhile_append_dropWhile, List.reverse_reverse]
  · exact List.mem_takeWhile_imp (List.mem_reverse.1 hc)

theorem wordStarts_trim (x : List Char) : wordStarts false (trim x) = wordStarts false x := by
  obtain ⟨y, hy, hblank⟩ := trimRight_append_blanks (trimLeft x)
  rw [← wordStarts_trimLeft x, hy, wordStarts_append, wordStarts_blanks hblank, List.append_nil]
  rfl

/-! ## Words and their starts -/

def wordFlags : List Char → List (Bool × Char)
  | [] => []
  | c :: rest => (true, c) :: rest.map fun d => (false, d)

/-- The words from the starts; `pending` is an unfinished word in reverse. -/
def regroup (pending : List Char) : List (Bool × Char) → List (List Char)
  | [] => if pending.isEmpty then [] else [pending.reverse]
  | (true, c) :: rest =>
    if pending.isEmpty then regroup [c] rest else pending.reverse :: regroup [c] rest
  | (false, c) :: rest => regroup (c :: pending) rest

theorem wordFlags_append_solid (hne : x ≠ []) (c : Char) :
    wordFlags (x ++ [c]) = wordFlags x ++ [(false, c)] := by
  cases x with
  | nil => contradiction
  | cons d x => simp [wordFlags]

theorem flags_wordsFrom (pending x : List Char) :
    (wordsFrom pending x).flatMap wordFlags =
      wordFlags pending.reverse ++ wordStarts (!pending.isEmpty) x := by
  induction x generalizing pending with
  | nil => cases pending <;> simp [wordsFrom, wordStarts, wordFlags]
  | cons c x ih =>
    cases h : isBlank c with
    | true =>
      have hx := ih []
      rw [wordStarts_blank h]
      cases pending with
      | nil => simpa [wordsFrom, h, wordFlags] using hx
      | cons d pending => simpa [wordsFrom, h, wordFlags] using hx
    | false =>
      have hx := ih (c :: pending)
      rw [wordStarts_solid h]
      cases pending with
      | nil => simpa [wordsFrom, h, wordFlags] using hx
      | cons d pending =>
        have hne : (d :: pending).reverse ≠ [] := by simp
        rw [List.reverse_cons, wordFlags_append_solid hne] at hx
        simpa [wordsFrom, h] using hx

theorem regroup_finishes {pending : List Char} (hne : pending ≠ []) (x : List Char) :
    regroup pending (wordStarts false x) = pending.reverse :: regroup [] (wordStarts false x) := by
  induction x with
  | nil => simp [wordStarts, regroup, hne]
  | cons c x ih =>
    cases h : isBlank c with
    | true => rwa [wordStarts_blank h]
    | false => simp [wordStarts_solid h, regroup, hne]

theorem regroup_wordStarts (pending x : List Char) :
    regroup pending (wordStarts (!pending.isEmpty) x) = wordsFrom pending x := by
  induction x generalizing pending with
  | nil => rfl
  | cons c x ih =>
    cases h : isBlank c with
    | true =>
      have hx : regroup [] (wordStarts false x) = wordsFrom [] x := ih []
      rw [wordStarts_blank h]
      cases pending with
      | nil => simpa [wordsFrom, h] using hx
      | cons d pending =>
        rw [regroup_finishes (List.cons_ne_nil d pending), hx]
        simp [wordsFrom, h]
    | false =>
      have hx := ih (c :: pending)
      rw [wordStarts_solid h]
      cases pending with
      | nil => simpa [wordsFrom, h, regroup] using hx
      | cons d pending => simpa [wordsFrom, h, regroup] using hx

theorem words_eq_iff : words x = words y ↔ wordStarts false x = wordStarts false y := by
  constructor
  · intro h
    have hx := flags_wordsFrom [] x
    have hy := flags_wordsFrom [] y
    simp only [List.reverse_nil, wordFlags, List.nil_append, List.isEmpty_nil, Bool.not_true]
      at hx hy
    rw [← hx, ← hy]
    exact congrArg (List.flatMap wordFlags) h
  · intro h
    rw [words, words, ← regroup_wordStarts [] x, ← regroup_wordStarts [] y]
    exact congrArg (regroup []) h

theorem words_trim (x : List Char) : words (trim x) = words x :=
  words_eq_iff.2 (wordStarts_trim x)

/-! ## What words consist of -/

theorem solid_reverse {pending : List Char} (hne : pending ≠ [])
    (h : ∀ c ∈ pending, isBlank c = false) :
    pending.reverse ≠ [] ∧ ∀ c ∈ pending.reverse, isBlank c = false :=
  ⟨by simpa using hne, fun c hc => h c (List.mem_reverse.1 hc)⟩

theorem solid_of_mem_wordsFrom {pending w : List Char}
    (hpending : ∀ c ∈ pending, isBlank c = false) (hw : w ∈ wordsFrom pending x) :
    w ≠ [] ∧ ∀ c ∈ w, isBlank c = false := by
  induction x generalizing pending with
  | nil =>
    cases pending with
    | nil => simp [wordsFrom] at hw
    | cons d pending =>
      obtain rfl : w = (d :: pending).reverse := by simpa [wordsFrom] using hw
      exact solid_reverse (List.cons_ne_nil d pending) hpending
  | cons c x ih =>
    cases h : isBlank c with
    | true =>
      cases pending with
      | nil => exact ih hpending (by simpa [wordsFrom, h] using hw)
      | cons d pending =>
        have hmem : w = (d :: pending).reverse ∨ w ∈ wordsFrom [] x := by
          simpa [wordsFrom, h] using hw
        rcases hmem with rfl | hmem
        · exact solid_reverse (List.cons_ne_nil d pending) hpending
        · exact ih (by simp) hmem
    | false =>
      exact ih (List.forall_mem_cons.2 ⟨h, hpending⟩) (by simpa [wordsFrom, h] using hw)

theorem solid_of_mem_words {w : List Char} (hw : w ∈ words x) :
    w ≠ [] ∧ ∀ c ∈ w, isBlank c = false :=
  solid_of_mem_wordsFrom (by simp) hw

end FormDialogue.Text
