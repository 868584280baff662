import FormDialogue.Proofs.Term.WholeWords

/-! # Phrases that are found

The matcher of words matches a text exactly if the words occur in it. Where several words occur, the
first of them occurs by itself, since the blanks behind it are no word characters. -/

namespace FormDialogue.Unicode
variable {c : Char}

theorem isWord_of_isBlank (h : isBlank c = true) : isWord c = false := by
  have hall : (blanks.all fun b => !isWord (Char.ofNat b)) = true := by decide +kernel
  have hc := List.all_eq_true.1 hall c.toNat (mem_blanks_of_isBlank h)
  rwa [Char.ofNat_toNat, Bool.not_eq_true'] at hc

end FormDialogue.Unicode

namespace FormDialogue.Term
open Unicode (isBlank isWord)
variable {w text : List Char} {words : List (List Char)} {m : Matcher}

def Occurs (words : List (List Char)) (text : List Char) : Prop := ∃ s t, OccursAt words text s t

theorem Recognizes.matchesIn_of_occurs (h : Recognizes words m) {text : String}
    (hoccurs : Occurs words text.toList) : m.matchesIn text = .ok true := by
  obtain ⟨s, t, hst⟩ := hoccurs
  obtain ⟨found, hfound, -, hnone⟩ := h text
  cases found with
  | none => exact absurd hst (hnone.1 rfl s t)
  | some span => rw [Matcher.matchesIn, hfound]; rfl

theorem Recognizes.matchesIn_of_not_occurs (h : Recognizes words m) {text : String}
    (hoccurs : ¬ Occurs words text.toList) : m.matchesIn text = .ok false := by
  obtain ⟨found, hfound, -, hnone⟩ := h text
  have hfail : found = none := hnone.2 fun s t hst => hoccurs ⟨s, t, hst⟩
  rw [Matcher.matchesIn, hfound, hfail]
  rfl

theorem Recognizes.matchesIn_iff (h : Recognizes words m) (text : String) :
    m.matchesIn text = .ok true ↔ Occurs words text.toList := by
  refine ⟨fun hmatch => ?_, h.matchesIn_of_occurs⟩
  by_contra hoccurs
  rw [h.matchesIn_of_not_occurs hoccurs] at hmatch
  cases hmatch

/-- What follows the first of several words is a blank, so the word ends there. -/
theorem Occurs.head (h : Occurs (w :: words) text) : Occurs [w] text := by
  obtain ⟨s, t, before, body, after, rfl, rfl, rfl, hbody, hbefore, hafter⟩ := h
  cases words with
  | nil => exact ⟨_, _, before, body, after, rfl, rfl, rfl, hbody, hbefore, hafter⟩
  | cons v words =>
    obtain ⟨y, gap, z, rfl, hy, ⟨hne, hgap⟩, -⟩ := spells_cons.1 hbody
    refine ⟨_, _, before, y, gap ++ (z ++ after), by simp, rfl, rfl, hy, hbefore, ?_⟩
    intro c hc
    obtain ⟨d, gap, rfl⟩ := List.exists_cons_of_ne_nil hne
    obtain rfl : d = c := Option.some.inj hc
    exact Unicode.isWord_of_isBlank (hgap d List.mem_cons_self)

end FormDialogue.Term
