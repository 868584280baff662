import FormDialogue.Proofs.Term.Finding
import FormDialogue.Proofs.Text.Respacing
import FormDialogue.Proofs.Unicode.LowerCase

/-! # Phrases and their own text

A phrase is put into lower case before its matcher is made. Every character agrees with its lower
case without regard to case, except for the capital I with a dot, which becomes two characters. So
a phrase is found in its own text, however its words are spaced there, exactly if it has no such
character; in its lower case it is always found. -/

namespace FormDialogue.Term
open Regex (matchesCode)
open Unicode (isBlank isWord)
open Text (Respaced solids)
variable {c : Char} {w x pending text : List Char} {words : List (List Char)}

/-! ## Occurrences and words -/

/-- A text with the given words consists of a spelling of them, and of blanks around it. -/
theorem exists_spelling (h : List.Forall₂ SameWord words (Text.wordsFrom pending x)) :
    ∃ before body after, pending.reverse ++ x = before ++ (body ++ after) ∧
      (∀ c ∈ before, isBlank c = true) ∧ (∀ c ∈ after, isBlank c = true) ∧ Spells words body := by
  induction x generalizing pending words with
  | nil =>
    cases pending with
    | nil =>
      obtain rfl := List.forall₂_nil_right_iff.1 h
      exact ⟨[], [], [], rfl, by simp, by simp, rfl⟩
    | cons d pending =>
      obtain ⟨w, rest, hw, hrest, rfl⟩ := List.forall₂_cons_right_iff.1 h
      obtain rfl := List.forall₂_nil_right_iff.1 hrest
      exact ⟨[], (d :: pending).reverse, [], by simp, by simp, by simp, hw⟩
  | cons c x ih =>
    cases hc : isBlank c with
    | false =>
      rw [Text.wordsFrom, hc] at h
      obtain ⟨before, body, after, heq, hparts⟩ := ih h
      exact ⟨before, body, after, by simpa using heq, hparts⟩
    | true =>
      have hcons {gap : List Char} (hgap : ∀ d ∈ gap, isBlank d = true) :
          ∀ d ∈ c :: gap, isBlank d = true := List.forall_mem_cons.2 ⟨hc, hgap⟩
      rw [Text.wordsFrom, hc] at h
      cases pending with
      | nil =>
        have hnext : List.Forall₂ SameWord words (Text.wordsFrom [] x) := h
        obtain ⟨before, body, after, heq, hbefore, hparts⟩ := ih hnext
        exact ⟨c :: before, body, after, congrArg (List.cons c) heq, hcons hbefore, hparts⟩
      | cons d pending =>
        -- The word ends here. If there is another one, the blanks before that are the gap.
        obtain ⟨w, rest, hw, hrest, rfl⟩ := List.forall₂_cons_right_iff.1 h
        obtain ⟨before, body, after, heq, hbefore, hafter, hbody⟩ := ih hrest
        rw [List.reverse_nil, List.nil_append] at heq
        cases rest with
        | nil =>
          obtain rfl : body = [] := hbody
          refine ⟨[], (d :: pending).reverse, c :: x, rfl, by simp, hcons ?_, hw⟩
          rw [heq]
          exact List.forall_mem_append.2 ⟨hbefore, hafter⟩
        | cons v rest =>
          refine ⟨[], (d :: pending).reverse ++ ((c :: before) ++ body), after, ?_, by simp, hafter,
            spells_cons.2 ⟨_, _, _, rfl, hw, ⟨List.cons_ne_nil _ _, hcons hbefore⟩, hbody⟩⟩
          simp [heq]

theorem occurs_of_words (h : List.Forall₂ SameWord words (Text.words x)) : Occurs words x := by
  have hfrom : List.Forall₂ SameWord words (Text.wordsFrom [] x) := h
  obtain ⟨before, body, after, heq, hbefore, hafter, hbody⟩ := exists_spelling hfrom
  refine ⟨_, _, before, body, after, heq, rfl, rfl, hbody, fun c hc => ?_, fun c hc => ?_⟩
  · exact Unicode.isWord_of_isBlank (hbefore c (List.mem_of_getLast? hc))
  · exact Unicode.isWord_of_isBlank (hafter c (List.mem_of_head? hc))

theorem SameWord.solids_length (h : SameWord w x) (hw : ∀ c ∈ w, isBlank c = false) :
    (solids x).length = w.length := by
  have hx : ∀ d ∈ x, isBlank d = false := by
    induction h with
    | nil => simp
    | @cons c d w x hcd _ ih =>
      obtain ⟨hc, hw⟩ := List.forall_mem_cons.1 hw
      refine List.forall_mem_cons.2 ⟨eq_false_of_ne_true fun hd => ?_, ih hw⟩
      rw [Regex.isBlank_of_matchesCode rfl hcd hd] at hc
      contradiction
  rw [Text.solids_of_solid hx, h.length_eq]

theorem Spells.solids_length (h : Spells words x) (hsolid : Solid words) :
    (solids x).length = words.flatten.length := by
  induction words generalizing x with
  | nil =>
    obtain rfl : x = [] := h
    rfl
  | cons w words ih =>
    obtain ⟨-, hw⟩ := hsolid w List.mem_cons_self
    cases words with
    | nil =>
      rw [SameWord.solids_length h hw]
      simp
    | cons v words =>
      obtain ⟨y, gap, z, rfl, hy, ⟨-, hgap⟩, hz⟩ := spells_cons.1 h
      rw [Text.solids_append, Text.solids_append, Text.solids_of_gap hgap, List.nil_append,
        List.length_append, hy.solids_length hw, ih hz hsolid.tail, ← List.length_append]
      rfl

/-- Words occur only in a text with enough characters for them. -/
theorem Occurs.length_le (h : Occurs words x) (hsolid : Solid words) :
    words.flatten.length ≤ (solids x).length := by
  obtain ⟨s, t, before, body, after, rfl, rfl, rfl, hbody, -, -⟩ := h
  rw [← hbody.solids_length hsolid, Text.solids_append, Text.solids_append, List.length_append,
    List.length_append]
  omega

/-! ## Lower case -/

/-- The capital letter I with a dot above, the only character with two characters in lower case. -/
abbrev dottedI : Char := '\u0130'

/-- The second character is asked for where the first one was written. -/
def LowersTo (c d : Char) : Prop :=
  isBlank c = isBlank d ∧ matchesCode caselessFlags d.toNat c = true

theorem lowersTo_lowerHead (h : c ≠ dottedI) : LowersTo c (Unicode.lowerHead c) := by
  refine ⟨?_, Regex.matchesCode_lowerHead rfl rfl h⟩
  cases hc : isBlank c with
  | true => rw [Unicode.lowerHead_of_isBlank hc, hc]
  | false =>
    refine (eq_false_of_ne_true fun hblank => ?_).symm
    rw [Unicode.isBlank_of_lowerHead hblank] at hc
    contradiction

theorem exists_lowerIn (h : c ≠ dottedI) (before after : List Char) :
    ∃ d, Text.lowerIn before c after = [d] ∧ LowersTo c d := by
  rw [Text.lowerIn]
  split
  · next hsigma =>
    subst hsigma
    split
    · exact ⟨_, rfl, by decide, by decide +kernel⟩
    · exact ⟨_, rfl, by decide, by decide +kernel⟩
  · refine ⟨_, ?_, lowersTo_lowerHead h⟩
    rw [Unicode.lowerHead_eq_shifted h, Unicode.lowerChar, if_neg h]

theorem lowerFrom_lowers (h : dottedI ∉ text) (before : List Char) :
    List.Forall₂ LowersTo text (Text.lowerFrom before text) := by
  induction text generalizing before with
  | nil => exact .nil
  | cons c text ih =>
    obtain ⟨hc, htext⟩ := List.ne_and_not_mem_of_not_mem_cons h
    obtain ⟨d, hd, hlowers⟩ := exists_lowerIn (Ne.symm hc) before text
    rw [Text.lowerFrom, hd]
    exact .cons hlowers (ih htext (c :: before))

theorem solids_lowerFrom (before text : List Char) :
    (solids (Text.lowerFrom before text)).length = (solids text).length + text.count dottedI := by
  induction text generalizing before with
  | nil => rfl
  | cons c text ih =>
    rw [Text.lowerFrom, Text.solids_append, List.length_append, ih, ← List.singleton_append,
      Text.solids_append, List.length_append, List.count_append]
    have hc : (solids (Text.lowerIn before c text)).length =
        (solids [c]).length + List.count dottedI [c] := by
      by_cases hdot : c = dottedI
      · subst hdot
        rfl
      · obtain ⟨d, hd, hblank, -⟩ := exists_lowerIn hdot before text
        rw [hd, List.count_eq_zero.2 (by simpa using Ne.symm hdot)]
        cases hd : isBlank d <;> simp [solids, hblank, hd]
    omega

/-! ## Phrases -/

theorem forall₂_sameWord_self (words : List (List Char)) :
    List.Forall₂ SameWord words words :=
  List.forall₂_same.2 fun _ _ => List.forall₂_same.2 fun c _ => Regex.matchesCode_self rfl c

/-- The words of a phrase occur in its text, spaced somehow, exactly if it has no dotted capital. -/
theorem occurs_lower_iff (h : Respaced text x) :
    Occurs (Text.words (Text.lower text)) x ↔ dottedI ∉ text := by
  constructor
  · intro hoccurs hdot
    have hle := hoccurs.length_le fun w hw => Text.solid_of_mem_words hw
    rw [Text.flatten_words, Text.lower, solids_lowerFrom, ← Text.flatten_words, h.words_eq,
      Text.flatten_words] at hle
    have hcount := List.count_pos_iff.2 hdot
    omega
  · intro hdot
    apply occurs_of_words
    have hwords := Text.forall₂_words (fun c d hcd => hcd.1) (lowerFrom_lowers hdot [])
    rw [← h.words_eq]
    exact hwords.flip.imp fun _ _ hword => hword.flip.imp fun _ _ hcd => hcd.2

theorem phraseWords_ne_nil {text : String} (h : ∃ c ∈ text.toList, isBlank c = false) :
    phraseWords text ≠ [] := by
  intro hnil
  obtain ⟨c, hc, hsolid⟩ := h
  have hlength := solids_lowerFrom [] text.toList
  have hmem : c ∈ solids text.toList := List.mem_filter.2 ⟨hc, by simp [hsolid]⟩
  have hpos := List.length_pos_of_mem hmem
  have hflat : (phraseWords text).flatten = solids (Text.lowerFrom [] text.toList) :=
    Text.flatten_words _
  rw [← hflat, hnil, List.flatten_nil, List.length_nil] at hlength
  omega

/-- A phrase with a character that is not blank has one matcher. It matches the lower case of the
phrase; the phrase itself, with any of its gaps replaced by others, it matches exactly if there is
no capital I with a dot in it. -/
theorem phrase_matches_itself (text : String) (h : ∃ c ∈ text.toList, isBlank c = false) :
    ∃ m, compileTerms [.tagged (.phrase text)] = .ok [m] ∧
      m.matchesIn (String.ofList (Text.lower text.toList)) = .ok true ∧
      m.matchesIn text = .ok (decide (dottedI ∉ text.toList)) ∧
      ∀ other : String, Respaced text.toList other.toList →
        m.matchesIn other = .ok (decide (dottedI ∉ text.toList)) := by
  have hne := phraseWords_ne_nil h
  obtain ⟨m, hm, -, hrecognizes⟩ := ofWords_recognizes hne fun w hw => Text.solid_of_mem_words hw
  have hrespaced (other : String) (hother : Respaced text.toList other.toList) :
      m.matchesIn other = .ok (decide (dottedI ∉ text.toList)) := by
    have hoccurs := occurs_lower_iff hother
    by_cases hdot : dottedI ∉ text.toList
    · rw [hrecognizes.matchesIn_of_occurs (hoccurs.2 hdot), decide_eq_true hdot]
    · rw [hrecognizes.matchesIn_of_not_occurs (mt hoccurs.1 hdot), decide_eq_false hdot]
  refine ⟨m, ?_, ?_, hrespaced text (.refl _), hrespaced⟩
  · have hruns : phraseRuns (phraseWords text) none = [phraseWords text] :=
      if_neg (by simpa using hne)
    simp only [compileTerms, matchersOfAll, matchersOf, hruns, matchersOfRuns, hm]
    rfl
  · apply hrecognizes.matchesIn_of_occurs
    rw [String.toList_ofList]
    exact occurs_of_words (forall₂_sameWord_self _)

theorem phrase_matches_itself_sample :
    (∃ c ∈ "A to Z".toList, isBlank c = false) ∧ (∃ c ∈ "\u0130".toList, isBlank c = false) ∧
      (∃ m, compileTerms [.tagged (.phrase "A to Z")] = .ok [m] ∧
        m.matchesIn "A\n\tto Z" = .ok true) ∧
      ∃ m, compileTerms [.tagged (.phrase "\u0130")] = .ok [m] ∧
        m.matchesIn "\u0130" = .ok false := by
  have hsolid : ∃ c ∈ "A to Z".toList, isBlank c = false := ⟨'A', by decide, by decide⟩
  have hdot : ∃ c ∈ "\u0130".toList, isBlank c = false := ⟨dottedI, by decide, by decide⟩
  have hrespaced : Respaced "A to Z".toList "A\n\tto Z".toList := by
    have hgap : Text.IsGap [' '] := ⟨by decide, List.all_eq_true.1 rfl⟩
    have hgap' : Text.IsGap ['\n', '\t'] := ⟨by decide, List.all_eq_true.1 rfl⟩
    exact .solid (by decide) (.gap hgap hgap' (.refl _))
  obtain ⟨m, hm, -, -, hother⟩ := phrase_matches_itself "A to Z" hsolid
  obtain ⟨m', hm', -, hown, -⟩ := phrase_matches_itself "\u0130" hdot
  exact ⟨hsolid, hdot, ⟨m, hm, hother _ hrespaced⟩, m', hm', hown⟩

end FormDialogue.Term
