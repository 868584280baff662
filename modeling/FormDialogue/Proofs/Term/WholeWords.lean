import FormDialogue.Proofs.Regex.Leftmost
import FormDialogue.Proofs.Term.PhraseReading
import FormDialogue.Proofs.Term.RunPlaces
import FormDialogue.Proofs.Term.Spelling
import FormDialogue.Proofs.Text.WordStarts

/-! # Phrases are found as whole words

The matcher of words finds the leftmost place where the words occur. Every raw phrase has its
matchers, whatever characters it is made of. -/

namespace FormDialogue.Term
open Regex (Node Place HasMatch)
open Unicode (isBlank isWord)
variable {w : List Char} {words : List (List Char)} {ns : List Node} {p r : Place}
  {reaches : Place → Place → Prop}

/-! ## What the expression explores -/

theorem explores_word (hns : ns ≠ []) (h : (Node.ofItems ns).Explores caselessFlags reaches) :
    (Node.ofItems (wordNodes w ++ ns)).Explores caselessFlags
      fun p r => ∃ x q, SameWord w x ∧ p.Passes x q ∧ reaches q r := by
  induction w with
  | nil =>
    refine h.congr fun p r => ⟨fun hr => ⟨[], p, .nil, rfl, hr⟩, ?_⟩
    rintro ⟨x, q, hx, hpasses, hr⟩
    cases hx
    obtain rfl : q = p := hpasses
    exact hr
  | cons c w ih =>
    have hne : wordNodes w ++ ns ≠ [] := by simp [hns]
    refine (Node.explores_ofItems_cons hne (Node.explores_code c.toNat) ih).congr fun p r => ?_
    constructor
    · rintro ⟨s, ⟨d, hstep, hd⟩, x, q, hx, hpasses, hr⟩
      exact ⟨d :: x, q, .cons hd hx, ⟨s, hstep, hpasses⟩, hr⟩
    · rintro ⟨x, q, hx, hpasses, hr⟩
      obtain ⟨d, y, hd, hy, rfl⟩ := List.forall₂_cons_left_iff.1 hx
      obtain ⟨s, hstep, hpasses⟩ := hpasses
      exact ⟨s, ⟨d, hstep, hd⟩, y, q, hy, hpasses, hr⟩

theorem explores_gap (hns : ns ≠ []) (h : (Node.ofItems ns).Explores caselessFlags reaches) :
    (Node.ofItems (gapNode :: ns)).Explores caselessFlags fun p r =>
      ∃ gap q, (gap ≠ [] ∧ ∀ c ∈ gap, isBlank c = true) ∧ p.Passes gap q ∧ reaches q r := by
  refine (Node.explores_ofItems_cons hns (Node.explores_loop .blank 1) h).congr fun p r => ?_
  constructor
  · rintro ⟨q, ⟨gap, hgap, hlength, hpasses⟩, hr⟩
    exact ⟨gap, q, ⟨List.ne_nil_of_length_pos (by omega), hgap⟩, hpasses, hr⟩
  · rintro ⟨gap, q, ⟨hne, hgap⟩, hpasses, hr⟩
    have hpos := List.length_pos_of_ne_nil hne
    exact ⟨q, ⟨gap, hgap, by omega, hpasses⟩, hr⟩

theorem explores_body (hns : ns ≠ []) (h : (Node.ofItems ns).Explores caselessFlags reaches) :
    (Node.ofItems (bodyNodes words ++ ns)).Explores caselessFlags
      fun p r => ∃ x q, Spells words x ∧ p.Passes x q ∧ reaches q r := by
  induction words with
  | nil =>
    refine h.congr fun p r => ⟨fun hr => ⟨[], p, rfl, rfl, hr⟩, ?_⟩
    rintro ⟨x, q, rfl, hpasses, hr⟩
    obtain rfl : q = p := hpasses
    exact hr
  | cons w words ih =>
    cases words with
    | nil => exact explores_word hns h
    | cons v words =>
      have hnodes : bodyNodes (w :: v :: words) ++ ns =
          wordNodes w ++ gapNode :: (bodyNodes (v :: words) ++ ns) := List.append_assoc _ _ _
      have hne : bodyNodes (v :: words) ++ ns ≠ [] := by simp [hns]
      rw [hnodes]
      refine (explores_word (List.cons_ne_nil _ _) (explores_gap hne ih)).congr fun p r => ?_
      constructor
      · rintro ⟨y, q, hy, hyq, gap, s, hgap, hqs, z, u, hz, hsu, hr⟩
        refine ⟨y ++ (gap ++ z), u, ⟨y, gap, z, rfl, hy, hgap, hz⟩, ?_, hr⟩
        exact Regex.passes_append.2 ⟨q, hyq, Regex.passes_append.2 ⟨s, hqs, hsu⟩⟩
      · rintro ⟨x, u, hx, hpasses, hr⟩
        obtain ⟨y, gap, z, rfl, hy, hgap, hz⟩ := spells_cons.1 hx
        obtain ⟨q, hyq, hpasses⟩ := Regex.passes_append.1 hpasses
        obtain ⟨s, hqs, hsu⟩ := Regex.passes_append.1 hpasses
        exact ⟨y, q, hy, hyq, gap, s, hgap, hqs, z, u, hz, hsu, hr⟩

def PhraseReaches (words : List (List Char)) (p r : Place) : Prop :=
  ∃ x, Spells words x ∧ p.Passes x r ∧ (∀ c, p.before.head? = some c → isWord c = false) ∧
    ∀ c, r.after.head? = some c → isWord c = false

theorem explores_phrase (words : List (List Char)) :
    (Node.ofItems (phraseNodes words)).Explores caselessFlags (PhraseReaches words) := by
  have hend : (Node.ofItems [endNode]).Explores caselessFlags
      fun p r => r = p ∧ ∀ c, p.after.head? = some c → isWord c = false :=
    Node.explores_ahead .word
  have hbody : (Node.ofItems (bodyNodes words ++ [endNode])).Explores caselessFlags _ :=
    explores_body (List.cons_ne_nil endNode []) hend
  have hne : bodyNodes words ++ [endNode] ≠ [] := by simp
  refine (Node.explores_ofItems_cons hne (Node.explores_behind .word) hbody).congr fun p r => ?_
  constructor
  · rintro ⟨q, ⟨rfl, hbefore⟩, x, s, hx, hpasses, rfl, hafter⟩
    exact ⟨x, hx, hpasses, hbefore, hafter⟩
  · rintro ⟨x, hx, hpasses, hbefore, hafter⟩
    exact ⟨p, ⟨rfl, hbefore⟩, x, r, hx, hpasses, rfl, hafter⟩

/-! ## Occurrences -/

theorem hasMatch_iff {text : List Char} {s t : Nat} :
    HasMatch (PhraseReaches words) text s t ↔ OccursAt words text s t := by
  constructor
  · rintro ⟨hs, r, ⟨x, hx, hpasses, hbefore, hafter⟩, rfl⟩
    obtain ⟨hrest, -, hposition, -⟩ := Regex.passes_iff.1 hpasses
    have htext : text = text.take s ++ (x ++ r.after) := by
      have hdrop : text.drop s = x ++ r.after := hrest
      rw [← hdrop, List.take_append_drop]
    refine ⟨text.take s, x, r.after, htext, by simp [hs], hposition, hx, fun c hc => ?_, hafter⟩
    exact hbefore c (by rw [← hc]; exact List.head?_reverse)
  · rintro ⟨before, body, after, rfl, rfl, rfl, hbody, hbefore, hafter⟩
    have hplace := Regex.place_at_append before.reverse (body ++ after)
    rw [List.reverse_reverse, List.length_reverse] at hplace
    refine ⟨by simp, ⟨body.reverse ++ before.reverse, after, before.length + body.length, []⟩,
      ⟨body, hbody, ?_, fun c hc => ?_, hafter⟩, rfl⟩
    · rw [hplace]
      exact Regex.passes_iff.2 ⟨rfl, rfl, rfl, rfl⟩
    · rw [hplace] at hc
      exact hbefore c (by rw [← hc]; exact List.head?_reverse.symm)

/-- The matcher finds the words wherever they occur first, and nothing where they do not occur. -/
def Recognizes (words : List (List Char)) (m : Matcher) : Prop :=
  ∀ text : String, ∃ found, m.search text = .ok found ∧
    (∀ s t, found = some (s, t) ↔ OccursAt words text.toList s t ∧
      ∀ s' t', OccursAt words text.toList s' t' → s ≤ s') ∧
    (found = none ↔ ∀ s t, ¬ OccursAt words text.toList s t)

/-- The expression of a phrase does not start with a set, so it is tried everywhere. -/
theorem tries_phrase (words : List (List Char)) (c : Char) :
    Regex.Expression.tries ⟨.ofItems (phraseNodes words), caselessFlags⟩ c = true := by
  have hleading : (Node.ofItems (phraseNodes words)).leadingSet? caselessFlags = none := by
    obtain ⟨n, ns, hns⟩ := List.exists_cons_of_ne_nil
      (List.append_ne_nil_of_right_ne_nil (bodyNodes words) (List.cons_ne_nil endNode []))
    rw [phraseNodes, hns]
    rfl
  rw [Regex.Expression.tries, hleading]

theorem ofWords_recognizes [Limits] (hne : words ≠ []) (hsolid : Solid words) :
    ∃ m, Matcher.ofWords words = .ok m ∧ m.pattern = phrasePattern words ∧ Recognizes words m := by
  let e : Regex.Expression := ⟨.ofItems (phraseNodes words), caselessFlags⟩
  let m : Matcher := ⟨" ".intercalate (words.map String.ofList), phrasePattern words, false, e⟩
  refine ⟨m, ?_, rfl, fun text => ?_⟩
  · rw [Matcher.ofWords, Matcher.create, compile_phrasePattern fun w hw => (hsolid w hw).1]
  obtain ⟨found, hfound, hsome, hnone⟩ :=
    Regex.searchFrom_spec (e := e) (explores_phrase words) (tries_phrase words) [] text.toList
  have hfirst : ∀ s t, found = some (s, t) → OccursAt words text.toList s t ∧
      ∀ s' t', OccursAt words text.toList s' t' → s ≤ s' := by
    intro s t hst
    obtain ⟨hmatch, -, hleast⟩ := hsome s t hst
    exact ⟨hasMatch_iff.1 hmatch, fun s' t' h => hleast s' t' (Nat.zero_le _) (hasMatch_iff.2 h)⟩
  have hnowhere : found = none → ∀ s t, ¬ OccursAt words text.toList s t :=
    fun hfail s t h => hnone hfail s t (Nat.zero_le _) (hasMatch_iff.2 h)
  refine ⟨found, ?_, fun s t => ⟨hfirst s t, ?_⟩, hnowhere, fun hno => ?_⟩
  · have hsearch : e.search text = .ok found := hfound
    simp only [Matcher.search, m, hsearch, Except.mapError]
  · rintro ⟨hoccurs, hleast⟩
    cases found with
    | none => exact absurd hoccurs (hnowhere rfl s t)
    | some span =>
      obtain ⟨hoccurs', hleast'⟩ := hfirst span.1 span.2 rfl
      have hs : span.1 = s := Nat.le_antisymm (hleast' s t hoccurs) (hleast _ _ hoccurs')
      rw [hs] at hoccurs'
      rw [← hoccurs'.end_unique hne hsolid hoccurs, ← hs]
  · cases found with
    | none => rfl
    | some span => exact absurd (hfirst span.1 span.2 rfl).1 (hno _ _)

/-! ## Raw phrases -/

theorem solid_of_mem_phraseRuns {run : List (List Char)} {text : String} {most : Option Int}
    (h : run ∈ phraseRuns (phraseWords text) most) : run ≠ [] ∧ Solid run := by
  have hsolid : Solid (phraseWords text) := fun w hw => Text.solid_of_mem_words hw
  cases most with
  | none =>
    rw [phraseRuns] at h
    split at h
    · cases h
    · next hne =>
      obtain rfl := List.mem_singleton.1 h
      exact ⟨by simpa using hne, hsolid⟩
  | some most =>
    obtain ⟨hne, -, hpart⟩ := mem_wordRuns_iff.1 h
    exact ⟨hne, fun w hw => hsolid w (hpart.subset hw)⟩

theorem matchersOfRuns_recognize [Limits] {runs : List (List (List Char))}
    (h : ∀ run ∈ runs, run ≠ [] ∧ Solid run) :
    ∃ ms, matchersOfRuns runs = .ok ms ∧ List.Forall₂ Recognizes runs ms := by
  induction runs with
  | nil => exact ⟨[], rfl, .nil⟩
  | cons run runs ih =>
    obtain ⟨hrun, hruns⟩ := List.forall_mem_cons.1 h
    obtain ⟨m, hm, -, hrecognizes⟩ := ofWords_recognizes hrun.1 hrun.2
    obtain ⟨ms, hms, hall⟩ := ih hruns
    refine ⟨m :: ms, ?_, .cons hrecognizes hall⟩
    simp [matchersOfRuns, hm, hms, bind, Except.bind, pure, Except.pure]

/-- The matcher of words finds their leftmost occurrence as whole words. A raw phrase always has
its matchers, one for each of its runs of words. -/
theorem phrases_recognize_whole_words :
    (∀ words, words ≠ [] → Solid words →
      ∃ m, Matcher.ofWords words = .ok m ∧ m.pattern = phrasePattern words ∧
        Recognizes words m) ∧
    ∀ most text, ∃ ms, matchersOf most (.phrase text) = .ok ms ∧
      List.Forall₂ Recognizes (phraseRuns (phraseWords text) most) ms :=
  ⟨fun _ hne hsolid => ofWords_recognizes hne hsolid,
    fun _ _ => matchersOfRuns_recognize fun _ h => solid_of_mem_phraseRuns h⟩

theorem signs_recognize_whole_words :
    let words := ["c++".toList, "(x)".toList]
    ∃ m, Matcher.ofWords words = .ok m ∧ m.pattern = "(?<!\\w)c\\+\\+\\s+\\(x\\)(?!\\w)" ∧
      Recognizes words m :=
  phrases_recognize_whole_words.1 ["c++".toList, "(x)".toList] (by decide) (by decide)

end FormDialogue.Term
