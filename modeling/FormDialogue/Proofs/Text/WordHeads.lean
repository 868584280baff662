import FormDialogue.Proofs.Regex.Replacing
import FormDialogue.Proofs.Term.Finding
import FormDialogue.Text.Casing

/-! # Capitals at the starts of words

A word starts at the beginning of a text and behind a blank. Display texts get their capitals by
replacing what an expression finds from left to right: the beginning or a blank, and a word
character behind it. A match uses up its blank, so the question is whether the next match can miss
it. It cannot: a match ends in a word character, which is no blank. -/

namespace FormDialogue.Text
open Regex (CharClass Continuation Expression Flags Marks Node Outcome Place Replaced oneChar)
open Unicode (isBlank isWord lowerChar upperChar)
variable {b c d : Char} {before after rest : List Char} {i : Nat} {start : Bool}

def headPattern : String := "(^|\\s)(\\w)"

def headNode : Node :=
  .seq (.group (some 1) .none .none
      (.choice (.anchor .lineStart) (.set false [.member false .blank])))
    (.group (some 2) .none .none (.set false [.member false .word]))

def heads : Expression := ⟨headNode, .none⟩

/-- What replaces the start of a word: the same gap, and the character in upper case. -/
def raised (q : Place) : List Char := q.groupText 1 ++ upper (q.groupText 2)

theorem compile_headPattern : Regex.compile .none headPattern = .ok heads := rfl

/-! ## One match -/

theorem run_class (cls : CharClass) (p : Place) (k : Continuation) :
    (Node.set false [.member false cls]).run .none false none p k =
      oneChar (cls.holds .none) p k := by
  have htest : (fun x => Regex.matchesSet .none [.member false cls] x != false) =
      cls.holds .none := by
    funext x
    simp [Regex.matchesSet, Regex.SetItem.holds, Flags.none]
  rw [Node.run, htest]

/-- The second group, behind the first one. -/
def wordAt (p : Place) : Outcome :=
  oneChar isWord ((p.mark 3).mark 4) fun q => .found (q.mark 5)

theorem wordAt_cons (c : Char) (before rest : List Char) (i a : Nat) :
    wordAt ⟨before, c :: rest, i, [(2, a)]⟩ =
      if isWord c then .found ⟨c :: before, rest, i + 1, [(5, i + 1), (4, i), (3, i), (2, a)]⟩
      else .failed [(4, i), (3, i), (2, a)] none := rfl

def headAt (p : Place) : Outcome := if p.before.isEmpty then wordAt p else p.blocked

theorem headAt_beginning (c : Char) (rest : List Char) (i : Nat) :
    headAt (Place.mark ⟨[], c :: rest, i, []⟩ 2) =
      if isWord c then .found ⟨[c], rest, i + 1, [(5, i + 1), (4, i), (3, i), (2, i)]⟩
      else .failed [(4, i), (3, i), (2, i)] none := by
  have hmark : Place.mark ⟨[], c :: rest, i, []⟩ 2 = ⟨[], c :: rest, i, [(2, i)]⟩ := rfl
  rw [hmark, headAt, if_pos List.isEmpty_nil, wordAt_cons]

theorem run_headNode (p : Place) :
    headNode.run .none false none p .found =
      ((Node.anchor .lineStart).takenUp .none false (p.mark 2) (headAt (p.mark 2))).orElse
        fun marks =>
          let q := { p.mark 2 with marks := marks }
          (Node.set false [.member false .blank]).takenUp .none false q
            (oneChar isBlank q wordAt) := by
  let k (q : Place) : Outcome :=
    (Node.group (some 2) .none .none (.set false [.member false .word])).run .none false none
      (q.mark 3) .found
  have hword : k = wordAt :=
    funext fun q => run_class .word ((q.mark 3).mark 4) fun r => .found (r.mark 5)
  have hstart (q : Place) : (Node.anchor .lineStart).run .none false none q k = headAt q := by
    rw [hword]
    simp [Node.run, Regex.Anchor.holds, Flags.none, headAt]
  have hblank (q : Place) : (Node.set false [.member false .blank]).run .none false none q k =
      oneChar isBlank q wordAt := by
    rw [hword]
    exact run_class .blank q wordAt
  change ((Node.anchor .lineStart).takenUp .none false (p.mark 2)
      ((Node.anchor .lineStart).run .none false none (p.mark 2) k)).orElse (fun marks =>
        let q := { p.mark 2 with marks := marks }
        (Node.set false [.member false .blank]).takenUp .none false q
          ((Node.set false [.member false .blank]).run .none false none q k)) = _
  simp only [hstart, hblank]

theorem reachFrom?_beginning (h : isWord c = true) :
    heads.reachFrom? ⟨[], c :: rest, i, []⟩ =
      some ⟨[c], rest, i + 1, [(5, i + 1), (4, i), (3, i), (2, i)]⟩ := by
  rw [Expression.reachFrom?, heads, run_headNode, headAt_beginning, if_pos h]
  rfl

theorem reachFrom?_later (hword : before = [] → ∀ c, after.head? = some c → isWord c = false) :
    heads.reachFrom? ⟨before, after, i, []⟩ =
      (oneChar isBlank ⟨before, after, i, [(2, i)]⟩ wordAt).place? := by
  have hfirst : (Node.anchor .lineStart).takenUp .none false (Place.mark ⟨before, after, i, []⟩ 2)
      (headAt (Place.mark ⟨before, after, i, []⟩ 2)) = .failed [(2, i)] (some i) := by
    cases before with
    | nil =>
      cases after with
      | nil => rfl
      | cons c rest =>
        rw [headAt_beginning, hword rfl c rfl]
        rfl
    | cons b before => rfl
  rw [Expression.reachFrom?, heads, run_headNode, hfirst, Regex.place?_orElse_failed,
    Regex.place?_takenUp]
  rfl

theorem reachFrom?_gap (hc : isBlank c = true) (hd : isWord d = true) :
    heads.reachFrom? ⟨before, c :: d :: rest, i, []⟩ =
      some ⟨d :: c :: before, rest, i + 2, [(5, i + 2), (4, i + 1), (3, i + 1), (2, i)]⟩ := by
  rw [reachFrom?_later, Regex.oneChar_cons, if_pos hc, wordAt_cons, if_pos hd]
  · rfl
  · intro _ x hx
    obtain rfl := Option.some.inj hx
    exact Unicode.isWord_of_isBlank hc

/-- No word starts within or behind the next character. -/
def isInside : List Char → Bool
  | c :: d :: _ => !(isBlank c && isWord d)
  | _ => true

theorem reachFrom?_inside (hword : before = [] → ∀ c, after.head? = some c → isWord c = false)
    (h : isInside after = true) : heads.reachFrom? ⟨before, after, i, []⟩ = none := by
  rw [reachFrom?_later hword]
  cases after with
  | nil => rfl
  | cons c rest =>
    rw [Regex.oneChar_cons]
    cases hc : isBlank c with
    | false => rfl
    | true =>
      cases rest with
      | nil => rfl
      | cons d rest =>
        rw [isInside, hc, Bool.true_and, Bool.not_eq_true'] at h
        rw [if_pos rfl, wordAt_cons, h]
        rfl

/-! ## What is written for a match -/

theorem raised_beginning (c : Char) (rest : List Char) :
    raised ⟨[c], rest, 1, [(5, 1), (4, 0), (3, 0), (2, 0)]⟩ = upperChar c := by
  have hgroup : raised ⟨[c], rest, 1, [(5, 1), (4, 0), (3, 0), (2, 0)]⟩ = [] ++ upper [c] := rfl
  rw [hgroup, upper, List.nil_append, List.flatMap_singleton]

theorem raised_gap (c d : Char) (before rest : List Char) :
    raised ⟨d :: c :: before, rest, before.length + 2, [(5, before.length + 2),
      (4, before.length + 1), (3, before.length + 1), (2, before.length)]⟩ =
      c :: upperChar d := by
  let q : Place := ⟨d :: c :: before, rest, before.length + 2, [(5, before.length + 2),
    (4, before.length + 1), (3, before.length + 1), (2, before.length)]⟩
  have htext : q.text = before.reverse ++ c :: d :: rest := by simp [q, Place.text]
  have hfirst : (before.reverse ++ c :: d :: rest).drop before.length = c :: d :: rest := by
    rw [← List.length_reverse, List.drop_left]
  have hsecond : (before.reverse ++ c :: d :: rest).drop (before.length + 1) = d :: rest := by
    rw [← List.drop_drop, hfirst, List.drop_one, List.tail_cons]
  have hgap : q.groupText 1 = [c] := by
    rw [Place.groupText_eq (a := before.length) (n := 1) rfl, htext, hfirst]
    rfl
  have hword : q.groupText 2 = [d] := by
    rw [Place.groupText_eq (a := before.length + 1) (n := 1) rfl, htext, hsecond]
    rfl
  change q.groupText 1 ++ upper (q.groupText 2) = _
  rw [hgap, hword, upper, List.flatMap_singleton, List.singleton_append]

/-! ## The pass over a text -/

theorem isBlank_of_isWord (h : isWord c = true) : isBlank c = false := by
  rw [← Bool.not_eq_true]
  intro hblank
  rw [Unicode.isWord_of_isBlank hblank] at h
  exact Bool.false_ne_true h

theorem capitalizeFrom_of_not_word (h : ∀ c, rest.head? = some c → isWord c = false) :
    capitalizeFrom start rest = capitalizeFrom false rest := by
  cases rest with
  | nil => rfl
  | cons c rest => simp [capitalizeFrom, h c rfl]

/-- A character that no word starts behind is kept. -/
theorem capitalizeFrom_inside (h : isInside (c :: rest) = true) :
    capitalizeFrom false (c :: rest) = c :: capitalizeFrom false rest := by
  have hrest : capitalizeFrom (isBlank c) rest = capitalizeFrom false rest := by
    cases hc : isBlank c with
    | false => rfl
    | true =>
      apply capitalizeFrom_of_not_word
      intro d hd
      obtain ⟨rest, rfl⟩ := List.head?_eq_some_iff.1 hd
      simpa [isInside, hc] using h
  simp [capitalizeFrom, hrest]

theorem replaced_inside (hword : before = [] → ∀ c, rest.head? = some c → isWord c = false) :
    Replaced heads raised ⟨before, rest, before.length, []⟩ (capitalizeFrom false rest) := by
  induction rest using List.twoStepInduction generalizing before with
  | nil => exact .done (reachFrom?_inside hword rfl) rfl
  | singleton c =>
    have hrest : Replaced heads raised ⟨c :: before, [], before.length + 1, []⟩ [] :=
      .done (reachFrom?_inside nofun rfl) rfl
    exact .keep (reachFrom?_inside hword rfl) rfl hrest
  | cons_cons c d rest ihgap ihinside =>
    cases h : isInside (c :: d :: rest) with
    | true =>
      rw [capitalizeFrom_inside h]
      have hrest : Replaced heads raised ⟨c :: before, d :: rest, before.length + 1, []⟩
          (capitalizeFrom false (d :: rest)) := ihinside d nofun
      exact .keep (reachFrom?_inside hword h) rfl hrest
    | false =>
      -- The match ends in a word character, so what follows is read as inside a word.
      rw [isInside, Bool.not_eq_false', Bool.and_eq_true] at h
      obtain ⟨hc, hd⟩ := h
      have hout : capitalizeFrom false (c :: d :: rest) =
          (c :: upperChar d) ++ capitalizeFrom false rest := by
        simp [capitalizeFrom, hc, hd, isBlank_of_isWord hd]
      rw [hout, ← raised_gap c d before rest]
      have hrest : Replaced heads raised ⟨d :: c :: before, rest, before.length + 2, []⟩
          (capitalizeFrom false rest) := ihgap nofun
      exact .swap (reachFrom?_gap hc hd) (by simp) hrest

theorem replaced_capitalize (text : List Char) :
    Replaced heads raised (.start text) (capitalize text) := by
  cases text with
  | nil =>
    have hempty : Replaced heads raised ⟨[], [], 0, []⟩ (capitalizeFrom false []) :=
      replaced_inside (by simp)
    exact hempty
  | cons c rest =>
    cases hc : isWord c with
    | true =>
      have hout : capitalize (c :: rest) = upperChar c ++ capitalizeFrom false rest := by
        simp [capitalize, capitalizeFrom, hc, isBlank_of_isWord hc]
      have hrest : Replaced heads raised ⟨[c], rest, 1, []⟩ (capitalizeFrom false rest) :=
        replaced_inside nofun
      rw [hout, ← raised_beginning c rest]
      exact .swap (reachFrom?_beginning hc) Nat.zero_lt_one hrest
    | false =>
      have hfirst : ∀ d, (c :: rest).head? = some d → isWord d = false := by
        intro d hd
        obtain rfl : c = d := Option.some.inj hd
        exact hc
      rw [capitalize, capitalizeFrom_of_not_word hfirst]
      exact replaced_inside fun _ => hfirst

end FormDialogue.Text
