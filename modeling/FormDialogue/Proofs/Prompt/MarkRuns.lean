import FormDialogue.Proofs.Prompt.Pieces

/-! # What dropping marks does to a run

The first pass turns a run into a run. Whether marks are left in it depends on the characters around
the run: between two solid characters all marks are gone, unless the run is gapped. The second pass
takes a run with a mark away and leaves one without marks as it is. -/

namespace FormDialogue.Prompt
open Record (choicesMark)
variable {c : Char} {previous : Option Char} {text rest : List Char} {cut : Cut}
  {g h : List Char} {run : List Piece}

def Stops (text : List Char) : Prop :=
  (∀ c, text.head? = some c → isGap c = false) ∧ ¬ choicesMark <+: text

/-! ## One cut -/

theorem cutMark?_gaps (hg : ∀ c ∈ g, isGap c = true) (text : List Char) :
    cutMark? (g ++ text) = cutMark? text := by
  rw [cutMark?, cutMark?, List.dropWhile_append_of_pos hg]

theorem cutMark?_mark (rest : List Char) :
    cutMark? (choicesMark ++ rest) = some (dropGap '\x7d' rest) := rfl

theorem Stops.cutMark?_eq_none (h : Stops text) : cutMark? text = none := by
  have hdrop : text.dropWhile isGap = text := by
    cases text with
    | nil => rfl
    | cons c rest => rw [List.dropWhile_cons_of_neg (by simp [h.1 c rfl])]
  rw [cutMark?, hdrop]
  split
  · next rest => exact absurd (List.prefix_append choicesMark rest) h.2
  · rfl

/-- The cut ends at a gap exactly if there are gaps to drop. -/
theorem dropGap_gaps (hh : ∀ c ∈ h, isGap c = true)
    (hrest : ∀ c, rest.head? = some c → isGap c = false) (last : Char) :
    ∃ last', dropGap last (h ++ rest) = ⟨last', rest⟩ ∧
      isSolid last' = (h.isEmpty && isSolid last) := by
  induction h generalizing last with
  | nil =>
    refine ⟨last, ?_, by simp⟩
    cases rest with
    | nil => rfl
    | cons c rest => simp [dropGap, hrest c rfl]
  | cons c h ih =>
    have hc := hh c List.mem_cons_self
    obtain ⟨last', hcut, hsolid⟩ := ih (fun d hd => hh d (List.mem_cons_of_mem c hd)) c
    refine ⟨last', by simpa [dropGap, hc] using hcut, ?_⟩
    rw [hsolid, isSolid_of_isGap hc]
    simp

/-! ## The first mark of a run -/

theorem textOf_map_char (g : List Char) : textOf (g.map .char) = g := by
  induction g with
  | nil => rfl
  | cons c g ih => rw [List.map_cons, textOf, List.flatMap_cons, ← textOf, ih]; rfl

theorem isRun_gaps (hg : ∀ c ∈ g, isGap c = true) : IsRun (g.map .char) :=
  List.forall_mem_map.2 hg

theorem IsRun.exists_gaps (hrun : IsRun run) :
    ∃ (g : List Char) (more : List Piece), run = g.map .char ++ more ∧
      (∀ c ∈ g, isGap c = true) ∧ IsRun more ∧ ∀ p, more.head? = some p → p = .mark := by
  induction run with
  | nil => exact ⟨[], [], rfl, by simp, hrun, by simp⟩
  | cons p run ih =>
    cases p with
    | mark => exact ⟨[], .mark :: run, rfl, by simp, hrun, by simp⟩
    | char c =>
      obtain ⟨g, more, rfl, hg, hmore, hhead⟩ := ih hrun.tail
      refine ⟨c :: g, more, rfl, ?_, hmore, hhead⟩
      exact fun d hd => (List.mem_cons.1 hd).elim (fun h => h ▸ hrun.gap) (hg d)

/-- A run with a mark, cut behind its first mark and the gaps that follow this mark. -/
structure MarkedRun where
  before : List Char
  behind : List Char
  more : List Piece
  before_gaps : ∀ c ∈ before, isGap c = true
  behind_gaps : ∀ c ∈ behind, isGap c = true
  more_run : IsRun more
  more_head : ∀ p, more.head? = some p → p = .mark

def MarkedRun.pieces (r : MarkedRun) : List Piece :=
  r.before.map .char ++ .mark :: (r.behind.map .char ++ r.more)

theorem IsRun.exists_markedRun (hrun : IsRun run) (hmark : .mark ∈ run) :
    ∃ r : MarkedRun, run = r.pieces := by
  obtain ⟨g, r, rfl, hg, hr, hhead⟩ := hrun.exists_gaps
  cases r with
  | nil => simp at hmark
  | cons p r =>
    obtain rfl := hhead p rfl
    obtain ⟨h, more, rfl, hh, hmore, hhead'⟩ := hr.tail.exists_gaps
    exact ⟨⟨g, h, more, hg, hh, hmore, hhead'⟩, rfl⟩

namespace MarkedRun
variable (r : MarkedRun)

theorem isRun_pieces : IsRun r.pieces :=
  List.forall_mem_append.2 ⟨isRun_gaps r.before_gaps, List.forall_mem_cons.2
    ⟨rfl, List.forall_mem_append.2 ⟨isRun_gaps r.behind_gaps, r.more_run⟩⟩⟩

theorem mark_mem_pieces : .mark ∈ r.pieces :=
  List.mem_append_right _ List.mem_cons_self

theorem more_eq : r.more = [] ∨ ∃ more, r.more = .mark :: more := by
  cases hmore : r.more with
  | nil => exact Or.inl rfl
  | cons p more => exact Or.inr ⟨more, by rw [r.more_head p (by rw [hmore]; rfl)]⟩

theorem more_length : r.more.length < r.pieces.length := by
  simp only [pieces, List.length_append, List.length_map, List.length_cons]
  omega

theorem gapped_iff : Gapped r.pieces ↔ r.behind ≠ [] ∧ .mark ∈ r.more ∨ Gapped r.more := by
  rw [pieces, gapped_map_char]
  rcases r.more_eq with hmore | ⟨more, hmore⟩ <;> rw [hmore]
  · cases r.behind with
    | nil => simp [gapped_mark, not_gapped_nil]
    | cons c behind => simp [gapped_mark_char, not_gapped_nil]
  · cases r.behind with
    | nil => simp [gapped_mark_mark]
    | cons c behind => simp [gapped_mark_char]

theorem head_more (hrest : Stops rest) (c : Char)
    (hc : (textOf r.more ++ rest).head? = some c) : isGap c = false := by
  rcases r.more_eq with hmore | ⟨more, hmore⟩ <;> rw [hmore] at hc
  · exact hrest.1 c hc
  · obtain rfl := Option.some.inj hc
    rfl

theorem head_more_solid (hsolid : rest.head?.any isSolid = true) :
    (textOf r.more ++ rest).head?.any isSolid = true := by
  rcases r.more_eq with hmore | ⟨more, hmore⟩ <;> rw [hmore]
  · exact hsolid
  · rfl

theorem textOf_pieces_append (rest : List Char) : textOf r.pieces ++ rest =
    r.before ++ (choicesMark ++ (r.behind ++ (textOf r.more ++ rest))) := by
  rw [pieces, textOf_append, textOf_map_char, textOf, List.flatMap_cons, ← textOf,
    textOf_append, textOf_map_char]
  simp only [List.append_assoc, Piece.text]

theorem cutMark?_run (hrest : Stops rest) :
    ∃ last, cutMark? (textOf r.pieces ++ rest) = some ⟨last, textOf r.more ++ rest⟩ ∧
      isSolid last = r.behind.isEmpty := by
  obtain ⟨last, hcut, hlast⟩ := dropGap_gaps r.behind_gaps (r.head_more hrest) '\x7d'
  refine ⟨last, ?_, hlast.trans (Bool.and_true _)⟩
  rw [textOf_pieces_append, cutMark?_gaps r.before_gaps, cutMark?_mark, hcut]

end MarkedRun

/-! ## The first pass -/

theorem choicesMark_append (text : List Char) :
    choicesMark ++ text = '\x7b' :: '|' :: '|' :: '\x7d' :: text := rfl

theorem joinAcross_cut (hcut : between? previous text = some cut) :
    joinAcross previous text = ' ' :: joinAcross (some cut.last) cut.rest := by
  cases text with
  | nil => cases between?_cutMark? hcut
  | cons c rest =>
    rw [joinAcross]
    split
    · next cut' hcut' =>
      rw [hcut, Option.some.injEq] at hcut'
      rw [hcut']
    · next hnone => simp [hcut] at hnone

theorem joinAcross_copy (hnone : between? previous (c :: rest) = none) :
    joinAcross previous (c :: rest) = c :: joinAcross (some c) rest := by
  rw [joinAcross]
  split
  · next hcut => simp [hnone] at hcut
  · rfl

theorem between?_of_cutMark? (previous : Option Char) (hcut : cutMark? text = some cut) :
    between? previous text =
      if previous.any isSolid && cut.rest.head?.any isSolid then some cut else none := by
  rw [between?, hcut]
  cases previous.any isSolid <;> simp [Option.filter]

theorem between?_eq_none (hnone : cutMark? text = none) : between? previous text = none := by
  rw [between?, hnone]
  simp

theorem joinAcross_stops (hstops : Stops (c :: rest)) (previous : Option Char) :
    joinAcross previous (c :: rest) = c :: joinAcross (some c) rest :=
  joinAcross_copy (between?_eq_none hstops.cutMark?_eq_none)

theorem joinAcross_mark (hnone : between? previous (choicesMark ++ rest) = none) :
    joinAcross previous (choicesMark ++ rest) =
      choicesMark ++ joinAcross (some '\x7d') rest := by
  have hbar : ∀ c text, c = '|' ∨ c = '\x7d' → Stops (c :: text) := by
    rintro c text (rfl | rfl) <;> exact ⟨by simp [isGap], by simp [choicesMark]⟩
  rw [choicesMark_append] at hnone ⊢
  rw [joinAcross_copy hnone, joinAcross_stops (hbar _ _ (Or.inl rfl)),
    joinAcross_stops (hbar _ _ (Or.inl rfl)), joinAcross_stops (hbar _ _ (Or.inr rfl))]
  rfl

/-- Characters that are no spaces come from the same characters. -/
theorem prefix_of_prefix_joinAcross {start : List Char} (hspace : ' ' ∉ start)
    (hstart : start <+: joinAcross previous text) : start <+: text := by
  induction start generalizing previous text with
  | nil => exact List.nil_prefix
  | cons d start ih =>
    have hd : d ≠ ' ' := fun h => hspace (h ▸ List.mem_cons_self)
    cases hcut : between? previous text with
    | some cut =>
      rw [joinAcross_cut hcut, List.cons_prefix_cons] at hstart
      exact absurd hstart.1 hd
    | none =>
      cases text with
      | nil => simp [joinAcross] at hstart
      | cons c rest =>
        rw [joinAcross_copy hcut, List.cons_prefix_cons] at hstart
        rw [hstart.1, List.cons_prefix_cons]
        exact ⟨rfl, ih (fun h => hspace (List.mem_cons_of_mem d h)) hstart.2⟩

theorem Stops.joinAcross (hstops : Stops (c :: rest)) :
    Stops (c :: joinAcross (some c) rest) := by
  refine ⟨hstops.1, fun hmark => hstops.2 ?_⟩
  have hsplit : choicesMark = '\x7b' :: ['|', '|', '\x7d'] := rfl
  rw [hsplit, List.cons_prefix_cons] at hmark ⊢
  exact ⟨hmark.1, prefix_of_prefix_joinAcross (by decide) hmark.2⟩

theorem IsRun.eq_map_char (hrun : IsRun run) (hmark : .mark ∉ run) :
    ∃ g : List Char, run = g.map .char ∧ ∀ c ∈ g, isGap c = true := by
  obtain ⟨g, more, rfl, hg, -, hhead⟩ := hrun.exists_gaps
  cases more with
  | nil => exact ⟨g, List.append_nil _, hg⟩
  | cons p more =>
    obtain rfl := hhead p rfl
    simp at hmark

theorem joinAcross_gaps (hg : ∀ c ∈ g, isGap c = true) (hrest : Stops rest)
    (previous : Option Char) :
    ∃ previous', joinAcross previous (g ++ rest) = g ++ joinAcross previous' rest := by
  induction g generalizing previous with
  | nil => exact ⟨previous, rfl⟩
  | cons c g ih =>
    have hnone : cutMark? (c :: (g ++ rest)) = none := by
      rw [← List.cons_append, cutMark?_gaps hg, hrest.cutMark?_eq_none]
    obtain ⟨previous', hjoin⟩ := ih (fun d hd => hg d (List.mem_cons_of_mem c hd)) (some c)
    refine ⟨previous', ?_⟩
    rw [List.cons_append, joinAcross_copy (between?_eq_none hnone), hjoin]
    rfl

theorem joinAcross_piece {p : Piece}
    (hnone : between? previous (p.text ++ rest) = none) :
    ∃ previous', joinAcross previous (p.text ++ rest) = p.text ++ joinAcross previous' rest ∧
      (p.isLoose = true → p ≠ .mark → previous'.any isSolid = false) := by
  cases p with
  | mark => exact ⟨_, joinAcross_mark hnone, by simp⟩
  | char c => exact ⟨_, joinAcross_copy hnone, fun hc _ => isSolid_of_isGap hc⟩

/-- What the first pass makes of a run: a run that has a mark left exactly if there was one, unless
the run lies between solid characters and is not gapped. -/
structure JoinsTo (previous : Option Char) (run : List Piece) (rest : List Char)
    (joined : List Piece) (previous' : Option Char) : Prop where
  joined_run : IsRun joined
  nil_iff : joined = [] ↔ run = []
  joins : joinAcross previous (textOf run ++ rest) = textOf joined ++ joinAcross previous' rest
  mark_iff : .mark ∈ joined ↔ .mark ∈ run ∧
    ¬ (previous.any isSolid = true ∧ rest.head?.any isSolid = true ∧ ¬ Gapped run)

namespace JoinsTo
variable {joined : List Piece} {previous' : Option Char}

/-- A mark between solid characters becomes a space. -/
theorem of_cut {r : MarkedRun} (hcut : cutMark? (textOf r.pieces ++ rest) = some cut)
    (hcutRest : cut.rest = textOf r.more ++ rest) (hlast : isSolid cut.last = r.behind.isEmpty)
    (hprevious : previous.any isSolid = true) (hnext : cut.rest.head?.any isSolid = true)
    (h : JoinsTo (some cut.last) r.more rest joined previous') :
    JoinsTo previous r.pieces rest (.char ' ' :: joined) previous' := by
  have hbetween : between? previous (textOf r.pieces ++ rest) = some cut := by
    rw [between?_of_cutMark? previous hcut, hprevious, hnext]
    rfl
  rw [hcutRest] at hnext
  refine ⟨h.joined_run.cons rfl, by simp [MarkedRun.pieces], ?_, ?_⟩
  · rw [joinAcross_cut hbetween, hcutRest, h.joins]
    rfl
  · have hrest : .mark ∉ r.more → rest.head?.any isSolid = true := by
      intro hnone
      rcases r.more_eq with hmore | ⟨more, hmore⟩
      · simpa [hmore, textOf] using hnext
      · simp [hmore] at hnone
    have hlast' : (some cut.last).any isSolid = true ↔ r.behind = [] := by
      rw [Option.any_some, hlast, List.isEmpty_iff]
    have hgapped : Gapped r.more → .mark ∈ r.more := Gapped.mark_mem
    have hmark : .mark ∈ r.pieces := r.mark_mem_pieces
    rw [List.mem_cons, h.mark_iff, r.gapped_iff, hlast']
    grind

/-- A run that does not lie between solid characters keeps a mark. -/
theorem of_copy {p : Piece} (hp : p.isLoose = true) (hmark : .mark ∈ p :: run)
    (hloose : ¬ (previous.any isSolid = true ∧ rest.head?.any isSolid = true))
    {previous₁ : Option Char} (hpiece : joinAcross previous (p.text ++ (textOf run ++ rest)) =
      p.text ++ joinAcross previous₁ (textOf run ++ rest))
    (hgap : p ≠ .mark → previous₁.any isSolid = false)
    (h : JoinsTo previous₁ run rest joined previous') :
    JoinsTo previous (p :: run) rest (p :: joined) previous' := by
  have hjoined : .mark ∈ p :: joined := by
    by_cases hpm : p = .mark
    · rw [hpm]
      exact List.mem_cons_self
    · have hrun := (List.mem_cons.1 hmark).resolve_left (Ne.symm hpm)
      have hiff := h.mark_iff
      rw [hgap hpm] at hiff
      exact List.mem_cons_of_mem p (hiff.2 ⟨hrun, by simp⟩)
  refine ⟨h.joined_run.cons hp, by simp, ?_, ?_⟩
  · simp only [textOf, List.flatMap_cons, List.append_assoc] at hpiece ⊢
    rw [hpiece]
    exact congrArg (p.text ++ ·) h.joins
  · simp only [hjoined, hmark, true_and, true_iff]
    exact fun hall => hloose ⟨hall.1, hall.2.1⟩

/-- Gaps without marks stay. -/
theorem of_gaps (hg : ∀ c ∈ g, isGap c = true) (hrest : Stops rest)
    (previous : Option Char) :
    ∃ previous', JoinsTo previous (g.map .char) rest (g.map .char) previous' := by
  obtain ⟨previous', hjoin⟩ := joinAcross_gaps hg hrest previous
  exact ⟨previous', isRun_gaps hg, Iff.rfl, by rwa [textOf_map_char], by simp⟩

end JoinsTo

theorem joinAcross_run (hrun : IsRun run) (hrest : Stops rest) (previous : Option Char) :
    ∃ joined previous', JoinsTo previous run rest joined previous' := by
  induction hn : run.length using Nat.strong_induction_on generalizing run previous with
  | _ n ih =>
    subst hn
    by_cases hmark : .mark ∈ run
    · obtain ⟨r, rfl⟩ := hrun.exists_markedRun hmark
      obtain ⟨last, hcut, hlast⟩ := r.cutMark?_run hrest
      -- Either the first mark is cut out and the run goes on behind it, or one piece is copied.
      by_cases hsolid : previous.any isSolid = true ∧
          (textOf r.more ++ rest).head?.any isSolid = true
      · obtain ⟨joined, previous', h⟩ := ih _ r.more_length r.more_run (some last) rfl
        exact ⟨_, previous', .of_cut hcut rfl hlast hsolid.1 hsolid.2 h⟩
      · have hnone : between? previous (textOf r.pieces ++ rest) = none := by
          rw [between?_of_cutMark? previous hcut, if_neg (by simpa using hsolid)]
        have hloose : ¬ (previous.any isSolid = true ∧ rest.head?.any isSolid = true) :=
          fun h => hsolid ⟨h.1, r.head_more_solid h.2⟩
        obtain ⟨p, run, hp⟩ := List.exists_cons_of_ne_nil (List.ne_nil_of_mem hmark)
        rw [hp] at hrun hmark hnone ⊢
        rw [textOf, List.flatMap_cons, ← textOf, List.append_assoc] at hnone
        obtain ⟨previous₁, hpiece, hgap⟩ := joinAcross_piece hnone
        obtain ⟨joined, previous', h⟩ := ih _ (by rw [hp]; simp) hrun.tail previous₁ rfl
        have hp' : p.isLoose = true := hrun p List.mem_cons_self
        exact ⟨_, previous', .of_copy hp' hmark hloose hpiece (hgap hp') h⟩
    · obtain ⟨g, rfl, hg⟩ := hrun.eq_map_char hmark
      obtain ⟨previous', h⟩ := JoinsTo.of_gaps hg hrest previous
      exact ⟨_, previous', h⟩

/-! ## The second pass -/

theorem takeOut_cut (hcut : cutMark? text = some cut) : takeOut text = takeOut cut.rest := by
  cases text with
  | nil => cases hcut
  | cons c rest =>
    rw [takeOut]
    split
    · next cut' hcut' =>
      rw [hcut, Option.some.injEq] at hcut'
      rw [hcut']
    · next hnone => simp [hcut] at hnone

theorem takeOut_copy (hnone : cutMark? (c :: rest) = none) :
    takeOut (c :: rest) = c :: takeOut rest := by
  rw [takeOut]
  split
  · next hcut => simp [hnone] at hcut
  · rfl

theorem takeOut_gaps (hg : ∀ c ∈ g, isGap c = true) (hrest : Stops rest) :
    takeOut (g ++ rest) = g ++ takeOut rest := by
  induction g with
  | nil => rfl
  | cons c g ih =>
    have hnone : cutMark? (c :: (g ++ rest)) = none := by
      rw [← List.cons_append, cutMark?_gaps hg, hrest.cutMark?_eq_none]
    rw [List.cons_append, takeOut_copy hnone, ih fun d hd => hg d (List.mem_cons_of_mem c hd)]
    rfl

theorem takeOut_marked (hrun : IsRun run) (hmark : .mark ∈ run) (hrest : Stops rest) :
    takeOut (textOf run ++ rest) = takeOut rest := by
  induction hn : run.length using Nat.strong_induction_on generalizing run with
  | _ n ih =>
    subst hn
    obtain ⟨r, rfl⟩ := hrun.exists_markedRun hmark
    obtain ⟨last, hcut, -⟩ := r.cutMark?_run hrest
    rw [takeOut_cut hcut]
    rcases r.more_eq with hmore | ⟨more, hmore⟩
    · rw [hmore]
      rfl
    · exact ih _ r.more_length r.more_run (by simp [hmore]) rfl

/-- The second pass leaves gaps of a run. -/
theorem takeOut_run (hrun : IsRun run) (hrest : Stops rest) :
    ∃ g, (∀ c ∈ g, isGap c = true) ∧ (g = [] ↔ run = [] ∨ .mark ∈ run) ∧
      takeOut (textOf run ++ rest) = g ++ takeOut rest := by
  by_cases hmark : .mark ∈ run
  · exact ⟨[], by simp, by simp [hmark], takeOut_marked hrun hmark hrest⟩
  · obtain ⟨g, rfl, hg⟩ := hrun.eq_map_char hmark
    refine ⟨g, hg, by simp, ?_⟩
    rw [textOf_map_char, takeOut_gaps hg hrest]

end FormDialogue.Prompt
