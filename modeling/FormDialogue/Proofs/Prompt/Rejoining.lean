import FormDialogue.Proofs.Prompt.Cutting
import FormDialogue.Proofs.Prompt.MarkRuns
import Mathlib.Data.List.DropRight

/-! # The spacing that dropped marks leave

A pattern is cut at its marks for choices. The gaps next to a cut are dropped, and two neighbours
are rejoined with a space exactly if solid characters meet. This holds if no two marks are apart by
gaps only: then what one mark takes away is never needed to judge the next one. -/

namespace FormDialogue.Prompt
open Record (choicesMark)
variable {c : Char} {previous : Option Char} {text left rest u x y g h : List Char}
  {more : List (List Char)}

/-- A pattern is what its sections are with marks between them, and no section holds a mark. -/
structure CutInto (pattern first : List Char) (more : List (List Char)) : Prop where
  joined : choicesMark.intercalate (first :: more) = pattern
  unmarked : ∀ s ∈ first :: more, ¬ choicesMark <:+: s

/-- What comes between two texts: a space if both are solid where they meet. -/
def joint (left right : Option Char) : List Char :=
  if left.any isSolid && right.any isSolid then [' '] else []

/-- Sections rejoined, without the gaps next to the cuts between them. -/
def rejoin (left : List Char) : List (List Char) → List Char
  | [] => left
  | right :: more =>
    let left := left.rdropWhile isGap
    let right := right.dropWhile isGap
    left ++ joint left.getLast? right.head? ++ rejoin right more

/-! ## Cutting a pattern -/

theorem intercalate_append (sep u left : List Char) (more : List (List Char)) :
    sep.intercalate ((u ++ left) :: more) = u ++ sep.intercalate (left :: more) := by
  cases more with
  | nil => rw [List.intercalate_singleton, List.intercalate_singleton]
  | cons right more => simp only [List.intercalate_cons_cons, List.append_assoc]

theorem exists_cutInto (pattern : List Char) : ∃ first more, CutInto pattern first more := by
  induction pattern using pieces_induction with
  | nil => exact ⟨[], [], rfl, by simp [choicesMark]⟩
  | mark rest ih =>
    obtain ⟨first, more, rfl, hfree⟩ := ih
    refine ⟨[], first :: more, List.intercalate_cons_cons, ?_⟩
    exact List.forall_mem_cons.2 ⟨by simp [choicesMark], hfree⟩
  | char c rest hmark ih =>
    obtain ⟨first, more, rfl, hfree⟩ := ih
    rw [List.forall_mem_cons] at hfree
    have hjoined := intercalate_append choicesMark [c] first more
    have hfirst : first <+: choicesMark.intercalate (first :: more) := by
      have hsplit := intercalate_append choicesMark first [] more
      rw [List.append_nil] at hsplit
      exact ⟨_, hsplit.symm⟩
    refine ⟨c :: first, more, hjoined, List.forall_mem_cons.2 ⟨fun hinside => ?_, hfree.2⟩⟩
    rcases List.infix_cons_iff.1 hinside with hstart | hinside
    · exact hmark (hstart.trans ((List.prefix_cons_inj c).2 hfirst))
    · exact hfree.1 hinside

/-! ## Copied characters -/

/-- Both passes over a text behind a character. -/
def passes (previous : Option Char) (text : List Char) : List Char :=
  takeOut (joinAcross previous text)

theorem passes_nil (previous : Option Char) : passes previous [] = [] := by
  rw [passes, joinAcross, takeOut]

theorem head?_dropWhile_isGap (text : List Char) (c : Char)
    (hc : (text.dropWhile isGap).head? = some c) : isGap c = false := by
  have hnot := List.head?_dropWhile_not isGap text
  rwa [hc] at hnot

theorem cutMark?_eq_none_iff : cutMark? text = none ↔ ¬ choicesMark <+: text.dropWhile isGap := by
  have hgaps : cutMark? text = cutMark? (text.dropWhile isGap) := by
    conv_lhs => rw [← List.takeWhile_append_dropWhile (p := isGap) (l := text)]
    exact cutMark?_gaps (fun c hc => List.mem_takeWhile_imp hc) _
  rw [hgaps]
  constructor
  · rintro hnone ⟨rest, hrest⟩
    rw [← hrest, cutMark?_mark] at hnone
    cases hnone
  · exact fun hmark => Stops.cutMark?_eq_none ⟨head?_dropWhile_isGap text, hmark⟩

theorem stops_joinAcross (hstops : Stops text) (previous : Option Char) :
    Stops (joinAcross previous text) := by
  cases text with
  | nil => rwa [joinAcross]
  | cons c rest =>
    rw [joinAcross_stops hstops]
    exact hstops.joinAcross

/-- The first pass puts no mark in front. -/
theorem cutMark?_joinAcross (hnone : cutMark? text = none) (previous : Option Char) :
    cutMark? (joinAcross previous text) = none := by
  have hstops : Stops (text.dropWhile isGap) :=
    ⟨head?_dropWhile_isGap text, cutMark?_eq_none_iff.1 hnone⟩
  have hgaps : ∀ c ∈ text.takeWhile isGap, isGap c = true := fun c hc => List.mem_takeWhile_imp hc
  obtain ⟨previous', hjoin⟩ := joinAcross_gaps hgaps hstops previous
  rw [List.takeWhile_append_dropWhile] at hjoin
  rw [hjoin, cutMark?_gaps hgaps]
  exact (stops_joinAcross hstops previous').cutMark?_eq_none

theorem passes_copy (hnone : cutMark? (c :: rest) = none) (previous : Option Char) :
    passes previous (c :: rest) = c :: passes (some c) rest := by
  have hbetween : between? previous (c :: rest) = none := between?_eq_none hnone
  have hjoin := joinAcross_copy hbetween
  have hout := cutMark?_joinAcross hnone previous
  rw [hjoin] at hout
  rw [passes, hjoin, takeOut_copy hout]
  rfl

theorem passes_append (hcopied : ∀ v, v ≠ [] → v <:+ u → cutMark? (v ++ x) = none)
    (previous : Option Char) :
    passes previous (u ++ x) = u ++ passes (u.getLast?.or previous) x := by
  induction u generalizing previous with
  | nil => rfl
  | cons c u ih =>
    have hlast : (c :: u).getLast?.or previous = u.getLast?.or (some c) := by
      rw [List.getLast?_cons]
      cases u.getLast? <;> rfl
    have hfirst := hcopied (c :: u) (List.cons_ne_nil c u) (List.suffix_refl _)
    rw [List.cons_append] at hfirst ⊢
    rw [passes_copy hfirst, ih (fun v hne hv => hcopied v hne (hv.trans (List.suffix_cons c u))),
      hlast]
    rfl

/-! ## One mark -/

/-- The spaces and tabs around one mark make way for what comes between its neighbours. -/
theorem passes_mark (hg : ∀ c ∈ g, isGap c = true) (hh : ∀ c ∈ h, isGap c = true) (hy : Stops y)
    (previous : Option Char) :
    ∃ previous', passes previous (g ++ (choicesMark ++ (h ++ y))) =
      joint previous y.head? ++ passes previous' y := by
  let r : MarkedRun := ⟨g, h, [], hg, hh, nofun, nofun⟩
  have htext : g ++ (choicesMark ++ (h ++ y)) = textOf r.pieces ++ y :=
    (r.textOf_pieces_append y).symm
  rw [htext, passes]
  -- Between solid characters the first pass cuts the mark out; else it leaves one to the second.
  by_cases hsolid : previous.any isSolid = true ∧ y.head?.any isSolid = true
  · obtain ⟨last, hcut, -⟩ := r.cutMark?_run hy
    have hbetween := between?_of_cutMark? previous hcut
    change _ = if previous.any isSolid && y.head?.any isSolid then _ else _ at hbetween
    rw [hsolid.1, hsolid.2, Bool.and_self, if_pos rfl] at hbetween
    have hspace := takeOut_gaps (List.forall_mem_singleton.2 (rfl : isGap ' ' = true))
      (stops_joinAcross hy (some last))
    refine ⟨some last, ?_⟩
    rw [joinAcross_cut hbetween, joint, hsolid.1, hsolid.2, Bool.and_self, if_pos rfl]
    exact hspace
  · obtain ⟨joined, previous', hjoined⟩ := joinAcross_run r.isRun_pieces hy previous
    have hmark : .mark ∈ joined :=
      hjoined.mark_iff.2 ⟨r.mark_mem_pieces, fun hall => hsolid ⟨hall.1, hall.2.1⟩⟩
    refine ⟨previous', ?_⟩
    rw [hjoined.joins, takeOut_marked hjoined.joined_run hmark (stops_joinAcross hy previous'),
      joint, if_neg (by simpa using hsolid)]
    rfl

/-! ## All marks -/

/-- A text that is more than gaps. -/
def Filled (s : List Char) : Prop := ∃ c ∈ s, isGap c = false

theorem Filled.dropWhile_ne_nil (h : Filled text) : text.dropWhile isGap ≠ [] := by
  obtain ⟨c, hc, hgap⟩ := h
  intro hnil
  rw [List.dropWhile_eq_nil_iff.1 hnil c hc] at hgap
  contradiction

theorem Filled.dropWhile (h : Filled text) : Filled (text.dropWhile isGap) := by
  have hne := h.dropWhile_ne_nil
  exact ⟨_, List.head_mem hne, List.head_dropWhile_not isGap hne⟩

theorem copied_last (hfree : ¬ choicesMark <:+: text) (v : List Char) (hv : v <:+ text) :
    cutMark? (v ++ []) = none := by
  rw [List.append_nil, cutMark?_eq_none_iff]
  intro hstart
  exact hfree (hstart.isInfix.trans ((List.dropWhile_suffix isGap).trans hv).isInfix)

theorem copied_section (hfree : ¬ choicesMark <:+: text) (v : List Char) (hne : v ≠ [])
    (hv : v <:+ text.rdropWhile isGap) :
    cutMark? (v ++ (text.rtakeWhile isGap ++ (choicesMark ++ x))) = none := by
  have hlast : Filled v := by
    have hcore : text.rdropWhile isGap ≠ [] := fun hnil => hne (List.suffix_nil.1 (hnil ▸ hv))
    have hnot := List.rdropWhile_last_not isGap text hcore
    rw [← hv.getLast hne] at hnot
    exact ⟨_, List.getLast_mem hne, by simpa using hnot⟩
  have hne' := hlast.dropWhile_ne_nil
  rw [cutMark?_eq_none_iff, List.dropWhile_append, if_neg (by simpa using hne'),
    ← List.append_assoc]
  intro hstart
  have hmark : choicesMark <+: v.dropWhile isGap ++ text.rtakeWhile isGap :=
    mark_prefix_of_append (t := .choices) (u := .choices) (List.append_ne_nil_of_left_ne_nil hne' _)
      hstart
  have hsuffix : v.dropWhile isGap ++ text.rtakeWhile isGap <:+ text := by
    conv_rhs => rw [← List.rdropWhile_append_rtakeWhile (p := isGap) (l := text)]
    exact List.suffix_append_self_iff.2 ((List.dropWhile_suffix isGap).trans hv)
  exact hfree (hmark.isInfix.trans hsuffix.isInfix)

/-- Behind the gaps at its front, a section that is followed by others starts with no mark. -/
theorem stops_intercalate (hfree : ¬ choicesMark <:+: text) (hfilled : more ≠ [] → Filled text) :
    Stops (choicesMark.intercalate (text.dropWhile isGap :: more)) ∧
      (choicesMark.intercalate (text.dropWhile isGap :: more)).head? =
        (text.dropWhile isGap).head? := by
  have hfree' : ¬ choicesMark <+: text.dropWhile isGap := fun hstart =>
    hfree (hstart.isInfix.trans (List.dropWhile_suffix isGap).isInfix)
  cases more with
  | nil =>
    rw [List.intercalate_singleton]
    exact ⟨⟨head?_dropWhile_isGap text, hfree'⟩, rfl⟩
  | cons right more =>
    have hne := (hfilled (List.cons_ne_nil right more)).dropWhile_ne_nil
    have hhead : (choicesMark.intercalate (text.dropWhile isGap :: right :: more)).head? =
        (text.dropWhile isGap).head? := by
      rw [List.intercalate_cons_cons, List.append_assoc, List.head?_append_of_ne_nil _ hne]
    refine ⟨⟨fun c hc => head?_dropWhile_isGap text c (hhead ▸ hc), fun hstart => ?_⟩, hhead⟩
    rw [List.intercalate_cons_cons, List.append_assoc] at hstart
    exact hfree' (mark_prefix_of_append (t := .choices) (u := .choices) hne hstart)

theorem any_getLast?_or (h : previous = none ∨ Filled left) :
    ((left.rdropWhile isGap).getLast?.or previous).any isSolid =
      (left.rdropWhile isGap).getLast?.any isSolid := by
  rcases h with rfl | ⟨c, hc, hgap⟩
  · rw [Option.or_none]
  · have hne : left.rdropWhile isGap ≠ [] := by
      intro hnil
      rw [List.rdropWhile_eq_nil_iff.1 hnil c hc] at hgap
      contradiction
    rw [List.getLast?_eq_some_getLast hne, Option.some_or]

/-- At one mark, the section before it is rejoined with what follows behind the gaps. -/
theorem passes_cut (hfree : ¬ choicesMark <:+: left) (hleft : previous = none ∨ Filled left)
    (hh : ∀ c ∈ h, isGap c = true) (hy : Stops y) :
    ∃ previous', passes previous (left ++ (choicesMark ++ (h ++ y))) =
      left.rdropWhile isGap ++ joint (left.rdropWhile isGap).getLast? y.head? ++
        passes previous' y := by
  have hg : ∀ c ∈ left.rtakeWhile isGap, isGap c = true := fun c hc => List.mem_rtakeWhile_imp hc
  have hsplit : left ++ (choicesMark ++ (h ++ y)) =
      left.rdropWhile isGap ++ (left.rtakeWhile isGap ++ (choicesMark ++ (h ++ y))) := by
    rw [← List.append_assoc (left.rdropWhile isGap), List.rdropWhile_append_rtakeWhile]
  obtain ⟨previous', hmark⟩ := passes_mark hg hh hy ((left.rdropWhile isGap).getLast?.or previous)
  refine ⟨previous', ?_⟩
  rw [hsplit, passes_append (copied_section hfree) previous, hmark, joint, joint,
    any_getLast?_or hleft, List.append_assoc]

/-- Both passes rejoin the sections, if all of them but the first and the last one are filled. -/
theorem passes_sections (hfree : ∀ s ∈ left :: more, ¬ choicesMark <:+: s)
    (hfilled : ∀ s ∈ more.dropLast, Filled s) (hleft : more ≠ [] → previous = none ∨ Filled left) :
    passes previous (choicesMark.intercalate (left :: more)) = rejoin left more := by
  -- What stands before a section matters only if the section is empty, so only at the front.
  induction more generalizing left previous with
  | nil =>
    have hcopied := passes_append (x := [])
      (fun v _ hv => copied_last (hfree left List.mem_cons_self) v hv) previous
    rw [passes_nil, List.append_nil] at hcopied
    rw [List.intercalate_singleton, hcopied]
    rfl
  | cons right more ih =>
    obtain ⟨hfirst, hright, hmore⟩ :
        ¬ choicesMark <:+: left ∧ ¬ choicesMark <:+: right ∧ ∀ s ∈ more, ¬ choicesMark <:+: s := by
      simpa only [List.forall_mem_cons] using hfree
    have hinner : more ≠ [] → Filled right ∧ ∀ s ∈ more.dropLast, Filled s := by
      intro hne
      rwa [List.dropLast_cons_of_ne_nil hne, List.forall_mem_cons] at hfilled
    obtain ⟨hstops, hhead⟩ := stops_intercalate hright fun hne => (hinner hne).1
    -- The gaps behind the mark go with it, so the next section is looked at without them.
    have htext : choicesMark.intercalate (left :: right :: more) =
        left ++ (choicesMark ++ (right.takeWhile isGap ++
          choicesMark.intercalate (right.dropWhile isGap :: more))) := by
      rw [← intercalate_append, List.takeWhile_append_dropWhile, List.intercalate_cons_cons,
        List.append_assoc]
    have hgaps : ∀ c ∈ right.takeWhile isGap, isGap c = true :=
      fun c hc => List.mem_takeWhile_imp hc
    obtain ⟨previous', hcut⟩ :=
      passes_cut hfirst (hleft (List.cons_ne_nil right more)) hgaps hstops
    have hright' : ¬ choicesMark <:+: right.dropWhile isGap :=
      fun hinside => hright (hinside.trans (List.dropWhile_suffix isGap).isInfix)
    have hrest : passes previous' (choicesMark.intercalate (right.dropWhile isGap :: more)) =
        rejoin (right.dropWhile isGap) more :=
      ih (List.forall_mem_cons.2 ⟨hright', hmore⟩)
        (fun s hs => (hinner (by rintro rfl; cases hs)).2 s hs)
        (fun hne => .inr (hinner hne).1.dropWhile)
    rw [htext, hcut, hrest, hhead, rejoin]

/-! ## What is kept -/

theorem filter_dropWhile (text : List Char) :
    (text.dropWhile isGap).filter (fun c => !isGap c) = text.filter fun c => !isGap c := by
  have hgaps : (text.takeWhile isGap).filter (fun c => !isGap c) = [] :=
    List.filter_eq_nil_iff.2 fun c hc => by simp [List.mem_takeWhile_imp hc]
  conv_rhs => rw [← List.takeWhile_append_dropWhile (p := isGap) (l := text)]
  rw [List.filter_append, hgaps, List.nil_append]

theorem filter_rdropWhile (text : List Char) :
    (text.rdropWhile isGap).filter (fun c => !isGap c) = text.filter fun c => !isGap c := by
  rw [List.rdropWhile, List.filter_reverse, filter_dropWhile, List.filter_reverse,
    List.reverse_reverse]

theorem filter_joint (left right : Option Char) :
    (joint left right).filter (fun c => !isGap c) = [] := by
  rw [joint]
  split <;> rfl

/-- Rejoining takes away and puts in spaces and tabs only. -/
theorem filter_rejoin (left : List Char) (more : List (List Char)) :
    (rejoin left more).filter (fun c => !isGap c) =
      (left :: more).flatten.filter fun c => !isGap c := by
  induction more generalizing left with
  | nil => simp [rejoin]
  | cons right more ih =>
    rw [rejoin, List.filter_append, List.filter_append, filter_rdropWhile, filter_joint,
      List.append_nil, ih]
    simp only [List.flatten_cons, List.filter_append, filter_dropWhile]

/-- Every pattern can be cut at its marks for choices. However it is, with a solid character between
any two marks that follow each other, dropping the marks gives the sections rejoined and trimmed;
rejoining keeps what is neither a space nor a tab. -/
theorem dropMarks_rejoins (pattern : List Char) :
    (∃ first more, CutInto pattern first more) ∧
      ∀ first more, CutInto pattern first more →
        (∀ s ∈ more.dropLast, s.any isSolid = true) →
        dropMarks pattern = Text.trim (rejoin first more) ∧
        (rejoin first more).filter (fun c => !isGap c) =
          (first :: more).flatten.filter fun c => !isGap c := by
  refine ⟨exists_cutInto pattern, fun first more hcut hsolid => ⟨?_, filter_rejoin first more⟩⟩
  have hfilled : ∀ s ∈ more.dropLast, Filled s := by
    intro s hs
    obtain ⟨c, hc, hsolid⟩ := List.any_eq_true.1 (hsolid s hs)
    exact ⟨c, hc, isGap_of_isSolid hsolid⟩
  have hpasses := passes_sections hcut.unmarked hfilled (fun _ => .inl rfl)
  rw [hcut.joined] at hpasses
  rw [← hpasses]
  rfl

theorem dropMarks_rejoins_sample :
    CutInto "Pick \x7b||\x7d \n one \x7b||\x7d\tof these: \x7b||\x7d".toList "Pick ".toList
        [" \n one ".toList, "\tof these: ".toList, []] ∧
      dropMarks "Pick \x7b||\x7d \n one \x7b||\x7d\tof these: \x7b||\x7d".toList =
        "Pick\n one of these:".toList := by
  have hcut : CutInto "Pick \x7b||\x7d \n one \x7b||\x7d\tof these: \x7b||\x7d".toList
      "Pick ".toList [" \n one ".toList, "\tof these: ".toList, []] := ⟨by decide, by decide⟩
  refine ⟨hcut, ((dropMarks_rejoins _).2 _ _ hcut (by decide)).1.trans (by decide)⟩

end FormDialogue.Prompt
