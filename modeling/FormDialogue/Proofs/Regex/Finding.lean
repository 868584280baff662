import FormDialogue.Proofs.Regex.Nesting

/-! # What a reader finds out

The reader keeps what it has found out about the text: the alphabets that are switched on come from
heads of flags, and a node that looks behind comes from a look-behind. -/

namespace FormDialogue.Regex
open Source
variable {pattern : List Char} {s s' : Source} {r : Reader} {n : Node} {l : Level} {start : Nat}

/-! ## Heads of flags -/

theorem eq_of_flag_ascii {c : Char} {f : Flags} (h : flag? c = some f) (hf : f.ascii = true) :
    c = 'a' := by
  unfold flag? at h
  split at h <;> cases h <;> first | rfl | cases hf

theorem eq_of_flag_unicode {c : Char} {f : Flags} (h : flag? c = some f) (hf : f.unicode = true) :
    c = 'u' := by
  unfold flag? at h
  split at h <;> cases h <;> first | rfl | cases hf

theorem eq_char_of_flag {t : Token} {next : Char × Flags} (h : t.flag? = some next) :
    t = .char next.1 ∧ flag? next.1 = some next.2 := by
  cases t with
  | char c =>
    obtain ⟨f, hf, rfl⟩ := Option.map_eq_some_iff.1 h
    exact ⟨rfl, hf⟩
  | escape c => cases h
  | dangling => cases h

/-- What was read as a head of flags: letters that switch flags on for the whole expression, or a
head for a single group. -/
def HeadRead (on : Flags) (ts : List Token) : FlagHead × Source → Prop
  | (.whole all, s) => ∃ letters : List Char, (∀ c ∈ letters, (flag? c).isSome = true) ∧
      ts = letters.map .char ++ .char ')' :: s.rest ∧
      (all.ascii = true → on.ascii = true ∨ 'a' ∈ letters) ∧
      (all.unicode = true → on.unicode = true ∨ 'u' ∈ letters)
  | (.one .., s) => s.rest <:+ ts

theorem headRead_flag {c : Char} {f on : Flags} {ts : List Token} {found : FlagHead × Source}
    (hflag : flag? c = some f) (h : HeadRead (on.union f) ts found) :
    HeadRead on (.char c :: ts) found := by
  obtain ⟨head, s⟩ := found
  cases head with
  | one on' off => exact List.IsSuffix.trans h (List.suffix_cons _ _)
  | whole all =>
    obtain ⟨letters, hletters, rfl, hascii, hunicode⟩ := h
    refine ⟨c :: letters, List.forall_mem_cons.2 ⟨by rw [hflag]; rfl, hletters⟩, rfl,
      fun hall => ?_, fun hall => ?_⟩
    · obtain hon | hmem := hascii hall
      · obtain hon | hf := Bool.or_eq_true_iff.1 hon
        · exact Or.inl hon
        · exact Or.inr (by rw [eq_of_flag_ascii hflag hf]; exact List.mem_cons_self)
      · exact Or.inr (List.mem_cons_of_mem c hmem)
    · obtain hon | hmem := hunicode hall
      · obtain hon | hf := Bool.or_eq_true_iff.1 hon
        · exact Or.inl hon
        · exact Or.inr (by rw [eq_of_flag_unicode hflag hf]; exact List.mem_cons_self)
      · exact Or.inr (List.mem_cons_of_mem c hmem)

theorem ends_refuseFlag [Limits] {α : Type} {P : α → Prop} (t : Token) (what : String)
    (position : Nat) : Ends pattern P (refuseFlag t what position) := by
  unfold refuseFlag
  split
  · exact .refuse _ _
  · exact .refuse _ _

/-- A head that switches flags off is the head of a single group. -/
def IsOne (s : Source) (found : FlagHead × Source) : Prop :=
  (∃ on off, found.1 = .one on off) ∧ found.2.rest <:+ s.rest

theorem IsOne.after {found : FlagHead × Source} (h : IsOne s' found) (hs : s'.rest <:+ s.rest) :
    IsOne s found := ⟨h.1, h.2.trans hs⟩

theorem IsOne.headRead {on : Flags} {ts : List Token} {found : FlagHead × Source}
    (h : IsOne s found) (hs : s.rest <:+ ts) : HeadRead on ts found := by
  obtain ⟨head, s'⟩ := found
  obtain ⟨⟨on', off', rfl⟩, hrest⟩ := h
  exact hrest.trans hs

theorem ends_readOff [Limits] (on off : Flags) (fuel : Nat) (next : Char × Flags) (s : Source) :
    Ends pattern (IsOne s) (readOff on off fuel next s) := by
  induction fuel generalizing off next s with
  | zero => exact .refuse _ _
  | succ fuel ih =>
    unfold readOff
    split
    · exact .refuse _ _
    refine (ends_take s).bind ?_
    rintro ⟨t, s₁⟩ h
    cases t with
    | none => exact .refuse _ _
    | some t =>
      have hs := suffix_of_take h
      dsimp only
      split
      · split
        · exact .refuse _ _
        · split
          · exact .refuse _ _
          · exact ⟨⟨on, _, rfl⟩, hs⟩
      · split
        · exact (ih _ _ s₁).mono fun _ hread => hread.after hs
        · exact ends_refuseFlag _ _ _

theorem ends_endOn [Limits] (on : Flags) {mark : Char} (hmark : mark ≠ ')') (s : Source) :
    Ends pattern (IsOne s) (endOn on mark s) := by
  unfold endOn
  rw [if_neg hmark]
  split
  · exact .refuse _ _
  · split
    · refine (ends_take s).bind ?_
      rintro ⟨t, s₁⟩ h
      cases t with
      | none => exact .refuse _ _
      | some t =>
        dsimp only
        split
        · exact (ends_readOff _ _ _ _ s₁).mono fun _ hread => hread.after (suffix_of_take h)
        · exact ends_refuseFlag _ _ _
    · exact ⟨⟨on, _, rfl⟩, List.suffix_rfl⟩

theorem ends_readOn [Limits] (on : Flags) (fuel : Nat) {c : Char} {f : Flags}
    (hflag : flag? c = some f) (s : Source) :
    Ends pattern (HeadRead on (.char c :: s.rest)) (readOn on fuel (c, f) s) := by
  induction fuel generalizing on c f s with
  | zero => exact .refuse _ _
  | succ fuel ih =>
    unfold readOn
    dsimp only
    split
    · exact .refuse _ _
    split
    · exact .refuse _ _
    refine (ends_take s).bind ?_
    rintro ⟨t, s₁⟩ h
    cases t with
    | none => exact .refuse _ _
    | some t =>
      have hs := suffix_of_take h
      dsimp only
      split
      · have hend : HeadRead (on.union f) s.rest (.whole (on.union f), s₁) :=
          ⟨[], List.forall_mem_nil _, h, Or.inl, Or.inl⟩
        exact headRead_flag hflag hend
      · exact (ends_endOn _ (by decide) s₁).mono fun _ hread =>
          headRead_flag hflag (hread.headRead hs)
      · exact (ends_endOn _ (by decide) s₁).mono fun _ hread =>
          headRead_flag hflag (hread.headRead hs)
      · split
        · next next hnext =>
          obtain ⟨rfl, hg⟩ := eq_char_of_flag hnext
          refine (ih _ hg s₁).mono fun _ hread => headRead_flag hflag ?_
          rw [h]
          exact hread
        · exact ends_refuseFlag _ _ _

/-! ## Nodes that do not overreach -/

/-- Nodes that do not look back farther than a matcher can. -/
def Near (ns : List Node) : Prop := ∀ n ∈ ns, n.overreaches = false

theorem near_append {ns ms : List Node} : Near (ns ++ ms) ↔ Near ns ∧ Near ms :=
  List.forall_mem_append

theorem near_cons {ns : List Node} : Near (n :: ns) ↔ n.overreaches = false ∧ Near ns :=
  List.forall_mem_cons

theorem near_nil : Near [] := List.forall_mem_nil _

theorem near_items (h : n.overreaches = false) : Near n.items := by
  induction n with
  | empty => exact near_nil
  | seq a b iha ihb =>
    obtain ⟨ha, hb⟩ := Bool.or_eq_false_iff.1 h
    exact near_append.2 ⟨iha ha, ihb hb⟩
  | _ => exact near_cons.2 ⟨h, near_nil⟩

theorem plainBody?_near {body : Node} (h : n.plainBody? = some body)
    (hn : n.overreaches = false) : body.overreaches = false := by
  cases n with
  | group index on off inner =>
    cases index with
    | some i => cases h
    | none =>
      rw [Node.plainBody?] at h
      split at h
      · cases h
        exact hn
      · cases h
  | _ => cases h

theorem near_dissolve {ns : List Node} (h : Near ns) : Near (dissolve ns) := by
  intro m hm
  obtain ⟨n, hn, hmem⟩ := List.mem_flatMap.1 hm
  have hnear := h n (List.mem_reverse.1 hn)
  cases hbody : n.plainBody? with
  | some body =>
    rw [hbody] at hmem
    exact near_items (plainBody?_near hbody hnear) m hmem
  | none =>
    rw [hbody] at hmem
    rw [List.mem_singleton.1 hmem]
    exact hnear

theorem alternative_near (h : n.overreaches = false) : n.alternative.overreaches = false := by
  cases n <;> exact h

theorem ofBranches_near {ns : List Node} (h : Near ns) :
    (Node.ofBranches ns).overreaches = false := by
  induction ns with
  | nil => rfl
  | cons n ns ih =>
    obtain ⟨hn, hns⟩ := near_cons.1 h
    cases ns with
    | nil => exact alternative_near hn
    | cons m ms => exact Bool.or_eq_false_iff.2 ⟨alternative_near hn, ih hns⟩

theorem joinBranches_near {branches : List (List Node)} (h : ∀ b ∈ branches, Near b) :
    (joinBranches branches).overreaches = false := by
  unfold joinBranches
  split
  · next items => exact Node.overreaches_ofItems (h items List.mem_cons_self)
  · obtain ⟨hheads, hrest⟩ := forall_splitHeads ((branches.headD []).length + 1) h
    refine Node.overreaches_ofItems (near_append.2 ⟨hheads, near_cons.2 ⟨?_, near_nil⟩⟩)
    dsimp only
    split
    · rfl
    · apply ofBranches_near
      intro m hm
      obtain ⟨b, hb, rfl⟩ := List.mem_map.1 hm
      exact Node.overreaches_ofItems (hrest b hb)

/-! ## Levels and readers -/

/-- A level in which nothing looks behind too far, nor will when it is closed. -/
structure Level.IsNear (l : Level) : Prop where
  items : Near l.items
  branches : ∀ b ∈ l.branches, Near b
  kind : match l.kind with
    | .behind .. => False
    | .condition _ (some yes) => Near yes
    | _ => True

theorem Level.IsNear.push (h : l.IsNear) (hn : n.overreaches = false) :
    Level.IsNear { l with items := n :: l.items } :=
  ⟨near_cons.2 ⟨hn, h.items⟩, h.branches, h.kind⟩

theorem Level.IsNear.body (h : l.IsNear) : (Reader.body l).overreaches = false := by
  apply joinBranches_near
  intro b hb
  obtain hb | hb := List.mem_append.1 hb
  · exact h.branches b hb
  · rw [List.mem_singleton.1 hb]
    exact near_dissolve h.items

/-- What a reader has found out is in the text. -/
structure Reader.Found (pattern : List Char) (r : Reader) : Prop where
  rest : r.source.rest <:+ tokens pattern
  ascii : r.flags.ascii = true → Switches 'a' pattern
  unicode : r.flags.unicode = true → Switches 'u' pattern
  level : LooksBehind pattern ∨ r.level.IsNear
  outer : LooksBehind pattern ∨ ∀ l ∈ r.outer, l.IsNear

namespace Reader.Found

theorem goOn (h : r.Found pattern) (hs : s.rest <:+ tokens pattern) :
    Reader.Found pattern { r with source := s } :=
  ⟨hs, h.ascii, h.unicode, h.level, h.outer⟩

theorem regroup (h : r.Found pattern) (groups : Groups) :
    Reader.Found pattern { r with groups := groups } :=
  ⟨h.rest, h.ascii, h.unicode, h.level, h.outer⟩

theorem push (h : r.Found pattern) (hn : LooksBehind pattern ∨ n.overreaches = false) :
    (r.push n).Found pattern where
  rest := h.rest
  ascii := h.ascii
  unicode := h.unicode
  level := by
    obtain hbehind | hn := hn
    · exact Or.inl hbehind
    · exact h.level.imp_right fun hl => hl.push hn
  outer := h.outer

theorem openLevel (h : r.Found pattern) {kind : LevelKind} (start : Nat) (verbose : Bool)
    (hkind : LooksBehind pattern ∨ Level.IsNear ⟨kind, start, verbose, [], []⟩) :
    (r.openLevel kind start verbose).Found pattern where
  rest := h.rest
  ascii := h.ascii
  unicode := h.unicode
  level := hkind
  outer := by
    obtain hbehind | hl := h.level
    · exact Or.inl hbehind
    · exact h.outer.imp_right fun houter => List.forall_mem_cons.2 ⟨hl, houter⟩

theorem closeLevel (h : r.Found pattern) {parent : Level} {outer : List Level}
    (houter : r.outer = parent :: outer) : (r.closeLevel parent outer).Found pattern := by
  have hback : ({ r with level := parent, outer := outer } : Reader).Found pattern := by
    have hlevels := h.outer
    rw [houter] at hlevels
    refine ⟨h.rest, h.ascii, h.unicode, ?_, ?_⟩
    · exact hlevels.imp_right fun hall => hall parent List.mem_cons_self
    · exact hlevels.imp_right fun hall l hl => hall l (List.mem_cons_of_mem parent hl)
  have hbody := h.level.imp_right Level.IsNear.body
  unfold Reader.closeLevel
  dsimp only
  split
  · exact hback
  · exact (hback.regroup _).push hbody
  · exact hback.push hbody
  · exact hback.push hbody
  · next negated outermost hkind =>
    -- A level of this kind is opened by nothing but a look-behind in the text.
    refine (hback.regroup _).push (Or.inl ?_)
    obtain hbehind | hl := h.level
    · exact hbehind
    · have hfalse := hl.kind
      rw [hkind] at hfalse
      exact hfalse.elim
  · next index yes hkind =>
    split
    · next first =>
      refine hback.push (h.level.imp_right fun hl => ?_)
      have hyes := hl.kind
      rw [hkind] at hyes
      exact Bool.or_eq_false_iff.2 ⟨Node.overreaches_ofItems hyes,
        Node.overreaches_ofItems (near_dissolve hl.items)⟩
    · refine hback.push (h.level.imp_right fun hl => ?_)
      exact Bool.or_eq_false_iff.2 ⟨Node.overreaches_ofItems (near_dissolve hl.items), rfl⟩

theorem readBar (h : r.Found pattern) (hs : s.rest <:+ tokens pattern) :
    (readBar r s).Found pattern := by
  unfold Regex.readBar
  split
  · next index hkind =>
    refine ⟨hs, h.ascii, h.unicode, h.level.imp_right fun hl => ?_, h.outer⟩
    exact ⟨near_nil, hl.branches, near_dissolve hl.items⟩
  · refine ⟨hs, h.ascii, h.unicode, h.level.imp_right fun hl => ?_, h.outer⟩
    refine ⟨near_nil, fun b hb => ?_, hl.kind⟩
    obtain hb | hb := List.mem_append.1 hb
    · exact hl.branches b hb
    · rw [List.mem_singleton.1 hb]
      exact near_dissolve hl.items

end Reader.Found

end FormDialogue.Regex
