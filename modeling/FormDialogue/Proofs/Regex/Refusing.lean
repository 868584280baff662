import FormDialogue.Proofs.Regex.Finding

/-! # What an expression is refused for

Every step of the reader keeps what it has found out about the text, and pays with a mark for each
level and each repetition. So whatever a compilation is refused for, apart from faults of the
syntax, is explained by the text. -/

namespace FormDialogue.Regex
open Source
variable {pattern : List Char} {s : Source} {r : Reader} {n : Node}

/-- What a reader has found out is in the text, and its levels have marks there. -/
structure Reader.Sound (pattern : List Char) (r : Reader) : Prop where
  found : r.Found pattern
  nested : r.Nested pattern

namespace Reader.Sound

theorem goOn (h : r.Sound pattern) (hs : s.rest <:+ r.source.rest) :
    Reader.Sound pattern { r with source := s } :=
  ⟨h.found.goOn (hs.trans h.found.rest), h.nested.goOn hs⟩

theorem push (h : r.Sound pattern) (hn : n.IsLeaf) : (r.push n).Sound pattern :=
  ⟨h.found.push (Or.inr hn.near), h.nested.push hn.calls⟩

theorem openLevel (h : r.Sound pattern) (hs : r.Passes s) (groups : Groups) {kind : LevelKind}
    (hkind : kind.IsNew) (start : Nat) (verbose : Bool)
    (hnear : LooksBehind pattern ∨ Level.IsNear ⟨kind, start, verbose, [], []⟩) :
    Reader.Sound pattern
      (({ r with source := s, groups := groups } : Reader).openLevel kind start verbose) where
  found := ((h.found.goOn (hs.suffix.trans h.found.rest)).regroup groups).openLevel start _ hnear
  nested := h.nested.openLevel hs groups hkind start verbose

theorem closeLevel (h : r.Sound pattern) {parent : Level} {outer : List Level}
    (houter : r.outer = parent :: outer) : (r.closeLevel parent outer).Sound pattern :=
  ⟨h.found.closeLevel houter, h.nested.closeLevel houter⟩

theorem readBar (h : r.Sound pattern) (hs : s.rest <:+ r.source.rest) :
    (readBar r s).Sound pattern :=
  ⟨h.found.readBar (hs.trans h.found.rest), h.nested.readBar hs⟩

end Reader.Sound

theorem Reader.Sound.openBehind (h : r.Sound pattern) (hs : r.Passes s)
    (hbehind : LooksBehind pattern) (start : Nat) (negated : Bool) :
    (openBehind r start negated s).Sound pattern :=
  h.openLevel hs _ (by trivial) start _ (Or.inl hbehind)

/-! ## Steps of a reader -/

section
variable [Limits]

theorem ends_readGreed (s : Source) :
    Ends pattern (fun found => found.2.rest <:+ s.rest) (readGreed s) := by
  unfold readGreed
  refine (ends_accept s '?').bind fun question hquestion => ?_
  have hs := suffix_of_accept hquestion
  dsimp only
  split
  · exact hs
  · exact (ends_accept question.2 '+').bind fun plus hplus => (suffix_of_accept hplus).trans hs

theorem ends_checkName (name : List Char) (s : Source) :
    Ends pattern (fun _ => True) (checkName name s) := by
  unfold checkName
  split
  · trivial
  · exact .refuse _ _

theorem ends_skipComment (start fuel : Nat) (s : Source) :
    Ends pattern (fun s' => s'.rest <:+ s.rest) (skipComment start fuel s) := by
  induction fuel generalizing s with
  | zero => exact .refuse _ _
  | succ fuel ih =>
    unfold skipComment
    refine (ends_take s).bind ?_
    rintro ⟨t, s₁⟩ h
    cases t with
    | none => exact .refuse _ _
    | some t =>
      have hs := suffix_of_take h
      dsimp only
      split
      · exact hs
      · exact (ih s₁).mono fun _ hrest => hrest.trans hs

theorem ends_skipLine (fuel : Nat) (s : Source) :
    Ends pattern (fun s' => s'.rest <:+ s.rest) (skipLine fuel s) := by
  induction fuel generalizing s with
  | zero => exact List.suffix_rfl
  | succ fuel ih =>
    unfold skipLine
    refine (ends_take s).bind ?_
    rintro ⟨t, s₁⟩ h
    have hs := suffix_of_take h
    cases t with
    | none => exact hs
    | some t =>
      dsimp only
      split
      · exact hs
      · exact (ih s₁).mono fun _ hrest => hrest.trans hs

section Steps
variable (h : r.Sound pattern) (hs : r.Passes s)
include h hs

theorem ends_quantify (start least : Nat) (most : Option Nat) :
    Ends pattern (Reader.Sound pattern) (quantify r start least most s) := by
  unfold quantify
  split
  · exact .refuse _ _
  · next n earlier hitems =>
    split
    · exact .refuse _ _
    split
    · exact .refuse _ _
    refine (ends_readGreed s).bind fun greed hgreed => ?_
    have hs' := hs.trans hgreed
    have hfound := h.found
    refine ⟨⟨hs'.suffix.trans hfound.rest, hfound.ascii, hfound.unicode,
      hfound.level.imp_right fun hl => ?_, hfound.outer⟩, h.nested.loop hs' hitems greed.1 least most⟩
    have hnear := hl.items
    rw [hitems] at hnear
    obtain ⟨hn, hearlier⟩ := near_cons.1 hnear
    refine ⟨near_cons.2 ⟨?_, hearlier⟩, hl.branches, hl.kind⟩
    cases hbody : n.plainBody? with
    | none => exact hn
    | some body =>
      have hnear := plainBody?_near hbody hn
      exact hnear

theorem ends_openGroup (start : Nat) (name : Option (List Char)) :
    Ends pattern (Reader.Sound pattern) (openGroup r start name s) := by
  have hopened : ∀ groups, (({ r with source := s, groups := groups } : Reader).openLevel
      (.group (some r.groups.count) .none .none) start r.level.verbose).Sound pattern :=
    fun groups => h.openLevel hs groups (by trivial) start _ (Or.inr ⟨near_nil, nofun, trivial⟩)
  unfold openGroup
  dsimp only
  split
  · exact hopened _
  · split
    · exact .refuse _ _
    · exact hopened _

theorem ends_namedReference :
    Ends pattern (Reader.Sound pattern) (namedReference r s) := by
  unfold namedReference
  refine (ends_takeName ')' _ s).bind fun name hname => ?_
  refine (ends_checkName _ _).bind fun _ _ => ?_
  dsimp only
  split
  · exact .refuse _ _
  · split
    · refine (ends_checkLookbehind _ _ _).bind fun _ _ => ?_
      exact (h.goOn (hname.trans hs.suffix)).push ⟨rfl, rfl⟩
    · exact .refuse _ _

theorem ends_openCondition (start : Nat) :
    Ends pattern (Reader.Sound pattern) (openCondition r start s) := by
  unfold openCondition
  refine (ends_takeName ')' _ s).bind fun name hname => ?_
  have hopened : ∀ groups index, Ends pattern (Reader.Sound pattern)
      (groups.checkLookbehind index name.2.position >>= fun _ =>
        pure (({ r with source := name.2, groups := groups } : Reader).openLevel
          (.condition index none) start r.level.verbose)) := by
    intro groups index
    refine (ends_checkLookbehind groups _ _).bind fun _ _ => ?_
    exact h.openLevel (hs.trans hname) groups (by trivial) start _
      (Or.inr ⟨near_nil, nofun, trivial⟩)
  dsimp only
  split
  · split
    · exact .refuse _ _
    · exact hopened _ _
  · split
    · exact .refuse _ _
    · exact .refuse _ _
    · split
      · exact .refuse _ _
      · split
        · exact hopened _ _
        · exact hopened _ _

end Steps

/-- Flags that hold for the whole expression stand in a head of their own. -/
theorem ends_openFlags (h : r.Sound pattern) {ts : List Token} {found : FlagHead × Source}
    (hts : r.source.rest = .char '(' :: .char '?' :: ts) (hread : HeadRead .none ts found)
    (start : Nat) :
    Ends pattern (Reader.Sound pattern) (openFlags r start found.1 found.2) := by
  obtain ⟨head, s⟩ := found
  unfold openFlags
  cases head with
  | one on off =>
    have hs : r.Passes s := ⟨'(', _, rfl, hts, List.IsSuffix.trans hread (List.suffix_cons _ _)⟩
    exact h.openLevel hs r.groups (by trivial) start _ (Or.inr ⟨near_nil, nofun, trivial⟩)
  | whole all =>
    obtain ⟨letters, hletters, rfl, hascii, hunicode⟩ := hread
    have hfound := h.found
    have hmarked := hfound.rest
    rw [hts] at hmarked
    have hs : s.rest <:+ r.source.rest := by
      rw [hts]
      exact ⟨'(' :: '?' :: letters ++ [')'] |>.map .char, by simp⟩
    have hhead : "(?".toList ++ letters ++ [')'] <:+: pattern :=
      infix_of_suffix s.rest (by simpa using hmarked)
    dsimp only
    split
    · exact .refuse _ _
    obtain ⟨marks, hmarks, hlength, hl, houter⟩ := (h.nested.goOn hs)
    refine ⟨⟨hs.trans hfound.rest, fun hall => ?_, fun hall => ?_,
      hfound.level.imp_right fun hl => ⟨hl.items, hl.branches, hl.kind⟩, hfound.outer⟩,
      marks, hmarks, hlength, ⟨hl.items, hl.branches, hl.kind⟩, houter⟩
    · obtain hold | hnew := Bool.or_eq_true_iff.1 hall
      · exact hfound.ascii hold
      · exact ⟨letters, (hascii hnew).resolve_left (by decide), hletters, hhead⟩
    · obtain hold | hnew := Bool.or_eq_true_iff.1 hall
      · exact hfound.unicode hold
      · exact ⟨letters, (hunicode hnew).resolve_left (by decide), hletters, hhead⟩

theorem ends_readExtension (h : r.Sound pattern)
    (hts : r.source.rest = .char '(' :: .char '?' :: s.rest) (start : Nat) :
    Ends pattern (Reader.Sound pattern) (readExtension r start s) := by
  have hpass : ∀ {s' : Source}, s'.rest <:+ s.rest → r.Passes s' := fun hs =>
    ⟨'(', _, rfl, hts, hs.trans (List.suffix_cons _ _)⟩
  unfold readExtension
  refine (ends_take s).bind ?_
  rintro ⟨t, s₁⟩ h₁
  have hs₁ := hpass (suffix_of_take h₁)
  cases t with
  | none => exact .refuse _ _
  | some t =>
    have hplain : ∀ kind, kind.IsNew → Level.IsNear ⟨kind, start, r.level.verbose, [], []⟩ →
        (({ r with source := s₁ } : Reader).openLevel kind start r.level.verbose).Sound pattern :=
      fun kind hnew hkind => h.openLevel hs₁ r.groups hnew start _ (Or.inr hkind)
    dsimp only
    split
    · refine (ends_accept s₁ '<').bind fun named hnamed => ?_
      have hs₂ := hs₁.trans (suffix_of_accept hnamed)
      split
      · refine (ends_takeName _ _ _).bind fun name hname => ?_
        exact (ends_checkName _ _).bind fun _ _ => ends_openGroup h (hs₂.trans hname) start _
      · refine (ends_accept named.2 '=').bind fun reference hreference => ?_
        have hs₃ := hs₂.trans (suffix_of_accept hreference)
        split
        · exact ends_namedReference h hs₃
        · refine (ends_take _).bind ?_
          rintro ⟨u, s₄⟩ -
          cases u with
          | none => exact .refuse _ _
          | some u => exact .refuse _ _
    · exact hplain _ trivial ⟨near_nil, nofun, trivial⟩
    · exact (ends_skipComment start _ s₁).bind fun _ hrest => h.goOn (hs₁.trans hrest).suffix
    · exact hplain _ trivial ⟨near_nil, nofun, trivial⟩
    · exact hplain _ trivial ⟨near_nil, nofun, trivial⟩
    · refine (ends_take s₁).bind ?_
      rintro ⟨u, s₂⟩ h₂
      have hs₂ := hs₁.trans (suffix_of_take h₂)
      cases u with
      | none => exact .refuse _ _
      | some u =>
        have hmarked := h.found.rest
        dsimp only at h₁ h₂ ⊢
        rw [hts, h₁, h₂] at hmarked
        split
        · refine h.openBehind hs₂ (Or.inl ?_) start false
          exact infix_of_suffix s₂.rest hmarked
        · refine h.openBehind hs₂ (Or.inr ?_) start true
          exact infix_of_suffix s₂.rest hmarked
        · exact .refuse _ _
    · exact ends_openCondition h hs₁ start
    · exact hplain _ trivial ⟨near_nil, nofun, trivial⟩
    · refine (ends_endOn .none (by decide) s₁).bind fun found hfound => ?_
      exact ends_openFlags h hts (hfound.headRead (suffix_of_take h₁)) start
    · split
      · next flag hflag =>
        obtain ⟨rfl, hf⟩ := eq_char_of_flag hflag
        refine (ends_readOn .none _ hf s₁).bind fun found hfound => ?_
        rw [h₁] at hts
        exact ends_openFlags h hts hfound start
      · exact .refuse _ _

theorem ends_readParenthesis (h : r.Sound pattern) (hts : r.source.rest = .char '(' :: s.rest)
    (start : Nat) : Ends pattern (Reader.Sound pattern) (readParenthesis r start s) := by
  unfold readParenthesis
  refine (ends_accept s '?').bind ?_
  rintro ⟨extended, s₁⟩ h₁
  dsimp only at h₁ ⊢
  rw [h₁] at hts
  cases extended with
  | true => exact ends_readExtension h hts start
  | false => exact ends_openGroup h ⟨'(', _, rfl, hts, List.suffix_rfl⟩ start none

theorem ends_readChar (h : r.Sound pattern) {c : Char}
    (hts : r.source.rest = .char c :: s.rest) (start : Nat) :
    Ends pattern (Reader.Sound pattern) (readChar r start c s) := by
  have hs : s.rest <:+ r.source.rest := ⟨[.char c], hts.symm⟩
  have hplaced : ∀ n : Node, n.IsLeaf →
      (({ r with source := s } : Reader).push n).Sound pattern :=
    fun n hn => (h.goOn hs).push hn
  have hpass : isNestingMark c = true → r.Passes s := fun hc => ⟨c, _, hc, hts, List.suffix_rfl⟩
  unfold readChar
  dsimp only
  split
  · exact h.goOn hs
  split
  · exact (ends_skipLine _ s).bind fun _ hrest => h.goOn (hrest.trans hs)
  split
  · refine (ends_readSet start s).bind fun found hfound => ?_
    exact (h.goOn (hfound.2.trans hs)).push hfound.1
  · exact ends_quantify h (hpass (by decide)) start 0 (some 1)
  · exact ends_quantify h (hpass (by decide)) start 0 none
  · exact ends_quantify h (hpass (by decide)) start 1 none
  · split
    · exact hplaced _ ⟨rfl, rfl⟩
    have hmarked := h.found.rest
    rw [hts] at hmarked
    refine (ends_readCounts hmarked).bind fun found hfound => ?_
    cases found with
    | none => exact hplaced _ ⟨rfl, rfl⟩
    | some counts =>
      exact ends_quantify h ((hpass (by decide)).trans (hfound counts rfl)) start _ _
  · exact hplaced _ ⟨rfl, rfl⟩
  · exact ends_readParenthesis h hts start
  · exact hplaced _ ⟨rfl, rfl⟩
  · exact hplaced _ ⟨rfl, rfl⟩
  · exact hplaced _ ⟨rfl, rfl⟩

theorem ends_readNested (h : r.Sound pattern) {c : Char}
    (hts : r.source.rest = .char c :: s.rest) (start : Nat) :
    Ends pattern (Reader.Sound pattern) (readNested r start c s) := by
  unfold readNested
  refine (ends_readChar h hts start).bind fun r' h' => ?_
  split
  · next hdeep =>
    -- Too many calls are nested by as many levels, and each of these was opened by a mark.
    obtain ⟨marks, hmarks, hlength, -⟩ := h'.nested
    have hcalls := r'.calls_le
    have hle := nesting_tokens_le pattern
    change Limits.mostCalls ≤ 2 * pattern.countP isNestingMark + 1
    omega
  · exact h'

/-! ## Whole expressions -/

/-- The root of an expression overreaches only with a look-behind, and is nested by its marks. -/
structure Expression.Sound (pattern : List Char) (e : Expression) : Prop where
  near : LooksBehind pattern ∨ e.root.overreaches = false
  calls : e.root.calls ≤ 2 * pattern.countP isNestingMark + 1

theorem ends_checkPending (g : Groups) : Ends pattern (fun _ => True) (checkPending g) := by
  unfold checkPending
  split
  · exact .refuse _ _
  · trivial

theorem ends_finish (h : r.Sound pattern) :
    Ends pattern (Expression.Sound pattern) (finish r) := by
  unfold finish
  split
  · next hboth =>
    obtain ⟨hascii, hunicode⟩ := Bool.and_eq_true_iff.1 hboth
    exact ⟨h.found.ascii hascii, h.found.unicode hunicode⟩
  split
  · exact .refuse _ _
  refine (ends_checkPending _).bind fun _ _ => ?_
  refine ⟨h.found.level.imp_right Level.IsNear.body, ?_⟩
  obtain ⟨marks, hmarks, hlength, hl, -⟩ := h.nested
  have hbody := hl.body
  have hle := nesting_tokens_le pattern
  dsimp only
  omega

theorem ends_pass {t : Token} (hnext : s.next? = some t) :
    Ends pattern (fun found => s.rest = t :: found.2.rest) s.take := by
  obtain ⟨rest, hrest⟩ := List.head?_eq_some_iff.1 hnext
  unfold take
  rw [hrest]
  refine (ends_checked _).map ?_
  rintro _ rfl
  rfl

theorem ends_readAll (fuel : Nat) (h : r.Sound pattern) :
    Ends pattern (Expression.Sound pattern) (readAll fuel r) := by
  induction fuel generalizing r with
  | zero => exact ends_finish h
  | succ fuel ih =>
    unfold readAll
    dsimp only
    split
    · exact ends_finish h
    · exact .refuse _ _
    · exact ends_finish h
    · next parent outer hnext houter =>
      refine (ends_pass hnext).bind fun found hfound => ih ?_
      exact (h.goOn ⟨[_], hfound.symm⟩).closeLevel houter
    · next hnext =>
      split
      · exact .refuse _ _
      · exact (ends_pass hnext).bind fun found hfound => ih (h.readBar ⟨[_], hfound.symm⟩)
    · next hnext _ _ =>
      refine (ends_pass hnext).bind fun found hfound => ?_
      exact (ends_readNested h hfound _).bind fun _ hread => ih hread
    · next hnext =>
      refine (ends_pass hnext).bind fun found hfound => ?_
      refine (ends_readEscape _ _ _ _).bind fun read hread => ih ?_
      exact (h.goOn (hread.2.trans ⟨[_], hfound.symm⟩)).push hread.1
    · exact .refuse _ _

theorem ends_ofPattern (pattern : List Char) :
    Ends pattern (fun s => s.rest = tokens pattern) (ofPattern pattern) := by
  refine (ends_checked _).mono ?_
  rintro _ rfl
  rfl

/-- A reader at the beginning has found out nothing, unless the flags name an alphabet. -/
theorem ends_read {flags : Flags} (hascii : flags.ascii = false) (hunicode : flags.unicode = false)
    (pattern : List Char) : Ends pattern (Expression.Sound pattern) (read flags pattern) := by
  unfold read
  refine (ends_ofPattern pattern).bind fun source hsource => ends_readAll _ ?_
  refine ⟨⟨⟨[], hsource⟩, fun h => ?_, fun h => ?_, Or.inr ⟨near_nil, nofun, trivial⟩,
    Or.inr (List.forall_mem_nil _)⟩, 0, ?_, Nat.le_refl _, LevelKind.IsNew.within (by trivial) 0 _,
    trivial⟩
  · rw [hascii] at h
    cases h
  · rw [hunicode] at h
    cases h
  · exact Nat.le_of_eq ((Nat.zero_add _).trans (congrArg nesting hsource))

theorem ends_check (bare : Bool) (n : Node) : Ends pattern (fun _ => True) (n.check bare) := by
  induction n with
  | empty | code | set | any | anchor | backref => trivial
  | seq a b iha ihb | choice a b iha ihb | condition _ a b iha ihb => exact iha.bind fun _ _ => ihb
  | loop greed least most body ih =>
    unfold Node.check
    split
    · trivial
    · exact ih
  | group _ _ _ body ih | atomic body ih | ahead _ body ih => exact ih
  | behind negated least most body ih =>
    unfold Node.check
    split
    · trivial
    · exact ih

/-- Whatever an expression is refused for is a fault of the syntax or is explained by the text. -/
theorem compile_explained {flags : Flags} (hascii : flags.ascii = false)
    (hunicode : flags.unicode = false) {pattern : String} {refusal : Refusal}
    (h : compile flags pattern = .error refusal) : Explained pattern.toList refusal := by
  have hends : Ends pattern.toList (fun _ => True) (compile flags pattern) := by
    unfold compile
    refine (ends_read hascii hunicode _).bind fun e he => ?_
    split
    · next hdeep => exact Nat.le_trans (Nat.le_of_lt hdeep) he.calls
    refine (ends_check _ _).bind fun _ _ => ?_
    split
    · next hover => exact he.near.resolve_right (by rw [hover]; decide)
    · trivial
  rw [h] at hends
  exact hends

end

end FormDialogue.Regex
