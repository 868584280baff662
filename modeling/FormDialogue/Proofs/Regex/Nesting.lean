import FormDialogue.Proofs.Regex.Counting

/-! # How deeply an expression is nested

What is read is nested by nothing but groups and repetitions, and each of them has a mark in the
text. Calls that are nested, where an expression is read and where it is translated, are bounded by
the marks that were passed: two for every mark of a group, and one for a repetition. Groups within
groups reach the limit. -/

namespace FormDialogue.Regex
variable {pattern : List Char} {p : Node → Prop} {n : Node} {ns : List Node}
  {branches : List (List Node)} {k m marks : Nat} {l : Level} {levels : List Level} {r : Reader}
  {s s' : Source}

/-! ## Parts of alternatives -/

theorem of_commonHead (h : ∀ b ∈ branches, ∀ n ∈ b, p n) (hn : commonHead? branches = some n) :
    p n := by
  unfold commonHead? at hn
  split at hn
  · cases hn
  · cases hn
  · next m rest others =>
    split at hn
    · cases hn
      exact h _ List.mem_cons_self n List.mem_cons_self
    · cases hn

theorem forall_splitHeads (fuel : Nat) (h : ∀ b ∈ branches, ∀ n ∈ b, p n) :
    (∀ n ∈ (splitHeads fuel branches).1, p n) ∧
      ∀ b ∈ (splitHeads fuel branches).2, ∀ n ∈ b, p n := by
  induction fuel generalizing branches with
  | zero => exact ⟨List.forall_mem_nil _, h⟩
  | succ fuel ih =>
    unfold splitHeads
    cases hhead : commonHead? branches with
    | none => exact ⟨List.forall_mem_nil _, h⟩
    | some n =>
      have htails : ∀ b ∈ branches.map List.tail, ∀ n ∈ b, p n := by
        intro b hb
        obtain ⟨b', hb', rfl⟩ := List.mem_map.1 hb
        exact fun m hm => h b' hb' m (List.mem_of_mem_tail hm)
      obtain ⟨hheads, hrest⟩ := ih htails
      exact ⟨List.forall_mem_cons.2 ⟨of_commonHead h hhead, hheads⟩, hrest⟩

/-! ## Nodes -/

/-- Nodes whose translation nests at most so many calls. -/
def Within (k : Nat) (ns : List Node) : Prop := ∀ n ∈ ns, n.calls ≤ k

theorem Within.mono (h : Within k ns) (hk : k ≤ m) : Within m ns :=
  fun n hn => Nat.le_trans (h n hn) hk

theorem within_items (h : n.calls ≤ k) : Within k n.items := by
  induction n with
  | empty => exact List.forall_mem_nil _
  | seq a b iha ihb =>
    obtain ⟨ha, hb⟩ := Nat.max_le.1 h
    exact List.forall_mem_append.2 ⟨iha ha, ihb hb⟩
  | _ => exact List.forall_mem_singleton.2 h

theorem calls_of_plainBody? {body : Node} (h : n.plainBody? = some body) : n.calls = body.calls := by
  cases n with
  | group index on off inner =>
    cases index with
    | some i => cases h
    | none =>
      rw [Node.plainBody?] at h
      split at h
      · next hplain =>
        cases h
        exact if_pos hplain
      · cases h
  | _ => cases h

theorem within_dissolve (h : Within k ns) : Within k (dissolve ns) := by
  intro m hm
  obtain ⟨n, hn, hmem⟩ := List.mem_flatMap.1 hm
  have hcalls := h n (List.mem_reverse.1 hn)
  cases hbody : n.plainBody? with
  | some body =>
    rw [hbody] at hmem
    exact within_items (calls_of_plainBody? hbody ▸ hcalls) m hmem
  | none =>
    rw [hbody] at hmem
    rw [List.mem_singleton.1 hmem]
    exact hcalls

theorem calls_alternative (n : Node) : n.alternative.calls = n.calls := by
  cases n <;> rfl

theorem calls_choice_alternative (n m : Node) :
    (Node.choice n m.alternative).calls = max n.calls m.alternative.calls + 1 := by
  cases m <;> rfl

theorem calls_ofBranches (h : Within k ns) : (Node.ofBranches ns).calls ≤ k + 1 := by
  -- A chain of branches is translated as one node, so its length does not count.
  induction ns with
  | nil => exact Nat.zero_le _
  | cons n ns ih =>
    obtain ⟨hn, hns⟩ := List.forall_mem_cons.1 h
    rw [← calls_alternative] at hn
    match ns, ih, hns with
    | [], _, _ => exact Nat.le_succ_of_le hn
    | [m], _, hns =>
      have hm := hns m List.mem_cons_self
      rw [← calls_alternative] at hm
      have hcalls := calls_choice_alternative n.alternative m
      exact hcalls ▸ Nat.succ_le_succ (Nat.max_le.2 ⟨hn, hm⟩)
    | m :: m' :: ms, ih, hns => exact Nat.max_le.2 ⟨Nat.succ_le_succ hn, ih hns⟩

theorem calls_joinBranches (h : ∀ b ∈ branches, Within k b) :
    (joinBranches branches).calls ≤ k + 1 := by
  unfold joinBranches
  split
  · next items => exact Nat.le_succ_of_le (Node.calls_ofItems (h items List.mem_cons_self))
  · obtain ⟨hheads, hrest⟩ := forall_splitHeads ((branches.headD []).length + 1) h
    refine Node.calls_ofItems (List.forall_mem_append.2 ⟨Within.mono hheads (Nat.le_succ k), ?_⟩)
    refine List.forall_mem_singleton.2 ?_
    dsimp only
    split
    · exact Nat.zero_le _
    · refine calls_ofBranches fun m hm => ?_
      obtain ⟨b, hb, rfl⟩ := List.mem_map.1 hm
      exact Node.calls_ofItems (hrest b hb)

/-! ## Levels -/

structure Level.Within (k : Nat) (l : Level) : Prop where
  items : Regex.Within k l.items
  branches : ∀ b ∈ l.branches, Regex.Within k b
  kind : match l.kind with
    | .condition _ (some yes) => Regex.Within k yes
    | _ => True

theorem Level.Within.mono (h : l.Within k) (hk : k ≤ m) : l.Within m where
  items := h.items.mono hk
  branches b hb := (h.branches b hb).mono hk
  kind := by
    have hkind := h.kind
    split at hkind
    · exact hkind.mono hk
    · trivial

/-- The kind of a level in which nothing was read yet. -/
def LevelKind.IsNew : LevelKind → Prop
  | .condition _ (some _) => False
  | _ => True

theorem LevelKind.IsNew.within {kind : LevelKind} (h : kind.IsNew) (start : Nat) (verbose : Bool) :
    Level.Within k ⟨kind, start, verbose, [], []⟩ where
  items := List.forall_mem_nil _
  branches := List.forall_mem_nil _
  kind := by
    dsimp only
    split
    · exact h.elim
    · trivial

theorem Level.Within.push (h : l.Within k) (hn : n.calls ≤ k) :
    Level.Within k { l with items := n :: l.items } :=
  ⟨List.forall_mem_cons.2 ⟨hn, h.items⟩, h.branches, h.kind⟩

theorem Level.Within.body (h : l.Within k) : (Reader.body l).calls ≤ k + 1 := by
  refine calls_joinBranches fun b hb => ?_
  obtain hb | hb := List.mem_append.1 hb
  · exact h.branches b hb
  · rw [List.mem_singleton.1 hb]
    exact within_dissolve h.items

theorem LevelKind.calls_le (kind : LevelKind) : kind.calls ≤ 2 := by
  cases kind <;> simp [LevelKind.calls]

theorem Reader.calls_le (r : Reader) : r.calls ≤ 2 * (r.outer.length + 1) := by
  rw [Reader.calls, ← List.length_cons]
  induction r.level :: r.outer with
  | nil => exact Nat.zero_le _
  | cons l levels ih =>
    have hl := l.kind.calls_le
    rw [List.foldr_cons, List.length_cons]
    omega

/-- Levels that are open around each other, the innermost first. A level has the marks that were
passed, except for those that opened the levels around it. -/
def Staged (marks : Nat) : List Level → Prop
  | [] => True
  | l :: outer => outer.length ≤ marks ∧ l.Within (2 * (marks - outer.length)) ∧ Staged marks outer

theorem Staged.mono (h : Staged marks levels) (hm : marks ≤ m) : Staged m levels := by
  induction levels with
  | nil => trivial
  | cons l outer ih =>
    obtain ⟨hlength, hl, houter⟩ := h
    exact ⟨Nat.le_trans hlength hm, hl.mono (by omega), ih houter⟩

/-! ## Readers -/

def Token.nests : Token → Bool
  | .char c => isNestingMark c
  | _ => false

def nesting (ts : List Token) : Nat := ts.countP Token.nests

theorem nesting_tokens_le (cs : List Char) : nesting (tokens cs) ≤ cs.countP isNestingMark := by
  fun_induction tokens cs with
  | case1 => exact Nat.le_refl _
  | case2 => exact Nat.zero_le _
  | case3 c rest ih =>
    have hescape : ¬ (Token.escape c).nests = true := Bool.false_ne_true
    rw [nesting, List.countP_cons_of_neg hescape, List.countP_cons_of_neg (by decide)]
    exact Nat.le_trans ih ((List.sublist_cons_self c rest).countP_le)
  | case4 c rest _ _ ih =>
    rw [nesting, List.countP_cons, List.countP_cons]
    exact Nat.add_le_add_right ih _

/-- The levels of a reader have the marks that are no longer in front of it. -/
def Reader.Nested (pattern : List Char) (r : Reader) : Prop :=
  ∃ marks, marks + nesting r.source.rest ≤ nesting (tokens pattern) ∧
    Staged marks (r.level :: r.outer)

/-- A source behind the first token of a reader, which is a nesting mark. -/
def Reader.Passes (r : Reader) (s : Source) : Prop :=
  ∃ c rest, isNestingMark c = true ∧ r.source.rest = .char c :: rest ∧ s.rest <:+ rest

theorem nesting_le_of_suffix {ts us : List Token} (h : ts <:+ us) : nesting ts ≤ nesting us :=
  h.sublist.countP_le

namespace Reader

theorem Passes.suffix (h : r.Passes s) : s.rest <:+ r.source.rest := by
  obtain ⟨c, rest, -, hrest, hs⟩ := h
  rw [hrest]
  exact hs.trans (List.suffix_cons _ _)

theorem Passes.trans (h : r.Passes s) (hs : s'.rest <:+ s.rest) : r.Passes s' := by
  obtain ⟨c, rest, hc, hrest, hs₀⟩ := h
  exact ⟨c, rest, hc, hrest, hs.trans hs₀⟩

theorem Passes.nesting_lt (h : r.Passes s) : nesting s.rest < nesting r.source.rest := by
  obtain ⟨c, rest, hc, hrest, hs⟩ := h
  have hle := nesting_le_of_suffix hs
  have hnests : (Token.char c).nests = true := hc
  rw [hrest, nesting, nesting, List.countP_cons_of_pos hnests]
  exact Nat.lt_succ_of_le hle

namespace Nested

theorem goOn (h : r.Nested pattern) (hs : s.rest <:+ r.source.rest) :
    Nested pattern { r with source := s } := by
  obtain ⟨marks, hmarks, hlevels⟩ := h
  have hle := nesting_le_of_suffix hs
  exact ⟨marks, by dsimp only; omega, hlevels⟩

theorem push (h : r.Nested pattern) (hn : n.calls = 0) : (r.push n).Nested pattern := by
  obtain ⟨marks, hmarks, hlength, hl, houter⟩ := h
  exact ⟨marks, hmarks, hlength, hl.push (by omega), houter⟩

/-- A new level is paid for with the mark that opened it. -/
theorem openLevel (h : r.Nested pattern) (hs : r.Passes s) (groups : Groups) {kind : LevelKind}
    (hkind : kind.IsNew) (start : Nat) (verbose : Bool) :
    Nested pattern (({ r with source := s, groups := groups } : Reader).openLevel kind start
      verbose) := by
  obtain ⟨marks, hmarks, hlevels⟩ := h
  have hlt := hs.nesting_lt
  have hmarks' : marks + 1 + nesting s.rest ≤ nesting (tokens pattern) := by omega
  exact ⟨marks + 1, hmarks', Nat.succ_le_succ hlevels.1, hkind.within start verbose,
    hlevels.mono (Nat.le_succ _)⟩

theorem closeLevel (h : r.Nested pattern) {parent : Level} {outer : List Level}
    (houter : r.outer = parent :: outer) : (r.closeLevel parent outer).Nested pattern := by
  obtain ⟨marks, hmarks, hlength, hl, hlevels⟩ := h
  rw [houter] at hlength hl hlevels
  rw [List.length_cons] at hlength hl
  obtain ⟨-, hparent, hrest⟩ := hlevels
  have hbody := hl.body
  have hroom : outer.length ≤ marks := Nat.le_of_succ_le hlength
  have hback : ∀ groups,
      Nested pattern { r with level := parent, outer := outer, groups := groups } :=
    fun groups => ⟨marks, hmarks, hroom, hparent, hrest⟩
  -- The mark that opened the level pays for two calls: of the body, and of the node around it.
  have hpush : ∀ groups n, n.calls ≤ (Reader.body r.level).calls + 1 → Nested pattern
      (({ r with level := parent, outer := outer, groups := groups } : Reader).push n) :=
    fun groups n hn => ⟨marks, hmarks, hroom, hparent.push (by omega), hrest⟩
  have hitems := Node.calls_ofItems (within_dissolve hl.items)
  unfold Reader.closeLevel
  dsimp only
  split
  · exact hback _
  · next index on off _ =>
    refine hpush _ _ ?_
    cases index with
    | some i => exact Nat.le_refl _
    | none =>
      rw [Node.calls]
      split <;> omega
  · exact hpush _ _ (Nat.le_refl _)
  · exact hpush _ _ (Nat.le_refl _)
  · exact hpush _ _ (Nat.le_refl _)
  · next index yes hkind =>
    split
    · next first =>
      have hyes := hl.kind
      rw [hkind] at hyes
      have hfirst := Node.calls_ofItems hyes
      refine ⟨marks, hmarks, hroom, hparent.push ?_, hrest⟩
      rw [Node.calls]
      omega
    · refine ⟨marks, hmarks, hroom, hparent.push ?_, hrest⟩
      rw [Node.calls, Node.calls]
      omega

theorem readBar (h : r.Nested pattern) (hs : s.rest <:+ r.source.rest) :
    (readBar r s).Nested pattern := by
  obtain ⟨marks, hmarks, hlength, hl, houter⟩ := h
  have hle := nesting_le_of_suffix hs
  have hmarks' : marks + nesting s.rest ≤ nesting (tokens pattern) := by omega
  unfold Regex.readBar
  split
  · next index hkind =>
    exact ⟨marks, hmarks', hlength,
      ⟨List.forall_mem_nil _, hl.branches, within_dissolve hl.items⟩, houter⟩
  · refine ⟨marks, hmarks', hlength, ⟨List.forall_mem_nil _, fun b hb => ?_, hl.kind⟩, houter⟩
    obtain hb | hb := List.mem_append.1 hb
    · exact hl.branches b hb
    · rw [List.mem_singleton.1 hb]
      exact within_dissolve hl.items

/-- A repetition is paid for with its mark. -/
theorem loop (h : r.Nested pattern) (hs : r.Passes s) {earlier : List Node}
    (hitems : r.level.items = n :: earlier) (greed : Greed) (least : Nat) (most : Option Nat) :
    Nested pattern { r with
      source := s
      level := { r.level with
        items := .loop greed least most (n.plainBody?.getD n) :: earlier } } := by
  obtain ⟨marks, hmarks, hlength, hl, houter⟩ := h
  have hlt := hs.nesting_lt
  have hmarks' : marks + 1 + nesting s.rest ≤ nesting (tokens pattern) := by omega
  have hwithin := hl.items
  rw [hitems] at hwithin
  obtain ⟨hn, hearlier⟩ := List.forall_mem_cons.1 hwithin
  have hgrown : 2 * (marks - r.outer.length) + 1 ≤ 2 * (marks + 1 - r.outer.length) := by omega
  have hbody : (n.plainBody?.getD n).calls ≤ 2 * (marks - r.outer.length) := by
    cases hplain : n.plainBody? with
    | none => exact hn
    | some body => exact calls_of_plainBody? hplain ▸ hn
  have hwide := hl.mono (Nat.le_of_succ_le hgrown)
  refine ⟨marks + 1, hmarks', Nat.le_succ_of_le hlength, ⟨?_, hwide.branches, hwide.kind⟩,
    houter.mono (Nat.le_succ _)⟩
  exact List.forall_mem_cons.2 ⟨Nat.le_trans (Nat.succ_le_succ hbody) hgrown,
    Within.mono hearlier (Nat.le_of_succ_le hgrown)⟩

end Nested

end Reader

/-! ## Groups within groups -/

/-- A character in as many groups around each other. -/
def nested (depth : Nat) (c : Char) : List Char :=
  List.replicate depth '(' ++ c :: List.replicate depth ')'

section
variable [Limits] {rest : List Token} {fuel i : Nat}

/-- Each group adds two calls, until there are too many. -/
theorem readAll_deep {depth : Nat}
    (hsource : r.source = ⟨List.replicate depth (.char '(') ++ rest, i⟩)
    (hverbose : r.level.verbose = false) (hrest : .dangling ∉ rest)
    (hplain : rest.head? ≠ some (.char '?')) (hfew : r.calls ≤ Limits.mostCalls)
    (hdeep : Limits.mostCalls < r.calls + 2 * depth) :
    readAll (fuel + depth) r = .error .tooDeep := by
  -- The induction is on the groups that are still to be opened, one by each turn of the reader.
  induction depth generalizing r i with
  | zero => omega
  | succ depth ih =>
    rw [List.replicate_succ, List.cons_append] at hsource
    have hmore : .dangling ∉ List.replicate depth (.char '(') ++ rest := by simp [hrest]
    have hnext : (List.replicate depth (Token.char '(') ++ rest).head? ≠ some (.char '?') := by
      cases depth with
      | zero => exact hplain
      | succ depth => simp [List.replicate_succ]
    obtain ⟨inner, hread, hinner, hverbose', hcalls⟩ :=
      readChar_group (r := r) (i := i) _ hverbose hnext
    by_cases hover : Limits.mostCalls < inner.calls
    · rw [← Nat.add_assoc, readAll_char_eq hsource hmore (by decide) (by decide), readNested, hread]
      change (if Limits.mostCalls < inner.calls then _ else _) >>= _ = _
      rw [if_pos hover]
      rfl
    · rw [← Nat.add_assoc, readAll_char hsource hmore (by decide) (by decide) hread (by omega)]
      exact ih hinner hverbose' (by omega) (by omega)

theorem compile_nested {flags : Flags} (hverbose : flags.verbose = false) {c : Char}
    (hbackslash : c ≠ '\\') (hquestion : c ≠ '?') {depth : Nat}
    (hdeep : Limits.mostCalls < 2 * depth) :
    compile flags (String.ofList (nested depth c)) = .error .tooDeep := by
  have hrest : .dangling ∉ .char c :: List.replicate depth (Token.char ')') := by
    simp [List.mem_replicate]
  have htokens : tokens (nested depth c) = List.replicate depth (.char '(') ++
      .char c :: List.replicate depth (.char ')') := by
    rw [tokens_chars (by simp [nested, List.mem_replicate, Ne.symm hbackslash]), nested]
    simp
  let start : Reader := ⟨⟨tokens (nested depth c), 0⟩, .none, flags,
    ⟨.whole, 0, flags.verbose, [], []⟩, []⟩
  have hsource : Source.ofPattern (nested depth c) = .ok ⟨tokens (nested depth c), 0⟩ := by
    refine Source.checked_of_not_mem ?_ 0
    rw [htokens]
    simp [List.mem_replicate]
  have hlength : (tokens (nested depth c)).length + 1 = depth + 2 + depth := by
    rw [htokens]
    simp
    omega
  have hcalls : start.calls = 0 := rfl
  have hread : readAll ((tokens (nested depth c)).length + 1) start = .error .tooDeep := by
    rw [hlength]
    exact readAll_deep (congrArg (Source.mk · 0) htokens) hverbose hrest (by simpa using hquestion)
      (hcalls ▸ Nat.zero_le _) (by omega)
  rw [compile, String.toList_ofList, read, hsource]
  change readAll ((tokens (nested depth c)).length + 1) start >>= _ = _
  rw [hread]
  rfl

end

end FormDialogue.Regex
