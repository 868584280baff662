import FormDialogue.Regex.Parser

/-! # Reading an expression token by token

Tokens without a dangling backslash are passed one after the other. An expression that is read from
some tokens does not depend on the position where they start, so it is found by reading one
construct and going on behind it. -/

namespace FormDialogue.Regex
variable {rest : List Token} {t : Token} {c : Char} {i fuel : Nat} {r : Reader} {n : Node}
  {e : Expression}

/-! ## Tokens -/

theorem tokens_escape (c : Char) (x : List Char) :
    tokens ('\\' :: c :: x) = .escape c :: tokens x := rfl

theorem tokens_char (h : c ≠ '\\') (x : List Char) : tokens (c :: x) = .char c :: tokens x := by
  rw [tokens.eq_def]
  split
  · next heq => cases heq
  · next heq => cases heq; contradiction
  · next heq => cases heq; contradiction
  · next heq => cases heq; rfl

namespace Source

theorem checked_of_not_mem (h : .dangling ∉ rest) (i : Nat) :
    checked ⟨rest, i⟩ = .ok ⟨rest, i⟩ := by
  cases rest with
  | nil => rfl
  | cons t rest =>
    cases t with
    | dangling => exact absurd List.mem_cons_self h
    | char c => rfl
    | escape c => rfl

theorem take_cons (h : .dangling ∉ rest) (t : Token) (i : Nat) :
    take ⟨t :: rest, i⟩ = .ok (some t, ⟨rest, i + t.text.length⟩) := by
  simp only [take, checked_of_not_mem h]
  rfl

theorem accept_same (h : .dangling ∉ rest) (c : Char) (i : Nat) :
    accept ⟨.char c :: rest, i⟩ c = .ok (true, ⟨rest, i + 1⟩) := by
  have hlength : (Token.char c).text.length = 1 := rfl
  simp only [accept, Token.is, beq_self_eq_true, if_true, checked_of_not_mem, h, hlength,
    not_false_eq_true]
  rfl

theorem accept_other (h : rest.head? ≠ some (.char c)) (i : Nat) :
    accept ⟨rest, i⟩ c = .ok (false, ⟨rest, i⟩) := by
  cases rest with
  | nil => rfl
  | cons t rest =>
    have ht : t.is c = false := by
      rw [Token.is, beq_eq_false_iff_ne]
      exact fun heq => h (by rw [heq]; rfl)
    simp [accept, ht]

end Source

section
variable [Limits]

/-! ## Single steps -/

theorem readAll_escape (hs : r.source = ⟨.escape c :: rest, i⟩) (h : .dangling ∉ rest)
    (hread : readEscape r.groups i c ⟨rest, i + 2⟩ = .ok (n, ⟨rest, i + 2⟩)) :
    readAll (fuel + 1) r = readAll fuel ({ r with source := ⟨rest, i + 2⟩ }.push n) := by
  have hlength : i + (Token.escape c).text.length = i + 2 := rfl
  simp only [readAll, hs, Source.next?, List.head?_cons, Source.take_cons h, hlength, bind,
    Except.bind, hread]

/-- A character that neither ends an alternative nor a group. -/
theorem readAll_char_eq (hs : r.source = ⟨.char c :: rest, i⟩) (h : .dangling ∉ rest)
    (hclose : c ≠ ')') (hbar : c ≠ '|') :
    readAll (fuel + 1) r = readNested r i c ⟨rest, i + 1⟩ >>= readAll fuel := by
  have hlength : i + (Token.char c).text.length = i + 1 := rfl
  rw [readAll]
  simp only [hs, Source.next?, List.head?_cons, Source.take_cons h, bind, Except.bind]
  split
  · next heq _ => cases heq
  · next heq _ => cases heq
  · next heq _ => cases heq; contradiction
  · next heq _ => cases heq; contradiction
  · next heq => cases heq; contradiction
  · next heq _ _ =>
    cases heq
    rw [hlength]
  · next heq => cases heq
  · next heq => cases heq

theorem readNested_eq_ok {s : Source} {r' : Reader} (hread : readChar r i c s = .ok r')
    (hcalls : r'.calls ≤ Limits.mostCalls) : readNested r i c s = .ok r' := by
  rw [readNested, hread]
  exact if_neg (Nat.not_lt.2 hcalls)

theorem readNested_eq_error {s : Source} {refusal : Refusal}
    (hread : readChar r i c s = .error refusal) : readNested r i c s = .error refusal := by
  rw [readNested, hread]
  rfl

theorem readAll_char (hs : r.source = ⟨.char c :: rest, i⟩) (h : .dangling ∉ rest)
    (hclose : c ≠ ')') (hbar : c ≠ '|') {r' : Reader}
    (hread : readChar r i c ⟨rest, i + 1⟩ = .ok r') (hcalls : r'.calls ≤ Limits.mostCalls) :
    readAll (fuel + 1) r = readAll fuel r' := by
  rw [readAll_char_eq hs h hclose hbar, readNested_eq_ok hread hcalls]
  rfl

theorem readAll_close (hs : r.source = ⟨.char ')' :: rest, i⟩) (h : .dangling ∉ rest)
    {parent : Level} {outer : List Level} (houter : r.outer = parent :: outer) :
    readAll (fuel + 1) r =
      readAll fuel ({ r with source := ⟨rest, i + 1⟩ }.closeLevel parent outer) := by
  have hlength : i + (Token.char ')').text.length = i + 1 := rfl
  rw [readAll]
  simp only [hs, houter, Source.next?, List.head?_cons, Source.take_cons h, bind, Except.bind,
    hlength]

/-! ## Constructs -/

theorem readChar_plain (hverbose : r.level.verbose = false)
    (hc : c ∉ "[?*+\x7b.(^$".toList) (s : Source) :
    readChar r i c s = .ok ({ r with source := s }.push (.code false c.toNat)) := by
  simp only [readChar, hverbose, Bool.false_and, Bool.false_eq_true, if_false]
  split
  all_goals first
    | rfl
    | exact absurd (by decide) hc

theorem readChar_plus (hverbose : r.level.verbose = false) {earlier : List Node}
    (hitems : r.level.items = n :: earlier) (hanchor : n.isAnchor = false)
    (hloop : n.isLoop = false) (hplain : n.plainBody? = none)
    (hlazy : rest.head? ≠ some (.char '?')) (hpossessive : rest.head? ≠ some (.char '+')) :
    readChar r i '+' ⟨rest, i + 1⟩ = .ok { r with
      source := ⟨rest, i + 1⟩
      level := { r.level with items := .loop .greedy 1 none n :: earlier } } := by
  simp only [readChar, hverbose, Bool.false_and, Bool.false_eq_true, if_false, quantify, hitems,
    hanchor, hloop, hplain, readGreed, Source.accept_other hlazy, Source.accept_other hpossessive,
    bind, Except.bind]
  rfl

theorem readChar_behind (hverbose : r.level.verbose = false) (h : .dangling ∉ rest) :
    readChar r i '(' ⟨.char '?' :: .char '<' :: .char '!' :: rest, i + 1⟩ =
      .ok (openBehind r i true ⟨rest, i + 4⟩) := by
  have hmark : .dangling ∉ .char '!' :: rest := by simpa using h
  have hopen : .dangling ∉ .char '<' :: .char '!' :: rest := by simpa using h
  simp only [readChar, hverbose, Bool.false_and, Bool.false_eq_true, if_false, readParenthesis,
    Source.accept_same hopen, readExtension, Source.take_cons hmark, Source.take_cons h, bind,
    Except.bind, if_true]
  rfl

theorem readChar_ahead (hverbose : r.level.verbose = false) (h : .dangling ∉ rest) :
    readChar r i '(' ⟨.char '?' :: .char '!' :: rest, i + 1⟩ =
      .ok ({ r with source := ⟨rest, i + 3⟩ }.openLevel (.ahead true) i false) := by
  have hopen : .dangling ∉ .char '!' :: rest := by simpa using h
  simp only [readChar, hverbose, Bool.false_and, Bool.false_eq_true, if_false, readParenthesis,
    Source.accept_same hopen, readExtension, Source.take_cons h, bind, Except.bind, if_true]
  rfl

/-! ## Going on behind a construct -/

/-- Reading the tokens outside all groups, wherever they start, ends with the expression. -/
def Reads (fuel : Nat) (rest : List Token) (r : Reader) (e : Expression) : Prop :=
  r.calls = 0 → ∀ i, readAll fuel { r with source := ⟨rest, i⟩ } = .ok e

theorem calls_le_of_outside (h : r.calls = 0) : r.calls ≤ Limits.mostCalls :=
  h ▸ Nat.zero_le _

/-- A single group can always be opened. -/
theorem calls_le_of_opened (h : r.calls = 2) : r.calls ≤ Limits.mostCalls :=
  h ▸ Limits.mostCalls_ge

namespace Reads

theorem escape (h : .dangling ∉ rest)
    (hread : ∀ i s, readEscape r.groups i c s = .ok (n, s)) (hr : Reads fuel rest (r.push n) e) :
    Reads (fuel + 1) (.escape c :: rest) r e := by
  intro hcalls i
  let r' : Reader := { r with source := ⟨.escape c :: rest, i⟩ }
  have hstep : readAll (fuel + 1) r' =
      readAll fuel ({ r' with source := ⟨rest, i + 2⟩ }.push n) :=
    readAll_escape rfl h (hread i _)
  exact hstep.trans (hr hcalls _)

theorem plain (h : .dangling ∉ rest) (hverbose : r.level.verbose = false)
    (hc : c ∉ "()[?*+|\x7b.^$".toList) (hr : Reads fuel rest (r.push (.code false c.toNat)) e) :
    Reads (fuel + 1) (.char c :: rest) r e := by
  intro hcalls i
  have hclose : c ≠ ')' := fun heq => hc (by rw [heq]; decide)
  have hbar : c ≠ '|' := fun heq => hc (by rw [heq]; decide)
  have hsubset : "[?*+\x7b.(^$".toList ⊆ "()[?*+|\x7b.^$".toList := by decide
  have hread := readChar_plain (r := { r with source := ⟨.char c :: rest, i⟩ }) (i := i) hverbose
    (fun hmem => hc (hsubset hmem)) ⟨rest, i + 1⟩
  exact (readAll_char rfl h hclose hbar hread (calls_le_of_outside hcalls)).trans (hr hcalls _)

theorem plus (h : .dangling ∉ rest) (hverbose : r.level.verbose = false) {earlier : List Node}
    (hitems : r.level.items = n :: earlier) (hanchor : n.isAnchor = false)
    (hloop : n.isLoop = false) (hplain : n.plainBody? = none)
    (hlazy : rest.head? ≠ some (.char '?')) (hpossessive : rest.head? ≠ some (.char '+'))
    (hr : Reads fuel rest
      { r with level := { r.level with items := .loop .greedy 1 none n :: earlier } } e) :
    Reads (fuel + 1) (.char '+' :: rest) r e := by
  intro hcalls i
  have hread := readChar_plus (r := { r with source := ⟨.char '+' :: rest, i⟩ }) (i := i) hverbose
    hitems hanchor hloop hplain hlazy hpossessive
  exact (readAll_char rfl h (by decide) (by decide) hread (calls_le_of_outside hcalls)).trans
    (hr hcalls _)

theorem behind (h : .dangling ∉ rest) (hverbose : r.level.verbose = false)
    (hgroups : r.groups.lookbehind = none)
    (hr : Reads fuel rest (r.push (.behind true 1 1 (.set false [.member false .word]))) e) :
    Reads (fuel + 3) (.char '(' :: .char '?' :: .char '<' :: .char '!' :: .escape 'w' ::
      .char ')' :: rest) r e := by
  intro hcalls i
  have hclose : .dangling ∉ .char ')' :: rest := by simpa using h
  have hword : .dangling ∉ .escape 'w' :: .char ')' :: rest := by simpa using h
  have hopen : .dangling ∉ .char '?' :: .char '<' :: .char '!' :: .escape 'w' ::
      .char ')' :: rest := by simpa using h
  let start : Reader := { r with source := ⟨.char '(' :: .char '?' :: .char '<' :: .char '!' ::
    .escape 'w' :: .char ')' :: rest, i⟩ }
  let inside := openBehind start i true ⟨.escape 'w' :: .char ')' :: rest, i + 4⟩
  let read := { inside with source := ⟨.char ')' :: rest, i + 6⟩ }.push
    (.set false [.member false .word])
  have hnested : inside.calls = 2 := congrArg (2 + ·) hcalls
  have hstart : readAll (fuel + 3) start = readAll (fuel + 2) inside :=
    readAll_char rfl hopen (by decide) (by decide) (readChar_behind hverbose hword)
      (calls_le_of_opened hnested)
  have hinside : readAll (fuel + 2) inside = readAll (fuel + 1) read :=
    readAll_escape rfl hclose rfl
  have hend : readAll (fuel + 1) read = readAll fuel
      ({ read with source := ⟨rest, i + 7⟩ }.closeLevel r.level r.outer) :=
    readAll_close rfl h rfl
  have hclosed : { read with source := ⟨rest, i + 7⟩ }.closeLevel r.level r.outer =
      { r.push (.behind true 1 1 (.set false [.member false .word])) with
        source := ⟨rest, i + 7⟩ } := by
    obtain ⟨source, ⟨widths, names, lookbehind, pending⟩, flags, level, outer⟩ := r
    cases hgroups
    rfl
  exact hstart.trans (hinside.trans (hend.trans (hclosed ▸ hr hcalls _)))

theorem ahead (h : .dangling ∉ rest) (hverbose : r.level.verbose = false)
    (hr : Reads fuel rest (r.push (.ahead true (.set false [.member false .word]))) e) :
    Reads (fuel + 3) (.char '(' :: .char '?' :: .char '!' :: .escape 'w' :: .char ')' :: rest)
      r e := by
  intro hcalls i
  have hclose : .dangling ∉ .char ')' :: rest := by simpa using h
  have hword : .dangling ∉ .escape 'w' :: .char ')' :: rest := by simpa using h
  have hopen : .dangling ∉ .char '?' :: .char '!' :: .escape 'w' :: .char ')' :: rest := by
    simpa using h
  let start : Reader := { r with source := ⟨.char '(' :: .char '?' :: .char '!' ::
    .escape 'w' :: .char ')' :: rest, i⟩ }
  let inside := { start with source := ⟨.escape 'w' :: .char ')' :: rest, i + 3⟩ }.openLevel
    (.ahead true) i false
  let read := { inside with source := ⟨.char ')' :: rest, i + 5⟩ }.push
    (.set false [.member false .word])
  have hnested : inside.calls = 2 := congrArg (2 + ·) hcalls
  have hstart : readAll (fuel + 3) start = readAll (fuel + 2) inside :=
    readAll_char rfl hopen (by decide) (by decide) (readChar_ahead hverbose hword)
      (calls_le_of_opened hnested)
  have hinside : readAll (fuel + 2) inside = readAll (fuel + 1) read :=
    readAll_escape rfl hclose rfl
  have hend : readAll (fuel + 1) read = readAll fuel
      ({ read with source := ⟨rest, i + 6⟩ }.closeLevel r.level r.outer) :=
    readAll_close rfl h rfl
  exact hstart.trans (hinside.trans (hend.trans (hr hcalls _)))

theorem done (houter : r.outer = []) (halphabet : (r.flags.ascii && r.flags.unicode) = false)
    (hpending : r.groups.pending = []) :
    Reads (fuel + 1) [] r ⟨Reader.body r.level, r.flags⟩ := by
  intro _ i
  simp [readAll, Source.next?, houter, finish, halphabet, checkPending, hpending, bind,
    Except.bind, pure, Except.pure]

end Reads

end

/-! ## The whole expression -/

namespace Reader

def pushAll (r : Reader) (ns : List Node) : Reader := ns.foldl push r

theorem pushAll_append (r : Reader) (ns ms : List Node) :
    r.pushAll (ns ++ ms) = (r.pushAll ns).pushAll ms :=
  List.foldl_append

theorem pushAll_eq (r : Reader) (ns : List Node) :
    r.pushAll ns = { r with level := { r.level with items := ns.reverse ++ r.level.items } } := by
  induction ns generalizing r with
  | nil => rfl
  | cons n ns ih =>
    rw [pushAll, List.foldl_cons, ← pushAll, ih]
    simp [push]

@[simp] theorem pushAll_flags (r : Reader) (ns : List Node) : (r.pushAll ns).flags = r.flags := by
  rw [pushAll_eq]

@[simp] theorem pushAll_groups (r : Reader) (ns : List Node) :
    (r.pushAll ns).groups = r.groups := by
  rw [pushAll_eq]

@[simp] theorem pushAll_outer (r : Reader) (ns : List Node) : (r.pushAll ns).outer = r.outer := by
  rw [pushAll_eq]

@[simp] theorem pushAll_verbose (r : Reader) (ns : List Node) :
    (r.pushAll ns).level.verbose = r.level.verbose := by
  rw [pushAll_eq]

@[simp] theorem pushAll_branches (r : Reader) (ns : List Node) :
    (r.pushAll ns).level.branches = r.level.branches := by
  rw [pushAll_eq]

@[simp] theorem pushAll_items (r : Reader) (ns : List Node) :
    (r.pushAll ns).level.items = ns.reverse ++ r.level.items := by
  rw [pushAll_eq]

/-- The reader in front of an expression. -/
def fresh (flags : Flags) : Reader :=
  ⟨⟨[], 0⟩, .none, flags, ⟨.whole, 0, flags.verbose, [], []⟩, []⟩

end Reader

theorem dissolve_reverse {ns : List Node} (h : ∀ n ∈ ns, n.plainBody? = none) :
    dissolve ns.reverse = ns := by
  rw [dissolve, List.reverse_reverse]
  induction ns with
  | nil => rfl
  | cons n ns ih =>
    rw [List.flatMap_cons, ih fun m hm => h m (List.mem_cons_of_mem n hm),
      h n List.mem_cons_self]
    rfl

theorem body_pushAll_fresh (flags : Flags) {ns : List Node} (h : ∀ n ∈ ns, n.plainBody? = none) :
    Reader.body ((Reader.fresh flags).pushAll ns).level = .ofItems ns := by
  have hitems : ns.reverse ++ (Reader.fresh flags).level.items = ns.reverse := List.append_nil _
  rw [Reader.body, Reader.pushAll_branches, Reader.pushAll_items, hitems, dissolve_reverse h]
  rfl

theorem read_of_reads [Limits] {flags : Flags} {pattern : List Char} (h : .dangling ∉ tokens pattern)
    (hr : Reads ((tokens pattern).length + 1) (tokens pattern) (.fresh flags) e) :
    read flags pattern = .ok e := by
  have hsource : Source.ofPattern pattern = .ok ⟨tokens pattern, 0⟩ :=
    Source.checked_of_not_mem h 0
  simp only [read, hsource, bind, Except.bind]
  exact hr rfl 0

namespace Node
variable {ns : List Node} {bare : Bool}

theorem check_ofItems (h : ∀ n ∈ ns, n.check bare = .ok ()) :
    (ofItems ns).check bare = .ok () := by
  induction ns with
  | nil => rfl
  | cons n ns ih =>
    have hrest := ih fun m hm => h m (List.mem_cons_of_mem n hm)
    have hn := h n List.mem_cons_self
    cases ns with
    | nil => exact hn
    | cons m ns => simp [ofItems, check, hn, hrest, bind, Except.bind]

theorem calls_ofItems {k : Nat} (h : ∀ n ∈ ns, n.calls ≤ k) : (ofItems ns).calls ≤ k := by
  induction ns with
  | nil => exact Nat.zero_le k
  | cons n ns ih =>
    have hrest := ih fun m hm => h m (List.mem_cons_of_mem n hm)
    have hn := h n List.mem_cons_self
    cases ns with
    | nil => exact hn
    | cons m ns => exact Nat.max_le.2 ⟨hn, hrest⟩

theorem overreaches_ofItems (h : ∀ n ∈ ns, n.overreaches = false) :
    (ofItems ns).overreaches = false := by
  induction ns with
  | nil => rfl
  | cons n ns ih =>
    have hrest := ih fun m hm => h m (List.mem_cons_of_mem n hm)
    have hn := h n List.mem_cons_self
    cases ns with
    | nil => exact hn
    | cons m ns => simp [ofItems, overreaches, hn, hrest]

end Node

end FormDialogue.Regex
