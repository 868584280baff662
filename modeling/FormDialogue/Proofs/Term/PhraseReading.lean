import FormDialogue.Proofs.Regex.Reading
import FormDialogue.Term.Matcher

/-! # The expression of a phrase

The expression for whole words is read back as a look-behind, the characters of the words, gaps
between the words, and a look-ahead. Every character that means something in an expression stands
behind a backslash and so stands for itself. -/

namespace FormDialogue.Term
open Regex (Node Token Reader Reads Expression tokens)
variable {c : Char} {w : List Char} {words : List (List Char)} {rest : List Token} {r : Reader}
  {e : Expression} {fuel : Nat}

/-! ## Tokens -/

def literalToken (c : Char) : Token := if specialChars.contains c then .escape c else .char c

def bodyTokens : List (List Char) → List Token
  | [] => []
  | [w] => w.map literalToken
  | w :: rest => w.map literalToken ++ .escape 's' :: .char '+' :: bodyTokens rest

theorem tokens_literally (w x : List Char) :
    tokens (literally w ++ x) = w.map literalToken ++ tokens x := by
  induction w with
  | nil => rfl
  | cons c w ih =>
    rw [literally, List.flatMap_cons, ← literally, List.append_assoc, List.map_cons, literalToken]
    split
    · exact congrArg (Token.escape c :: ·) ih
    · next hc =>
      have hne : c ≠ '\\' := fun heq => hc (by rw [heq]; decide)
      rw [List.cons_append, List.nil_append, Regex.tokens_char hne, ih]
      rfl

theorem tokens_joinWords (words : List (List Char)) (x : List Char) :
    tokens (joinWords words ++ x) = bodyTokens words ++ tokens x := by
  induction words with
  | nil => rfl
  | cons w words ih =>
    cases words with
    | nil => exact tokens_literally w x
    | cons v words =>
      have hjoin : joinWords (w :: v :: words) ++ x =
          literally w ++ ('\\' :: 's' :: '+' :: (joinWords (v :: words) ++ x)) := by
        simp [joinWords, wordGap]
      have hbody : bodyTokens (w :: v :: words) =
          w.map literalToken ++ .escape 's' :: .char '+' :: bodyTokens (v :: words) := rfl
      rw [hjoin, tokens_literally, Regex.tokens_escape, Regex.tokens_char (by decide), ih, hbody,
        List.append_assoc]
      rfl

theorem dangling_not_mem_literal (w : List Char) : .dangling ∉ w.map literalToken := by
  intro h
  obtain ⟨c, -, hc⟩ := List.mem_map.1 h
  rw [literalToken] at hc
  split at hc <;> cases hc

theorem dangling_not_mem_body (words : List (List Char)) : .dangling ∉ bodyTokens words := by
  induction words with
  | nil => simp [bodyTokens]
  | cons w words ih =>
    cases words with
    | nil => exact dangling_not_mem_literal w
    | cons v words =>
      have hbody : bodyTokens (w :: v :: words) =
          w.map literalToken ++ .escape 's' :: .char '+' :: bodyTokens (v :: words) := rfl
      have hw := dangling_not_mem_literal w
      simp [hbody, hw, ih]

def endTokens : List Token := [.char '(', .char '?', .char '!', .escape 'w', .char ')']

theorem tokens_phrasePattern (words : List (List Char)) :
    tokens (phrasePattern words).toList =
      .char '(' :: .char '?' :: .char '<' :: .char '!' :: .escape 'w' :: .char ')' ::
        (bodyTokens words ++ endTokens) := by
  have hstart : (phrasePattern words).toList =
      '(' :: '?' :: '<' :: '!' :: '\\' :: 'w' :: ')' :: (joinWords words ++ wordEnd) := by
    have hmark : wordStart = ['(', '?', '<', '!', '\\', 'w', ')'] := by decide
    rw [phrasePattern, String.toList_ofList, hmark, List.append_assoc]
    rfl
  have hend : tokens wordEnd = endTokens := by decide
  rw [hstart, Regex.tokens_char (by decide), Regex.tokens_char (by decide),
    Regex.tokens_char (by decide), Regex.tokens_char (by decide), Regex.tokens_escape,
    Regex.tokens_char (by decide), tokens_joinWords, hend]

/-! ## Nodes -/

def wordNodes (w : List Char) : List Node := w.map fun c => .code false c.toNat

def gapNode : Node := .loop .greedy 1 none (.set false [.member false .blank])

def bodyNodes : List (List Char) → List Node
  | [] => []
  | [w] => wordNodes w
  | w :: rest => wordNodes w ++ gapNode :: bodyNodes rest

def startNode : Node := .behind true 1 1 (.set false [.member false .word])

def endNode : Node := .ahead true (.set false [.member false .word])

def phraseNodes (words : List (List Char)) : List Node :=
  startNode :: (bodyNodes words ++ [endNode])

/-- A special character behind a backslash stands for itself. -/
theorem readEscape_special (hc : c ∈ specialChars) (g : Regex.Groups) (i : Nat)
    (s : Regex.Source) : Regex.readEscape g i c s = .ok (.code false c.toNat, s) := by
  have hspecial : specialChars.all fun c => decide (Regex.anchor? c = none ∧
      Regex.class? c = none ∧ (Regex.control? c = some c.toNat ∨ Regex.control? c = none) ∧
      Regex.hexLength? c = none ∧ c ≠ '0' ∧ c.isDigit = false ∧ c ≠ 'N' ∧
      Regex.isAsciiLetter c = false) := by
    decide
  obtain ⟨hanchor, hclass, hcontrol, hhex, hzero, hdigit, hname, hletter⟩ :=
    of_decide_eq_true (List.all_eq_true.1 hspecial c hc)
  rw [Regex.readEscape, hanchor, hclass]
  rcases hcontrol with hcontrol | hcontrol <;> rw [hcontrol]
  simp [hzero, hdigit, Regex.readPlain, hhex, hname, hletter, bind, Except.bind, pure, Except.pure]

theorem plain_of_not_special (hc : c ∉ specialChars) : c ∉ "()[?*+|\x7b.^$".toList := by
  have hsubset : "()[?*+|\x7b.^$".toList ⊆ specialChars := by decide
  exact fun h => hc (hsubset h)

theorem reads_literal [Limits] (h : .dangling ∉ rest) (hverbose : r.level.verbose = false)
    (hr : Reads fuel rest (r.push (.code false c.toNat)) e) :
    Reads (fuel + 1) (literalToken c :: rest) r e := by
  rw [literalToken]
  split
  · next hc => exact Reads.escape h (readEscape_special (List.contains_iff_mem.1 hc) _) hr
  · next hc =>
    have hplain := plain_of_not_special fun hmem => hc (List.contains_iff_mem.2 hmem)
    exact Reads.plain h hverbose hplain hr

theorem reads_word [Limits] (h : .dangling ∉ rest) (hverbose : r.level.verbose = false)
    (hr : Reads fuel rest (r.pushAll (wordNodes w)) e) :
    Reads (fuel + w.length) (w.map literalToken ++ rest) r e := by
  induction w generalizing r with
  | nil => exact hr
  | cons c w ih =>
    have hw : .dangling ∉ w.map literalToken ++ rest := by
      simp [dangling_not_mem_literal w, h]
    exact reads_literal hw hverbose (ih (r := r.push (.code false c.toNat)) hverbose hr)

theorem reads_gap [Limits] (h : .dangling ∉ rest) (hverbose : r.level.verbose = false)
    (hnext : ∃ c, rest.head? = some (literalToken c)) (hr : Reads fuel rest (r.push gapNode) e) :
    Reads (fuel + 2) (.escape 's' :: .char '+' :: rest) r e := by
  have hplus : .dangling ∉ .char '+' :: rest := by simpa using h
  -- The next word starts with a literal token, which no quantifier is.
  have hquantifier : ∀ d ∈ specialChars, rest.head? ≠ some (.char d) := by
    intro d hd
    obtain ⟨c, hc⟩ := hnext
    rw [hc, literalToken]
    split
    · simp
    · next hnot =>
      intro heq
      cases heq
      exact hnot (List.contains_iff_mem.2 hd)
  refine Reads.escape hplus (fun i s => rfl) ?_
  exact Reads.plus h hverbose rfl rfl rfl rfl (hquantifier '?' (by decide))
    (hquantifier '+' (by decide)) hr

theorem head?_bodyTokens (hw : ∀ w ∈ words, w ≠ []) (hne : words ≠ []) :
    ∃ c, (bodyTokens words ++ rest).head? = some (literalToken c) := by
  obtain ⟨w, words, rfl⟩ := List.exists_cons_of_ne_nil hne
  obtain ⟨c, w, rfl⟩ := List.exists_cons_of_ne_nil (hw w List.mem_cons_self)
  cases words <;> exact ⟨c, rfl⟩

theorem reads_body [Limits] (h : .dangling ∉ rest) (hverbose : r.level.verbose = false)
    (hw : ∀ w ∈ words, w ≠ []) (hr : Reads fuel rest (r.pushAll (bodyNodes words)) e) :
    Reads (fuel + (bodyTokens words).length) (bodyTokens words ++ rest) r e := by
  induction words generalizing r with
  | nil => exact hr
  | cons w words ih =>
    cases words with
    | nil =>
      rw [bodyTokens, List.length_map]
      exact reads_word h hverbose hr
    | cons v words =>
      have hbody : bodyTokens (w :: v :: words) ++ rest = w.map literalToken ++
          .escape 's' :: .char '+' :: (bodyTokens (v :: words) ++ rest) := by
        simp [bodyTokens]
      have hlength : fuel + (bodyTokens (w :: v :: words)).length =
          fuel + (bodyTokens (v :: words)).length + 2 + w.length := by
        simp [bodyTokens]
        omega
      have hwords : ∀ u ∈ v :: words, u ≠ [] := fun u hu => hw u (List.mem_cons_of_mem w hu)
      have hmore : .dangling ∉ bodyTokens (v :: words) ++ rest := by
        simp [dangling_not_mem_body, h]
      have hverbose' : (r.pushAll (wordNodes w)).level.verbose = false := by simpa using hverbose
      have hnodes : r.pushAll (bodyNodes (w :: v :: words)) =
          ((r.pushAll (wordNodes w)).push gapNode).pushAll (bodyNodes (v :: words)) :=
        Reader.pushAll_append r _ _
      rw [hnodes] at hr
      rw [hbody, hlength]
      refine reads_word (by simpa using hmore) hverbose ?_
      exact reads_gap hmore hverbose' (head?_bodyTokens hwords (List.cons_ne_nil v words))
        (ih hverbose' hwords hr)

/-! ## The expression -/

theorem mem_bodyNodes {n : Node} (h : n ∈ bodyNodes words) :
    (∃ c, n = .code false c) ∨ n = gapNode := by
  have hword : ∀ w, n ∈ wordNodes w → ∃ c, n = .code false c := by
    intro w hn
    obtain ⟨c, -, rfl⟩ := List.mem_map.1 hn
    exact ⟨_, rfl⟩
  induction words with
  | nil => cases h
  | cons w words ih =>
    cases words with
    | nil => exact Or.inl (hword w h)
    | cons v words =>
      rcases List.mem_append.1 h with h | h
      · exact Or.inl (hword w h)
      · exact (List.mem_cons.1 h).elim Or.inr ih

theorem mem_phraseNodes {n : Node} (h : n ∈ phraseNodes words) :
    n.plainBody? = none ∧ n.calls ≤ 1 ∧ n.check false = .ok () ∧ n.overreaches = false := by
  rcases List.mem_cons.1 h with rfl | h
  · exact ⟨rfl, Nat.le_refl _, rfl, by decide⟩
  rcases List.mem_append.1 h with h | h
  · rcases mem_bodyNodes h with ⟨c, rfl⟩ | rfl
    · exact ⟨rfl, Nat.zero_le _, rfl, rfl⟩
    · exact ⟨rfl, Nat.le_refl _, rfl, rfl⟩
  · obtain rfl := List.mem_singleton.1 h
    exact ⟨rfl, Nat.le_refl _, rfl, rfl⟩

theorem read_phrasePattern [Limits] (hw : ∀ w ∈ words, w ≠ []) :
    Regex.read caselessFlags (phrasePattern words).toList =
      .ok ⟨.ofItems (phraseNodes words), caselessFlags⟩ := by
  let r := (Reader.fresh caselessFlags).pushAll (phraseNodes words)
  have hend : .dangling ∉ endTokens := by decide
  have hbody : .dangling ∉ bodyTokens words ++ endTokens := by
    simp [dangling_not_mem_body, hend]
  have hnodes : r = (((Reader.fresh caselessFlags).push startNode).pushAll
      (bodyNodes words)).push endNode :=
    Reader.pushAll_append ((Reader.fresh caselessFlags).push startNode) (bodyNodes words) [endNode]
  have hdone : Reads 6 [] r ⟨Reader.body r.level, r.flags⟩ :=
    Reads.done (Reader.pushAll_outer _ _) (by simp [r, Reader.fresh, caselessFlags])
      (by simp [r, Reader.fresh, Regex.Groups.none])
  have hroot : Reader.body r.level = .ofItems (phraseNodes words) :=
    Regex.body_pushAll_fresh caselessFlags fun n hn => (mem_phraseNodes hn).1
  have hflags : r.flags = caselessFlags := Reader.pushAll_flags _ _
  rw [hroot, hflags, hnodes] at hdone
  have hlook := Reads.ahead (by simp) (Reader.pushAll_verbose _ _) hdone
  have hwords := reads_body hend rfl hw hlook
  have hall := Reads.behind hbody rfl rfl hwords
  apply Regex.read_of_reads
  · rw [tokens_phrasePattern]
    simpa using hbody
  · rw [tokens_phrasePattern]
    have hlength : 6 + 3 + (bodyTokens words).length + 3 =
        (.char '(' :: .char '?' :: .char '<' :: .char '!' :: .escape 'w' :: .char ')' ::
          (bodyTokens words ++ endTokens)).length + 1 := by
      simp [endTokens]
      omega
    rwa [hlength] at hall

theorem compile_phrasePattern [Limits] (hw : ∀ w ∈ words, w ≠ []) :
    Regex.compile caselessFlags (phrasePattern words) =
      .ok ⟨.ofItems (phraseNodes words), caselessFlags⟩ := by
  have hcalls : (Node.ofItems (phraseNodes words)).calls ≤ Limits.mostCalls :=
    Nat.le_trans (Node.calls_ofItems fun n hn => (mem_phraseNodes hn).2.1)
      (Nat.le_of_succ_le Limits.mostCalls_ge)
  have hcheck : (Node.ofItems (phraseNodes words)).check caselessFlags.bare = .ok () :=
    Node.check_ofItems fun n hn => (mem_phraseNodes hn).2.2.1
  have hreach : (Node.ofItems (phraseNodes words)).overreaches = false :=
    Node.overreaches_ofItems fun n hn => (mem_phraseNodes hn).2.2.2
  simp [Regex.compile, read_phrasePattern hw, hcalls, hcheck, hreach, bind, Except.bind, pure,
    Except.pure]

end FormDialogue.Term
