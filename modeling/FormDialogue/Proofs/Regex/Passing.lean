import FormDialogue.Regex.Parser

/-! # What reading passes

A reader is given tokens and leaves an end of them. Whatever it refuses is a fault of the syntax, or
else there is a reason for it in the text of the expression: a count in braces that is too large or
too long, many groups and repetitions, a look-behind, or two heads that switch to different
alphabets. -/

namespace FormDialogue.Regex
variable {α β : Type} {pattern cs : List Char} {rest : List Token} {s : Source}

/-! ## Tokens and their text -/

theorem text_tokens (cs : List Char) : (tokens cs).flatMap Token.text = cs := by
  fun_induction tokens cs with
  | case1 => rfl
  | case2 => rfl
  | case3 c rest ih => rw [List.flatMap_cons, ih]; rfl
  | case4 c rest _ _ ih => rw [List.flatMap_cons, ih]; rfl

theorem text_chars (cs : List Char) : (cs.map Token.char).flatMap Token.text = cs := by
  induction cs with
  | nil => rfl
  | cons c cs ih => rw [List.map_cons, List.flatMap_cons, ih]; rfl

/-- Characters that follow each other as tokens follow each other in the text. -/
theorem infix_of_suffix (rest : List Token) (h : cs.map Token.char ++ rest <:+ tokens pattern) :
    cs <:+: pattern := by
  obtain ⟨before, hbefore⟩ := h
  refine ⟨before.flatMap Token.text, rest.flatMap Token.text, ?_⟩
  rw [← text_tokens pattern, ← hbefore, List.flatMap_append, List.flatMap_append, text_chars,
    List.append_assoc]

theorem Source.suffix_of_take {found : Option Token × Source}
    (h : s.rest = found.1.toList ++ found.2.rest) : found.2.rest <:+ s.rest :=
  ⟨_, h.symm⟩

theorem Source.suffix_of_accept {c : Char} {found : Bool × Source}
    (h : s.rest = (if found.1 then [.char c] else []) ++ found.2.rest) :
    found.2.rest <:+ s.rest :=
  ⟨_, h.symm⟩

/-! ## Reasons in the text -/

/-- Digits that stand for a number of rounds. -/
inductive CountIn (pattern : List Char) : List Char → Prop
  | alone {digits : List Char} (h : '\x7b' :: digits ++ ['\x7d'] <:+: pattern) :
      CountIn pattern digits
  | least {low high : List Char} (h : '\x7b' :: low ++ ',' :: high ++ ['\x7d'] <:+: pattern) :
      CountIn pattern low
  | most {low high : List Char} (h : '\x7b' :: low ++ ',' :: high ++ ['\x7d'] <:+: pattern) :
      CountIn pattern high

/-- A letter among the flags that a head switches on for the whole expression. -/
def Switches (letter : Char) (pattern : List Char) : Prop :=
  ∃ letters, letter ∈ letters ∧ (∀ c ∈ letters, (flag? c).isSome = true) ∧
    "(?".toList ++ letters ++ [')'] <:+: pattern

def LooksBehind (pattern : List Char) : Prop :=
  "(?<=".toList <:+: pattern ∨ "(?<!".toList <:+: pattern

/-- A character that may nest what is read: it opens a group or repeats a node. -/
def isNestingMark (c : Char) : Bool := "(*+?\x7b".toList.contains c

variable [Limits]

/-- What the text of an expression has to hold for a refusal. A fault of the syntax may be anywhere,
and reading never finds out about the groups of a match. -/
def Explained (pattern : List Char) : Refusal → Prop
  | .fault .. => True
  | .hugeCount => ∃ digits, CountIn pattern digits ∧ (∀ c ∈ digits, c.isDigit = true) ∧
      repeatLimit ≤ valueIn 10 digits
  | .longCount limit length => ∃ digits, CountIn pattern digits ∧
      (∀ c ∈ digits, c.isDigit = true) ∧ digits.length = length ∧
      Limits.exceeded? length = some limit
  | .tooDeep => Limits.mostCalls ≤ 2 * pattern.countP isNestingMark + 1
  | .overreach => LooksBehind pattern
  | .twoAlphabets => Switches 'a' pattern ∧ Switches 'u' pattern
  | .crossedGroup => False

/-- A reading that gives what is wanted or is refused for a reason. -/
def Ends (pattern : List Char) (wanted : α → Prop) : Reading α → Prop
  | .ok x => wanted x
  | .error refusal => Explained pattern refusal

namespace Ends
variable {P Q : α → Prop} {R : β → Prop} {a : Reading α} {f : α → Reading β}

theorem bind (ha : Ends pattern P a) (hf : ∀ x, P x → Ends pattern R (f x)) :
    Ends pattern R (a >>= f) := by
  cases a with
  | ok x => exact hf x ha
  | error refusal => exact ha

theorem mono (ha : Ends pattern P a) (h : ∀ x, P x → Q x) : Ends pattern Q a := by
  cases a with
  | ok x => exact h x ha
  | error refusal => exact ha

theorem map {g : α → β} (ha : Ends pattern P a) (h : ∀ x, P x → R (g x)) :
    Ends pattern R (a.map g) := by
  cases a with
  | ok x => exact h x ha
  | error refusal => exact ha

/-- What follows two branches of a reading alike. -/
theorem bind_ite {c : Prop} [Decidable c] {b : Reading α} (ha : c → Ends pattern P a)
    (hb : ¬ c → Ends pattern P b) (hf : ∀ x, P x → Ends pattern R (f x)) :
    Ends pattern R (if c then a >>= f else b >>= f) := by
  split
  · next h => exact (ha h).bind hf
  · next h => exact (hb h).bind hf

theorem refuse (cause : Fault) (position : Nat) :
    Ends pattern P (refuse cause position : Reading α) := trivial

end Ends

/-! ## Sources -/

namespace Source

theorem ends_checked (s : Source) : Ends pattern (· = s) s.checked := by
  unfold checked
  split
  · exact .refuse _ _
  · exact rfl

theorem ends_take (s : Source) :
    Ends pattern (fun found => s.rest = found.1.toList ++ found.2.rest) s.take := by
  unfold take
  split
  · next h => exact h.trans (by rw [h]; rfl)
  · next t rest h =>
    refine (ends_checked _).map ?_
    rintro _ rfl
    exact h

theorem ends_accept (s : Source) (c : Char) :
    Ends pattern (fun found => s.rest = (if found.1 then [.char c] else []) ++ found.2.rest)
      (s.accept c) := by
  unfold accept
  split
  · next t rest h =>
    split
    · next ht =>
      refine (ends_checked _).map ?_
      rintro _ rfl
      rw [h, eq_of_beq ht]
      rfl
    · exact rfl
  · exact rfl

theorem ends_takeWhile (p : Char → Bool) (limit : Nat) (s : Source) :
    Ends pattern (fun found => (∀ c ∈ found.1, p c = true) ∧
      s.rest = found.1.map .char ++ found.2.rest) (s.takeWhile p limit) := by
  induction limit generalizing s with
  | zero => exact ⟨List.forall_mem_nil _, rfl⟩
  | succ limit ih =>
    unfold takeWhile
    split
    · next c rest h =>
      split
      · next hc =>
        refine (ends_checked _).bind ?_
        rintro _ rfl
        refine (ih _).bind fun found hfound => ?_
        obtain ⟨hall, hrest⟩ := hfound
        refine ⟨List.forall_mem_cons.2 ⟨hc, hall⟩, ?_⟩
        rw [h, List.map_cons, List.cons_append, ← hrest]
      · exact ⟨List.forall_mem_nil _, rfl⟩
    · exact ⟨List.forall_mem_nil _, rfl⟩

theorem ends_takeUntil (terminator : Char) (what : String) (name : List Char) (fuel : Nat)
    (s : Source) :
    Ends pattern (fun found => found.2.rest <:+ s.rest)
      (s.takeUntil terminator what name fuel) := by
  induction fuel generalizing s name with
  | zero => exact .refuse _ _
  | succ fuel ih =>
    unfold takeUntil
    refine (ends_take s).bind ?_
    rintro ⟨t, s'⟩ h
    have hs := suffix_of_take h
    cases t with
    | none =>
      dsimp only
      split
      · exact .refuse _ _
      · exact .refuse _ _
    | some t =>
      dsimp only
      split
      · split
        · exact .refuse _ _
        · exact hs
      · exact (ih _ _).mono fun found hfound => hfound.trans hs

theorem ends_takeName (terminator : Char) (what : String) (s : Source) :
    Ends pattern (fun found => found.2.rest <:+ s.rest) (s.takeName terminator what) :=
  ends_takeUntil terminator what [] _ s

end Source

open Source

/-! ## Escapes and sets -/

/-- A node without parts. It neither nests calls nor looks behind. -/
structure Node.IsLeaf (n : Node) : Prop where
  calls : n.calls = 0
  near : n.overreaches = false

section Escapes
variable (start : Nat) (c : Char)

theorem ends_readHex (length : Nat) (s : Source) :
    Ends pattern (fun found => found.2.rest <:+ s.rest) (readHex start length c s) := by
  unfold readHex
  refine (ends_takeWhile isHex length s).bind fun found h => ?_
  dsimp only
  split
  · exact .refuse _ _
  · split
    · exact ⟨_, h.2.symm⟩
    · exact .refuse _ _

theorem ends_readNamed (s : Source) :
    Ends pattern (fun found => found.2.rest <:+ s.rest) (readNamed start s) := by
  unfold readNamed
  refine (ends_accept s _).bind fun opened h => ?_
  dsimp only
  split
  · exact .refuse _ _
  · refine (ends_takeName _ _ _).bind fun found hfound => ?_
    split
    · exact hfound.trans (suffix_of_accept h)
    · exact .refuse _ _

theorem ends_checkOctal (digits : List Char) :
    Ends pattern (fun _ => True) (checkOctal start digits) := by
  unfold checkOctal
  dsimp only
  split
  · trivial
  · exact .refuse _ _

theorem ends_readPlain (s : Source) :
    Ends pattern (fun found => found.2.rest <:+ s.rest) (readPlain start c s) := by
  unfold readPlain
  split
  · exact ends_readHex start c _ s
  · split
    · exact ends_readNamed start s
    · split
      · exact .refuse _ _
      · exact List.suffix_rfl

theorem ends_readSetEscape (s : Source) :
    Ends pattern (fun found => found.2.rest <:+ s.rest) (readSetEscape start c s) := by
  unfold readSetEscape
  split
  · exact List.suffix_rfl
  · exact List.suffix_rfl
  · split
    · refine (ends_takeWhile isOctal 2 s).bind fun found h => ?_
      exact (ends_checkOctal start _).bind fun _ _ => ⟨_, h.2.symm⟩
    · exact (ends_readPlain start c s).bind fun _ h => h

theorem ends_checkLookbehind (g : Groups) (i position : Nat) :
    Ends pattern (fun _ => True) (g.checkLookbehind i position) := by
  unfold Groups.checkLookbehind
  split
  · trivial
  · split
    · exact .refuse _ _
    · split
      · exact .refuse _ _
      · trivial

theorem ends_readReference (g : Groups) (s : Source) :
    Ends pattern (fun found => found.1.IsLeaf ∧ found.2.rest <:+ s.rest)
      (readReference g start c s) := by
  unfold readReference
  refine (ends_takeWhile Char.isDigit 1 s).bind fun more hmore => ?_
  have hs : more.2.rest <:+ s.rest := ⟨_, hmore.2.symm⟩
  dsimp only
  refine .bind_ite (P := fun found : List Char × Source => found.2.rest <:+ s.rest)
    (fun _ => (ends_takeWhile isOctal 1 _).mono fun _ h => List.IsSuffix.trans ⟨_, h.2.symm⟩ hs)
    (fun _ => hs) fun found hfound => ?_
  split
  · split
    · split
      · exact (ends_checkLookbehind g _ _).bind fun _ _ => ⟨⟨rfl, rfl⟩, hfound⟩
      · exact .refuse _ _
    · exact .refuse _ _
  · exact (ends_checkOctal start _).bind fun _ _ => ⟨⟨rfl, rfl⟩, hfound⟩

theorem ends_readEscape (g : Groups) (s : Source) :
    Ends pattern (fun found => found.1.IsLeaf ∧ found.2.rest <:+ s.rest)
      (readEscape g start c s) := by
  unfold readEscape
  split
  · exact ⟨⟨rfl, rfl⟩, List.suffix_rfl⟩
  · exact ⟨⟨rfl, rfl⟩, List.suffix_rfl⟩
  · exact ⟨⟨rfl, rfl⟩, List.suffix_rfl⟩
  · split
    · exact (ends_takeWhile isOctal 2 s).bind fun _ h => ⟨⟨rfl, rfl⟩, _, h.2.symm⟩
    · split
      · exact ends_readReference start c g s
      · exact (ends_readPlain start c s).bind fun _ h => ⟨⟨rfl, rfl⟩, h⟩

end Escapes

theorem ends_readSetItem (start : Nat) (t : Token) (s : Source) :
    Ends pattern (fun found => found.2.rest <:+ s.rest) (readSetItem start t s) := by
  cases t with
  | escape c => exact ends_readSetEscape start c s
  | char c => exact List.suffix_rfl
  | dangling => exact .refuse _ _

theorem ends_rangeOf (low high : SetItem) (lowText highText : List Char) (position : Nat) :
    Ends pattern (fun _ => True) (rangeOf low high lowText highText position) := by
  unfold rangeOf
  split
  · split
    · exact .refuse _ _
    · trivial
  · exact .refuse _ _

theorem ends_readSetItems (start fuel : Nat) (found : List SetItem) (s : Source) :
    Ends pattern (fun read => read.2.rest <:+ s.rest) (readSetItems start fuel found s) := by
  induction fuel generalizing found s with
  | zero => exact .refuse _ _
  | succ fuel ih =>
    unfold readSetItems
    refine (ends_take s).bind ?_
    rintro ⟨t, s₁⟩ h₁
    have hs₁ := suffix_of_take h₁
    cases t with
    | none => exact .refuse _ _
    | some t =>
      dsimp only
      split
      · exact hs₁
      refine (ends_readSetItem _ t s₁).bind fun low hlow => ?_
      refine (ends_accept low.2 '-').bind fun hyphen hhyphen => ?_
      have hs₂ := (suffix_of_accept hhyphen).trans (hlow.trans hs₁)
      split
      · refine (ends_take hyphen.2).bind ?_
        rintro ⟨u, s₃⟩ h₃
        have hs₃ := (suffix_of_take h₃).trans hs₂
        cases u with
        | none => exact .refuse _ _
        | some u =>
          dsimp only
          split
          · exact hs₃
          refine (ends_readSetItem _ u s₃).bind fun high hhigh => ?_
          refine (ends_rangeOf _ _ _ _ _).bind fun range _ => ?_
          exact (ih _ _).mono fun _ h => h.trans (hhigh.trans hs₃)
      · exact (ih _ _).mono fun _ h => h.trans hs₂

theorem ends_readSet (start : Nat) (s : Source) :
    Ends pattern (fun found => found.1.IsLeaf ∧ found.2.rest <:+ s.rest)
      (readSet start s) := by
  unfold readSet
  refine (ends_accept s '^').bind fun negated hnegated => ?_
  refine (ends_readSetItems start _ [] negated.2).bind fun items hitems => ?_
  refine ⟨?_, hitems.trans (suffix_of_accept hnegated)⟩
  dsimp only
  unfold setNode
  split <;> exact ⟨rfl, rfl⟩

end FormDialogue.Regex
