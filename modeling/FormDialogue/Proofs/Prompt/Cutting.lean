import FormDialogue.Prompt.Placeholder
import Mathlib.Data.List.Infix

/-! # Cutting a text at its placeholders

A cutting is copied text, then a placeholder, then copied text again, and so on. The text of a
pattern has exactly one cutting whose copied texts hold no placeholder, since placeholders do not
overlap: each of them starts with an opening brace and has none behind its first character. Reading
a text once from left to right finds this cutting, and it cuts at every placeholder of the text. -/

namespace FormDialogue.Prompt
variable {t u : Token} {c : Char} {x y : List Char}

inductive Cutting
  | last (copied : List Char)
  | next (copied : List Char) (t : Token) (rest : Cutting)
  deriving Repr

namespace Cutting

def text : Cutting → List Char
  | last copied => copied
  | next copied t rest => copied ++ (t.mark ++ rest.text)

def tokens : Cutting → List Token
  | last _ => []
  | next _ t rest => t :: rest.tokens

/-- The copied texts with something put in for every placeholder. -/
def put (f : Token → List Char) : Cutting → List Char
  | last copied => copied
  | next copied t rest => copied ++ (f t ++ rest.put f)

def head : Cutting → List Char
  | last copied => copied
  | next copied _ _ => copied

/-- No copied text holds a placeholder. -/
def Free : Cutting → Prop
  | last copied => ∀ t : Token, ¬ t.mark <:+: copied
  | next copied _ rest => (∀ t : Token, ¬ t.mark <:+: copied) ∧ rest.Free

/-- One of the cuts is at a placeholder between two given parts of the text. -/
def CutAt : Cutting → List Char → Token → List Char → Prop
  | last _, _, _, _ => False
  | next copied u rest, before, t, after =>
    before = copied ∧ t = u ∧ after = rest.text ∨
      ∃ between, before = copied ++ (u.mark ++ between) ∧ rest.CutAt between t after

def segments : Cutting → List Segment
  | last copied => copied.map .char
  | next copied t rest => copied.map .char ++ .token t :: rest.segments

def prepend (c : Char) : Cutting → Cutting
  | last copied => last (c :: copied)
  | next copied t rest => next (c :: copied) t rest

def ofSegments : List Segment → Cutting
  | [] => last []
  | .char c :: rest => (ofSegments rest).prepend c
  | .token t :: rest => next [] t (ofSegments rest)

/-- The cutting of a text that reading it once finds. -/
def ofText (text : List Char) : Cutting := ofSegments (Prompt.segments text)

end Cutting

/-! ## Placeholders do not overlap -/

theorem Token.mark_eq_cons (t : Token) : ∃ inner, t.mark = '\x7b' :: inner ∧ '\x7b' ∉ inner := by
  cases t with
  | field => exact ⟨['&', '\x7d'], rfl, by decide⟩
  | value => exact ⟨['\x7d'], rfl, by decide⟩
  | values => exact ⟨['[', ']', '\x7d'], rfl, by decide⟩
  | choices => exact ⟨['|', '|', '\x7d'], rfl, by decide⟩

theorem Token.mark_ne_nil (t : Token) : t.mark ≠ [] := by
  obtain ⟨inner, h, -⟩ := t.mark_eq_cons
  simp [h]

/-- No placeholder starts another one. -/
theorem Token.eq_of_mark_append (h : t.mark ++ x = u.mark ++ y) : t = u ∧ x = y := by
  cases t <;> cases u <;> simp_all [Token.mark, Record.choicesMark]

/-- A placeholder that starts in front of another one ends there, too. -/
theorem mark_prefix_of_append (hx : x ≠ []) (h : t.mark <+: x ++ (u.mark ++ y)) : t.mark <+: x := by
  rcases List.prefix_or_prefix_of_prefix h (List.prefix_append x _) with h' | ⟨z, hz⟩
  · exact h'
  obtain ⟨inner, hinner, hbrace⟩ := t.mark_eq_cons
  obtain ⟨a, x, rfl⟩ := List.exists_cons_of_ne_nil hx
  cases z with
  | nil => exact ⟨[], by simpa using hz.symm⟩
  | cons b z =>
    -- What is left of the first placeholder starts with the opening brace of the second one.
    rw [← hz, List.prefix_append_right_inj] at h
    obtain ⟨other, hother, -⟩ := u.mark_eq_cons
    rw [hother, List.cons_append, List.cons_prefix_cons] at h
    rw [hinner, h.1, List.cons_append, List.cons.injEq] at hz
    exact absurd (by simp [← hz.2]) hbrace

theorem not_mark_prefix_of_append (hx : x ≠ []) (hfree : ∀ t : Token, ¬ t.mark <:+: x)
    (t : Token) : ¬ t.mark <+: x ++ (u.mark ++ y) :=
  fun h => hfree t (mark_prefix_of_append hx h).isInfix

/-! ## Reading a text from left to right -/

theorem segments_mark (t : Token) (x : List Char) :
    segments (t.mark ++ x) = .token t :: segments x := by
  cases t <;> rfl

theorem segments_char (h : ∀ t : Token, ¬ t.mark <+: c :: x) :
    segments (c :: x) = .char c :: segments x := by
  have hfield := h .field
  have hvalue := h .value
  have hvalues := h .values
  have hchoices := h .choices
  rw [segments.eq_def]
  split
  · contradiction
  · next rest heq => exact absurd (heq ▸ List.prefix_append _ rest) hvalue
  · next rest heq => exact absurd (heq ▸ List.prefix_append _ rest) hfield
  · next rest heq => exact absurd (heq ▸ List.prefix_append _ rest) hvalues
  · next rest heq => exact absurd (heq ▸ List.prefix_append _ rest) hchoices
  · next heq =>
    rw [List.cons.injEq] at heq
    rw [heq.1, heq.2]

theorem reading_induction {motive : List Char → Prop} (nil : motive [])
    (mark : ∀ (t : Token) x, motive x → motive (t.mark ++ x))
    (char : ∀ c x, (∀ t : Token, ¬ t.mark <+: c :: x) → motive x → motive (c :: x))
    (text : List Char) : motive text := by
  induction hn : text.length using Nat.strong_induction_on generalizing text with
  | _ n ih =>
    subst hn
    by_cases h : ∃ t : Token, t.mark <+: text
    · obtain ⟨t, x, rfl⟩ := h
      have hpos := List.length_pos_of_ne_nil t.mark_ne_nil
      exact mark t x (ih _ (by rw [List.length_append]; omega) x rfl)
    · cases text with
      | nil => exact nil
      | cons c x =>
        exact char c x (fun t ht => h ⟨t, ht⟩) (ih _ (Nat.lt_succ_self _) x rfl)

theorem segments_copied (hfree : ∀ t : Token, ¬ t.mark <:+: x) (t : Token) (y : List Char) :
    segments (x ++ (t.mark ++ y)) = x.map .char ++ .token t :: segments y := by
  induction x with
  | nil => exact segments_mark t y
  | cons c x ih =>
    have hx := fun u (hu : Token.mark u <:+: x) => hfree u (List.infix_cons hu)
    have hc := fun u => not_mark_prefix_of_append (u := t) (y := y) (List.cons_ne_nil c x) hfree u
    rw [List.cons_append] at hc ⊢
    rw [segments_char hc, ih hx]
    rfl

theorem segments_free (hfree : ∀ t : Token, ¬ t.mark <:+: x) : segments x = x.map .char := by
  induction x with
  | nil => rfl
  | cons c x ih =>
    rw [segments_char fun t ht => hfree t ht.isInfix,
      ih fun t ht => hfree t (List.infix_cons ht)]
    rfl

namespace Cutting
variable {k : Cutting}

theorem segments_text (hk : k.Free) : Prompt.segments k.text = k.segments := by
  induction k with
  | last copied => exact segments_free hk
  | next copied t rest ih => rw [text, segments_copied hk.1, ih hk.2]; rfl

theorem ofSegments_copied (x : List Char) (more : List Segment) :
    ofSegments (x.map .char ++ more) = x.foldr prepend (ofSegments more) := by
  induction x with
  | nil => rfl
  | cons c x ih => rw [List.map_cons, List.cons_append, ofSegments, ih]; rfl

theorem foldr_prepend_last (x y : List Char) : x.foldr prepend (last y) = last (x ++ y) := by
  induction x with
  | nil => rfl
  | cons c x ih => rw [List.foldr_cons, ih]; rfl

theorem foldr_prepend_next (x y : List Char) (t : Token) (k : Cutting) :
    x.foldr prepend (next y t k) = next (x ++ y) t k := by
  induction x with
  | nil => rfl
  | cons c x ih => rw [List.foldr_cons, ih]; rfl

theorem ofSegments_segments (k : Cutting) : ofSegments k.segments = k := by
  induction k with
  | last copied =>
    have h := ofSegments_copied copied []
    rw [List.append_nil] at h
    rw [segments, h, ofSegments, foldr_prepend_last, List.append_nil]
  | next copied t rest ih =>
    rw [segments, ofSegments_copied, ofSegments, ih, foldr_prepend_next, List.append_nil]

theorem text_prepend (c : Char) (k : Cutting) : (k.prepend c).text = c :: k.text := by
  cases k <;> rfl

theorem head_prefix_text (k : Cutting) : k.head <+: k.text := by
  cases k with
  | last copied => exact List.prefix_refl _
  | next copied t rest => exact List.prefix_append _ _

theorem free_prepend (hk : k.Free) (h : ∀ t : Token, ¬ t.mark <+: c :: k.text) :
    (k.prepend c).Free := by
  have hhead : ∀ t : Token, ¬ t.mark <+: c :: k.head := fun t ht =>
    h t (ht.trans (List.cons_prefix_cons.2 ⟨rfl, k.head_prefix_text⟩))
  cases k with
  | last copied => exact fun t ht => (List.infix_cons_iff.1 ht).elim (hhead t) (hk t)
  | next copied t rest =>
    exact ⟨fun t ht => (List.infix_cons_iff.1 ht).elim (hhead t) (hk.1 t), hk.2⟩

theorem ofText_mark (t : Token) (x : List Char) : ofText (t.mark ++ x) = next [] t (ofText x) := by
  rw [ofText, segments_mark]
  rfl

theorem ofText_char (h : ∀ t : Token, ¬ t.mark <+: c :: x) :
    ofText (c :: x) = (ofText x).prepend c := by
  rw [ofText, segments_char h]
  rfl

theorem text_ofText (text : List Char) : (ofText text).text = text := by
  induction text using reading_induction with
  | nil => rfl
  | mark t x ih => rw [ofText_mark, Cutting.text, ih]; rfl
  | char c x h ih => rw [ofText_char h, text_prepend, ih]

theorem free_ofText (text : List Char) : (ofText text).Free := by
  induction text using reading_induction with
  | nil => exact fun t ht => t.mark_ne_nil (List.eq_nil_of_infix_nil ht)
  | mark t x ih =>
    rw [ofText_mark]
    exact ⟨fun u hu => u.mark_ne_nil (List.eq_nil_of_infix_nil hu), ih⟩
  | char c x h ih =>
    rw [ofText_char h]
    exact free_prepend ih (by rwa [text_ofText])

/-- Every text has one cutting without placeholders in what is copied. -/
theorem eq_ofText_iff {text : List Char} : k.text = text ∧ k.Free ↔ k = ofText text := by
  constructor
  · rintro ⟨rfl, hk⟩
    rw [ofText, segments_text hk, ofSegments_segments]
  · rintro rfl
    exact ⟨text_ofText text, free_ofText text⟩

theorem cutAt_of_text_eq (hk : k.Free) (h : k.text = x ++ (t.mark ++ y)) : k.CutAt x t y := by
  -- The placeholder starts behind the first cut, at it, or in the copied text before it. The last
  -- case is impossible, since it would end there, too.
  induction k generalizing x with
  | last copied => exact absurd ⟨x, y, by rw [List.append_assoc]; exact h.symm⟩ (hk t)
  | next copied u rest ih =>
    rw [text] at h
    rcases List.append_eq_append_iff.1 h with ⟨z, hz, hz'⟩ | ⟨z, hz, hz'⟩
    · cases z with
      | nil =>
        obtain ⟨rfl, hy⟩ := Token.eq_of_mark_append hz'
        exact Or.inl ⟨by simpa using hz, rfl, hy.symm⟩
      | cons a z =>
        have hprefix : u.mark <+: a :: z ++ (t.mark ++ y) := ⟨rest.text, hz'⟩
        obtain ⟨z', hz''⟩ := mark_prefix_of_append (List.cons_ne_nil a z) hprefix
        rw [← hz'', List.append_assoc, List.append_cancel_left_eq] at hz'
        exact Or.inr ⟨z', by rw [hz, hz''], ih hk.2 hz'⟩
    · cases z with
      | nil =>
        obtain ⟨rfl, hy⟩ := Token.eq_of_mark_append hz'
        exact Or.inl ⟨by simpa using hz.symm, rfl, hy⟩
      | cons a z =>
        have hprefix : t.mark <+: a :: z ++ (u.mark ++ rest.text) := ⟨y, hz'⟩
        have hpart := (mark_prefix_of_append (List.cons_ne_nil a z) hprefix).isInfix
        exact absurd (hpart.trans ⟨x, [], by rw [hz, List.append_nil]⟩) (hk.1 t)

theorem mem_tokens_of_cutAt (h : k.CutAt x t y) : t ∈ k.tokens := by
  induction k generalizing x with
  | last copied => exact h.elim
  | next copied u rest ih =>
    rcases h with ⟨-, rfl, -⟩ | ⟨z, -, h⟩
    · exact List.mem_cons_self
    · exact List.mem_cons_of_mem _ (ih h)

theorem mark_infix_of_mem (h : t ∈ k.tokens) : t.mark <:+: k.text := by
  induction k with
  | last copied => simp [tokens] at h
  | next copied u rest ih =>
    rcases List.mem_cons.1 h with rfl | h
    · exact ⟨copied, rest.text, by rw [List.append_assoc]; rfl⟩
    · exact (ih h).trans ⟨copied ++ u.mark, [], by simp [text]⟩

end Cutting

/-- The placeholders of a text from left to right. -/
def placeholders (text : List Char) : List Token := (Cutting.ofText text).tokens

theorem mem_placeholders_iff {text : List Char} : t ∈ placeholders text ↔ t.mark <:+: text := by
  constructor
  · intro h
    have := Cutting.mark_infix_of_mem h
    rwa [Cutting.text_ofText] at this
  · rintro ⟨x, y, h⟩
    apply Cutting.mem_tokens_of_cutAt (x := x) (y := y)
    apply Cutting.cutAt_of_text_eq (Cutting.free_ofText text)
    rw [Cutting.text_ofText, ← h, List.append_assoc]

-- Braces around a placeholder are copied.
example : placeholders "\x7b\x7b\x7d\x7d \x7b|\x7b||\x7d|\x7d \x7b0\x7d".toList =
    [.value, .choices] := by decide

end FormDialogue.Prompt
