import FormDialogue.Proofs.Regex.NodeRuns

/-! # The leftmost match

A search tries every place of a text from left to right, so it finds the leftmost place from which
the root of the expression explores another one, and nothing exactly if there is no such place. -/

namespace FormDialogue.Regex
variable {e : Expression} {reaches : Place → Place → Prop} {text before after : List Char}

def Place.at (text : List Char) (s : Nat) : Place := ⟨(text.take s).reverse, text.drop s, s, []⟩

theorem place_at_append (before after : List Char) :
    Place.at (before.reverse ++ after) before.length = ⟨before, after, before.length, []⟩ := by
  have hlength : before.length = before.reverse.length := List.length_reverse.symm
  rw [Place.at, Place.mk.injEq]
  refine ⟨?_, ?_, rfl, rfl⟩
  · rw [hlength, List.take_left, List.reverse_reverse]
  · rw [hlength, List.drop_left]

def HasMatch (reaches : Place → Place → Prop) (text : List Char) (s t : Nat) : Prop :=
  s ≤ text.length ∧ ∃ r, reaches (.at text s) r ∧ r.position = t

theorem areCrossed_nil : Marks.areCrossed [] = false := rfl

theorem endFrom?_spec (h : e.root.Explores e.flags reaches) {p : Place} (hp : p.marks = []) :
    ∃ found, e.endFrom? p .found = .ok found ∧
      (∀ t, found = some t → ∃ r, reaches p r ∧ r.position = t) ∧
      (found = none → ∀ r, ¬ reaches p r) := by
  have hexplores := h none p hp
  rw [Expression.endFrom?]
  cases hplace : (e.root.run e.flags false none p .found).place? with
  | none =>
    refine ⟨none, rfl, by simp, fun _ r hr => ?_⟩
    cases hexplores.complete .found r clean_found hr hplace
  | some q =>
    obtain ⟨r, hr, hrq⟩ := hexplores.sound .found q clean_found hplace
    obtain rfl : r = q := Option.some.inj hrq
    refine ⟨some r.position, ?_, ?_, by simp⟩
    · simp [hexplores.unmarked r hr, areCrossed_nil]
    · rintro t ht
      exact ⟨r, hr, Option.some.inj ht⟩

theorem hasMatch_here {t : Nat} :
    HasMatch reaches (before.reverse ++ after) before.length t ↔
      ∃ r, reaches ⟨before, after, before.length, []⟩ r ∧ r.position = t := by
  rw [HasMatch, place_at_append, List.length_append, List.length_reverse]
  exact and_iff_right (Nat.le_add_right _ _)

theorem hasMatch_later {c : Char} {s t : Nat}
    (hnone : ∀ r, ¬ reaches ⟨before, c :: after, before.length, []⟩ r) (hs : before.length ≤ s)
    (h : HasMatch reaches (before.reverse ++ c :: after) s t) : (c :: before).length ≤ s := by
  rcases Nat.eq_or_lt_of_le hs with rfl | hlt
  · obtain ⟨r, hr, -⟩ := hasMatch_here.1 h
    exact absurd hr (hnone r)
  · exact hlt

/-- The leftmost match at or behind a position. -/
def IsFirstMatch (reaches : Place → Place → Prop) (text : List Char) (i s t : Nat) : Prop :=
  HasMatch reaches text s t ∧ i ≤ s ∧ ∀ s' t', i ≤ s' → HasMatch reaches text s' t' → s ≤ s'

theorem isFirstMatch_here {s t : Nat} (h : HasMatch reaches text s t) :
    IsFirstMatch reaches text s s t :=
  ⟨h, Nat.le_refl s, fun _ _ hs _ => hs⟩

theorem searchFrom_spec (h : e.root.Explores e.flags reaches) (htries : ∀ c, e.tries c = true)
    (before after : List Char) :
    ∃ found, e.searchFrom before after before.length = .ok found ∧
      (∀ s t, found = some (s, t) →
        IsFirstMatch reaches (before.reverse ++ after) before.length s t) ∧
      (found = none →
        ∀ s t, before.length ≤ s → ¬ HasMatch reaches (before.reverse ++ after) s t) := by
  induction after generalizing before with
  | nil =>
    obtain ⟨found, hfound, hsome, hnone⟩ :=
      endFrom?_spec h (p := ⟨before, [], before.length, []⟩) rfl
    refine ⟨found.map fun j => (before.length, j), ?_, ?_, ?_⟩
    · rw [Expression.searchFrom, hfound]
      rfl
    · intro s t hst
      obtain ⟨j, hj, hpair⟩ := Option.map_eq_some_iff.1 hst
      cases hpair
      exact isFirstMatch_here (hasMatch_here.2 (hsome t hj))
    · intro hmap s t hs hmatch
      -- The end of the text is the only place left.
      have hlength : s = before.length := by
        have := hmatch.1
        rw [List.append_nil, List.length_reverse] at this
        omega
      rw [hlength] at hmatch
      obtain ⟨r, hr, -⟩ := hasMatch_here.1 hmatch
      exact hnone (Option.map_eq_none_iff.1 hmap) r hr
  | cons c after ih =>
    obtain ⟨found, hfound, hsome, hnone⟩ :=
      endFrom?_spec h (p := ⟨before, c :: after, before.length, []⟩) rfl
    cases found with
    | some j =>
      refine ⟨some (before.length, j), ?_, ?_, by simp⟩
      · rw [Expression.searchFrom, if_pos (htries c), hfound]
      · intro s t hst
        cases hst
        exact isFirstMatch_here (hasMatch_here.2 (hsome j rfl))
    | none =>
      -- No match starts here, so the first one from here on is the first one behind the character.
      have htext : (c :: before).reverse ++ after = before.reverse ++ c :: after := by simp
      have hhere := hnone rfl
      obtain ⟨found, hfound', hsome', hnone'⟩ := ih (c :: before)
      rw [htext] at hsome' hnone'
      refine ⟨found, ?_, ?_, ?_⟩
      · rw [Expression.searchFrom, if_pos (htries c), hfound]
        exact hfound'
      · intro s t hst
        obtain ⟨hmatch, hs, hfirst⟩ := hsome' s t hst
        refine ⟨hmatch, Nat.le_of_succ_le hs, fun s' t' hs' hmatch' => ?_⟩
        exact hfirst s' t' (hasMatch_later hhere hs' hmatch') hmatch'
      · intro hfail s t hs hmatch
        exact hnone' hfail s t (hasMatch_later hhere hs hmatch) hmatch

end FormDialogue.Regex
