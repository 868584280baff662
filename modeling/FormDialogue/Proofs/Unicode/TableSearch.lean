import FormDialogue.Proofs.Unicode.BlankCase
import Mathlib.Data.List.Chain

/-! # Searching sorted tables

In a table whose keys grow, the search by halving finds the entry with the greatest key that is not
beyond a code point. So it finds the same entry between two code points for which it does. -/

namespace FormDialogue.Unicode
variable {α : Type} {key : α → Nat} {table : Array α} {x y : α} {n : Nat}

def Rising (key : α → Nat) (table : Array α) : Prop := (table.toList.map key).IsChain (· < ·)

instance (key : α → Nat) (table : Array α) : Decidable (Rising key table) :=
  inferInstanceAs (Decidable (List.IsChain _ _))

theorem Rising.lt (h : Rising key table) {i j : Nat} (hx : table[i]? = some x)
    (hy : table[j]? = some y) (hij : i < j) : key x < key y := by
  have hpairs := List.pairwise_map.1 (List.isChain_iff_pairwise.1 h)
  obtain ⟨hi, rfl⟩ := Array.getElem?_eq_some_iff.1 hx
  obtain ⟨hj, rfl⟩ := Array.getElem?_eq_some_iff.1 hy
  exact List.pairwise_iff_getElem.1 hpairs i j hi hj hij

theorem Rising.le_of_key_le (h : Rising key table) {i j : Nat} (hx : table[i]? = some x)
    (hy : table[j]? = some y) (hxy : key x ≤ key y) : i ≤ j := by
  by_contra hij
  have := h.lt hy hx (Nat.lt_of_not_le hij)
  omega

theorem Rising.le (h : Rising key table) {i j : Nat} (hx : table[i]? = some x)
    (hy : table[j]? = some y) (hij : i ≤ j) : key x ≤ key y := by
  rcases Nat.eq_or_lt_of_le hij with rfl | hlt
  · rw [Option.some.inj (hx.symm.trans hy)]
  · exact Nat.le_of_lt (h.lt hx hy hlt)

theorem lastBelowFrom_index {fuel low high : Nat}
    (h : lastBelowFrom key table n fuel low high = some x) : ∃ i, low ≤ i ∧ table[i]? = some x := by
  induction fuel generalizing low high with
  | zero => cases h
  | succ fuel ih =>
    rw [lastBelowFrom] at h
    split at h
    · dsimp only at h
      split at h
      · cases h
      · next z hz =>
        split at h
        · exact ih h
        · rw [Option.orElse_eq_or, Option.or_eq_some_iff] at h
          rcases h with h | ⟨-, h⟩
          · obtain ⟨i, hi, hx⟩ := ih h
            exact ⟨i, by omega, hx⟩
          · obtain rfl := Option.some.inj h
            exact ⟨_, by omega, hz⟩
    · cases h

/-- The search passes no entry that is not beyond the code point. -/
theorem lastBelowFrom_reaches (h : Rising key table) {fuel low high i : Nat}
    (hfuel : high < low + fuel) (hhigh : high ≤ table.size) (hlow : low ≤ i) (hi : i < high)
    (hx : table[i]? = some x) (hn : key x ≤ n) :
    ∃ y, lastBelowFrom key table n fuel low high = some y ∧ key x ≤ key y := by
  induction fuel generalizing low high with
  | zero => omega
  | succ fuel ih =>
    obtain ⟨z, hz⟩ : ∃ z, table[(low + high) / 2]? = some z :=
      ⟨_, Array.getElem?_eq_getElem (by omega)⟩
    rw [lastBelowFrom, if_pos (by omega)]
    dsimp only
    rw [hz]
    dsimp only
    split
    · have hleft : i < (low + high) / 2 := by
        by_contra hge
        have := h.le hz hx (Nat.le_of_not_lt hge)
        omega
      exact ih (by omega) (by omega) hlow hleft
    · by_cases hleft : i ≤ (low + high) / 2
      · -- Whatever is found, the middle or an entry behind it, is not before the given one.
        cases hright : lastBelowFrom key table n fuel ((low + high) / 2 + 1) high with
        | some y =>
          obtain ⟨j, hj, hy⟩ := lastBelowFrom_index hright
          exact ⟨y, rfl, h.le hx hy (by omega)⟩
        | none => exact ⟨z, rfl, h.le hx hz hleft⟩
      · obtain ⟨y, hy, hle⟩ := ih (by omega) hhigh (Nat.lt_of_not_le hleft) hi
        exact ⟨y, by rw [hy]; rfl, hle⟩

theorem lastBelow_eq_some_iff (h : Rising key table) :
    lastBelow key table n = some x ↔
      x ∈ table ∧ key x ≤ n ∧ ∀ y ∈ table, key y ≤ n → key y ≤ key x := by
  have hreaches : ∀ y ∈ table, key y ≤ n → ∃ z, lastBelow key table n = some z ∧ key y ≤ key z := by
    intro y hy hn
    obtain ⟨i, hi, hy⟩ := Array.mem_iff_getElem.1 hy
    exact lastBelowFrom_reaches h (by omega) (Nat.le_refl _) (Nat.zero_le i) hi
      (Array.getElem?_eq_some_iff.2 ⟨hi, hy⟩) hn
  constructor
  · intro hx
    obtain ⟨hmem, hn⟩ := lastBelow_mem hx
    refine ⟨hmem, hn, fun y hy hyn => ?_⟩
    obtain ⟨z, hz, hyz⟩ := hreaches y hy hyn
    rwa [← Option.some.inj (hx.symm.trans hz)] at hyz
  · rintro ⟨hmem, hn, hgreatest⟩
    obtain ⟨z, hz, hxz⟩ := hreaches x hmem hn
    obtain ⟨hzmem, hzn⟩ := lastBelow_mem hz
    obtain ⟨i, -, hi⟩ := lastBelowFrom_index hz
    obtain ⟨j, hj, rfl⟩ := Array.mem_iff_getElem.1 hmem
    have hx := Array.getElem?_eq_some_iff.2 ⟨hj, rfl⟩
    have hij := Nat.le_antisymm (h.le_of_key_le hi hx (hgreatest z hzmem hzn))
      (h.le_of_key_le hx hi hxz)
    rw [hz, ← hi, hij, hx]

/-- What is found for two code points is found for every code point between them. -/
theorem lastBelow_between (h : Rising key table) {a b : Nat} (ha : lastBelow key table a = some x)
    (hb : lastBelow key table b = some y) (hxy : key x = key y) (han : a ≤ n) (hnb : n ≤ b) :
    lastBelow key table n = some x := by
  rw [lastBelow_eq_some_iff h] at ha hb ⊢
  obtain ⟨hmem, hfirst, -⟩ := ha
  refine ⟨hmem, hfirst.trans han, fun z hz hzn => ?_⟩
  rw [hxy]
  exact hb.2.2 z hz (hzn.trans hnb)

end FormDialogue.Unicode
