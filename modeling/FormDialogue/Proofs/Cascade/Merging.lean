import FormDialogue.Proofs.Cascade.FirstSet

/-! # Merging options

Filling options from others is idempotent and associative, and does nothing to options that are all
set. So a record can be filled from a chain step by step, or one of its scopes can be filled first.
A scope that was filled stands in the chain for itself and for its filler behind it. That makes a
difference exactly where the filler gives a value that the records behind the scope would not have
given. -/

namespace FormDialogue
open Record (OptionKind OptionName Options)

namespace Record.Options
variable {a b c : Options} {n : OptionName}

theorem isUnset_fill (a b : Options) (n : OptionName) :
    (a.fill b).isUnset n = (a.isUnset n && b.isUnset n) := by
  cases ha : a.isUnset n with
  | true => rw [isUnset, get_fill_of_unset ha, Bool.true_and, isUnset]
  | false =>
    rw [isUnset, get_fill_of_set ha, Bool.false_and]
    exact ha

theorem fill_self (a : Options) : a.fill a = a := by
  apply ext_get
  intro n
  cases ha : a.isUnset n with
  | true => exact get_fill_of_unset ha
  | false => exact get_fill_of_set ha

theorem fill_assoc (a b c : Options) : (a.fill b).fill c = a.fill (b.fill c) := by
  apply ext_get
  intro n
  have hunset := isUnset_fill a b n
  cases ha : a.isUnset n with
  | false =>
    rw [ha, Bool.false_and] at hunset
    rw [get_fill_of_set hunset, get_fill_of_set ha, get_fill_of_set ha]
  | true =>
    rw [ha, Bool.true_and] at hunset
    rw [get_fill_of_unset ha]
    cases hb : b.isUnset n with
    | false => rw [get_fill_of_set (hunset.trans hb), get_fill_of_unset ha, get_fill_of_set hb]
    | true => rw [get_fill_of_unset (hunset.trans hb), get_fill_of_unset hb]

theorem fill_fill (a b : Options) : (a.fill b).fill b = a.fill b := by
  rw [fill_assoc, fill_self]

theorem fill_of_resolved (h : a.isResolved = true) (b : Options) : a.fill b = a := by
  apply ext_get
  intro n
  exact get_fill_of_set (isResolved_iff.1 h n)

end Record.Options

namespace Store
variable {s t : Store} {r g d a b c : Ref Record} {n : OptionName}
  {before chain rest : List (Ref Record)}

/-! ## Filling one record from another -/

theorem inherit_of_fill_eq (h : (s.get r).options.fill (s.get g).options = (s.get r).options) :
    s.inherit r g = s := by
  rw [inherit, Heap.modify, h]
  exact Heap.set_get s r

theorem inherit_self (s : Store) (r : Ref Record) : s.inherit r r = s :=
  inherit_of_fill_eq (Options.fill_self _)

theorem inherit_of_resolved (h : (s.get r).options.isResolved = true) (g : Ref Record) :
    s.inherit r g = s := inherit_of_fill_eq (Options.fill_of_resolved h _)

theorem inherit_inherit (s : Store) (r g : Ref Record) :
    (s.inherit r g).inherit r g = s.inherit r g := by
  by_cases hg : g = r
  · rw [hg, inherit_self]
  · apply inherit_of_fill_eq
    rw [get_inherit_other hg, get_inherit_same]
    exact Options.fill_fill _ _

/-! ## Filling a scope first -/

/-- A record of a chain that was filled stands for itself and for its filler behind it. -/
theorem firstSet_presetting (s : Store) (n : OptionName) (h : g ∉ before) (d : Ref Record)
    (rest : List (Ref Record)) :
    (s.inherit g d).firstSet n (before ++ g :: rest) = s.firstSet n (before ++ g :: d :: rest) := by
  induction before with
  | nil => exact firstSet_inherit s g d n rest
  | cons p before ih =>
    obtain ⟨hp, hbefore⟩ := List.ne_and_not_mem_of_not_mem_cons h
    rw [List.cons_append, List.cons_append, firstSet, firstSet, get_inherit_other (Ne.symm hp),
      ih hbefore]

theorem firstSet_append (s : Store) (n : OptionName) (chain rest : List (Ref Record)) :
    s.firstSet n (chain ++ rest) =
      if s.unsetThroughout chain n then s.firstSet n rest else s.firstSet n chain := by
  induction chain with
  | nil => rfl
  | cons r chain ih =>
    rw [List.cons_append, unsetThroughout, List.all_cons]
    cases hr : (s.get r).options.isUnset n with
    | true => rw [firstSet_cons_of_unset hr, firstSet_cons_of_unset hr, ih, Bool.true_and,
        unsetThroughout]
    | false =>
      rw [firstSet_cons_of_set hr, firstSet_cons_of_set hr, Bool.false_and]
      rfl

/-- A record put into a chain makes no difference to an option that is set before it, that it does
not set itself, or to which it gives the value that the rest of the chain gives. -/
theorem firstSet_insert_iff :
    s.firstSet n (chain ++ d :: rest) = s.firstSet n (chain ++ rest) ↔
      (s.unsetThroughout chain n = true → (s.get d).options.isUnset n = false →
        (s.get d).options.get n = s.firstSet n rest) := by
  rw [firstSet_append, firstSet_append]
  cases hchain : s.unsetThroughout chain n with
  | false => simp
  | true =>
    cases hd : (s.get d).options.isUnset n with
    | true => simp [firstSet_cons_of_unset hd]
    | false => simp [firstSet_cons_of_set hd]

/-- It makes no difference whether the second last record of a chain was filled from the last. -/
theorem firstSet_presetting_last (s : Store) (n : OptionName) (h : g ∉ before) (d : Ref Record) :
    (s.inherit g d).firstSet n (before ++ [g, d]) = s.firstSet n (before ++ [g, d]) := by
  rw [firstSet_presetting s n h, List.append_cons, List.append_cons before g [d], firstSet_insert_iff]
  intro _ hset
  exact (firstSet_cons_of_set hset).symm

/-! ## Filling in either order -/

theorem options_inheritAll (s : Store) (r : Ref Record) (chain : List (Ref Record)) :
    ((s.inheritAll r chain).get r).options = .tabulate fun n => s.firstSet n (r :: chain) := by
  rw [get_inheritAll_same]

theorem options_inherit_inherit (s : Store) (a b c : Ref Record) :
    (((s.inherit a b).inherit a c).get a).options = .tabulate fun n => s.firstSet n [a, b, c] :=
  options_inheritAll s a [b, c]

theorem options_inherit_preset (s : Store) (hne : b ≠ a) (c : Ref Record) :
    (((s.inherit b c).inherit a b).get a).options = .tabulate fun n => s.firstSet n [a, b, c] := by
  have hbefore : b ∉ [a] := by simpa using hne
  refine (options_inheritAll (s.inherit b c) a [b]).trans ?_
  exact congrArg Options.tabulate (funext fun n => firstSet_presetting s n hbefore c [])

theorem inherit_assoc (s : Store) (a b c : Ref Record) :
    (((s.inherit a b).inherit a c).get a).options =
      (((s.inherit b c).inherit a b).get a).options := by
  by_cases hne : b = a
  · rw [hne, inherit_self, inherit_self]
  · rw [options_inherit_inherit, options_inherit_preset s hne]

/-- The record between the two may as well be a copy. -/
theorem inherit_assoc_copy (ha : s.Has a) (hc : s.Has c) (b : Ref Record) :
    (((s.inherit a b).inherit a c).get a).options =
      (((Store.inherit (s.push (s.get b)) s.fresh c).inherit a s.fresh).get a).options := by
  have hne : s.fresh ≠ a := by
    rintro rfl
    exact absurd ha (Nat.lt_irrefl _)
  rw [options_inherit_inherit, options_inherit_preset _ hne]
  refine congrArg Options.tabulate (funext fun n => ?_)
  have hga := Heap.get_push_old ha (s.get b)
  have hgb := Heap.get_push_fresh s (s.get b)
  have hgc := Heap.get_push_old hc (s.get b)
  simp only [firstSet, hga, hgb, hgc]

end Store

end FormDialogue
