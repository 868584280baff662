import FormDialogue.Proofs.Cascade.FirstSet

/-! # What filling leaves as it is

Whatever a cascade does to a store, it fills records from chains of records. A record keeps its
kind, its patterns and whether it is localized; an option that is set keeps its value, and one that
is not may take the value of another record of the chain. -/

namespace FormDialogue
open Record (OptionKind OptionName Options)

/-- What became of a record between two stores, if all that happened was that some records were
filled from a chain. -/
structure Store.FilledFrom (records chain : List (Ref Record)) (s t : Store) (r : Ref Record) :
    Prop where
  has : s.Has r → t.Has r
  kind : (t.get r).kind = (s.get r).kind
  patterns : (t.get r).patterns = (s.get r).patterns
  localizable : (t.get r).localizable = (s.get r).localizable
  options : ∀ n, (t.get r).options.get n = (s.get r).options.get n ∨
    r ∈ records ∧ (s.get r).options.isUnset n = true ∧
      ∃ q ∈ chain, q ≠ r ∧ (s.get q).options.get n = (t.get r).options.get n

namespace Store
variable {records chain : List (Ref Record)} {s t u : Store} {r g : Ref Record} {n : OptionName}

theorem FilledFrom.of_eq (hhas : s.Has r → t.Has r) (h : t.get r = s.get r) :
    FilledFrom records chain s t r where
  has := hhas
  kind := by rw [h]
  patterns := by rw [h]
  localizable := by rw [h]
  options := fun n => Or.inl (by rw [h])

theorem FilledFrom.get_of_set (h : FilledFrom records chain s t r)
    (hset : (s.get r).options.isUnset n = false) :
    (t.get r).options.get n = (s.get r).options.get n := by
  obtain heq | ⟨-, hunset, -⟩ := h.options n
  · exact heq
  · rw [hset] at hunset
    contradiction

theorem record_ext {a b : Record} (hkind : a.kind = b.kind) (hpatterns : a.patterns = b.patterns)
    (hlocalizable : a.localizable = b.localizable)
    (hoptions : ∀ n, a.options.get n = b.options.get n) : a = b := by
  have hext : a.options = b.options := Options.ext_get hoptions
  cases a
  cases b
  simp_all

theorem FilledFrom.get_of_resolved (h : FilledFrom records chain s t r)
    (hresolved : (s.get r).options.isResolved = true) : t.get r = s.get r :=
  record_ext h.kind h.patterns h.localizable fun n =>
    h.get_of_set (Options.isResolved_iff.1 hresolved n)

theorem FilledFrom.get_of_not_mem (h : FilledFrom records chain s t r) (hr : r ∉ records) :
    t.get r = s.get r := by
  apply record_ext h.kind h.patterns h.localizable
  intro n
  obtain heq | ⟨hmem, -⟩ := h.options n
  · exact heq
  · exact absurd hmem hr

theorem FilledFrom.weaken {records' chain' : List (Ref Record)} (h : FilledFrom records chain s t r)
    (hrecords : records ⊆ records') (hchain : chain ⊆ chain') :
    FilledFrom records' chain' s t r where
  has := h.has
  kind := h.kind
  patterns := h.patterns
  localizable := h.localizable
  options := by
    intro n
    obtain hsame | ⟨hr, hunset, q, hq, hvalue⟩ := h.options n
    · exact Or.inl hsame
    · exact Or.inr ⟨hrecords hr, hunset, q, hchain hq, hvalue⟩

/-- Records that are filled in two steps are filled. The value that a record takes in the second
step was there before the first: if the giver had it from another record, that one gives it. -/
theorem FilledFrom.trans (hchain : ∀ q ∈ chain, FilledFrom records chain s t q)
    (hr : FilledFrom records chain s t r) (h : FilledFrom records chain t u r) :
    FilledFrom records chain s u r where
  has := h.has ∘ hr.has
  kind := h.kind.trans hr.kind
  patterns := h.patterns.trans hr.patterns
  localizable := h.localizable.trans hr.localizable
  options := by
    intro n
    obtain hsame | ⟨hmem, hunset, q, hq, hne, hvalue⟩ := h.options n
    · rw [hsame]
      exact hr.options n
    have hbefore : (s.get r).options.isUnset n = true := by
      obtain hfirst | ⟨-, hunset', -⟩ := hr.options n
      · rw [Options.isUnset, ← hfirst]
        exact hunset
      · exact hunset'
    obtain hgiver | ⟨-, -, p, hp, -, hgiven⟩ := (hchain q hq).options n
    · exact Or.inr ⟨hmem, hbefore, q, hq, hne, hgiver.symm.trans hvalue⟩
    by_cases hpr : p = r
    · subst hpr
      exact Or.inl (hvalue.symm.trans hgiven.symm)
    · exact Or.inr ⟨hmem, hbefore, p, hp, hpr, hgiven.trans hvalue⟩

theorem filledFrom_inherit (s : Store) (r g q : Ref Record) :
    FilledFrom [r] [g] s (s.inherit r g) q := by
  by_cases hq : q = r
  · subst hq
    have hget := get_inherit_same s q g
    refine ⟨id, by rw [hget], by rw [hget], by rw [hget], fun n => ?_⟩
    rw [hget]
    cases hunset : (s.get q).options.isUnset n with
    | false => exact Or.inl (Options.get_fill_of_set hunset)
    | true =>
      rw [Options.get_fill_of_unset hunset]
      by_cases hg : g = q
      · subst hg
        exact Or.inl rfl
      · exact Or.inr ⟨List.mem_singleton_self q, rfl, g, List.mem_singleton_self g, hg, rfl⟩
  · exact .of_eq id (get_inherit_other hq g)

theorem filledFrom_inheritAll (s : Store) (r : Ref Record) (chain : List (Ref Record))
    (q : Ref Record) : FilledFrom [r] chain s (s.inheritAll r chain) q := by
  induction chain generalizing s q with
  | nil => exact .of_eq id rfl
  | cons g rest ih =>
    have hfirst : ∀ p, FilledFrom [r] (g :: rest) s (s.inherit r g) p := fun p =>
      (filledFrom_inherit s r g p).weaken (List.Subset.refl _) (by simp)
    have hrest := (ih (s.inherit r g) q).weaken (List.Subset.refl _) (List.subset_cons_self g rest)
    exact .trans (fun p _ => hfirst p) (hfirst q) hrest

end Store

/-! ## Cascades -/

namespace Cascade
open Store
variable {c c' : Cascade} {t q : Ref Record} {s : Store}

theorem register_store (c : Cascade) (t : Ref Record) (s : Store) :
    (c.register t s).1 = s.inherit t c.defaults := by
  unfold register
  dsimp only
  cases ((s.inherit t c.defaults).get t).usage? <;> rfl

theorem register_defaults (h : (c.register t s).2.result = .ok c') : c'.defaults = c.defaults := by
  unfold register at h
  dsimp only at h
  cases hu : ((s.inherit t c.defaults).get t).usage? with
  | none =>
    rw [hu] at h
    cases h
  | some usage =>
    rw [hu] at h
    cases h
    rfl

/-- Registering several templates stops at the first that cannot be registered. -/
theorem registerAll_cons (c : Cascade) (t : Ref Record) (rest : List (Ref Record)) (s : Store) :
    let first := c.register t s
    let outcome := c.registerAll s (t :: rest)
    (∃ why, first.2.result = .error why ∧ outcome.1 = first.1 ∧ outcome.2.result = .error why) ∨
    ∃ c', first.2.result = .ok c' ∧ outcome.1 = (c'.registerAll first.1 rest).1 ∧
      outcome.2.result = (c'.registerAll first.1 rest).2.result := by
  intro first outcome
  have houtcome : outcome = c.registerAll s (t :: rest) := rfl
  unfold registerAll at houtcome
  rw [houtcome]
  rcases hfirst : first with ⟨s', ⟨notices, result⟩⟩
  have hregister : c.register t s = ⟨s', ⟨notices, result⟩⟩ := hfirst
  rw [hregister]
  cases result with
  | error why => exact Or.inl ⟨why, rfl, rfl, rfl⟩
  | ok c' => exact Or.inr ⟨c', rfl, rfl, rfl⟩

theorem filledFrom_registerAll (c : Cascade) (s : Store) (templates : List (Ref Record))
    (q : Ref Record) : FilledFrom templates [c.defaults] s (c.registerAll s templates).1 q := by
  induction templates generalizing c s q with
  | nil => exact .of_eq id rfl
  | cons t rest ih =>
    have hfirst : ∀ p, FilledFrom (t :: rest) [c.defaults] s (c.register t s).1 p := by
      intro p
      rw [register_store]
      exact (filledFrom_inherit s t c.defaults p).weaken (by simp) (List.Subset.refl _)
    obtain ⟨why, -, hstore, -⟩ | ⟨c', hregister, hstore, -⟩ := registerAll_cons c t rest s
    · rw [hstore]
      exact hfirst q
    · have hrest := ih c' (c.register t s).1 q
      rw [register_defaults hregister] at hrest
      rw [hstore]
      exact .trans (fun p _ => hfirst p) (hfirst q)
        (hrest.weaken (List.subset_cons_self t rest) (List.Subset.refl _))

theorem filledFrom_create (defaults : Ref Record) (templates : List (Ref Record)) (s : Store)
    (q : Ref Record) : FilledFrom templates [defaults] s (create defaults templates s).1 q := by
  unfold create
  cases s.unresolved defaults with
  | nil => exact filledFrom_registerAll ⟨defaults, fun _ => none⟩ s templates q
  | cons name names => exact .of_eq id rfl

theorem filledFrom_resolve (c : Cascade) (record : Ref Record) (scopes : List (Option (Ref Record)))
    (s : Store) (q : Ref Record) :
    FilledFrom [record] (scopes.reduceOption ++ [c.defaults]) s (c.resolve record scopes s).1 q :=
  filledFrom_inheritAll s record _ q

end Cascade

end FormDialogue
