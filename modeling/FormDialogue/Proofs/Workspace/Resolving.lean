import FormDialogue.Proofs.Cascade.FirstSet

/-! # Cascades in a workspace

What the operations of a cascade give and what they leave behind: the store as the cascade fills it,
some more notices, and a new or a changed cascade where one is built or a template is registered.
Everything else in the workspace stays. Where the defaults set every option, resolution fails for
want of patterns only. -/

namespace FormDialogue.Action
open Record (Options Usage)
variable {c : Ref Cascade} {record : Ref Record} {scopes overrides : List (Option (Ref Record))}
  {usage : Usage} {w : Workspace}

theorem runIn_getCascade (c : Ref Cascade) (w : Workspace) :
    (getCascade c).runIn w = (.ok (w.cascades.get c), w) := rfl

theorem runIn_newCascade (cascade : Cascade) (w : Workspace) :
    (newCascade cascade).runIn w =
      (.ok w.cascades.fresh, { w with cascades := w.cascades.push cascade }) := rfl

theorem runIn_getRecord (r : Ref Record) (w : Workspace) :
    (getRecord r).runIn w = (.ok (w.store.get r), w) := rfl

theorem resolve_state (c : Ref Cascade) (record : Ref Record) (scopes : List (Option (Ref Record)))
    (w : Workspace) :
    ∃ notices, ((resolve c record scopes).runIn w).2 = { w with
      store := ((w.cascades.get c).resolve record scopes w.store).1
      notices := notices } := by
  have hstore := runIn_onStore ((w.cascades.get c).resolve record scopes) w
  rw [resolve, runIn_bind_ok (runIn_getCascade c w), runIn_bind, hstore]
  cases ((w.cascades.get c).resolve record scopes w.store).2.result with
  | ok u => exact ⟨_, rfl⟩
  | error why => exact ⟨_, rfl⟩

theorem resolveTemplate_nil (h : overrides.reduceOption = []) :
    (resolveTemplate c usage overrides).runIn w =
      (.ok ((w.cascades.get c).registered usage), w) := by
  rw [resolveTemplate, runIn_bind_ok (runIn_getCascade c w), runIn_onStore, Cascade.resolveTemplate,
    h]
  rfl

/-- An override is resolved like any other record, with the registered template as its last
scope. -/
theorem resolveTemplate_cons {first : Ref Record} {rest : List (Ref Record)}
    (h : overrides.reduceOption = first :: rest) :
    let scopes := rest.map some ++ [(w.cascades.get c).registered usage]
    (resolveTemplate c usage overrides).runIn w =
      (((resolve c first scopes).runIn w).1.map some, ((resolve c first scopes).runIn w).2) := by
  intro scopes
  rw [resolveTemplate, resolve, runIn_bind_ok (runIn_getCascade c w),
    runIn_bind_ok (runIn_getCascade c w), runIn_onStore, runIn_bind, runIn_onStore,
    Cascade.resolveTemplate, h]
  dsimp only
  cases ((w.cascades.get c).resolve first
    (rest.map some ++ [(w.cascades.get c).registered usage]) w.store).2.result with
  | ok u => rfl
  | error why => rfl

theorem register_state (c : Ref Cascade) (template : Ref Record) (w : Workspace) :
    let outcome := (w.cascades.get c).register template w.store
    ∃ notices, ((register c template).runIn w).2 = { w with
      store := outcome.1
      notices := notices
      cascades := match outcome.2.result with
        | .ok cascade => w.cascades.set c cascade
        | .error _ => w.cascades } := by
  intro outcome
  have hstore : (onStore ((w.cascades.get c).register template)).runIn w =
      (outcome.2.result, _) := runIn_onStore _ w
  rw [register, runIn_bind_ok (runIn_getCascade c w)]
  cases hresult : outcome.2.result with
  | ok cascade =>
    rw [hresult] at hstore
    rw [runIn_bind_ok hstore, runIn_modify]
    exact ⟨_, rfl⟩
  | error why =>
    rw [hresult] at hstore
    rw [runIn_bind_error hstore]
    exact ⟨_, rfl⟩

theorem runIn_buildCascade (defaults : Ref Record) (templates : List (Ref Record))
    (w : Workspace) :
    let outcome := Cascade.create defaults templates w.store
    ((buildCascade defaults templates).runIn w).1 =
        outcome.2.result.map (fun _ => w.cascades.fresh) ∧
      ∃ notices, ((buildCascade defaults templates).runIn w).2 = { w with
        store := outcome.1
        notices := notices
        cascades := match outcome.2.result with
          | .ok cascade => w.cascades.push cascade
          | .error _ => w.cascades } := by
  intro outcome
  have hstore : (onStore (Cascade.create defaults templates)).runIn w =
      (outcome.2.result, _) := runIn_onStore _ w
  rw [buildCascade]
  cases hresult : outcome.2.result with
  | ok cascade =>
    rw [hresult] at hstore
    rw [runIn_bind_ok hstore, runIn_newCascade]
    exact ⟨rfl, _, rfl⟩
  | error why =>
    rw [hresult] at hstore
    rw [runIn_bind_error hstore]
    exact ⟨rfl, _, rfl⟩

theorem runIn_cascadeOfSettings (s : Settings) (w : Workspace) :
    (cascadeOfSettings s).runIn w = match s.defaults with
      | .ok record => (buildCascade w.store.fresh []).runIn
          { w with store := w.store.push record }
      | .error why => (.error why, w) := by
  rw [cascadeOfSettings, runIn_bind, runIn_ofExcept]
  cases s.defaults with
  | ok record => rfl
  | error why => rfl

/-! ## Resolving through complete defaults -/

theorem missingIn_eq_nil {chain : List (Ref Record)} (h : record ∈ chain)
    (hresolved : (w.store.get record).options.isResolved = true) : missingIn w chain = [] := by
  rw [missingIn, List.filter_eq_nil_iff]
  intro n _ hmissing
  have hunset := List.all_eq_true.1 hmissing record h
  rw [Options.isResolved_iff.1 hresolved n] at hunset
  contradiction

/-- A resolution that misses no option leaves the record with all of them. -/
theorem isResolved_of_missingIn (h : missingIn w (chainOf w c record scopes) = []) :
    (((resolve c record scopes).runIn w).2.store.get record).options.isResolved = true := by
  rw [resolve_record, Options.isResolved_iff]
  intro n
  rw [Options.isUnset, Options.get_tabulate, Store.isUnset_firstSet, ← Bool.not_eq_true]
  intro hunset
  have hmem : n ∈ missingIn w (chainOf w c record scopes) :=
    List.mem_filter.2 ⟨Record.OptionName.mem_all n, hunset⟩
  rw [h] at hmem
  cases hmem

theorem resolve_of_resolved (record : Ref Record) (scopes : List (Option (Ref Record)))
    (hdefaults : (w.store.get (w.cascades.get c).defaults).options.isResolved = true) :
    ((resolve c record scopes).runIn w).1 =
      if (w.store.get record).patterns = [] then .error (.noPatterns .resolution)
      else .ok record := by
  have hmissing : missingIn w (chainOf w c record scopes) = [] :=
    missingIn_eq_nil (by simp [chainOf]) hdefaults
  rw [resolve_result, if_neg (not_not_intro hmissing)]

theorem resolve_of_patterns (scopes : List (Option (Ref Record)))
    (hdefaults : (w.store.get (w.cascades.get c).defaults).options.isResolved = true)
    (hpatterns : (w.store.get record).patterns ≠ []) :
    ∃ store notices,
      (resolve c record scopes).runIn w =
        (.ok record, { w with store := store, notices := notices }) ∧
      store.get record = { w.store.get record with
        options := .tabulate fun n => w.store.firstSet n (chainOf w c record scopes) } := by
  obtain ⟨notices, hstate⟩ := resolve_state c record scopes w
  have hresult := resolve_of_resolved record scopes hdefaults
  rw [if_neg hpatterns] at hresult
  have hrecord : ((resolve c record scopes).runIn w).2.store.get record =
      { w.store.get record with
        options := .tabulate fun n => w.store.firstSet n (chainOf w c record scopes) } :=
    resolve_record
  rw [hstate] at hrecord
  exact ⟨_, notices, Prod.ext hresult hstate, hrecord⟩

theorem resolve_of_no_patterns (scopes : List (Option (Ref Record)))
    (hdefaults : (w.store.get (w.cascades.get c).defaults).options.isResolved = true)
    (hpatterns : (w.store.get record).patterns = []) :
    ((resolve c record scopes).runIn w).1 = .error (.noPatterns .resolution) := by
  rw [resolve_of_resolved record scopes hdefaults, if_pos hpatterns]

theorem resolve_ne_unresolved (hdefaults :
    (w.store.get (w.cascades.get c).defaults).options.isResolved = true) (record : Ref Record)
    (scopes : List (Option (Ref Record))) (names : List String) :
    ((resolve c record scopes).runIn w).1 ≠ .error (.unresolved names) := by
  rw [resolve_of_resolved record scopes hdefaults]
  intro h
  split at h
  · cases h
  · cases h

theorem resolveTemplate_ne_unresolved (hdefaults :
    (w.store.get (w.cascades.get c).defaults).options.isResolved = true) (usage : Usage)
    (overrides : List (Option (Ref Record))) (names : List String) :
    ((resolveTemplate c usage overrides).runIn w).1 ≠ .error (.unresolved names) := by
  intro h
  cases hchain : overrides.reduceOption with
  | nil =>
    rw [resolveTemplate_nil hchain] at h
    cases h
  | cons first rest =>
    rw [resolveTemplate_cons hchain, resolve_of_resolved first _ hdefaults] at h
    dsimp only at h
    split at h
    · cases h
    · cases h

end FormDialogue.Action
