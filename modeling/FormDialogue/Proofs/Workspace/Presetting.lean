import FormDialogue.Proofs.Workspace.Assigning
import FormDialogue.Proofs.Workspace.Templates

/-! # Filling a scope first

Records may be merged in any order. So a scope of a resolution can be filled from the defaults
beforehand, as a template is when it is registered. It then stands for itself and for the defaults.
The last scope is followed by the defaults in any case, and so is a registered template; it makes no
difference whether they are filled. An earlier scope that was filled hides what the scopes behind it
would have given. -/

namespace FormDialogue.Action
open Record (OptionName Options Usage)
variable {α β : Type} {w v : Workspace} {c : Ref Cascade} {a b g t record first : Ref Record}
  {rest : List (Ref Record)} {before after scopes overrides : List (Option (Ref Record))}
  {usage : Usage}

/-- The result of an action, and a record as the action leaves it. -/
def resultWith (x : Action α) (r : Ref Record) (w : Workspace) : Except Failure α × Record :=
  ((x.runIn w).1, (x.runIn w).2.store.get r)

theorem resultWith_bind_ok {x : Action α} {a : α} (h : x.runIn w = (.ok a, v)) (f : α → Action β)
    (r : Ref Record) : resultWith (x >>= f) r w = resultWith (f a) r v := by
  rw [resultWith, runIn_bind_ok h, resultWith]

theorem runIn_inherit (a b : Ref Record) (w : Workspace) :
    (inherit a b).runIn w = (.ok (), { w with store := w.store.inherit a b }) := rfl

theorem runIn_inherit_of_eq (h : w.store.inherit a b = w.store) :
    (inherit a b).runIn w = (.ok (), w) := by
  rw [runIn_inherit, h]

/-! ## What a resolution depends on -/

/-- A resolution depends on the record and on what its chain gives. -/
theorem resultWith_resolve_congr (hrecord : v.store.get record = w.store.get record)
    (hfirst : ∀ n, v.store.firstSet n (chainOf v c record scopes) =
      w.store.firstSet n (chainOf w c record scopes)) :
    resultWith (resolve c record scopes) record v =
      resultWith (resolve c record scopes) record w := by
  have hmissing : missingIn v (chainOf v c record scopes) =
      missingIn w (chainOf w c record scopes) := by
    refine congrArg (OptionName.all.filter ·) (funext fun n => ?_)
    rw [← Store.isUnset_firstSet, ← Store.isUnset_firstSet, hfirst n]
  rw [resultWith, resultWith, resolve_result, resolve_result, hmissing, hrecord, resolve_record,
    resolve_record, hrecord]
  simp only [hfirst]

theorem resultWith_resolveTemplate (h : overrides.reduceOption = first :: rest) :
    let resolved :=
      resultWith (resolve c first (rest.map some ++ [(w.cascades.get c).registered usage])) first w
    resultWith (resolveTemplate c usage overrides) first w =
      (resolved.1.map some, resolved.2) := by
  intro resolved
  rw [resultWith, resolveTemplate_cons h]
  rfl

/-! ## Filling a scope from the defaults -/

theorem chainOf_scope (w : Workspace) (c : Ref Cascade) (record g : Ref Record)
    (before after : List (Option (Ref Record))) :
    chainOf w c record (before ++ some g :: after) =
      (record :: before.reduceOption) ++
        g :: (after.reduceOption ++ [(w.cascades.get c).defaults]) := by
  rw [chainOf, List.reduceOption_append, List.reduceOption_cons_of_some, List.append_assoc]
  rfl

section Scope
variable (h : g ∉ record :: before.reduceOption)
include h

theorem resolve_preset_last (hlast : after.reduceOption = []) :
    let plain := resolve c record (before ++ some g :: after)
    let preset := do inherit g (w.cascades.get c).defaults; plain
    resultWith preset record w = resultWith plain record w := by
  intro plain preset
  rw [resultWith_bind_ok (runIn_inherit g _ w)]
  refine resultWith_resolve_congr (Store.get_inherit_other (List.ne_of_not_mem_cons h).symm _) ?_
  intro n
  rw [chainOf_scope, chainOf_scope, hlast]
  exact Store.firstSet_presetting_last w.store n h _

/-- Filling a scope first changes an option exactly if the defaults set it, no record up to the scope
does, and what comes behind the scope gives another value than the defaults have. -/
theorem resolve_preset_agrees_iff (n : OptionName) :
    let d := (w.cascades.get c).defaults
    let plain := resolve c record (before ++ some g :: after)
    let preset := do inherit g d; plain
    (resultWith preset record w).2.options.get n = (resultWith plain record w).2.options.get n ↔
      (w.store.unsetThroughout (record :: before.reduceOption ++ [g]) n = true →
        (w.store.get d).options.isUnset n = false →
        (w.store.get d).options.get n = w.store.firstSet n (after.reduceOption ++ [d])) := by
  intro d plain preset
  have hplain : (resultWith plain record w).2.options.get n =
      w.store.firstSet n (record :: before.reduceOption ++ [g] ++ (after.reduceOption ++ [d])) := by
    rw [resultWith, resolve_record]
    dsimp only
    rw [Options.get_tabulate, chainOf_scope, List.append_cons]
  have hpreset : (resultWith preset record w).2.options.get n =
      w.store.firstSet n
        (record :: before.reduceOption ++ [g] ++ d :: (after.reduceOption ++ [d])) := by
    rw [resultWith_bind_ok (runIn_inherit g d w), resultWith, resolve_record]
    dsimp only
    rw [Options.get_tabulate, chainOf_scope, ← List.append_cons]
    exact Store.firstSet_presetting w.store n h d _
  rw [hplain, hpreset]
  exact Store.firstSet_insert_iff

end Scope

theorem register_of_usage (husage : (w.store.get t).usage? = some usage) :
    let registered := ((register c t).runIn w).2
    registered.store = w.store.inherit t (w.cascades.get c).defaults ∧
      registered.cascades.get c = (w.cascades.get c).assign usage t := by
  intro registered
  obtain ⟨hstore, hcascade, -⟩ := Call.register_after c t w
  refine ⟨hstore.trans (Cascade.register_store _ t _), hcascade.trans ?_⟩
  rw [Cascade.register_result, Registration.of?, husage]
  rfl

theorem resolveTemplate_of_registered (husage : (w.store.get t).usage? = some usage)
    (hgiven : overrides.reduceOption = first :: rest) (ht : t ∉ first :: rest) :
    let unfilled := { w with
      cascades := w.cascades.set c ((w.cascades.get c).assign usage t) }
    resultWith (resolveTemplate c usage overrides) first ((register c t).runIn w).2 =
      resultWith (resolveTemplate c usage overrides) first unfilled := by
  intro unfilled
  obtain ⟨hstore, hcascade⟩ := register_of_usage (c := c) husage
  have hunfilled : unfilled.cascades.get c = (w.cascades.get c).assign usage t :=
    Heap.get_set_same _ _ _
  have hregistered : ((w.cascades.get c).assign usage t).registered usage = some t := if_pos rfl
  -- Behind the overrides the template is the last scope, filled or not.
  have hresolve : resultWith (resolve c first (rest.map some ++ [some t])) first
      ((register c t).runIn w).2 =
      resultWith (resolve c first (rest.map some ++ [some t])) first unfilled := by
    apply resultWith_resolve_congr
    · rw [hstore]
      exact Store.get_inherit_other (List.ne_of_not_mem_cons ht).symm _
    · intro n
      rw [chainOf_scope, chainOf_scope, Call.reduceOption_map_some, hstore, hcascade, hunfilled]
      exact Store.firstSet_presetting_last w.store n ht _
  rw [resultWith_resolveTemplate hgiven, resultWith_resolveTemplate hgiven, hcascade, hunfilled,
    hregistered, hresolve]

/-- Filling a record from another never fails and gives every option its first set value. It may be
done by checked assignments, and once is enough. A record that sets every option stays as it is, and
so does one that is filled from itself. Filling is associative: what fills a record may be filled
first, or a copy of it. So the last scope of a resolution, and the registered template behind the
overrides for a usage, may be filled from the defaults first. Filling another scope first changes
the options that the records up to it leave unset and to which the scopes behind it give other
values than the defaults have. -/
theorem merges_in_any_order (w : Workspace) :
    (∀ a b,
      let merged := ((inherit a b).runIn w).2
      (inherit a b).runIn w = (OptionName.all.forM (assignUnset a b)).runIn w ∧
      ((inherit a b).runIn w).1 = .ok () ∧
      (∀ n, (merged.store.get a).options.get n = w.store.firstSet n [a, b]) ∧
      (∀ r, r ≠ a → merged.store.get r = w.store.get r) ∧
      (inherit a b).runIn merged = (.ok (), merged) ∧
      ((w.store.get a).options.isResolved = true → merged = w) ∧
      (inherit a a).runIn w = (.ok (), w)) ∧
    (∀ a b e,
      let options (x : Action Unit) := (resultWith x a w).2.options
      let inTurn := options do inherit a b; inherit a e
      inTurn = options (do inherit b e; inherit a b) ∧
      (w.store.Has a → w.store.Has e →
        inTurn = options (do let copy ← copyOf b; inherit copy e; inherit a copy))) ∧
    (∀ c record g before after, g ∉ record :: before.reduceOption →
      let d := (w.cascades.get c).defaults
      let plain := resolve c record (before ++ some g :: after)
      let preset := do inherit g d; plain
      (after.reduceOption = [] → resultWith preset record w = resultWith plain record w) ∧
      ∀ n, (resultWith preset record w).2.options.get n =
          (resultWith plain record w).2.options.get n ↔
        (w.store.unsetThroughout (record :: before.reduceOption ++ [g]) n = true →
          (w.store.get d).options.isUnset n = false →
          (w.store.get d).options.get n = w.store.firstSet n (after.reduceOption ++ [d]))) ∧
    ∀ c t usage overrides first rest, (w.store.get t).usage? = some usage →
      overrides.reduceOption = first :: rest → t ∉ first :: rest →
      let unfilled := { w with
        cascades := w.cascades.set c ((w.cascades.get c).assign usage t) }
      let ask := resolveTemplate c usage overrides
      resultWith ask first ((register c t).runIn w).2 = resultWith ask first unfilled := by
  refine ⟨fun a b => ?_, fun a b e => ?_, fun c record g before after h => ?_,
    fun c t usage overrides first rest husage hgiven ht =>
      resolveTemplate_of_registered husage hgiven ht⟩
  · intro merged
    refine ⟨runIn_inherit_eq_assign a b w, rfl, Store.get_fill_inherit w.store a b,
      fun r hr => Store.get_inherit_other hr b,
      runIn_inherit_of_eq (Store.inherit_inherit w.store a b), fun h => ?_,
      runIn_inherit_of_eq (Store.inherit_self w.store a)⟩
    exact congrArg Prod.snd (runIn_inherit_of_eq (Store.inherit_of_resolved h b))
  · exact ⟨Store.inherit_assoc w.store a b e, fun ha he => Store.inherit_assoc_copy ha he b⟩
  · exact ⟨resolve_preset_last h, resolve_preset_agrees_iff h⟩

theorem merges_in_any_order_sample :
    let options (x : Action Unit) := (resultWith x ⟨1⟩ sample).2.options
    let plain := resolve ⟨0⟩ ⟨1⟩ [none, some ⟨2⟩]
    let ask := resolveTemplate ⟨0⟩ .help [some ⟨4⟩]
    let unfilled := { sample with
      cascades := sample.cascades.set ⟨0⟩ ((sample.cascades.get ⟨0⟩).assign .help ⟨3⟩) }
    (sample.store.Has ⟨1⟩ ∧ sample.store.Has ⟨0⟩ ∧
      options (do inherit ⟨1⟩ ⟨2⟩; inherit ⟨1⟩ ⟨0⟩) =
        options (do let copy ← copyOf ⟨2⟩; inherit copy ⟨0⟩; inherit ⟨1⟩ copy)) ∧
      resultWith (do inherit ⟨2⟩ ⟨0⟩; plain) ⟨1⟩ sample = resultWith plain ⟨1⟩ sample ∧
      resultWith ask ⟨4⟩ ((register ⟨0⟩ ⟨3⟩).runIn sample).2 = resultWith ask ⟨4⟩ unfilled := by
  intro options plain ask unfilled
  obtain ⟨-, hassoc, hscope, htemplate⟩ := merges_in_any_order sample
  have hfirst : sample.store.Has ⟨1⟩ := by decide
  have hlast : sample.store.Has ⟨0⟩ := by decide
  refine ⟨⟨hfirst, hlast, (hassoc ⟨1⟩ ⟨2⟩ ⟨0⟩).2 hfirst hlast⟩, ?_, ?_⟩
  · exact (hscope ⟨0⟩ ⟨1⟩ ⟨2⟩ [none] [] (by decide)).1 rfl
  · exact htemplate ⟨0⟩ ⟨3⟩ .help [some ⟨4⟩] ⟨4⟩ [] rfl rfl (by decide)

/-- A scope that was filled from the defaults hides the separator of the scope behind it. -/
theorem preset_scope_hides_next :
    let plain := resolve ⟨0⟩ ⟨1⟩ [some ⟨2⟩, some ⟨3⟩]
    let preset := do inherit ⟨2⟩ ⟨0⟩; plain
    (resultWith plain ⟨1⟩ sample).2.options.separator = some "; " ∧
      (resultWith preset ⟨1⟩ sample).2.options.separator = some ", " :=
  ⟨rfl, rfl⟩

end FormDialogue.Action
