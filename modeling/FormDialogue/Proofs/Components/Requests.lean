import FormDialogue.Proofs.Components.Building
import FormDialogue.Proofs.Settings.Ending

/-! # Requests for components

Every request looks into its place first, and otherwise makes the component and keeps it. So it only
takes steps of building, fills no place but those that its component needs, and succeeds exactly if
each of them is filled or can be. -/

namespace FormDialogue

namespace Action
open Choice (Renderer)
open Draw (Source)
open Record (Style)
variable {α β : Type} {r : Ref Components} {w v : Workspace}

/-! ## Remembering -/

/-- What is held, or else what is made now and kept. -/
def remembered (r : Ref Components) (look : Components → Option α) (make : Action α)
    (put : α → Components → Components) : Action α := do
  match look (← getComponents r) with
  | some x => return x
  | none =>
    let x ← make
    keep r (put x)
    return x

def makeSource (r : Ref Components) : Action (Ref Source) := do
  let seed := (← componentSettings r).datum .randomSeed
  report [.newSource (!seed.isNull)]
  newSource (← ofExcept (Source.ofDatum seed ((← get).entropy r)))

def makeSelector (r : Ref Components) : Action (Ref Selector) := do newSelector (← sourceOf r)

def makeCascade (r : Ref Components) : Action (Ref Cascade) := do
  report [.newCascade]
  cascadeOfSettings (← componentSettings r)

def makeRenderer (r : Ref Components) (style : Style) : Action (Ref Renderer) := do
  report [.newRenderer style]
  let threshold := (← componentSettings r).threshold
  newRenderer (← ofExcept (Renderer.create style threshold))

def makeFormatter (r : Ref Components) : Action (Ref Formatter) := do
  let selector ← selectorOf r
  let cascade ← cascadeOf r
  let threshold := (← componentSettings r).threshold
  newFormatter ⟨selector, cascade, threshold⟩

theorem sourceOf_eq : sourceOf r = remembered r Components.source (makeSource r)
    fun x c => { c with source := some x } := by
  simp only [sourceOf, remembered, makeSource, bind_assoc]
  refine bind_congr fun c => ?_
  cases c.source <;> rfl

theorem selectorOf_eq : selectorOf r = remembered r Components.selector (makeSelector r)
    fun x c => { c with selector := some x } := by
  simp only [selectorOf, remembered, makeSelector, bind_assoc]
  refine bind_congr fun c => ?_
  cases c.selector <;> rfl

theorem cascadeOf_eq : cascadeOf r = remembered r Components.cascade (makeCascade r)
    fun x c => { c with cascade := some x } := by
  simp only [cascadeOf, remembered, makeCascade, bind_assoc]
  refine bind_congr fun c => ?_
  cases c.cascade <;> rfl

theorem compilerOf_eq : compilerOf r = remembered r Components.compiler newCompiler
    fun x c => { c with compiler := some x } := by
  refine bind_congr fun c => ?_
  cases c.compiler <;> rfl

def rendererFor (r : Ref Components) (style : Style) : Action (Ref Renderer) :=
  remembered r (fun c => c.renderer style) (makeRenderer r style)
    fun q c => { c with renderer := fun x => if x = style then some q else c.renderer x }

theorem rendererOf_eq {β : Type} [Choice.Askable β] (asked : β) :
    rendererOf r asked = ofExcept (Choice.styleOf asked) >>= rendererFor r := by
  rw [rendererOf]
  refine bind_congr fun style => ?_
  simp only [rendererFor, remembered, makeRenderer, bind_assoc]
  refine bind_congr fun c => ?_
  cases c.renderer style <;> rfl

theorem formatterOf_eq : formatterOf r = remembered r Components.formatter (makeFormatter r)
    fun x c => { c with formatter := some x } := by
  simp only [formatterOf, remembered, makeFormatter, bind_assoc]
  refine bind_congr fun c => ?_
  cases c.formatter <;> rfl

theorem runIn_remembered (r : Ref Components) (look : Components → Option α) (make : Action α)
    (put : α → Components → Components) (w : Workspace) :
    (remembered r look make put).runIn w = match look (w.components.get r) with
      | some x => (.ok x, w)
      | none => match make.runIn w with
        | (.ok x, v) => (.ok x, { v with components := v.components.modify r (put x) })
        | (.error why, v) => (.error why, v) := by
  have hget : (getComponents r).runIn w = (.ok (w.components.get r), w) := rfl
  rw [remembered, runIn_bind_ok hget]
  cases look (w.components.get r) with
  | some x => rfl
  | none =>
    dsimp only
    rw [runIn_bind]
    rcases make.runIn w with ⟨result, v⟩
    cases result with
    | ok x => rfl
    | error why => rfl

/-! ## Serving a request -/

/-- What an action does that gives the component of a place. -/
structure Serves (r : Ref Components) (k : Slot) (wrap : α → Component) (a : Action α)
    (w : Workspace) : Prop where
  grows : Grows r w (a.runIn w).2
  given : ∀ x, (a.runIn w).1 = .ok x → (a.runIn w).2.held r k = some (wrap x)
  succeeds : (∃ x, (a.runIn w).1 = .ok x) ↔ w.Obtainable r k
  untouched : ∀ k' ∉ k.needs, (a.runIn w).2.held r k' = w.held r k'
  again : ∀ y, w.held r k = some y → ∃ x, wrap x = y ∧ a.runIn w = (.ok x, w)

/-- What an action does that makes a component for an empty place, once it has been put there. -/
structure Makes (r : Ref Components) (k : Slot) (make : Action α)
    (put : α → Components → Components) (w : Workspace) : Prop where
  kept : ∀ x v, make.runIn w = (.ok x, v) →
    Grows r w { v with components := v.components.modify r (put x) }
  failed : ∀ why v, make.runIn w = (.error why, v) → Grows r w v
  succeeds : (∃ x, (make.runIn w).1 = .ok x) ↔ w.Obtainable r k
  untouched : ∀ k' ∉ k.needs, (make.runIn w).2.held r k' = w.held r k'

/-- An action that serves gives what it has put into the place, or fails for what cannot be had. -/
theorem Serves.cases {k : Slot} {wrap : α → Component} {a : Action α} (h : Serves r k wrap a w) :
    ∃ v, Grows r w v ∧ (∀ k' ∉ k.needs, v.held r k' = w.held r k') ∧
      ((∃ x, a.runIn w = (.ok x, v) ∧ w.Obtainable r k ∧ v.held r k = some (wrap x)) ∨
        ∃ why, a.runIn w = (.error why, v) ∧ ¬ w.Obtainable r k) := by
  refine ⟨(a.runIn w).2, h.grows, h.untouched, ?_⟩
  cases hresult : (a.runIn w).1 with
  | ok x => exact .inl ⟨x, Prod.ext hresult rfl, h.succeeds.1 ⟨x, hresult⟩, h.given x hresult⟩
  | error why =>
    refine .inr ⟨why, Prod.ext hresult rfl, fun hk => ?_⟩
    obtain ⟨x, hx⟩ := h.succeeds.2 hk
    rw [hresult] at hx
    cases hx

theorem serves_remembered {k : Slot} {wrap : α → Component} {look : Components → Option α}
    {make : Action α} {put : α → Components → Components} (hw : Wired r w)
    (hlook : ∀ c : Components, c.held k = (look c).map wrap)
    (hfills : ∀ x, Components.Fills (put x) k (wrap x))
    (hmake : look (w.components.get r) = none → Makes r k make put w) :
    Serves r k wrap (remembered r look make put) w := by
  have hrun := runIn_remembered r look make put w
  cases hheld : look (w.components.get r) with
  | some x =>
    rw [hheld] at hrun
    -- It is held already, so that nothing is made.
    have hk : w.held r k = some (wrap x) := by rw [Workspace.held, hlook, hheld]; rfl
    constructor <;> rw [hrun]
    · exact .refl w
    · rintro _ ⟨⟩
      exact hk
    · exact iff_of_true ⟨x, rfl⟩ (hw.obtainable (by simp [hk]))
    · exact fun _ _ => rfl
    · intro y hy
      rw [hk] at hy
      exact ⟨x, Option.some.inj hy, rfl⟩
  | none =>
    have hmakes := hmake hheld
    have hk : w.held r k = none := by rw [Workspace.held, hlook, hheld]; rfl
    rw [hheld] at hrun
    cases hresult : make.runIn w with
    | mk result v =>
      have huntouched := hmakes.untouched
      have hsucceeds := hmakes.succeeds
      rw [hresult] at hrun huntouched hsucceeds
      cases result with
      | error why =>
        constructor <;> rw [hrun]
        · exact hmakes.failed why v hresult
        · exact fun _ h => by cases h
        · exact hsucceeds
        · exact huntouched
        · intro y hy
          rw [hk] at hy
          cases hy
      | ok x =>
        constructor <;> rw [hrun]
        · exact hmakes.kept x v hresult
        · rintro _ ⟨⟩
          exact (Builds.held_of_fills (w := v) (hfills x) rfl k).trans (if_pos rfl)
        · exact hsucceeds
        · intro k' hk'
          have hne : k' ≠ k := fun h => hk' (h ▸ k.mem_needs)
          rw [Builds.held_of_fills (w := v) (hfills x) rfl k', if_neg hne]
          exact huntouched k' hk'
        · intro y hy
          rw [hk] at hy
          cases hy

section Makes
variable {k : Slot} {make : Action α} {put : α → Components → Components}

theorem makes_of_ok {x : α} (hrun : make.runIn w = (.ok x, v)) (hk : w.Obtainable r k)
    (hgrows : Grows r w { v with components := v.components.modify r (put x) })
    (huntouched : ∀ k' ∉ k.needs, v.held r k' = w.held r k') : Makes r k make put w := by
  constructor <;> rw [hrun]
  · rintro _ _ ⟨⟩
    exact hgrows
  · exact fun _ _ h => by cases h
  · exact iff_of_true ⟨x, rfl⟩ hk
  · exact huntouched

theorem makes_of_error {why : Failure} (hrun : make.runIn w = (.error why, v))
    (hk : ¬ w.Obtainable r k) (hgrows : Grows r w v)
    (huntouched : ∀ k' ∉ k.needs, v.held r k' = w.held r k') : Makes r k make put w := by
  constructor <;> rw [hrun]
  · exact fun _ _ h => by cases h
  · rintro _ _ ⟨⟩
    exact hgrows
  · exact iff_of_false (by rintro ⟨_, ⟨⟩⟩) hk
  · exact huntouched

end Makes

theorem obtainable_of_empty {k : Slot} (hneeds : k.needs = [k]) (hempty : w.held r k = none) :
    w.Obtainable r k ↔ k.Makeable (w.settingsOf r) := by
  simp [Workspace.Obtainable, Workspace.Available, hneeds, hempty]

theorem obtainable_selector : w.Obtainable r .selector ↔ w.Obtainable r .source := by
  simp [Workspace.Obtainable, Workspace.Available, Slot.needs, Slot.Makeable]

theorem obtainable_formatter :
    w.Obtainable r .formatter ↔ w.Obtainable r .selector ∧ w.Obtainable r .cascade := by
  simp [Workspace.Obtainable, Workspace.Available, Slot.needs, Slot.Makeable]

/-! ## The components one by one -/

theorem runIn_componentSettings (r : Ref Components) (w : Workspace) :
    (componentSettings r).runIn w = (.ok (w.settingsOf r), w) := rfl

theorem makes_source (hempty : (w.components.get r).source = none) :
    Makes r .source (makeSource r) (fun x c => { c with source := some x }) w := by
  have hk : w.Obtainable r .source ↔ _ := obtainable_of_empty rfl (congrArg (Option.map _) hempty)
  have hmakeable : Slot.source.Makeable (w.settingsOf r) ↔ _ :=
    Source.exists_ofDatum_iff _ (w.entropy r)
  rw [hmakeable] at hk
  cases hmade : Source.ofDatum ((w.settingsOf r).datum .randomSeed) (w.entropy r) with
  | ok made =>
    obtain ⟨notices, hrun⟩ : ∃ notices, (makeSource r).runIn w = (.ok w.sources.fresh,
        { w with sources := w.sources.push made, notices := notices }) := by
      rw [makeSource, runIn_bind_ok (runIn_componentSettings r w),
        runIn_bind_ok (runIn_report _ w), runIn_bind_ok (runIn_get _), hmade]
      exact ⟨_, rfl⟩
    exact makes_of_ok hrun (hk.2 ⟨made, hmade⟩)
      (((Grows.refl w).step (.source hempty hmade)).step (.report notices)) fun _ _ => rfl
  | error why =>
    obtain ⟨notices, hrun⟩ : ∃ notices, (makeSource r).runIn w =
        (.error why, { w with notices := notices }) := by
      rw [makeSource, runIn_bind_ok (runIn_componentSettings r w),
        runIn_bind_ok (runIn_report _ w), runIn_bind_ok (runIn_get _), hmade]
      exact ⟨_, rfl⟩
    refine makes_of_error hrun (fun h => ?_) ((Grows.refl w).step (.report notices)) fun _ _ => rfl
    obtain ⟨made, h⟩ := hk.1 h
    rw [hmade] at h
    cases h

theorem sourceOf_serves (hw : Wired r w) : Serves r .source .source (sourceOf r) w := by
  rw [sourceOf_eq]
  exact serves_remembered hw (fun _ => rfl) Components.fills_source makes_source

theorem makes_selector (hw : Wired r w) (hempty : (w.components.get r).selector = none) :
    Makes r .selector (makeSelector r) (fun x c => { c with selector := some x }) w := by
  obtain ⟨v, hgrows, huntouched, ⟨source, hrun, hk, hsource⟩ | ⟨why, hrun, hk⟩⟩ :=
    (sourceOf_serves hw).cases
  all_goals
    have hothers : ∀ k' ∉ Slot.needs .selector, v.held r k' = w.held r k' :=
      fun k' hk' => huntouched k' fun h => hk' (Slot.needs_subset (by decide) h)
  · have hstill : v.held r .selector = none :=
      (huntouched .selector (by decide)).trans (congrArg (Option.map _) hempty)
    have hsource : (v.components.get r).source = some source := by
      simpa [Workspace.held, Components.held] using hsource
    exact makes_of_ok (runIn_bind_ok hrun _) (obtainable_selector.2 hk)
      (hgrows.step (.selector (Option.map_eq_none_iff.1 hstill) hsource)) hothers
  · exact makes_of_error (runIn_bind_error hrun _) (fun h => hk (obtainable_selector.1 h)) hgrows
      hothers

theorem selectorOf_serves (hw : Wired r w) : Serves r .selector .selector (selectorOf r) w := by
  rw [selectorOf_eq]
  exact serves_remembered hw (fun _ => rfl) Components.fills_selector (makes_selector hw)

section Cascade
variable {s : Settings} {record : Record} (hdefaults : s.defaults = .ok record)
include hdefaults

theorem cascadeOfSettings_of_resolved (hresolved : record.options.isResolved = true)
    (w : Workspace) : ∃ notices, (cascadeOfSettings s).runIn w = (.ok w.cascades.fresh, { w with
      store := w.store.push record
      cascades := w.cascades.push ⟨w.store.fresh, fun _ => none⟩
      notices := notices }) := by
  have hfresh : ((w.store.push record).get w.store.fresh).options.isResolved = true := by
    rw [Heap.get_push_fresh]
    exact hresolved
  obtain ⟨hresult, notices, hstate⟩ :=
    runIn_buildCascade w.store.fresh [] { w with store := w.store.push record }
  rw [Cascade.create_of_resolved hfresh] at hresult hstate
  rw [runIn_cascadeOfSettings, hdefaults]
  exact ⟨notices, Prod.ext hresult hstate⟩

theorem cascadeOfSettings_of_unresolved (hunresolved : record.options.isResolved = false)
    (w : Workspace) : ∃ why notices, (cascadeOfSettings s).runIn w =
      (.error why, { w with store := w.store.push record, notices := notices }) := by
  have hfresh : ((w.store.push record).get w.store.fresh).options.isResolved = false := by
    rw [Heap.get_push_fresh]
    exact hunresolved
  obtain ⟨hresult, notices, hstate⟩ :=
    runIn_buildCascade w.store.fresh [] { w with store := w.store.push record }
  rw [Cascade.create_of_unresolved hfresh] at hresult hstate
  rw [runIn_cascadeOfSettings, hdefaults]
  exact ⟨_, notices, Prod.ext hresult hstate⟩

end Cascade

theorem makes_cascade (hempty : (w.components.get r).cascade = none) :
    Makes r .cascade (makeCascade r) (fun x c => { c with cascade := some x }) w := by
  have hk : w.Obtainable r .cascade ↔ _ :=
    obtainable_of_empty rfl (congrArg (Option.map _) hempty)
  let u : Workspace := { w with notices := [.newCascade] ++ w.notices }
  have hu : Grows r w u := (Grows.refl w).step (.report _)
  have hrun : (makeCascade r).runIn w = (cascadeOfSettings (w.settingsOf r)).runIn u := rfl
  cases hdefaults : (w.settingsOf r).defaults with
  | error why =>
    have hfailed : (cascadeOfSettings (w.settingsOf r)).runIn u = (.error why, u) := by
      rw [runIn_cascadeOfSettings, hdefaults]
    refine makes_of_error (hrun.trans hfailed) (fun h => ?_) hu fun _ _ => rfl
    obtain ⟨record, hrecord, -⟩ := hk.1 h
    rw [hdefaults] at hrecord
    cases hrecord
  | ok record =>
    have hrecord := hu.step (.record hdefaults)
    cases hresolved : record.options.isResolved with
    | true =>
      obtain ⟨notices, hmade⟩ := cascadeOfSettings_of_resolved hdefaults hresolved u
      have hget : (w.store.push record).get w.store.fresh = record := Heap.get_push_fresh ..
      refine makes_of_ok (hrun.trans hmade) (hk.2 ⟨record, hdefaults, hresolved⟩) ?_ fun _ _ => rfl
      refine (hrecord.step (.cascade hempty (Heap.has_push_fresh _ _) ?_ ?_)).step (.report notices)
      · exact hdefaults.trans (congrArg _ hget.symm)
      · exact (congrArg (fun x : Record => x.options.isResolved) hget).trans hresolved
    | false =>
      obtain ⟨why, notices, hfailed⟩ := cascadeOfSettings_of_unresolved hdefaults hresolved u
      refine makes_of_error (hrun.trans hfailed) (fun h => ?_) (hrecord.step (.report notices))
        fun _ _ => rfl
      obtain ⟨record', hrecord', hresolved'⟩ := hk.1 h
      rw [hdefaults] at hrecord'
      cases hrecord'
      rw [hresolved] at hresolved'
      cases hresolved'

theorem cascadeOf_serves (hw : Wired r w) : Serves r .cascade .cascade (cascadeOf r) w := by
  rw [cascadeOf_eq]
  exact serves_remembered hw (fun _ => rfl) Components.fills_cascade makes_cascade

theorem compilerOf_serves (hw : Wired r w) : Serves r .compiler .compiler (compilerOf r) w := by
  rw [compilerOf_eq]
  refine serves_remembered hw (fun _ => rfl) Components.fills_compiler fun hempty => ?_
  have hk : w.Obtainable r .compiler ↔ _ :=
    obtainable_of_empty rfl (congrArg (Option.map _) hempty)
  have hrun : newCompiler.runIn w =
      (.ok w.compilers.fresh, { w with compilers := w.compilers.push {} }) := rfl
  exact makes_of_ok hrun (hk.2 trivial) ((Grows.refl w).step (.compiler hempty)) fun _ _ => rfl

theorem makes_renderer {style : Style} (hempty : (w.components.get r).renderer style = none) :
    Makes r (.renderer style) (makeRenderer r style) (fun q c => { c with
      renderer := fun x => if x = style then some q else c.renderer x }) w := by
  have hk : w.Obtainable r (.renderer style) ↔ _ :=
    obtainable_of_empty rfl (congrArg (Option.map _) hempty)
  let u : Workspace := { w with notices := [.newRenderer style] ++ w.notices }
  have hu : Grows r w u := (Grows.refl w).step (.report _)
  have hrun : (makeRenderer r style).runIn w =
      (ofExcept (Renderer.create style (w.settingsOf r).threshold) >>= newRenderer).runIn u := rfl
  cases hmade : Renderer.create style (w.settingsOf r).threshold with
  | ok made =>
    rw [hmade] at hrun
    exact makes_of_ok (hrun.trans rfl) (hk.2 ⟨made, hmade⟩) (hu.step (.renderer hempty hmade))
      fun _ _ => rfl
  | error why =>
    rw [hmade] at hrun
    refine makes_of_error (hrun.trans rfl) (fun h => ?_) hu fun _ _ => rfl
    obtain ⟨made, h⟩ := hk.1 h
    rw [hmade] at h
    cases h

theorem rendererFor_serves (hw : Wired r w) (style : Style) :
    Serves r (.renderer style) .renderer (rendererFor r style) w :=
  serves_remembered hw (fun _ => rfl) (Components.fills_renderer style) makes_renderer

theorem makes_formatter (hw : Wired r w) (hempty : (w.components.get r).formatter = none) :
    Makes r .formatter (makeFormatter r) (fun x c => { c with formatter := some x }) w := by
  obtain ⟨v, hgrows, huntouched, ⟨selector, hrun, hk, hselector⟩ | ⟨why, hrun, hk⟩⟩ :=
    (selectorOf_serves hw).cases
  all_goals
    have hothers : ∀ k' ∉ Slot.needs .formatter, v.held r k' = w.held r k' :=
      fun k' hk' => huntouched k' fun h => hk' (Slot.needs_subset (by decide) h)
  · -- The selector is held from here on, also if there will be no cascade.
    obtain ⟨u, hgrows', huntouched', ⟨cascade, hrun', hk', hcascade⟩ | ⟨why, hrun', hk'⟩⟩ :=
      (cascadeOf_serves (hgrows.wired hw)).cases
    all_goals
      rw [hgrows.obtainable_iff] at hk'
      have hothers' : ∀ k' ∉ Slot.needs .formatter, u.held r k' = w.held r k' := by
        intro k' hk'
        rw [huntouched' k' fun h => hk' (Slot.needs_subset (by decide) h), hothers k' hk']
    · have hstill : u.held r .formatter = none := by
        rw [huntouched' .formatter (by decide), huntouched .formatter (by decide)]
        exact congrArg (Option.map _) hempty
      have hselector : (u.components.get r).selector = some selector := by
        simpa [Workspace.held, Components.held] using hgrows'.held hselector
      have hcascade : (u.components.get r).cascade = some cascade := by
        simpa [Workspace.held, Components.held] using hcascade
      have hmade : (makeFormatter r).runIn w = (.ok u.formatters.fresh, { u with
          formatters := u.formatters.push ⟨selector, cascade, (u.settingsOf r).threshold⟩ }) := by
        rw [makeFormatter, runIn_bind_ok hrun, runIn_bind_ok hrun']
        rfl
      exact makes_of_ok hmade (obtainable_formatter.2 ⟨hk, hk'⟩) ((hgrows.trans hgrows').step
        (.formatter (Option.map_eq_none_iff.1 hstill) hselector hcascade)) hothers'
    · have hfailed : (makeFormatter r).runIn w = (.error why, u) := by
        rw [makeFormatter, runIn_bind_ok hrun, runIn_bind_error hrun']
      exact makes_of_error hfailed (fun h => hk' (obtainable_formatter.1 h).2)
        (hgrows.trans hgrows') hothers'
  · exact makes_of_error (runIn_bind_error hrun _) (fun h => hk (obtainable_formatter.1 h).1) hgrows
      hothers

theorem formatterOf_serves (hw : Wired r w) : Serves r .formatter .formatter (formatterOf r) w := by
  rw [formatterOf_eq]
  exact serves_remembered hw (fun _ => rfl) Components.fills_formatter (makes_formatter hw)

end Action

end FormDialogue
