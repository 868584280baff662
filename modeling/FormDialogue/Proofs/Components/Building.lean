import FormDialogue.Workspace.Components
import Mathlib.Logic.Relation

/-! # Building components

Components are built one at a time, each from the settings and from parts that are held already,
and kept in a place that was empty. A chain of such steps is all that a request can do. No step
changes what is held, the parts of what is held, or the settings, so whether a component can be had
stays the same throughout. -/

namespace FormDialogue
open Choice (Renderer)
open Draw (Source)
open Record (Style)

namespace Heap
variable {α : Type} {h : Heap α} {r : Ref α}

theorem has_push_fresh (h : Heap α) (a : α) : (h.push a).Has h.fresh := Nat.lt_succ_self _

theorem has_push_old (hr : h.Has r) (a : α) : (h.push a).Has r := Nat.lt_succ_of_lt hr

theorem ne_fresh (hr : h.Has r) : r ≠ h.fresh := by
  rintro rfl
  exact Nat.lt_irrefl _ hr

end Heap

/-- Whether there is a source for a seed does not depend on what it would draw from without one. -/
theorem Draw.Source.exists_ofDatum_iff (d : Datum) (g : Draw.Generator) :
    (∃ fresh made, ofDatum d fresh = .ok made) ↔ ∃ made, ofDatum d g = .ok made := by
  unfold ofDatum
  split <;> simp

/-- The places for components; every style has one for its renderer. -/
inductive Slot
  | source
  | selector
  | cascade
  | compiler
  | renderer (style : Style)
  | formatter
  deriving DecidableEq, Repr

inductive Component
  | source (ref : Ref Source)
  | selector (ref : Ref Selector)
  | cascade (ref : Ref Cascade)
  | compiler (ref : Ref Compiler)
  | renderer (ref : Ref Renderer)
  | formatter (ref : Ref Formatter)
  deriving DecidableEq, Repr

namespace Components

def held (c : Components) : Slot → Option Component
  | .source => c.source.map .source
  | .selector => c.selector.map .selector
  | .cascade => c.cascade.map .cascade
  | .compiler => c.compiler.map .compiler
  | .renderer style => (c.renderer style).map .renderer
  | .formatter => c.formatter.map .formatter

/-- An update puts a component into one place and leaves all others as they are. -/
def Fills (put : Components → Components) (k : Slot) (x : Component) : Prop :=
  ∀ c k', (put c).held k' = if k' = k then some x else c.held k'

theorem fills_source (ref : Ref Source) :
    Fills (fun c => { c with source := some ref }) .source (.source ref) := by
  intro c k
  cases k <;> simp [held]

theorem fills_selector (ref : Ref Selector) :
    Fills (fun c => { c with selector := some ref }) .selector (.selector ref) := by
  intro c k
  cases k <;> simp [held]

theorem fills_cascade (ref : Ref Cascade) :
    Fills (fun c => { c with cascade := some ref }) .cascade (.cascade ref) := by
  intro c k
  cases k <;> simp [held]

theorem fills_compiler (ref : Ref Compiler) :
    Fills (fun c => { c with compiler := some ref }) .compiler (.compiler ref) := by
  intro c k
  cases k <;> simp [held]

theorem fills_formatter (ref : Ref Formatter) :
    Fills (fun c => { c with formatter := some ref }) .formatter (.formatter ref) := by
  intro c k
  cases k <;> simp [held]

theorem fills_renderer (style : Style) (ref : Ref Renderer) :
    Fills (fun c => { c with
        renderer := fun x => if x = style then some ref else c.renderer x })
      (.renderer style) (.renderer ref) := by
  intro c k
  cases k with
  | renderer x =>
    by_cases hx : x = style
    · simp [held, hx]
    · simp [held, hx]
  | _ => simp [held]

end Components

namespace Slot

/-- The places that have to be filled before a place is, and the place itself. -/
def needs : Slot → List Slot
  | source => [source]
  | selector => [source, selector]
  | cascade => [cascade]
  | compiler => [compiler]
  | renderer style => [renderer style]
  | formatter => [source, selector, cascade, formatter]

theorem mem_needs (k : Slot) : k ∈ k.needs := by cases k <;> simp [needs]

theorem needs_subset {k k' : Slot} (h : k' ∈ k.needs) : k'.needs ⊆ k.needs := by
  cases k <;> cases k' <;> simp_all [needs]

/-- The settings allow what is to be made from them. -/
def Makeable (s : Settings) : Slot → Prop
  | source => ∃ fresh made, Source.ofDatum (s.datum .randomSeed) fresh = .ok made
  | cascade => ∃ record, s.defaults = .ok record ∧ record.options.isResolved = true
  | renderer style => ∃ made, Renderer.create style s.threshold = .ok made
  | selector | compiler | formatter => True

end Slot

namespace Workspace

def settingsOf (w : Workspace) (r : Ref Components) : Settings :=
  w.settings.get (w.components.get r).settings

def held (w : Workspace) (r : Ref Components) : Slot → Option Component :=
  (w.components.get r).held

/-- A place is filled, or can be filled from the settings. -/
def Available (w : Workspace) (r : Ref Components) (k : Slot) : Prop :=
  w.held r k ≠ none ∨ k.Makeable (w.settingsOf r)

def Obtainable (w : Workspace) (r : Ref Components) (k : Slot) : Prop :=
  ∀ k' ∈ k.needs, w.Available r k'

end Workspace

/-- A step of building components, or of what goes with it: a notice, or the record that is to
become the defaults of the cascade. -/
inductive Builds (r : Ref Components) (w : Workspace) : Workspace → Prop
  | report (notices : List Logging.Notice) : Builds r w { w with notices := notices }
  | record {record : Record} (hdefaults : (w.settingsOf r).defaults = .ok record) :
    Builds r w { w with store := w.store.push record }
  | source {made : Source} (hempty : (w.components.get r).source = none)
    (hmade : Source.ofDatum ((w.settingsOf r).datum .randomSeed) (w.entropy r) = .ok made) :
    Builds r w { w with
      sources := w.sources.push made
      components := w.components.modify r fun c => { c with source := some w.sources.fresh } }
  | selector {source : Ref Source} (hempty : (w.components.get r).selector = none)
    (hsource : (w.components.get r).source = some source) :
    Builds r w { w with
      selectors := w.selectors.push ⟨source⟩
      components := w.components.modify r fun c => { c with selector := some w.selectors.fresh } }
  | cascade {defaults : Ref Record} (hempty : (w.components.get r).cascade = none)
    (hhas : w.store.Has defaults)
    (hdefaults : (w.settingsOf r).defaults = .ok (w.store.get defaults))
    (hresolved : (w.store.get defaults).options.isResolved = true) :
    Builds r w { w with
      cascades := w.cascades.push ⟨defaults, fun _ => none⟩
      components := w.components.modify r fun c => { c with cascade := some w.cascades.fresh } }
  | compiler (hempty : (w.components.get r).compiler = none) :
    Builds r w { w with
      compilers := w.compilers.push {}
      components := w.components.modify r fun c => { c with compiler := some w.compilers.fresh } }
  | renderer {style : Style} {made : Renderer} (hempty : (w.components.get r).renderer style = none)
    (hmade : Renderer.create style (w.settingsOf r).threshold = .ok made) :
    Builds r w { w with
      renderers := w.renderers.push made
      components := w.components.modify r fun c => { c with
        renderer := fun x => if x = style then some w.renderers.fresh else c.renderer x } }
  | formatter {selector : Ref Selector} {cascade : Ref Cascade}
    (hempty : (w.components.get r).formatter = none)
    (hselector : (w.components.get r).selector = some selector)
    (hcascade : (w.components.get r).cascade = some cascade) :
    Builds r w { w with
      formatters := w.formatters.push ⟨selector, cascade, (w.settingsOf r).threshold⟩
      components := w.components.modify r fun c => { c with
        formatter := some w.formatters.fresh } }

namespace Builds
variable {r : Ref Components} {w v : Workspace} {k : Slot} {x : Component}

theorem settings (h : Builds r w v) :
    v.settings = w.settings ∧ (v.components.get r).settings = (w.components.get r).settings := by
  cases h with
  | report | record => exact ⟨rfl, rfl⟩
  | _ => exact ⟨rfl, by rw [Heap.get_modify_same]⟩

theorem settingsOf (h : Builds r w v) : v.settingsOf r = w.settingsOf r := by
  rw [Workspace.settingsOf, h.settings.1, h.settings.2, Workspace.settingsOf]

theorem held_of_fills {put : Components → Components} (h : Components.Fills put k x)
    (hv : v.components = w.components.modify r put) (k' : Slot) :
    v.held r k' = if k' = k then some x else w.held r k' := by
  rw [Workspace.held, hv, Heap.get_modify_same, h, Workspace.held]

/-- A step leaves all places as they are, or fills an empty one with what can be made. -/
theorem held_cases (h : Builds r w v) :
    (∀ k, v.held r k = w.held r k) ∨ ∃ k x, w.held r k = none ∧ k.Makeable (w.settingsOf r) ∧
      ∀ k', v.held r k' = if k' = k then some x else w.held r k' := by
  cases h with
  | report | record => exact .inl fun _ => rfl
  | source hempty hmade =>
    exact .inr ⟨.source, _, congrArg (Option.map _) hempty,
      ⟨_, _, hmade⟩, held_of_fills (Components.fills_source _) rfl⟩
  | selector hempty =>
    exact .inr ⟨.selector, _, congrArg (Option.map _) hempty, trivial,
      held_of_fills (Components.fills_selector _) rfl⟩
  | cascade hempty _ hdefaults hresolved =>
    exact .inr ⟨.cascade, _, congrArg (Option.map _) hempty, ⟨_, hdefaults, hresolved⟩,
      held_of_fills (Components.fills_cascade _) rfl⟩
  | compiler hempty =>
    exact .inr ⟨.compiler, _, congrArg (Option.map _) hempty, trivial,
      held_of_fills (Components.fills_compiler _) rfl⟩
  | renderer hempty hmade =>
    exact .inr ⟨.renderer _, _, congrArg (Option.map _) hempty, ⟨_, hmade⟩,
      held_of_fills (Components.fills_renderer _ _) rfl⟩
  | formatter hempty =>
    exact .inr ⟨.formatter, _, congrArg (Option.map _) hempty, trivial,
      held_of_fills (Components.fills_formatter _) rfl⟩

theorem held (h : Builds r w v) (hx : w.held r k = some x) : v.held r k = some x := by
  obtain hsame | ⟨k', y, hempty, -, hafter⟩ := h.held_cases
  · rw [hsame, hx]
  · rw [hafter, if_neg, hx]
    -- The place that is filled was empty.
    rintro rfl
    rw [hempty] at hx
    cases hx

theorem available_iff (h : Builds r w v) (k : Slot) : v.Available r k ↔ w.Available r k := by
  rw [Workspace.Available, Workspace.Available, h.settingsOf]
  obtain hsame | ⟨k', y, hempty, hmade, hafter⟩ := h.held_cases
  · rw [hsame]
  · by_cases hk : k = k'
    · subst hk
      exact ⟨fun _ => .inr hmade, fun _ => .inr hmade⟩
    · rw [hafter, if_neg hk]

end Builds

/-! ## Wiring -/

/-- The parts of what is held are held themselves, and no two styles have the same renderer. -/
structure Wired (r : Ref Components) (w : Workspace) : Prop where
  selector : ∀ p, (w.components.get r).selector = some p →
    (w.components.get r).source = some (w.selectors.get p).source
  formatter : ∀ f, (w.components.get r).formatter = some f →
    (w.components.get r).selector = some (w.formatters.get f).selector ∧
      (w.components.get r).cascade = some (w.formatters.get f).cascade
  renderer : ∀ style q, (w.components.get r).renderer style = some q → w.renderers.Has q
  distinct : ∀ style style' q, (w.components.get r).renderer style = some q →
    (w.components.get r).renderer style' = some q → style = style'

section Wiring
variable {r : Ref Components} {w v : Workspace} {k : Slot} {x : Component}

theorem Wired.needs (h : Wired r w) (hk : w.held r k ≠ none) :
    ∀ k' ∈ k.needs, w.held r k' ≠ none := by
  cases k with
  | selector =>
    cases hp : (w.components.get r).selector with
    | none => exact absurd (congrArg (Option.map Component.selector) hp) hk
    | some p =>
      have hsource := h.selector p hp
      simp [Slot.needs, Workspace.held, Components.held, hp, hsource]
  | formatter =>
    cases hf : (w.components.get r).formatter with
    | none => exact absurd (congrArg (Option.map Component.formatter) hf) hk
    | some f =>
      obtain ⟨hselector, hcascade⟩ := h.formatter f hf
      have hsource := h.selector _ hselector
      simp [Slot.needs, Workspace.held, Components.held, hf, hselector, hcascade, hsource]
  | source | cascade | compiler | renderer =>
    intro k' hk'
    rw [List.mem_singleton.1 hk']
    exact hk

theorem Wired.obtainable (h : Wired r w) (hk : w.held r k ≠ none) : w.Obtainable r k :=
  fun k' hk' => .inl (h.needs hk k' hk')

theorem Builds.wired (h : Builds r w v) (hw : Wired r w) : Wired r v := by
  cases h with
  | report | record => exact ⟨hw.selector, hw.formatter, hw.renderer, hw.distinct⟩
  | source hempty =>
    constructor <;> simp only [Heap.get_modify_same]
    · -- A selector would have a source already.
      intro p hp
      rw [hw.selector p hp] at hempty
      cases hempty
    · exact hw.formatter
    · exact hw.renderer
    · exact hw.distinct
  | selector hempty hsource =>
    constructor <;> simp only [Heap.get_modify_same]
    · rintro _ ⟨⟩
      rw [Heap.get_push_fresh]
      exact hsource
    · -- Nor would a formatter be there without a selector.
      intro f hf
      rw [(hw.formatter f hf).1] at hempty
      cases hempty
    · exact hw.renderer
    · exact hw.distinct
  | cascade hempty =>
    constructor <;> simp only [Heap.get_modify_same]
    · exact hw.selector
    · intro f hf
      rw [(hw.formatter f hf).2] at hempty
      cases hempty
    · exact hw.renderer
    · exact hw.distinct
  | compiler hempty =>
    constructor <;> simp only [Heap.get_modify_same]
    · exact hw.selector
    · exact hw.formatter
    · exact hw.renderer
    · exact hw.distinct
  | renderer hempty =>
    -- The new renderer is none of those that are held.
    have hold : ∀ x q, (w.components.get r).renderer x = some q → q ≠ w.renderers.fresh :=
      fun x q hq => Heap.ne_fresh (hw.renderer x q hq)
    constructor <;> simp only [Heap.get_modify_same]
    · exact hw.selector
    · exact hw.formatter
    · intro x q hq
      split at hq
      · cases hq
        exact Heap.has_push_fresh ..
      · exact Heap.has_push_old (hw.renderer x q hq) _
    · intro x y q hx hy
      split at hx <;> split at hy
      · next hxs hys => exact hxs.trans hys.symm
      · next hxs hys =>
        cases hx
        exact absurd rfl (hold y _ hy)
      · next hxs hys =>
        cases hy
        exact absurd rfl (hold x _ hx)
      · exact hw.distinct x y q hx hy
  | formatter hempty hselector hcascade =>
    constructor <;> simp only [Heap.get_modify_same]
    · exact hw.selector
    · rintro _ ⟨⟩
      rw [Heap.get_push_fresh]
      exact ⟨hselector, hcascade⟩
    · exact hw.renderer
    · exact hw.distinct

end Wiring

/-! ## Chains of steps -/

def Grows (r : Ref Components) : Workspace → Workspace → Prop := Relation.ReflTransGen (Builds r)

namespace Grows
variable {r : Ref Components} {w v u : Workspace} {k : Slot} {x : Component}

theorem refl (w : Workspace) : Grows r w w := Relation.ReflTransGen.refl

theorem trans (h : Grows r w v) (hu : Grows r v u) : Grows r w u := Relation.ReflTransGen.trans h hu

theorem step (h : Grows r w v) (hu : Builds r v u) : Grows r w u := .tail h hu

theorem held (h : Grows r w v) (hx : w.held r k = some x) : v.held r k = some x := by
  induction h with
  | refl => exact hx
  | tail _ hstep ih => exact hstep.held ih

theorem available_iff (h : Grows r w v) (k : Slot) : v.Available r k ↔ w.Available r k := by
  induction h with
  | refl => exact Iff.rfl
  | tail _ hstep ih => exact (hstep.available_iff k).trans ih

theorem obtainable_iff (h : Grows r w v) (k : Slot) : v.Obtainable r k ↔ w.Obtainable r k :=
  forall₂_congr fun k' _ => h.available_iff k'

theorem wired (h : Grows r w v) (hw : Wired r w) : Wired r v := by
  induction h with
  | refl => exact hw
  | tail _ hstep ih => exact hstep.wired ih

/-- What could not be had before is not there afterwards. -/
theorem held_of_not_obtainable (h : Grows r w v) (hw : Wired r w) (hk : ¬ w.Obtainable r k) :
    v.held r k = none := by
  cases hheld : v.held r k with
  | none => rfl
  | some x =>
    have hv := (h.wired hw).obtainable (k := k) (by simp [hheld])
    exact absurd ((h.obtainable_iff k).1 hv) hk

end Grows

end FormDialogue
