import FormDialogue.Proofs.Components.Wiring
import FormDialogue.Proofs.Prompt.Picking

/-! # What picks depend on

Which patterns are picked through components depends on a picture of the workspace: its
declarations, the kinds and patterns of its records, the source that is drawn from and the templates
that are registered. A source or a cascade that is not there yet counts as the one that would be
made from the settings. So building components does not change the picture, as long as the settings
are as they were accepted. -/

namespace FormDialogue
open Draw (Generator Source)
open Record (Declaration Kind Usage)

namespace Heap
variable {α : Type} {h : Heap α} {r : Ref α}

theorem get_push_other (hr : r ≠ h.fresh) (a : α) : (h.push a).get r = h.get r :=
  get_set_other (h := h) hr a

/-- Nothing lies where no value was put. -/
def Tidy [Inhabited α] (h : Heap α) : Prop := ∀ r, ¬ h.Has r → h.get r = default

theorem tidy_empty [Inhabited α] : (empty : Heap α).Tidy := fun _ _ => rfl

theorem Tidy.push [Inhabited α] (hh : h.Tidy) (a : α) : (h.push a).Tidy := by
  intro r hr
  have hne : r ≠ h.fresh := by
    rintro rfl
    exact hr (has_push_fresh h a)
  rw [get_push_other hne]
  exact hh r fun hhas => hr (has_push_old hhas a)

end Heap

structure Picture where
  declarations : Heap Declaration
  misfits : List Misfit
  kind : Ref Record → Kind
  patterns : Ref Record → List String
  source : Source
  registered : Usage → Option (Ref Record)

namespace Picture
variable {r : Ref Components} {c : Configuration} {w v : Workspace}

/-- The source that is drawn from, or would be. -/
def drawn (r : Ref Components) (c : Configuration) (w : Workspace) : Source :=
  match (w.components.get r).source with
  | some source => w.sources.get source
  | none => .ofOptionalSeed c.randomSeed (w.entropy r)

def registry (r : Ref Components) (w : Workspace) : Usage → Option (Ref Record) :=
  match (w.components.get r).cascade with
  | some cascade => (w.cascades.get cascade).registered
  | none => fun _ => none

def of (r : Ref Components) (c : Configuration) (w : Workspace) : Picture where
  declarations := w.declarations
  misfits := w.misfits
  kind q := (w.store.get q).kind
  patterns q := (w.store.get q).patterns
  source := drawn r c w
  registered := registry r w

theorem of_congr (hdeclared : AlikeDeclared w v)
    (hpatterns : ∀ q, (v.store.get q).patterns = (w.store.get q).patterns)
    (hdrawn : drawn r c v = drawn r c w) (hregistry : registry r v = registry r w) :
    of r c v = of r c w := by
  rw [of, of, hdeclared.declarations, hdeclared.misfits, hdrawn, hregistry, funext hdeclared.kind,
    funext hpatterns]

end Picture

/-- Components over accepted settings that are still as they were. The cascade, if there is one, has
complete defaults, and nothing lies in the store where no record was put. -/
structure Settled (r : Ref Components) (c : Configuration) (w : Workspace) : Prop where
  wired : Wired r w
  settings : w.settingsOf r = .ofConfiguration c
  defaults : ∀ x, (w.components.get r).cascade = some x →
    w.store.Has (w.cascades.get x).defaults ∧
      (w.store.get (w.cascades.get x).defaults).options.isResolved = true
  blank : ∀ q, ¬ w.store.Has q → (w.store.get q).kind = .plain ∧ (w.store.get q).patterns = []

theorem sourceOf_configuration (c : Configuration) (fresh : Generator) :
    Source.ofDatum ((Settings.ofConfiguration c).datum .randomSeed) fresh =
      .ok (.ofOptionalSeed c.randomSeed fresh) := by
  change Source.ofDatum ((c.randomSeed.map Datum.int).getD .null) fresh = _
  cases c.randomSeed with
  | none => rfl
  | some seed => rfl

theorem makeable_ofConfiguration (c : Configuration) (k : Slot) :
    k.Makeable (.ofConfiguration c) := by
  cases k with
  | source => exact ⟨default, _, sourceOf_configuration c default⟩
  | cascade => exact ⟨_, Settings.defaults_ofConfiguration c, c.isResolved_options⟩
  | renderer style => exact ⟨_, rfl⟩
  | selector | compiler | formatter => trivial

section Steps
variable {r : Ref Components} {c : Configuration} {w v : Workspace} {k : Slot}

theorem obtainable_of_accepted (h : w.settingsOf r = .ofConfiguration c) (k : Slot) :
    w.Obtainable r k := by
  intro k' _
  refine .inr ?_
  rw [h]
  exact makeable_ofConfiguration c k'

/-- Over accepted settings every component is given. -/
theorem given_of_accepted {α : Type} {wrap : α → Component} {a : Action α}
    (hw : w.settingsOf r = .ofConfiguration c) (h : Action.Serves r k wrap a w) :
    ∃ x v, a.runIn w = (.ok x, v) ∧ v.held r k = some (wrap x) ∧ Grows r w v := by
  obtain ⟨v, hgrows, -, ⟨x, hrun, -, hheld⟩ | ⟨why, -, hk⟩⟩ := h.cases
  · exact ⟨x, v, hrun, hheld, hgrows⟩
  · exact absurd (obtainable_of_accepted hw k) hk

/-- A new record of defaults does not show, since nothing lay in its place. -/
theorem Settled.push_record (h : Settled r c w) {record : Record}
    (hdefaults : (w.settingsOf r).defaults = .ok record) (q : Ref Record) :
    ((w.store.push record).get q).kind = (w.store.get q).kind ∧
      ((w.store.push record).get q).patterns = (w.store.get q).patterns := by
  rw [h.settings, Settings.defaults_ofConfiguration] at hdefaults
  cases hdefaults
  -- In its place there was a blank record, which the defaults look like.
  by_cases hq : q = w.store.fresh
  · subst hq
    obtain ⟨hkind, hpatterns⟩ := h.blank w.store.fresh (Nat.lt_irrefl _)
    rw [Heap.get_push_fresh, hkind, hpatterns]
    exact ⟨rfl, rfl⟩
  · rw [Heap.get_push_other hq]
    exact ⟨rfl, rfl⟩

theorem Builds.settled (h : Builds r w v) (hw : Settled r c w) :
    Settled r c v ∧ Picture.of r c v = Picture.of r c w := by
  have hwired := h.wired hw.wired
  have hsettings := h.settingsOf.trans hw.settings
  cases h with
  | report => exact ⟨⟨hwired, hsettings, hw.defaults, hw.blank⟩, rfl⟩
  | record hdefaults =>
    have hpush := hw.push_record hdefaults
    refine ⟨⟨hwired, hsettings, fun x hx => ?_, fun q hq => ?_⟩, Picture.of_congr
      ⟨rfl, rfl, fun q => (hpush q).1⟩ (fun q => (hpush q).2) rfl rfl⟩
    · obtain ⟨hhas, hresolved⟩ := hw.defaults x hx
      refine ⟨Heap.has_push_old hhas _, ?_⟩
      rw [Heap.get_push_old hhas]
      exact hresolved
    · rw [(hpush q).1, (hpush q).2]
      exact hw.blank q fun hhas => hq (Heap.has_push_old hhas _)
  | source hempty hmade =>
    refine ⟨⟨hwired, hsettings, ?_, hw.blank⟩, ?_⟩
    · simp only [Heap.get_modify_same]
      exact hw.defaults
    · rw [hw.settings, sourceOf_configuration] at hmade
      cases hmade
      simp only [Picture.of, Picture.drawn, Picture.registry, Heap.get_modify_same,
        Heap.get_push_fresh, hempty]
  | cascade hempty hhas hdefaults hresolved =>
    refine ⟨⟨hwired, hsettings, ?_, hw.blank⟩, ?_⟩
    · simp only [Heap.get_modify_same]
      rintro _ ⟨⟩
      rw [Heap.get_push_fresh]
      exact ⟨hhas, hresolved⟩
    · simp only [Picture.of, Picture.drawn, Picture.registry, Heap.get_modify_same,
        Heap.get_push_fresh, hempty]
  | selector | compiler | renderer | formatter =>
    refine ⟨⟨hwired, hsettings, ?_, hw.blank⟩, ?_⟩
    · simp only [Heap.get_modify_same]
      exact hw.defaults
    · simp only [Picture.of, Picture.drawn, Picture.registry, Heap.get_modify_same]

theorem Grows.settled (h : Grows r w v) (hw : Settled r c w) :
    Settled r c v ∧ Picture.of r c v = Picture.of r c w := by
  induction h with
  | refl => exact ⟨hw, rfl⟩
  | tail _ hstep ih =>
    obtain ⟨hsettled, hpicture⟩ := hstep.settled ih.1
    exact ⟨hsettled, hpicture.trans ih.2⟩

/-- A component that is given over accepted settings leaves the picture as it is. -/
theorem Settled.given {α : Type} {wrap : α → Component} {a : Action α} (hw : Settled r c w)
    (h : Action.Serves r k wrap a w) :
    ∃ x v, a.runIn w = (.ok x, v) ∧ v.held r k = some (wrap x) ∧ Settled r c v ∧
      Picture.of r c v = Picture.of r c w := by
  obtain ⟨x, v, hrun, hheld, hgrows⟩ := given_of_accepted hw.settings h
  exact ⟨x, v, hrun, hheld, hgrows.settled hw⟩

end Steps

end FormDialogue
