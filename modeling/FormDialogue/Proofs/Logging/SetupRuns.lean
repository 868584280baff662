import FormDialogue.Proofs.Logging.Showing
import FormDialogue.Proofs.Settings.Sharing
import Mathlib.Data.List.Nodup

/-! # Runs of set-ups

Logging may be set up again and again, plainly or in full. The plain set-up adds the console only
where there is no outlet, and else gives a level to its own logger; the full set-up starts the
outlets anew. So there is never more than one outlet for a place, and the outlets of the last full
set-up stay, with their level, whatever plain set-ups follow. A line is then shown once or not at
all: it has to reach that level and the level of the nearest logger above it that has one. -/

namespace FormDialogue

namespace Logging.State
variable {s : State} {own : String} {level n : Level} {file : Option String}

/-! ## The plain set-up -/

theorem withOutlet_of_outlets (h : s.outlets ≠ []) : s.withOutlet = s := by
  rw [withOutlet, if_neg (by simpa using h)]

theorem withOutlet_of_no_outlets (h : s.outlets = []) :
    s.withOutlet = { s with outlets := [⟨none, 0⟩] } := by
  rw [withOutlet, h]
  rfl

theorem configure_level (s : State) (own : String) (n : Level) :
    (s.configure own (.level n)).1 =
      { rootLevel := if s.outlets = [] then n else s.rootLevel
        outlets := s.withOutlet.outlets
        levels := (pathOf own, n) :: s.levels } := by
  by_cases h : s.outlets = []
  · rw [configure, if_pos (by simpa using h), if_pos h, withOutlet_of_no_outlets h]
    rfl
  · rw [configure, if_neg (by simpa using h), if_neg h, withOutlet_of_outlets h]
    rfl

/-- What the plain set-up leaves, be the level accepted or not. -/
inductive Configured (own : String) (s : State) : State → Prop
  | level (n : Level) : Configured own s (s.configure own (.level n)).1
  | refused : Configured own s s.withOutlet
  | kept : Configured own s s

theorem configured (s : State) (own : String) (meaning : Meaning) :
    s.Configured own (s.configure own meaning).1 := by
  cases meaning with
  | level n => exact .level n
  | _ => exact .refused

/-- Where there is an outlet, nothing is left to set up but the level of the own logger. -/
theorem Configured.of_outlets {t : State} (h : s.Configured own t) (hs : s.outlets ≠ []) :
    t.outlets = s.outlets ∧ t.rootLevel = s.rootLevel := by
  cases h with
  | level n =>
    rw [configure_level, withOutlet_of_outlets hs, if_neg hs]
    exact ⟨rfl, rfl⟩
  | refused =>
    rw [withOutlet_of_outlets hs]
    exact ⟨rfl, rfl⟩
  | kept => exact ⟨rfl, rfl⟩

theorem Configured.outlets_eq {t : State} (h : s.Configured own t) :
    t.outlets = s.outlets ∨ t.outlets = fullOutlets 0 none := by
  by_cases hs : s.outlets = []
  · cases h with
    | level n =>
      rw [configure_level, withOutlet_of_no_outlets hs]
      exact .inr rfl
    | refused =>
      rw [withOutlet_of_no_outlets hs]
      exact .inr rfl
    | kept => exact .inl rfl
  · exact .inl (h.of_outlets hs).1

/-- One logger was given a level, and nothing else has changed; but where there was no outlet, the
console was added, and the root was given the level as well. -/
structure SetsLevel (own : String) (n : Level) (s t : State) : Prop where
  first : s.outlets = [] → t.rootLevel = n ∧ t.outlets = [⟨none, 0⟩]
  again : s.outlets ≠ [] → t.rootLevel = s.rootLevel ∧ t.outlets = s.outlets
  level : t.ownLevel (pathOf own) = n
  others : ∀ path, path ≠ pathOf own → t.ownLevel path = s.ownLevel path

theorem setsLevel_configure (s : State) (own : String) (n : Level) :
    s.SetsLevel own n (s.configure own (.level n)).1 where
  first h := by
    rw [configure_level, withOutlet_of_no_outlets h, if_pos h]
    exact ⟨rfl, rfl⟩
  again h := ((Configured.level n).of_outlets h).symm
  level := (s.configure_of_level own n).2
  others path hpath := by
    have hother : (pathOf own == path) = false := by simpa using Ne.symm hpath
    rw [configure_level, ownLevel, List.find?_cons, hother]
    rfl

/-! ## Outlets for a place -/

/-- No place has two outlets. -/
def Tidy (s : State) : Prop := (s.outlets.map Outlet.file).Nodup

theorem tidy_of_fullOutlets (h : s.outlets = fullOutlets level file) : s.Tidy := by
  rw [Tidy, h, List.nodup_iff_count_le_one]
  intro place
  rw [count_fullOutlets]
  split <;> simp

theorem Configured.tidy {t : State} (h : s.Configured own t) (hs : s.Tidy) : t.Tidy := by
  obtain hsame | hone := h.outlets_eq
  · rw [Tidy, hsame]
    exact hs
  · exact tidy_of_fullOutlets hone

section
variable [Limits] {l : Line}

theorem shown_singleton (s : State) (place : Option String) (l : Line) :
    s.shown place [l] = List.replicate (s.copies place l) l := List.flatMap_singleton ..

/-- The only outlet for a place writes a line at most once. -/
theorem Tidy.shown_length_le (h : s.Tidy) (place : Option String) (l : Line) :
    (s.shown place [l]).length ≤ 1 := by
  rw [shown_singleton, List.length_replicate, copies_eq]
  split
  · exact List.nodup_iff_count_le_one.1 (h.sublist (List.filter_sublist.map Outlet.file)) place
  · exact Nat.zero_le 1

/-- A line that is logged after the full set-up is shown once on the console and once in the file,
if it reaches the level of the set-up and the one that its logger is subject to. -/
theorem shown_of_fullOutlets (houtlets : s.outlets = fullOutlets level file) (hpos : 0 < level)
    (hn : s.Subject (pathOf l.logger) n) (place : Option String) :
    s.shown place [l] =
      if (place = none ∨ place = file) ∧ level ≤ l.level ∧ n ≤ l.level ∧ l.Named then [l]
      else [] := by
  have hreaches : s.lets l = true ∧ level ≤ l.level ∧ l.Named ↔
      level ≤ l.level ∧ n ≤ l.level ∧ l.Named := by
    rw [lets, ← subject_iff.1 hn, Bool.and_eq_true, decide_eq_true_eq, decide_eq_true_eq]
    constructor
    · rintro ⟨⟨-, hown⟩, hlevel, hnamed⟩
      exact ⟨hlevel, hown, hnamed⟩
    · rintro ⟨hlevel, hown, hnamed⟩
      exact ⟨⟨Int.lt_of_lt_of_le hpos hlevel, hown⟩, hlevel, hnamed⟩
  rw [shown_singleton, copies_of_fullOutlets houtlets, if_congr (and_congr_right' hreaches) rfl rfl]
  split <;> rfl

end

end Logging.State

/-! ## Steps -/

/-- A step of a run that sets up logging. The settings of a full set-up may be the shared ones,
which are then requested. Anything that leaves logging alone may happen in between: settings may be
made, assigned and shared, and files may become writable or cease to be. -/
inductive LoggingStep
  | configure (settings : Ref Settings)
  | request (origin : Settings.Origin)
  | setup (settings : Option (Ref Settings)) (origin : Settings.Origin)
  | elsewhere (change : Workspace → Workspace)

namespace LoggingStep
open FormDialogue.Action
open Logging (Line pathOf)
open Logging.State (fullOutlets setupLevel)
open Settings (Origin load)
variable {own : String} {w : Workspace} {step : LoggingStep} {settings : Option (Ref Settings)}
  {r : Ref Settings} {o : Origin}

/-- The given settings, or the shared ones. -/
def settingsFor (own : String) (o : Origin) : Option (Ref Settings) → Action (Ref Settings)
  | some r => pure r
  | none => sharedSettings own o

def act (own : String) : LoggingStep → Action Unit
  | configure r => configureLogging own r
  | request o => discard (sharedSettings own o)
  | setup settings o => do setupLogging (← settingsFor own o settings)
  | elsewhere change => modify fun w => { change w with logging := w.logging }

def isSetup : LoggingStep → Bool
  | setup .. => true
  | _ => false

def after (own : String) (w : Workspace) (step : LoggingStep) : Workspace :=
  ((step.act own).runIn w).2

def afterAll (own : String) (w : Workspace) (steps : List LoggingStep) : Workspace :=
  steps.foldl (after own) w

theorem configured_configureLogging (own : String) (r : Ref Settings) (w : Workspace) :
    w.logging.Configured own ((configureLogging own r).runIn w).2.logging := by
  cases hlevel : (w.settings.get r).level with
  | ok meaning =>
    rw [runIn_configureLogging hlevel]
    exact w.logging.configured own meaning
  | error why =>
    have hrun : (configureLogging own r).runIn w = (.error why, w) := by
      rw [configureLogging, runIn_bind_ok (runIn_getSettings r w), hlevel]
      exact runIn_bind_error (runIn_ofExcept _ w) _
    rw [hrun]
    exact .kept

theorem configured_sharedSettings (own : String) (o : Origin) (w : Workspace) :
    w.logging.Configured own ((sharedSettings own o).runIn w).2.logging := by
  cases hshared : w.shared with
  | some r =>
    rw [sharedSettings_of_shared hshared]
    exact .kept
  | none =>
    cases hload : load o with
    | error why =>
      rw [sharedSettings_of_refused hshared hload]
      exact .kept
    | ok s =>
      rw [sharedSettings_of_loaded hshared hload]
      exact w.logging.configured own _

theorem shared_of_sharedSettings (h : ((sharedSettings own o).runIn w).1 = .ok r) :
    ((sharedSettings own o).runIn w).2.shared = some r := by
  cases hshared : w.shared with
  | some r' =>
    rw [sharedSettings_of_shared hshared] at h ⊢
    cases h
    exact hshared
  | none =>
    cases hload : load o with
    | error why =>
      rw [sharedSettings_of_refused hshared hload] at h
      cases h
    | ok s =>
      rw [sharedSettings_of_loaded hshared hload] at h ⊢
      obtain ⟨_, -, rfl⟩ := map_eq_ok_iff.1 h
      rfl

theorem settingsFor_spec (own : String) (o : Origin) (settings : Option (Ref Settings))
    (w : Workspace) :
    let run := (settingsFor own o settings).runIn w
    w.logging.Configured own run.2.logging ∧
      ∀ r, run.1 = .ok r → settings = some r ∨ settings = none ∧ run.2.shared = some r := by
  cases settings with
  | some r =>
    refine ⟨.kept, fun r' hr' => .inl ?_⟩
    exact congrArg some (Except.ok.inj hr')
  | none =>
    exact ⟨configured_sharedSettings own o w, fun r hr => .inr ⟨rfl, shared_of_sharedSettings hr⟩⟩

/-! ## What a step does -/

theorem configured_after (own : String) (h : step.isSetup = false) (w : Workspace) :
    w.logging.Configured own (step.after own w).logging := by
  cases step with
  | configure r => exact configured_configureLogging own r w
  | request o =>
    rw [after, act, runIn_discard]
    exact configured_sharedSettings own o w
  | setup => cases h
  | elsewhere change => exact .kept

theorem after_setup_cases (own : String) (settings : Option (Ref Settings)) (o : Origin)
    (w : Workspace) :
    let u := (setup settings o).after own w
    w.logging.Configured own u.logging ∨
      ∃ level file, u.logging.outlets = fullOutlets level file := by
  obtain ⟨hconfigured, -⟩ := settingsFor_spec own o settings w
  rw [after, act, runIn_bind]
  cases hr : ((settingsFor own o settings).runIn w).1 with
  | error why => exact .inl hconfigured
  | ok r =>
    dsimp only
    rw [runIn_setupLogging]
    exact .inr ⟨_, _, rfl⟩

theorem tidy_after (h : w.logging.Tidy) (step : LoggingStep) : (step.after own w).logging.Tidy := by
  cases step with
  | setup settings o =>
    obtain hconfigured | ⟨level, file, houtlets⟩ := after_setup_cases own settings o w
    · exact hconfigured.tidy h
    · exact Logging.State.tidy_of_fullOutlets houtlets
  | configure | request | elsewhere => exact (configured_after own rfl w).tidy h

/-- A full set-up that succeeds has opened the file of its settings, and leaves just the outlets for
that, at the level of the root. -/
theorem after_setup (h : (((setup settings o).act own).runIn w).1 = .ok ()) :
    let u := (setup settings o).after own w
    ∃ r file, (settings = some r ∨ settings = none ∧ u.shared = some r) ∧
      openedFile u r = .ok file ∧
      u.logging.rootLevel = setupLevel (u.settings.get r).levelName ∧
      u.logging.outlets = fullOutlets u.logging.rootLevel file := by
  intro u
  obtain ⟨-, hsettings⟩ := settingsFor_spec own o settings w
  let found := (settingsFor own o settings).runIn w
  obtain ⟨r, hr, hset⟩ := exists_of_bind_eq_ok h
  have hu : u = ((setupLogging r).runIn found.2).2 := by
    change ((settingsFor own o settings >>= fun r => setupLogging r).runIn w).2 = _
    rw [runIn_bind, hr]
  rw [runIn_setupLogging] at hset hu
  obtain ⟨file, hfile, -⟩ := map_eq_ok_iff.1 hset
  rw [hu, hfile]
  exact ⟨r, file, hsettings r hr, hfile, rfl, rfl⟩

/-! ## Runs -/

theorem tidy_afterAll (h : w.logging.Tidy) (steps : List LoggingStep) :
    (afterAll own w steps).logging.Tidy := by
  induction steps generalizing w with
  | nil => exact h
  | cons step rest ih => exact ih (tidy_after h step)

/-- Once there is an outlet, plain set-ups leave the outlets and the level of the root alone. -/
theorem afterAll_of_outlets (own : String) (h : w.logging.outlets ≠ []) {steps : List LoggingStep}
    (hsteps : ∀ step ∈ steps, step.isSetup = false) :
    (afterAll own w steps).logging.outlets = w.logging.outlets ∧
      (afterAll own w steps).logging.rootLevel = w.logging.rootLevel := by
  induction steps generalizing w with
  | nil => exact ⟨rfl, rfl⟩
  | cons step rest ih =>
    obtain ⟨houtlets, hroot⟩ :=
      (configured_after own (hsteps step List.mem_cons_self) w).of_outlets h
    have hsome : (step.after own w).logging.outlets ≠ [] := houtlets ▸ h
    obtain ⟨hlater, hlaterRoot⟩ :=
      ih hsome fun later hmem => hsteps later (List.mem_cons_of_mem _ hmem)
    exact ⟨hlater.trans houtlets, hlaterRoot.trans hroot⟩

/-- At any point of a run of set-ups, a plain one gives a level to its own logger and changes the
root only if there is no outlet. A full one fails only for its file, if the settings or the disk
refuse it, and leaves just the console then. One that succeeds leaves the console and that file, if
there is one, both at the level of the root, and they stay as they are until the next full one. A
line that is logged by then is shown once in each of them if it reaches their level and the one that
its logger is subject to, and if its level can be named; it is not shown otherwise. No line is ever
shown twice if the run started with at most one outlet for each place. -/
theorem setups_never_accumulate [Limits] (own : String) (w : Workspace)
    (steps : List LoggingStep) :
    let v := afterAll own w steps
    (∀ r n, (v.settings.get r).level = .ok (.level n) → ∃ logging,
      (configureLogging own r).runIn v = (.ok (), { v with logging := logging }) ∧
        v.logging.SetsLevel own n logging) ∧
    (∀ r o, ∃ logging, ((setup (some r) o).act own).runIn v =
        ((openedFile v r).map fun _ => (), { v with logging := logging }) ∧
      ∀ why, openedFile v r = .error why → logging.outlets = [⟨none, logging.rootLevel⟩]) ∧
    (∀ settings o, (((setup settings o).act own).runIn v).1 = .ok () →
      let u := (setup settings o).after own v
      let level := u.logging.rootLevel
      ∃ r file, (settings = some r ∨ settings = none ∧ u.shared = some r) ∧
        openedFile u r = .ok file ∧ level = setupLevel (u.settings.get r).levelName ∧
        u.logging.outlets = ⟨none, level⟩ :: file.toList.map (fun path => ⟨some path, level⟩) ∧
        ∀ later : List LoggingStep, (∀ step ∈ later, step.isSetup = false) →
          let t := afterAll own u later
          t.logging.rootLevel = level ∧ t.logging.outlets = u.logging.outlets ∧
          ∀ l : Line, ∃ n, t.logging.Subject (pathOf l.logger) n ∧
            ∀ place, t.logging.shown place [l] =
              if (place = none ∨ place = file) ∧ level ≤ l.level ∧ n ≤ l.level ∧ l.Named then [l]
              else []) ∧
    (w.logging.Tidy → ∀ place (l : Line), (v.logging.shown place [l]).length ≤ 1) := by
  intro v
  refine ⟨fun r n hlevel => ?_, fun r o => ?_, fun settings o hok => ?_,
    fun hw place l => (tidy_afterAll hw steps).shown_length_le place l⟩
  · refine ⟨_, ?_, v.logging.setsLevel_configure own n⟩
    rw [runIn_configureLogging hlevel, (v.logging.configure_of_level own n).1]
  · refine ⟨_, runIn_setupLogging r v, fun why hwhy => ?_⟩
    rw [hwhy]
    rfl
  · intro u level
    obtain ⟨r, file, hr, hfile, hlevel, houtlets⟩ := after_setup hok
    refine ⟨r, file, hr, hfile, hlevel, houtlets, fun later hlater => ?_⟩
    intro t
    have hsome : u.logging.outlets ≠ [] := by
      rw [houtlets]
      exact List.cons_ne_nil _ _
    have hpos : 0 < level := by
      change level = _ at hlevel
      rw [hlevel]
      exact Logging.State.setupLevel_pos _
    obtain ⟨hkept, hroot⟩ := afterAll_of_outlets own hsome hlater
    refine ⟨hroot, hkept, fun l => ?_⟩
    obtain ⟨n, hn⟩ := t.logging.exists_subject l.logger
    exact ⟨n, hn, Logging.State.shown_of_fullOutlets (hkept.trans houtlets) hpos hn⟩

theorem setups_never_accumulate_sample :
    let own := "forms.settings"
    let strict : Settings := .ofConfiguration { Settings.stock.accepted with logLevel := "ERROR" }
    let filed : Settings :=
      .ofConfiguration { Settings.stock.accepted with logFile := some "forms.log" }
    let w : Workspace := { settings := (Heap.empty.push strict).push filed }
    let full := LoggingStep.setup (some ⟨1⟩) .none
    let refuse := LoggingStep.elsewhere fun w =>
      { w with disk := fun _ => some (.foreign "PermissionError" "Permission denied") }
    let v := afterAll own w [.configure ⟨0⟩, full]
    let t := afterAll own (full.after own v) [.configure ⟨0⟩, refuse]
    let news : Line := ⟨"forms", .info, "news"⟩
    let quiet : Line := ⟨"forms.settings.load", .info, "quiet"⟩
    w.logging.Tidy ∧ (v.settings.get ⟨0⟩).level = .ok (.level .error) ∧
      ((configureLogging own ⟨0⟩).runIn v).2.logging.outlets = v.logging.outlets ∧
      ((full.act own).runIn v).1 = .ok () ∧
      t.logging.shown none [news] = [news] ∧ t.logging.shown (some "forms.log") [news] = [news] ∧
      (∀ place, t.logging.shown place [quiet] = []) ∧
      (v.logging.shown none [news]).length ≤ 1 ∧
      ((full.act own).runIn t).1 = .error (.foreign "PermissionError" "Permission denied") := by
  intro own strict filed w full refuse v t news quiet
  have htidy : w.logging.Tidy := List.nodup_nil
  have hlevel : (v.settings.get ⟨0⟩).level = .ok (.level .error) := rfl
  obtain ⟨hconfigure, hsucceeds, hsetup, honce⟩ :=
    setups_never_accumulate own w [.configure ⟨0⟩, full]
  obtain ⟨_, hrun, hsets⟩ := hconfigure ⟨0⟩ .error hlevel
  have houtlets : ((configureLogging own ⟨0⟩).runIn v).2.logging.outlets = v.logging.outlets := by
    rw [hrun]
    exact (hsets.again (by decide +kernel)).2
  have hok : ((full.act own).runIn v).1 = .ok () := by
    obtain ⟨_, hfull, -⟩ := hsucceeds ⟨1⟩ .none
    rw [hfull]
    rfl
  have hrefused : ((full.act own).runIn t).1 =
      .error (.foreign "PermissionError" "Permission denied") := by
    obtain ⟨-, hfull, -⟩ := setups_never_accumulate own (full.after own v) [.configure ⟨0⟩, refuse]
    obtain ⟨_, hfull, -⟩ := hfull ⟨1⟩ .none
    rw [hfull]
    rfl
  obtain ⟨r, file, hr, hfile, -, -, hlater⟩ := hsetup (some ⟨1⟩) .none hok
  obtain rfl : ⟨1⟩ = r := Option.some.inj (hr.resolve_right fun h => by cases h.1)
  obtain rfl : some "forms.log" = file := Except.ok.inj hfile
  obtain ⟨-, -, hshown⟩ := hlater [.configure ⟨0⟩, refuse] (by simp [refuse, isSetup])
  have hnamed : news.Named ∧ quiet.Named :=
    ⟨Line.named_of_small (by decide), Line.named_of_small (by decide)⟩
  obtain ⟨n, hn, hnews⟩ := hshown news
  obtain rfl : n = .info := (Logging.State.subject_iff.1 hn).trans (by decide +kernel)
  obtain ⟨m, hm, hquiet⟩ := hshown quiet
  obtain rfl : m = .error := (Logging.State.subject_iff.1 hm).trans (by decide +kernel)
  refine ⟨htidy, hlevel, houtlets, hok, ?_, ?_, fun place => ?_, honce htidy none news, hrefused⟩
  · rw [hnews none, if_pos]
    exact ⟨.inl rfl, by decide +kernel, by decide, hnamed.1⟩
  · rw [hnews (some "forms.log"), if_pos]
    exact ⟨.inr rfl, by decide +kernel, by decide, hnamed.1⟩
  · rw [hquiet place, if_neg]
    exact fun h => absurd h.2.2.1 (by decide)

end LoggingStep

end FormDialogue
