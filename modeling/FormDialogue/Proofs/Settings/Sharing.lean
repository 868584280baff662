import FormDialogue.Proofs.Settings.Ending
import FormDialogue.Proofs.Unicode.UpperCase
import FormDialogue.Workspace.Components

/-! # Shared settings

The first settings that are loaded on request are shared from then on, and logging is set up from
them. They are shared before the set-up, which refuses two names of levels: the upper case of a text
can be the name of a layout or of a table of layouts. After such a refusal the settings are shared
although logging was not set up from them, and no later request sets it up. For every other name a
request either does all of it or nothing. -/

namespace FormDialogue

namespace Logging
variable {name : String}

/-- What is said against a name in upper case that is taken by something else than a level. -/
def refusal? (name : String) : Option Failure :=
  if name = "BASIC_FORMAT" then some (.unknownLevel (Text.quote plainLayout))
  else if name = "_STYLES" then some (.notLevel shownLayouts)
  else none

/-- In a table whose other names are not in upper case, a name in upper case is the one that is. -/
theorem key_eq_of_lookup {α : Type} {entries : List (String × α)} {key : String} {a : α}
    (h : entries.all (fun e => e.1 == key || e.1.toList.any Char.isLower) = true)
    (hname : ∀ x ∈ name.toList, x.isLower = false) (hfound : entries.lookup name = some a) :
    name = key := by
  obtain ⟨before, after, rfl, -⟩ := List.lookup_eq_some_iff.1 hfound
  have hentry := List.all_eq_true.1 h (name, a) (by simp)
  rw [Bool.or_eq_true, beq_iff_eq, List.any_eq_true] at hentry
  obtain hkey | ⟨x, hx, hlower⟩ := hentry
  · exact hkey
  · rw [hname x hx] at hlower
    cases hlower

/-- A name in upper case means a level, unless it is taken. -/
theorem meaning_of_upper (h : ∀ x ∈ name.toList, x.isLower = false) (hfree : refusal? name = none) :
    ∃ n, Meaning.ofName name = .level n := by
  -- All other names that are taken hold a small letter.
  have hroot : name ≠ "root" := by
    rintro rfl
    exact absurd (h 'r' (by decide)) (by decide)
  have hword : words.lookup name = none := by
    rw [Option.eq_none_iff_forall_ne_some]
    intro text hfound
    obtain rfl : name = "BASIC_FORMAT" := key_eq_of_lookup (by decide +kernel) h hfound
    cases hfree
  have hthing : things.lookup name = none := by
    rw [Option.eq_none_iff_forall_ne_some]
    intro shown hfound
    obtain rfl : name = "_STYLES" := key_eq_of_lookup (by decide +kernel) h hfound
    cases hfree
  rw [Meaning.ofName, if_neg hroot, hword, hthing]
  cases levels.lookup name with
  | some n => exact ⟨n, rfl⟩
  | none => exact ⟨.info, rfl⟩

namespace State
variable {why : Failure}

theorem ownLevel_withOutlet (s : State) (path : LoggerPath) :
    s.withOutlet.ownLevel path = s.ownLevel path := by
  unfold withOutlet
  split <;> rfl

theorem configure_of_taken (h : refusal? name = some why) (s : State) (own : String) :
    let configured := s.configure own (.ofName name)
    configured.2 = .error why ∧ ∀ path, configured.1.ownLevel path = s.ownLevel path := by
  rw [refusal?] at h
  split at h
  · next hname =>
    subst hname
    cases h
    exact ⟨rfl, ownLevel_withOutlet s⟩
  · split at h
    · next hname =>
      subst hname
      cases h
      exact ⟨rfl, ownLevel_withOutlet s⟩
    · cases h

theorem configure_of_level (s : State) (own : String) (n : Level) :
    (s.configure own (.level n)).2 = .ok () ∧
      (s.configure own (.level n)).1.ownLevel (pathOf own) = n := by
  simp [configure, setLevel, ownLevel]

end State

end Logging

namespace Settings
open Validation (Verdict)
variable {o : Origin} {s : Settings}

theorem logLevel_of_checkConfiguration {c : Configuration}
    (h : checkConfiguration o = .accepted c) :
    checkSetting o .logLevel stockLevel checkLevel = .accepted c.logLevel := by
  obtain ⟨_, _, hlevel, -, rfl⟩ := Verdict.seq_eq_accepted_iff.1 h
  obtain ⟨_, level, hthird, hchecked, rfl⟩ := Verdict.seq_eq_accepted_iff.1 hlevel
  obtain ⟨_, _, hsecond, -, rfl⟩ := Verdict.seq_eq_accepted_iff.1 hthird
  obtain ⟨_, _, hfirst, -, rfl⟩ := Verdict.seq_eq_accepted_iff.1 hsecond
  obtain ⟨_, -, rfl⟩ := Verdict.map_eq_accepted_iff.1 hfirst
  exact hchecked

/-- The level of loaded settings is in upper case. -/
theorem logLevel_of_load (h : load o = .ok s) :
    ∀ x ∈ s.accepted.logLevel.toList, x.isLower = false := by
  obtain ⟨c, hc, rfl⟩ := load_eq_ok h
  change ∀ x ∈ c.logLevel.toList, x.isLower = false
  obtain ⟨-, hstock⟩ | ⟨d, -, hd⟩ :=
    checkSetting_eq_accepted_iff.1 (logLevel_of_checkConfiguration hc)
  · have hlevel : stockLevel.toList.all (fun x => !x.isLower) = true := by decide
    rw [hstock]
    exact fun x hx => by simpa using List.all_eq_true.1 hlevel x hx
  · obtain ⟨text, -, hupper⟩ := Verdict.map_eq_accepted_iff.1 hd
    rw [← hupper, String.toList_ofList]
    exact fun x hx => Text.isLower_of_mem_upper hx

theorem level_of_load (h : load o = .ok s) : s.level = .ok (.ofName s.accepted.logLevel) := by
  obtain ⟨c, -, rfl⟩ := load_eq_ok h
  rfl

end Settings

namespace Action
open Logging (refusal? pathOf)
open Settings (Origin load)
variable {own : String} {w : Workspace} {o : Origin} {s : Settings} {r : Ref Settings}
  {origins : List Origin} {why : Failure}

/-! ## One request -/

theorem sharedSettings_of_shared (h : w.shared = some r) :
    (sharedSettings own o).runIn w = (.ok r, w) := by
  rw [sharedSettings, runIn_bind_ok (runIn_get w), h]
  rfl

theorem sharedSettings_of_refused (h : w.shared = none) (hload : load o = .error why) :
    (sharedSettings own o).runIn w = (.error why, w) := by
  have hloading : (loadSettings o).runIn w = (.error why, w) := by
    rw [loadSettings, hload]
    rfl
  rw [sharedSettings, runIn_bind_ok (runIn_get w), h]
  exact runIn_bind_error hloading _

/-- The workspace once settings are shared, whether logging could be set up from them or not. -/
def sharing (own : String) (s : Settings) (w : Workspace) : Workspace :=
  { w with
    settings := w.settings.push s
    shared := some w.settings.fresh
    logging := (w.logging.configure own (.ofName s.accepted.logLevel)).1 }

theorem runIn_configureLogging {meaning : Logging.Meaning}
    (h : (w.settings.get r).level = .ok meaning) :
    (configureLogging own r).runIn w = ((w.logging.configure own meaning).2,
      { w with logging := (w.logging.configure own meaning).1 }) := by
  have hget : (getSettings r).runIn w = (.ok (w.settings.get r), w) := rfl
  rw [configureLogging, runIn_bind_ok hget, h, runIn_bind_ok (runIn_ofExcept _ w),
    runIn_bind_ok (runIn_get w)]
  rcases w.logging.configure own meaning with ⟨logging, result⟩
  rw [runIn_bind_ok (runIn_set _ w), runIn_ofExcept]

theorem sharedSettings_of_loaded (h : w.shared = none) (hload : load o = .ok s) :
    (sharedSettings own o).runIn w =
      ((w.logging.configure own (.ofName s.accepted.logLevel)).2.map fun _ => w.settings.fresh,
        sharing own s w) := by
  let v : Workspace :=
    { w with settings := w.settings.push s, shared := some w.settings.fresh }
  have hloading : (loadSettings o).runIn w =
      (.ok w.settings.fresh, { w with settings := w.settings.push s }) := by
    rw [loadSettings, hload]
    rfl
  have hlevel : (v.settings.get w.settings.fresh).level = .ok (.ofName s.accepted.logLevel) := by
    rw [Heap.get_push_fresh]
    exact Settings.level_of_load hload
  rw [sharedSettings, runIn_bind_ok (runIn_get w), h]
  dsimp only
  rw [runIn_bind_ok hloading, runIn_bind_ok (runIn_modify _ _), runIn_bind]
  change (match ((configureLogging own w.settings.fresh).runIn v).1 with | _ => _) = _
  rw [runIn_configureLogging hlevel]
  dsimp only [v]
  cases (w.logging.configure own (.ofName s.accepted.logLevel)).2 with
  | ok u => rfl
  | error why => rfl

/-! ## Runs of requests -/

def afterRequest (own : String) (w : Workspace) (o : Origin) : Workspace :=
  ((sharedSettings own o).runIn w).2

def afterRequests (own : String) (w : Workspace) (origins : List Origin) : Workspace :=
  origins.foldl (afterRequest own) w

def firstLoaded? (origins : List Origin) : Option Settings :=
  origins.findSome? fun o => (load o).toOption

theorem afterRequests_of_shared (h : w.shared = some r) (origins : List Origin) :
    afterRequests own w origins = w := by
  induction origins with
  | nil => rfl
  | cons o rest ih =>
    have hfirst : afterRequest own w o = w := congrArg Prod.snd (sharedSettings_of_shared h)
    rw [afterRequests, List.foldl_cons, hfirst]
    exact ih

theorem afterRequests_eq (h : w.shared = none) (origins : List Origin) :
    afterRequests own w origins = match firstLoaded? origins with
      | some s => sharing own s w
      | none => w := by
  induction origins with
  | nil => rfl
  | cons o rest ih =>
    rw [afterRequests, List.foldl_cons, firstLoaded?, List.findSome?_cons, afterRequest]
    cases hload : load o with
    | error why =>
      rw [sharedSettings_of_refused h hload]
      exact ih
    | ok s =>
      rw [sharedSettings_of_loaded h hload]
      exact afterRequests_of_shared rfl rest

/-- Every request does all of it or nothing: one that gives settings has set up logging from them,
and they are what every later request gives; one that fails leaves nothing shared. -/
structure AllOrNothing (own : String) (w : Workspace) (origins : List Origin) : Prop where
  applied : ∀ earlier o later, origins = earlier ++ o :: later →
    let v := afterRequests own w earlier
    let after := afterRequest own v o
    ∀ r, ((sharedSettings own o).runIn v).1 = .ok r →
      ∃ n, (after.settings.get r).level = .ok (.level n) ∧ after.logging.ownLevel (pathOf own) = n
  lasting : ∀ earlier o later, origins = earlier ++ o :: later →
    let v := afterRequests own w earlier
    let after := afterRequest own v o
    ∀ r, ((sharedSettings own o).runIn v).1 = .ok r →
      ∀ between next rest, later = between ++ next :: rest →
        let u := afterRequests own after between
        ((sharedSettings own next).runIn u).1 = .ok r ∧ u.settings.get r = after.settings.get r
  undone : ∀ earlier o later, origins = earlier ++ o :: later →
    let v := afterRequests own w earlier
    ∀ why, ((sharedSettings own o).runIn v).1 = .error why → (afterRequest own v o).shared = none

section Runs
variable {earlier later : List Origin}

theorem firstLoaded?_of_earlier (h : firstLoaded? earlier = some s) (later : List Origin) :
    firstLoaded? (earlier ++ later) = some s := by
  rw [firstLoaded?, List.findSome?_append, ← firstLoaded?, h]
  rfl

theorem firstLoaded?_of_load (h : firstLoaded? earlier = none) (hload : load o = .ok s)
    (later : List Origin) : firstLoaded? (earlier ++ o :: later) = some s := by
  rw [firstLoaded?, List.findSome?_append, ← firstLoaded?, h, List.findSome?_cons, hload]
  rfl

theorem exists_of_firstLoaded? (h : firstLoaded? origins = some s) :
    ∃ earlier o later, origins = earlier ++ o :: later ∧ firstLoaded? earlier = none ∧
      load o = .ok s := by
  obtain ⟨earlier, o, later, horigins, ho, hnone⟩ := List.findSome?_eq_some_iff.1 h
  refine ⟨earlier, o, later, horigins, List.findSome?_eq_none_iff.2 hnone, ?_⟩
  cases hload : load o with
  | ok s' =>
    rw [hload] at ho
    cases ho
    rfl
  | error why =>
    rw [hload] at ho
    cases ho

/-- Settings whose level is not taken are shared with logging set up from them. -/
theorem sharing_of_free (h : firstLoaded? origins = some s)
    (hfree : refusal? s.accepted.logLevel = none) (own : String) (w : Workspace) :
    (w.logging.configure own (.ofName s.accepted.logLevel)).2 = .ok () ∧
      ∃ n, s.level = .ok (.level n) ∧ (sharing own s w).logging.ownLevel (pathOf own) = n := by
  obtain ⟨_, o, _, -, -, hload⟩ := exists_of_firstLoaded? h
  obtain ⟨n, hn⟩ := Logging.meaning_of_upper (Settings.logLevel_of_load hload) hfree
  obtain ⟨hresult, hlevel⟩ := w.logging.configure_of_level own n
  rw [Settings.level_of_load hload, sharing, hn]
  exact ⟨hresult, n, rfl, hlevel⟩

variable (hw : w.shared = none)
include hw

/-- What a request gives and leaves after any others. -/
theorem runIn_request (own : String) (earlier : List Origin) (o : Origin) :
    (sharedSettings own o).runIn (afterRequests own w earlier) =
      match firstLoaded? earlier, load o with
      | some s, _ => (.ok w.settings.fresh, sharing own s w)
      | none, .ok s =>
        ((w.logging.configure own (.ofName s.accepted.logLevel)).2.map fun _ => w.settings.fresh,
          sharing own s w)
      | none, .error why => (.error why, w) := by
  rw [afterRequests_eq hw]
  cases firstLoaded? earlier with
  | some s => exact sharedSettings_of_shared rfl
  | none =>
    cases hload : load o with
    | error why => exact sharedSettings_of_refused hw hload
    | ok s => exact sharedSettings_of_loaded hw hload

theorem request_cases (own : String)
    (hfree : ∀ s, firstLoaded? origins = some s → refusal? s.accepted.logLevel = none)
    (horigins : origins = earlier ++ o :: later) :
    (∃ why, (sharedSettings own o).runIn (afterRequests own w earlier) = (.error why, w)) ∨
      ∃ s, firstLoaded? origins = some s ∧
        (sharedSettings own o).runIn (afterRequests own w earlier) =
          (.ok w.settings.fresh, sharing own s w) := by
  rw [runIn_request hw]
  cases hfirst : firstLoaded? earlier with
  | some s => exact .inr ⟨s, horigins ▸ firstLoaded?_of_earlier hfirst _, rfl⟩
  | none =>
    cases hload : load o with
    | error why => exact .inl ⟨why, rfl⟩
    | ok s =>
      have hs : firstLoaded? origins = some s := horigins ▸ firstLoaded?_of_load hfirst hload later
      refine .inr ⟨s, hs, ?_⟩
      dsimp only
      rw [(sharing_of_free hs (hfree s hs) own w).1]
      rfl

theorem allOrNothing_of_free (own : String)
    (hfree : ∀ s, firstLoaded? origins = some s → refusal? s.accepted.logLevel = none) :
    AllOrNothing own w origins := by
  constructor
  · intro earlier o later horigins v after r hr
    obtain ⟨why, hrun⟩ | ⟨s, hs, hrun⟩ := request_cases hw own hfree horigins
    · rw [hrun] at hr
      cases hr
    · rw [hrun] at hr
      cases hr
      have hafter : after = sharing own s w := congrArg Prod.snd hrun
      have hget : (sharing own s w).settings.get w.settings.fresh = s := Heap.get_push_fresh ..
      rw [hafter, hget]
      exact (sharing_of_free hs (hfree s hs) own w).2
  · intro earlier o later horigins v after r hr between next rest hlater u
    obtain ⟨why, hrun⟩ | ⟨s, hs, hrun⟩ := request_cases hw own hfree horigins
    · rw [hrun] at hr
      cases hr
    · rw [hrun] at hr
      cases hr
      have hafter : after = sharing own s w := congrArg Prod.snd hrun
      have hu : u = after := afterRequests_of_shared (r := w.settings.fresh) (hafter ▸ rfl) between
      rw [hu, hafter, sharedSettings_of_shared (r := w.settings.fresh) rfl]
      exact ⟨rfl, rfl⟩
  · intro earlier o later horigins v why hwhy
    obtain ⟨why', hrun⟩ | ⟨s, hs, hrun⟩ := request_cases hw own hfree horigins
    · have hafter : afterRequest own v o = w := congrArg Prod.snd hrun
      rw [hafter]
      exact hw
    · rw [hrun] at hwhy
      cases hwhy

theorem free_of_allOrNothing (h : AllOrNothing own w origins) (hs : firstLoaded? origins = some s) :
    refusal? s.accepted.logLevel = none := by
  obtain ⟨earlier, o, later, horigins, hfirst, hload⟩ := exists_of_firstLoaded? hs
  cases hrefusal : refusal? s.accepted.logLevel with
  | none => rfl
  | some why =>
    have hrun := runIn_request hw own earlier o
    rw [hfirst, hload] at hrun
    dsimp only at hrun
    rw [(Logging.State.configure_of_taken hrefusal w.logging own).1] at hrun
    have hundone := h.undone earlier o later horigins why (congrArg Prod.fst hrun)
    rw [afterRequest, hrun] at hundone
    cases hundone

/-- The first settings that are loaded are shared by all later requests; before them a request fails
and changes nothing. The request that loads them sets up logging from them, unless the name of their
level is taken: then it fails, and yet they are shared, with the level of the logger as it was. So a
run does all or nothing at every request just when that name is not taken. -/
theorem requests_share_settings (own : String) (origins : List Origin) :
    (∀ earlier o later, origins = earlier ++ o :: later →
      let v := afterRequests own w earlier
      let request := (sharedSettings own o).runIn v
      let after := request.2
      let r := w.settings.fresh
      match firstLoaded? earlier, load o with
      | some s, _ => v.shared = some r ∧ v.settings.get r = s ∧ request = (.ok r, v)
      | none, .error why => v = w ∧ request = (.error why, w)
      | none, .ok s => v = w ∧ after.shared = some r ∧ after.settings.get r = s ∧
        match refusal? s.accepted.logLevel with
        | some why => request.1 = .error why ∧
          after.logging.ownLevel (pathOf own) = w.logging.ownLevel (pathOf own)
        | none => request.1 = .ok r ∧
          ∃ n, s.level = .ok (.level n) ∧ after.logging.ownLevel (pathOf own) = n) ∧
    (AllOrNothing own w origins ↔
      ∀ s, firstLoaded? origins = some s → refusal? s.accepted.logLevel = none) := by
  constructor
  · rintro earlier o later -
    intro v request after r
    have hrequest : request = _ := runIn_request hw own earlier o
    have hv : v = _ := afterRequests_eq hw earlier
    cases hfirst : firstLoaded? earlier with
    | some s =>
      rw [hfirst] at hrequest hv
      rw [hv, hrequest]
      exact ⟨rfl, Heap.get_push_fresh .., rfl⟩
    | none =>
      rw [hfirst] at hrequest hv
      cases hload : load o with
      | error why =>
        rw [hload] at hrequest
        exact ⟨hv, hrequest⟩
      | ok s =>
        rw [hload] at hrequest
        have hafter : after = sharing own s w := congrArg Prod.snd hrequest
        have hresult : request.1 =
            (w.logging.configure own (.ofName s.accepted.logLevel)).2.map fun _ => r :=
          congrArg Prod.fst hrequest
        dsimp only
        rw [hafter, hresult]
        refine ⟨hv, rfl, Heap.get_push_fresh .., ?_⟩
        cases hrefusal : refusal? s.accepted.logLevel with
        | some why =>
          obtain ⟨herror, hkept⟩ :=
            Logging.State.configure_of_taken hrefusal w.logging own
          rw [herror]
          exact ⟨rfl, hkept _⟩
        | none =>
          obtain ⟨hok, hlevel⟩ :=
            sharing_of_free (firstLoaded?_of_load hfirst hload []) hrefusal own w
          rw [hok]
          exact ⟨rfl, hlevel⟩
  · exact ⟨fun h s hs => free_of_allOrNothing hw h hs, allOrNothing_of_free hw own⟩

end Runs

theorem requests_share_settings_sample :
    let own := "formflow.core.config"
    let refused : Origin := ⟨[], [("AUTO_TEXT_INLINE_THRESHOLD", "0")], none⟩
    let taken : Origin := ⟨[], [("LOG_LEVEL", "basic_format")], none⟩
    let w : Workspace := {}
    w.shared = none ∧ AllOrNothing own w [refused, .none, taken] ∧
      ¬ AllOrNothing own w [taken, .none] ∧
      ((sharedSettings own taken).runIn w).1 =
        .error (.unknownLevel (Text.quote Logging.plainLayout)) ∧
      ((sharedSettings own .none).runIn (afterRequest own w taken)).1 = .ok ⟨0⟩ := by
  intro own refused taken w
  have hw : w.shared = none := rfl
  obtain ⟨-, hgood⟩ := requests_share_settings hw own [refused, .none, taken]
  obtain ⟨hrun, hbad⟩ := requests_share_settings hw own [taken, .none]
  have hfree : (firstLoaded? [refused, .none, taken]).all
      (fun s => (refusal? s.accepted.logLevel).isNone) = true := by decide +kernel
  have hlevel : ((load taken).toOption.map fun s => s.accepted.logLevel) =
      some "BASIC_FORMAT" := by decide +kernel
  obtain ⟨s, hload, hname⟩ := Settings.exists_loaded hlevel
  have hfirst : ∀ rest, firstLoaded? (taken :: rest) = some s :=
    fun rest => by rw [firstLoaded?, List.findSome?_cons, hload]; rfl
  have hrefusal : refusal? s.accepted.logLevel =
      some (.unknownLevel (Text.quote Logging.plainLayout)) := by rw [hname]; rfl
  clear_value taken
  refine ⟨hw, hgood.2 fun s hs => ?_, fun h => ?_, ?_, ?_⟩
  · rw [hs, Option.all_some] at hfree
    exact Option.isNone_iff_eq_none.1 hfree
  · rw [hbad.1 h s (hfirst _)] at hrefusal
    cases hrefusal
  · have hrequest := hrun [] taken [.none] rfl
    have hnone : firstLoaded? [] = none := rfl
    simp only [hnone, hload, hrefusal] at hrequest
    exact hrequest.2.2.2.1
  · have hrequest := hrun [taken] .none [] rfl
    simp only [hfirst] at hrequest
    exact congrArg Prod.fst hrequest.2.2

end Action
end FormDialogue
