import FormDialogue.Proofs.Validation.Acceptance
import FormDialogue.Proofs.Workspace.Registering

/-! # Accepted settings end a cascade

Whatever settings are loaded from, they are refused with a report of what is wrong, or every option
has its stock value or one that its check accepted. No check accepts an unset value, so a cascade
can be built from accepted settings. Its defaults set every option to the value of the setting for
it, and every record with a pattern is resolved through it. -/

namespace FormDialogue

namespace Settings
open Record (OptionKind OptionName)
open Validation (Verdict)
variable {α : Type} {o : Origin} {s : Settings} {c : Configuration}

/-! ## Checks of settings -/

theorem decides_checkDecided {unset : α → Bool} {v : Verdict α} (h : v.Decides) :
    (checkDecided unset v).Decides := by
  refine h.andThen fun a => ?_
  split <;> simp

theorem decides_checkConcrete (k : OptionKind) (d : Datum) : (checkConcrete k d).Decides := by
  cases k with
  | flag => exact (Validation.decides_checkFlag d).map _
  | text => exact (Validation.decides_checkText d).map _
  | casing | style | feedback =>
    exact decides_checkDecided (Validation.decides_checkMember _ _ d)

theorem decides_checkFormat (format : String) : (checkFormat format).Decides := by
  rw [checkFormat]
  split <;> simp

theorem decides_checkOptionSetting (n : OptionName) (d : Datum) :
    (checkOptionSetting n d).Decides := by
  rw [checkOptionSetting.eq_def]
  split
  · exact ((Validation.decides_checkText d).andThen decides_checkFormat).map _
  · exact decides_checkConcrete _ d

theorem decides_checkPath (d : Datum) : (checkPath d).Decides := by
  rw [checkPath]
  split <;> simp

theorem decides_checkSetting {check : Datum → Verdict α} (h : ∀ d, (check d).Decides) (o : Origin)
    (n : SettingName) (stock : α) : (checkSetting o n stock check).Decides := by
  rw [checkSetting]
  split
  · exact (h _).within _
  · exact Verdict.decides_accepted _

theorem decides_checkOptions (o : Origin) (names : List OptionName) :
    (checkOptions o names).Decides := by
  induction names with
  | nil => exact Verdict.decides_accepted _
  | cons n rest ih => exact (decides_checkSetting (decides_checkOptionSetting n) o _ _).both ih _

theorem decides_checkConfiguration (o : Origin) : (checkConfiguration o).Decides := by
  have hseed : ∀ d, (Validation.checkNullable Validation.checkInt d).Decides :=
    Validation.decides_checkNullable Validation.decides_checkInt
  have hlevel : ∀ d, (checkLevel d).Decides := fun d => (Validation.decides_checkText d).map _
  have hfile : ∀ d, (Validation.checkNullable checkPath d).Decides :=
    Validation.decides_checkNullable decides_checkPath
  exact (((((decides_checkSetting hseed o _ _).map Configuration.mk).seq
    (decides_checkSetting Validation.decides_checkPositive o _ _)).seq
    (decides_checkOptions o optionOrder)).seq
    (decides_checkSetting hlevel o _ _)).seq (decides_checkSetting hfile o _ _)

/-! ## Accepted options -/

theorem checkSetting_eq_accepted_iff {n : SettingName} {stock a : α} {check : Datum → Verdict α} :
    checkSetting o n stock check = .accepted a ↔
      (o.given? n = none ∧ a = stock) ∨ ∃ d, o.given? n = some d ∧ check d = .accepted a := by
  rw [checkSetting]
  cases o.given? n with
  | none => simp [eq_comm]
  | some d => simp [Verdict.within_eq_accepted_iff]

theorem checkOptions_eq_accepted {names : List OptionName} {f : (n : OptionName) → n.kind.Concrete}
    (h : checkOptions o names = .accepted f) {n : OptionName} (hn : n ∈ names) :
    checkSetting o (.option n) (stockOption n) (checkOptionSetting n) = .accepted (f n) := by
  induction names generalizing f with
  | nil => cases hn
  | cons m rest ih =>
    obtain ⟨a, g, ha, hg, rfl⟩ := Verdict.both_eq_accepted_iff.1 h
    by_cases hm : m = n
    · subst hm
      simpa using ha
    · dsimp only
      rw [dif_neg hm]
      exact ih hg ((List.mem_cons.1 hn).resolve_left (Ne.symm hm))

theorem mem_optionOrder (n : OptionName) : n ∈ optionOrder := by cases n <;> simp [optionOrder]

theorem option_of_checkConfiguration (h : checkConfiguration o = .accepted c) (n : OptionName) :
    checkSetting o (.option n) (stockOption n) (checkOptionSetting n) = .accepted (c.option n) := by
  obtain ⟨_, _, hlevel, -, rfl⟩ := Verdict.seq_eq_accepted_iff.1 h
  obtain ⟨_, _, hthird, -, rfl⟩ := Verdict.seq_eq_accepted_iff.1 hlevel
  obtain ⟨_, f, hsecond, hoptions, rfl⟩ := Verdict.seq_eq_accepted_iff.1 hthird
  obtain ⟨_, _, hfirst, -, rfl⟩ := Verdict.seq_eq_accepted_iff.1 hsecond
  obtain ⟨_, -, rfl⟩ := Verdict.map_eq_accepted_iff.1 hfirst
  exact checkOptions_eq_accepted hoptions (mem_optionOrder n)

theorem optionsFrom_ofConfiguration (c : Configuration) (names : List OptionName) :
    (ofConfiguration c).optionsFrom names = .accepted c.options := by
  induction names with
  | nil => rfl
  | cons n rest ih =>
    rw [optionsFrom, ih]
    refine congrArg Verdict.accepted (Record.Options.ext_get fun m => ?_)
    by_cases hm : n = m
    · subst hm
      rw [Record.Options.get_assign_same, Configuration.options, Record.Options.get_tabulate]
      rfl
    · rw [Record.Options.get_assign_other hm]

theorem defaults_ofConfiguration (c : Configuration) :
    (ofConfiguration c).defaults = .ok ⟨.plain, [], c.options, false⟩ := by
  rw [defaults, optionsFrom_ofConfiguration]
  rfl

/-! ## Loading -/

/-- What is known of the loaded settings, if anything is, is known of settings that are loaded. -/
theorem exists_loaded {α : Type} {f : Settings → α} {x : α}
    (h : (load o).toOption.map f = some x) : ∃ s, load o = .ok s ∧ f s = x := by
  cases hload : load o with
  | error why => rw [hload] at h; cases h
  | ok s => rw [hload] at h; exact ⟨s, rfl, Option.some.inj h⟩

theorem load_eq_ok (h : load o = .ok s) :
    ∃ c, checkConfiguration o = .accepted c ∧ s = ofConfiguration c := by
  rw [load] at h
  cases hconf : checkConfiguration o with
  | accepted c =>
    rw [hconf] at h
    cases h
    exact ⟨c, rfl, rfl⟩
  | refused issues =>
    rw [hconf] at h
    cases h
  | aborted why =>
    rw [hconf] at h
    cases h

theorem load_cases (o : Origin) :
    (∃ issues, load o = .error (.invalid ⟨"Settings", issues⟩)) ∨
      ∃ c, checkConfiguration o = .accepted c ∧ load o = .ok (ofConfiguration c) := by
  rw [load]
  rcases ((decides_checkConfiguration o).map ofConfiguration).orFail "Settings" with
    hissues | ⟨s, hs, hload⟩
  · exact Or.inl hissues
  · obtain ⟨c, hc, rfl⟩ := Verdict.map_eq_accepted_iff.1 hs
    exact Or.inr ⟨c, hc, hload⟩

end Settings

namespace Action
variable {c : Configuration} {w : Workspace} {cascade : Ref Cascade}

theorem cascadeOfSettings_of_configuration (c : Configuration) (w : Workspace) :
    ((cascadeOfSettings (.ofConfiguration c)).runIn w).1 = .ok w.cascades.fresh ∧
      ∃ notices, ((cascadeOfSettings (.ofConfiguration c)).runIn w).2 = { w with
        store := w.store.push ⟨.plain, [], c.options, false⟩
        notices := notices
        cascades := w.cascades.push ⟨w.store.fresh, fun _ => none⟩ } := by
  have hfresh : ((w.store.push ⟨.plain, [], c.options, false⟩).get
      w.store.fresh).options.isResolved = true := by
    rw [Heap.get_push_fresh]
    exact c.isResolved_options
  have hbuild := runIn_buildCascade w.store.fresh []
    { w with store := w.store.push ⟨.plain, [], c.options, false⟩ }
  rw [Cascade.create_of_resolved hfresh] at hbuild
  rw [runIn_cascadeOfSettings, Settings.defaults_ofConfiguration]
  exact hbuild

theorem defaults_of_settings (c : Configuration) (w : Workspace) :
    let v := ((cascadeOfSettings (.ofConfiguration c)).runIn w).2
    v.cascades.get w.cascades.fresh = ⟨w.store.fresh, fun _ => none⟩ ∧
      v.store.get w.store.fresh = ⟨.plain, [], c.options, false⟩ := by
  obtain ⟨-, notices, hstate⟩ := cascadeOfSettings_of_configuration c w
  intro v
  have hv : v = { w with
      store := w.store.push ⟨.plain, [], c.options, false⟩
      notices := notices
      cascades := w.cascades.push ⟨w.store.fresh, fun _ => none⟩ } := hstate
  rw [hv]
  exact ⟨Heap.get_push_fresh .., Heap.get_push_fresh ..⟩

/-- The defaults stay complete in every run. -/
theorem resolve_after_settings {v : Workspace} {s : Settings}
    (hbuilt : (cascadeOfSettings s).runIn w = (.ok cascade, v)) {steps : List Step}
    (hsteps : Step.Along (Step.Undisturbing cascade) v steps) {record : Ref Record}
    (hpatterns : ((Step.run v steps).store.get record).patterns ≠ [])
    (scopes : List (Option (Ref Record))) :
    ((resolve cascade record scopes).runIn (Step.run v steps)).1 = .ok record := by
  have hrecords : ∀ r ∈ (Construction.ofSettings s).records, w.store.Has r :=
    fun _ hr => by cases hr
  obtain ⟨hc, o, ho, hregistry⟩ := Construction.registry_act hrecords hbuilt
  have hrun := Step.registry_run hc ho hregistry hsteps
  rw [resolve_of_resolved record scopes, if_neg hpatterns]
  rw [hrun.defaults, hrun.options]
  exact ho

end Action

namespace Settings
open FormDialogue.Action
open Record (OptionName)
variable {o : Origin}

/-- From any origin whose keywords have no leading underscore, settings are loaded or refused with a
report. Loaded settings end a cascade, whose defaults are the values of their settings. -/
theorem loaded_settings_end_cascade (o : Origin)
    (_hnames : ∀ k ∈ o.keywords, k.1.toList.head? ≠ some '_') :
    (∃ issues, load o = .error (.invalid ⟨"Settings", issues⟩)) ∨
    ∃ s, load o = .ok s ∧
      (∀ n, (o.given? (.option n) = none ∧ s.accepted.option n = stockOption n) ∨
        ∃ d, o.given? (.option n) = some d ∧
          checkOptionSetting n d = .accepted (s.accepted.option n)) ∧
      ∀ w, ∃ c, ((cascadeOfSettings s).runIn w).1 = .ok c ∧
        let v := ((cascadeOfSettings s).runIn w).2
        let defaults := v.store.get (v.cascades.get c).defaults
        (defaults.kind = .plain ∧ defaults.patterns = [] ∧ defaults.localizable = false ∧
          defaults.options.isResolved = true) ∧
        (∀ n, defaults.options.get n = (s.accepted.option n).val ∧
          s.datum (.option n) = n.kind.datum (defaults.options.get n)) ∧
        (∀ usage, (v.cascades.get c).registered usage = none) ∧
        ∀ steps, Step.Along (Step.Undisturbing c) v steps → ∀ record scopes,
          ((Step.run v steps).store.get record).patterns ≠ [] →
          ((resolve c record scopes).runIn (Step.run v steps)).1 = .ok record := by
  rcases load_cases o with hissues | ⟨conf, hconf, hload⟩
  · exact Or.inl hissues
  refine Or.inr ⟨_, hload, fun n => ?_, fun w => ?_⟩
  · exact checkSetting_eq_accepted_iff.1 (option_of_checkConfiguration hconf n)
  obtain ⟨hc, -⟩ := cascadeOfSettings_of_configuration conf w
  obtain ⟨hcascade, hrecord⟩ := defaults_of_settings conf w
  refine ⟨w.cascades.fresh, hc, ?_⟩
  intro v defaults
  have hdefaults : defaults = ⟨.plain, [], conf.options, false⟩ := by
    rw [← hrecord]
    exact congrArg (fun cascade => v.store.get cascade.defaults) hcascade
  have hoption (n : OptionName) : defaults.options.get n = (conf.option n).val := by
    rw [hdefaults, Configuration.options, Record.Options.get_tabulate]
  refine ⟨?_, fun n => ⟨hoption n, ?_⟩, fun usage => ?_, fun steps hsteps record scopes hpatterns =>
    resolve_after_settings (Prod.ext hc rfl) hsteps hpatterns scopes⟩
  · rw [hdefaults]
    exact ⟨rfl, rfl, rfl, conf.isResolved_options⟩
  · rw [hoption n]
    rfl
  · exact congrArg (fun cascade => cascade.registered usage) hcascade

theorem loaded_settings_end_cascade_sample :
    let o : Origin := ⟨[("theme", .int 3), ("default_separator", .text "; ")],
      [("DEFAULT_CHOICE_CASE", "upper")], none⟩
    (∀ k ∈ o.keywords, k.1.toList.head? ≠ some '_') ∧
      ∃ s c, load o = .ok s ∧ ((cascadeOfSettings s).runIn {}).1 = .ok c ∧
        let v := ((cascadeOfSettings s).runIn {}).2
        (v.store.get (v.cascades.get c).defaults).options.separator = some "; " := by
  intro o
  have hnames : ∀ k ∈ o.keywords, k.1.toList.head? ≠ some '_' := by decide
  rcases loaded_settings_end_cascade o hnames with ⟨issues, herror⟩ | ⟨s, hs, hchosen, hends⟩
  · have hloads : (load o).isOk = true := by decide +kernel
    rw [herror] at hloads
    cases hloads
  obtain ⟨c, hc, -, hoptions, -⟩ := hends {}
  refine ⟨hnames, s, c, hs, hc, ?_⟩
  have hgiven : o.given? (.option .separator) = some (.text "; ") := rfl
  rcases hchosen .separator with ⟨hnone, -⟩ | ⟨d, hd, haccepted⟩
  · rw [hgiven] at hnone
    cases hnone
  · rw [hgiven] at hd
    cases hd
    have hvalue := congrArg Subtype.val (Validation.Verdict.accepted.inj haccepted)
    exact (hoptions .separator).1.trans hvalue.symm

end Settings

end FormDialogue
