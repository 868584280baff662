import FormDialogue.Proofs.Logging.NearestLevel
import FormDialogue.Proofs.Workspace.Running
import FormDialogue.Workspace.Components

/-! # What is shown after the full set-up

Lines are logged one after the other, and each of them goes to every outlet of the root that it
reaches. After the full set-up the console shows the lines that reach the level of the set-up, if no
logger on their way has a level of its own and their level can be named, and so does the file, if it
could be opened. The level of the set-up is the one named by the settings if it is the lowest or the
informative one. The higher ones are read as the informative one, and more is shown than was asked
for. -/

namespace FormDialogue.Logging
variable {s : State} {l : Line} {lines : List Line} {level : Level} {name : String}
  {file : Option String}

/-- The level of the line can be named in its record. -/
def Line.Named [Limits] (l : Line) : Prop := Limits.unwritten? l.level = none

instance [Limits] (l : Line) : Decidable l.Named :=
  inferInstanceAs (Decidable (Limits.unwritten? l.level = none))

theorem Line.named_of_small [Limits] (h : l.level.natAbs ≤ 640) : l.Named :=
  Limits.unwritten?_of_small h

namespace State

/-! ## Lines and places -/

section
variable [Limits]

theorem copies_eq (s : State) (place : Option String) (l : Line) :
    s.copies place l =
      if s.lets l = true ∧ l.Named then
        ((s.outlets.filter fun o => o.level ≤ l.level).map Outlet.file).count place
      else 0 := by
  cases hlets : s.lets l with
  | false => simp [copies, log, hlets]
  | true =>
    cases hnamed : Limits.unwritten? l.level with
    | none => simp [copies, log, hlets, Line.Named, hnamed]
    | some limit => simp [copies, log, hlets, Line.Named, hnamed]

/-- A place that shows some lines once, and no others, shows those. -/
theorem shown_eq_filter {place : Option String} {p : Line → Prop} [DecidablePred p]
    (h : ∀ l ∈ lines, s.copies place l = if p l then 1 else 0) :
    s.shown place lines = lines.filter fun l => p l := by
  induction lines with
  | nil => rfl
  | cons l lines ih =>
    have htail := ih fun l' hmem => h l' (List.mem_cons_of_mem l hmem)
    rw [shown] at htail ⊢
    rw [List.flatMap_cons, htail, h l List.mem_cons_self]
    by_cases hp : p l <;> simp [hp]

end

/-! ## Loggers without a level -/

/-- Neither the logger nor one above it was given a level; the root is not counted. -/
def Unleveled (s : State) (logger : String) : Prop :=
  ∀ path, path <+: pathOf logger → path ≠ [] → s.ownLevel path = 0

theorem effectiveLevel_of_unleveled {logger : String} (h : s.Unleveled logger) :
    s.effectiveLevel logger = s.rootLevel := (subject_iff.1 (.inr ⟨h, rfl⟩)).symm

theorem unleveled_of_levels_eq_nil (h : s.levels = []) (logger : String) : s.Unleveled logger := by
  intro path _ _
  rw [ownLevel, h]
  rfl

/-! ## The full set-up -/

/-- The outlets of the full set-up. -/
def fullOutlets (level : Level) (file : Option String) : List Outlet :=
  ⟨none, level⟩ :: file.toList.map fun path => ⟨some path, level⟩

/-- What the full set-up leaves. -/
def full (s : State) (level : Level) (file : Option String) : State :=
  { s with rootLevel := level, outlets := fullOutlets level file }

theorem setupLevel_pos (name : String) : 0 < setupLevel name := by
  rw [setupLevel]
  split <;> decide

/-- The outlets of the full set-up for a place: one for the console and one for the file. -/
theorem count_fullOutlets (level : Level) (file place : Option String) :
    ((fullOutlets level file).map Outlet.file).count place =
      if place = none ∨ place = file then 1 else 0 := by
  cases file with
  | none => cases place <;> simp [fullOutlets]
  | some path =>
    cases place with
    | none => simp [fullOutlets]
    | some other =>
      by_cases h : path = other
      · simp [fullOutlets, h]
      · simp [fullOutlets, h, Ne.symm h]

theorem copies_of_fullOutlets [Limits] (h : s.outlets = fullOutlets level file)
    (place : Option String) (l : Line) :
    s.copies place l =
      if (place = none ∨ place = file) ∧ s.lets l = true ∧ level ≤ l.level ∧ l.Named then 1
      else 0 := by
  have houtlets : (s.outlets.filter fun o => o.level ≤ l.level) =
      if level ≤ l.level then fullOutlets level file else [] := by
    rw [h]
    by_cases hlevel : level ≤ l.level <;> cases file <;> simp [fullOutlets, hlevel]
  rw [copies_eq, houtlets]
  by_cases hlevel : level ≤ l.level
  · rw [if_pos hlevel, count_fullOutlets]
    by_cases hlets : s.lets l = true ∧ l.Named
    · rw [if_pos hlets]
      exact if_congr (by simp [hlets.1, hlets.2, hlevel]) rfl rfl
    · rw [if_neg hlets, if_neg fun hall => hlets ⟨hall.2.1, hall.2.2.2⟩]
  · simp [hlevel]

theorem lets_full_of_unleveled (h : s.Unleveled l.logger) (hpos : 0 < level) :
    (s.full level file).lets l = true ↔ level ≤ l.level := by
  have hlevel : (s.full level file).effectiveLevel l.logger = level :=
    effectiveLevel_of_unleveled (s := s.full level file) h
  rw [lets, hlevel, Bool.and_eq_true, decide_eq_true_eq, decide_eq_true_eq]
  exact ⟨And.right, fun hle => ⟨Int.lt_of_lt_of_le hpos hle, hle⟩⟩

/-- The console and the file, if there is one, show the same lines. -/
theorem shown_full [Limits] (hpos : 0 < level) (h : ∀ l ∈ lines, s.Unleveled l.logger)
    (place : Option String) :
    (s.full level file).shown place lines =
      if place = none ∨ place = file then lines.filter fun l => level ≤ l.level ∧ l.Named
      else [] := by
  have hcopies (l : Line) (hl : l ∈ lines) : (s.full level file).copies place l =
      if (place = none ∨ place = file) ∧ level ≤ l.level ∧ l.Named then 1 else 0 := by
    rw [copies_of_fullOutlets rfl]
    refine if_congr ?_ rfl rfl
    rw [lets_full_of_unleveled (h l hl) hpos, and_self_left]
  rw [shown_eq_filter hcopies]
  by_cases hplace : place = none ∨ place = file <;> simp [hplace]

end State

/-! ## The levels that the settings are meant to name -/

def namedLevels : List (String × Level) :=
  [("DEBUG", .debug), ("INFO", .info), ("WARNING", .warning), ("ERROR", .error)]

/-- The plain set-up takes a name for its level; the full one takes it for the informative level at
most. -/
theorem meaning_of_named (h : (name, level) ∈ namedLevels) :
    Meaning.ofName name = .level level ∧ State.setupLevel name = min level .info := by
  have hall : ∀ n ∈ namedLevels,
      Meaning.ofName n.1 = .level n.2 ∧ State.setupLevel n.1 = min n.2 .info := by decide
  exact hall (name, level) h

theorem le_error_of_named (h : (name, level) ∈ namedLevels) : level ≤ .error := by
  have hall : ∀ n ∈ namedLevels, n.2 ≤ .error := by decide
  exact hall (name, level) h

/-- Two conditions choose the same lines if they agree on each of them. -/
theorem filter_eq_filter_iff {p q : Line → Prop} [DecidablePred p] [DecidablePred q] :
    (lines.filter fun l => p l) = (lines.filter fun l => q l) ↔ ∀ l ∈ lines, (p l ↔ q l) := by
  constructor
  · intro heq l hl
    have hmem := congrArg (l ∈ ·) heq
    simpa [hl] using hmem
  · intro h
    exact List.filter_congr fun l hl => decide_eq_decide.2 (h l hl)

/-- What is shown of a line for a level, and what was asked for. All levels between the informative
one and that can be named. -/
theorem shown_iff_asked [Limits] (hlevel : level ≤ .error) (l : Line) :
    (min level .info ≤ l.level ∧ l.Named ↔ level ≤ l.level) ↔
      (level ≤ l.level → l.Named) ∧ (l.level < level → l.level < .info) := by
  constructor
  · intro h
    refine ⟨fun hle => (h.2 hle).2, fun hlt => Int.not_le.1 fun hinfo => ?_⟩
    have hsmall (n m : Int) : 20 ≤ n → n < m → m ≤ 40 → n.natAbs ≤ 640 := by omega
    have hnamed : l.Named := Line.named_of_small (hsmall l.level level hinfo hlt hlevel)
    have hmin : min level Level.info ≤ l.level := Int.le_trans (Int.min_le_right ..) hinfo
    exact Int.not_le.2 hlt (h.1 ⟨hmin, hnamed⟩)
  · rintro ⟨hnamed, hbelow⟩
    refine ⟨fun ⟨hmin, _⟩ => Int.not_lt.1 fun hlt => ?_, fun hle => ⟨?_, hnamed hle⟩⟩
    · exact Int.not_le.2 (Int.lt_min.2 ⟨hlt, hbelow hlt⟩) hmin
    · exact Int.le_trans (Int.min_le_left ..) hle

end FormDialogue.Logging

namespace FormDialogue.Action
open Logging (Level Line namedLevels)
variable {w : Workspace} {r : Ref Settings}

/-- The file of a full set-up, if neither the settings nor the disk refuse it. -/
def openedFile (w : Workspace) (r : Ref Settings) : Except Failure (Option String) :=
  match (w.settings.get r).logFile with
  | .error why => .error why
  | .ok none => .ok none
  | .ok (some path) =>
    match w.disk path with
    | some why => .error why
    | none => .ok (some path)

theorem runIn_getSettings (r : Ref Settings) (w : Workspace) :
    (getSettings r).runIn w = (.ok (w.settings.get r), w) := rfl

theorem runIn_openFile (path : String) (w : Workspace) :
    (openFile path).runIn w =
      match w.disk path with
      | some why => (.error why, w)
      | none => (.ok (), { w with logging := w.logging.addFile path }) := by
  rw [openFile, runIn_bind_ok (runIn_get w)]
  cases w.disk path <;> rfl

/-- The console is set up before a file is refused, and it is all that there is then. -/
theorem runIn_setupLogging (r : Ref Settings) (w : Workspace) :
    (setupLogging r).runIn w =
      ((openedFile w r).map fun _ => (),
        { w with
          logging := w.logging.full (Logging.State.setupLevel (w.settings.get r).levelName)
            (openedFile w r).toOption.join }) := by
  rw [setupLogging, runIn_bind_ok (runIn_getSettings r w), runIn_bind_ok (runIn_modify _ _),
    openedFile]
  cases (w.settings.get r).logFile with
  | error why => rfl
  | ok file =>
    rw [runIn_bind_ok (runIn_ofExcept _ _)]
    cases file with
    | none => rfl
    | some path =>
      rw [runIn_openFile]
      dsimp only
      cases w.disk path <;> rfl

theorem level_of_named {s : Settings} {level : Level} (h : (s.levelName, level) ∈ namedLevels) :
    s.level = .ok (.level level) := by
  have hnamed : ∀ n ∈ namedLevels, n.1 ≠ "" := by decide
  have hmeaning := (Logging.meaning_of_named h).1
  have hname := hnamed _ h
  rw [Settings.levelName] at hmeaning hname
  rw [Settings.level]
  cases htext : (s.datum .logLevel).asText? with
  | none =>
    rw [htext] at hname
    exact absurd rfl hname
  | some name =>
    rw [htext] at hmeaning
    exact congrArg Except.ok hmeaning

/-- Settings with one of the names of levels that they are meant for. The plain set-up reads the
name as that level. The full one fails only for its file, which the settings or the disk may refuse.
The console, and the file if it was opened, then show the lines from that level on, but never leave
out one of the informative level that can be named. So the lines are those that were asked for
exactly if all of these can be named, and no other reaches the informative level; the level is kept
to for all lines that can be named if it is not above that one. -/
theorem setupLogging_shows_informative [Limits] {level : Level}
    (hlevel : ((w.settings.get r).levelName, level) ∈ namedLevels) :
    (w.settings.get r).level = .ok (.level level) ∧
    ∃ logging, (setupLogging r).runIn w =
        ((openedFile w r).map fun _ => (), { w with logging := logging }) ∧
      (∀ lines : List Line, (∀ l ∈ lines, w.logging.Unleveled l.logger) →
        (∀ place, logging.shown place lines =
          if place = none ∨ place = (openedFile w r).toOption.join then
            lines.filter fun l => min level .info ≤ l.level ∧ l.Named
          else []) ∧
        (logging.shown none lines = (lines.filter fun l => level ≤ l.level) ↔
          ∀ l ∈ lines, (level ≤ l.level → l.Named) ∧ (l.level < level → l.level < .info))) ∧
      ((∀ lines : List Line, (∀ l ∈ lines, w.logging.Unleveled l.logger ∧ l.Named) →
        logging.shown none lines = lines.filter fun l => level ≤ l.level) ↔ level ≤ .info) := by
  have hsetup := (Logging.meaning_of_named hlevel).2
  have hpos : 0 < min level .info := hsetup ▸ Logging.State.setupLevel_pos _
  let logging := w.logging.full (min level .info) (openedFile w r).toOption.join
  have hshown (lines : List Line) (hlines : ∀ l ∈ lines, w.logging.Unleveled l.logger)
      (place : Option String) : logging.shown place lines = _ :=
    Logging.State.shown_full hpos hlines place
  have hconsole (lines : List Line) (hlines : ∀ l ∈ lines, w.logging.Unleveled l.logger) :
      logging.shown none lines = (lines.filter fun l => level ≤ l.level) ↔
        ∀ l ∈ lines, (level ≤ l.level → l.Named) ∧ (l.level < level → l.level < .info) := by
    rw [hshown lines hlines none, if_pos (Or.inl rfl), Logging.filter_eq_filter_iff]
    exact forall₂_congr fun l _ => Logging.shown_iff_asked (Logging.le_error_of_named hlevel) l
  refine ⟨level_of_named hlevel, logging, ?_,
    fun lines hlines => ⟨hshown lines hlines, hconsole lines hlines⟩, ?_, ?_⟩
  · rw [runIn_setupLogging, hsetup]
  · -- The root has no level of its own, and a line of the informative level can be logged to it.
    intro hall
    have hroot : ∀ l ∈ [(⟨"", .info, ""⟩ : Line)], w.logging.Unleveled l.logger ∧ l.Named := by
      intro l hl
      obtain rfl := List.mem_singleton.1 hl
      refine ⟨fun path hpath hne => ?_, Logging.Line.named_of_small (by decide)⟩
      exact absurd (List.prefix_nil.1 hpath) hne
    have hline := (hconsole _ fun l hl => (hroot l hl).1).1 (hall _ hroot) _ List.mem_cons_self
    exact Int.not_lt.1 fun hgt => Int.lt_irrefl _ (hline.2 hgt)
  · intro hle lines hlines
    refine (hconsole lines fun l hl => (hlines l hl).1).2 fun l hl => ⟨fun _ => (hlines l hl).2, ?_⟩
    exact fun hlt => Int.lt_of_lt_of_le hlt hle

theorem setupLogging_shows_warning :
    let s : Settings := .ofConfiguration
      { Settings.stock.accepted with logLevel := "WARNING", logFile := some "forms.log" }
    let w : Workspace := { settings := Heap.empty.push s }
    let refusing : Workspace :=
      { w with disk := fun _ => some (.foreign "IsADirectoryError" "Is a directory") }
    let lines : List Line := [⟨"a", 20, "news"⟩, ⟨"a.b", 30, "care"⟩, ⟨"root", 10, "steps"⟩]
    (s.levelName, .warning) ∈ namedLevels ∧ (∀ l ∈ lines, w.logging.Unleveled l.logger) ∧
      (∃ v, (setupLogging ⟨0⟩).runIn w = (.ok (), v) ∧
        v.logging.shown none lines = [⟨"a", 20, "news"⟩, ⟨"a.b", 30, "care"⟩] ∧
        v.logging.shown (some "forms.log") lines = [⟨"a", 20, "news"⟩, ⟨"a.b", 30, "care"⟩] ∧
        v.logging.shown none lines ≠ lines.filter fun l => .warning ≤ l.level) ∧
      ∃ v, (setupLogging ⟨0⟩).runIn refusing =
          (.error (.foreign "IsADirectoryError" "Is a directory"), v) ∧
        v.logging.shown none lines = [⟨"a", 20, "news"⟩, ⟨"a.b", 30, "care"⟩] := by
  intro s w refusing lines
  have hlevel : ((w.settings.get ⟨0⟩).levelName, Level.warning) ∈ namedLevels := by decide
  have hlines : ∀ l ∈ lines, w.logging.Unleveled l.logger :=
    fun l _ => Logging.State.unleveled_of_levels_eq_nil rfl l.logger
  have hnamed : (lines.filter fun l => min Level.warning .info ≤ l.level ∧ l.Named) =
      [⟨"a", 20, "news"⟩, ⟨"a.b", 30, "care"⟩] := by
    have hall (l : Line) (hl : l ∈ lines) : l.Named := by
      have hsmall : ∀ l ∈ lines, l.level.natAbs ≤ 640 := by decide
      exact Logging.Line.named_of_small (hsmall l hl)
    calc
      (lines.filter fun l => min Level.warning .info ≤ l.level ∧ l.Named) =
          lines.filter fun l => min Level.warning .info ≤ l.level :=
        List.filter_congr fun l hl => decide_eq_decide.2 (and_iff_left (hall l hl))
      _ = [⟨"a", 20, "news"⟩, ⟨"a.b", 30, "care"⟩] := rfl
  obtain ⟨-, logging, hrun, hshown, -⟩ := setupLogging_shows_informative (r := ⟨0⟩) (w := w) hlevel
  obtain ⟨hplaces, hasked⟩ := hshown lines hlines
  obtain ⟨-, later, hrefused, hlater, -⟩ :=
    setupLogging_shows_informative (r := ⟨0⟩) (w := refusing) hlevel
  obtain ⟨hconsole, -⟩ := hlater lines hlines
  refine ⟨hlevel, hlines, ⟨_, hrun, ?_, ?_, fun heq => ?_⟩, _, hrefused, ?_⟩
  · rw [hplaces]
    exact hnamed
  · rw [hplaces]
    exact hnamed
  · exact absurd ((hasked.1 heq _ List.mem_cons_self).2 (by decide)) (by decide)
  · rw [hconsole]
    exact hnamed

end FormDialogue.Action
