import FormDialogue.Proofs.Format.LabelField
import FormDialogue.Proofs.Settings.Ending

/-! # The place of the label in choices

Settings accept a choice format that holds the label mark as a text, though a format is read with
doubled braces and further fields. Where the mark is read as the field of the label, all choices can
be laid out one per line exactly if every other field can be written, too. Where no field is read
but those of the number, the labels are lost. -/

namespace FormDialogue.Choice
open Format (Part Reads labelField numberField)
open Record (Options)
open Text (Casing)
variable {o : Options} {format label line : String} {labels lines : List String} {number i : Nat}
  {parts : List Part}

section
variable [Format.Things]

/-- Whatever the labels are, they can be laid out one per line, with every label in its entry. -/
def LinesUsable (o : Options) : Prop :=
  ∀ labels, labels ≠ [] → (∀ label ∈ labels, label ≠ "") →
    ∃ format lines, o.choiceFormat = some format ∧
      entries format 1 (normalized labels o) = .ok lines ∧
      Renderer.perLine.render labels o = .ok (.text ("\n".intercalate lines)) ∧
      List.Forall₂ (fun label line => label.toList <:+: line.toList) (normalized labels o) lines

/-! ## Entries -/

theorem entry_eq_ok_iff :
    entry format number label = .ok line ↔
      Format.render format.toList number label.toList = .ok line.toList := by
  rw [entry]
  cases Format.render format.toList number label.toList with
  | error fault => exact ⟨nofun, nofun⟩
  | ok text =>
    simp only [Except.ok.injEq]
    constructor
    · rintro rfl
      exact String.toList_ofList.symm
    · rintro rfl
      exact String.ofList_toList

theorem exists_entries {r : String → String → Prop}
    (h : ∀ i label, labels[i]? = some label →
      ∃ line, entry format (number + i) label = .ok line ∧ r label line) :
    ∃ lines, entries format number labels = .ok lines ∧ List.Forall₂ r labels lines := by
  induction labels generalizing number with
  | nil => exact ⟨[], rfl, .nil⟩
  | cons label rest ih =>
    obtain ⟨line, hline, hr⟩ := h 0 label rfl
    obtain ⟨lines, hlines, hall⟩ := @ih (number + 1) fun i label hi => by
      rw [Nat.add_right_comm, Nat.add_assoc]
      exact h (i + 1) label hi
    refine ⟨line :: lines, ?_, .cons hr hall⟩
    rw [entries]
    exact bind_eq_ok_iff.2 ⟨_, hline, bind_eq_ok_iff.2 ⟨_, hlines, rfl⟩⟩

theorem entry_of_entries (h : entries format number labels = .ok lines)
    (hi : labels[i]? = some label) :
    ∃ line, lines[i]? = some line ∧ entry format (number + i) label = .ok line := by
  induction labels generalizing number lines i with
  | nil => cases hi
  | cons first rest ih =>
    rw [entries] at h
    obtain ⟨line, hline, h⟩ := bind_eq_ok_iff.1 h
    obtain ⟨more, hmore, h⟩ := bind_eq_ok_iff.1 h
    cases h
    cases i with
    | zero =>
      cases hi
      exact ⟨line, rfl, hline⟩
    | succ i =>
      obtain ⟨line', hline', hentry⟩ := ih hmore (by simpa using hi)
      rw [Nat.add_right_comm, Nat.add_assoc] at hentry
      exact ⟨line', by simpa using hline', hentry⟩

theorem perLine_render (hformat : o.choiceFormat = some format) (hne : labels ≠ []) :
    Renderer.perLine.render labels o =
      (entries format 1 (normalized labels o)).map fun lines => .text ("\n".intercalate lines) := by
  have hempty : labels.isEmpty = false := List.isEmpty_eq_false_iff.2 hne
  rw [Renderer.render, renderPerLine, hempty, hformat]
  change (entries format 1 (normalized labels o) >>= fun lines => _).map Rendering.text = _
  cases entries format 1 (normalized labels o) with
  | error why => rfl
  | ok lines => rfl

end

/-! ## Labels of dashes -/

def dashes (length : Nat) : List Char := List.replicate length '-'

theorem lowerFrom_dashes (before : List Char) (length : Nat) :
    Text.lowerFrom before (dashes length) = dashes length := by
  have hlower : Unicode.lowerChar '-' = ['-'] := by decide +kernel
  induction length generalizing before with
  | zero => rfl
  | succ length ih =>
    have hdash : Text.lowerIn before '-' (dashes length) = ['-'] := by
      rw [Text.lowerIn, if_neg (by decide), hlower]
    rw [dashes, List.replicate_succ, Text.lowerFrom, ← dashes, hdash, ih]
    rfl

theorem upper_dashes (length : Nat) : Text.upper (dashes length) = dashes length := by
  have hupper : Unicode.upperChar '-' = ['-'] := by decide +kernel
  induction length with
  | zero => rfl
  | succ length ih =>
    rw [dashes, List.replicate_succ, Text.upper, List.flatMap_cons, hupper, ← dashes]
    exact congrArg (List.cons '-') ih

theorem capitalizeFrom_dashes (start : Bool) (length : Nat) :
    Text.capitalizeFrom start (dashes length) = dashes length := by
  have hword : Unicode.isWord '-' = false := by decide +kernel
  induction length generalizing start with
  | zero => rfl
  | succ length ih =>
    rw [dashes, List.replicate_succ, Text.capitalizeFrom, ← dashes, ih, hword, Bool.and_false]
    rfl

/-- No case changes dashes. -/
theorem normalize_dashes (casing : Casing) (length : Nat) :
    Text.normalize casing (String.ofList (dashes length)) = String.ofList (dashes length) := by
  rw [Text.normalize, String.toList_ofList]
  cases casing with
  | default | none => rfl
  | lower => rw [Casing.apply, Text.lower, lowerFrom_dashes]
  | upper => rw [Casing.apply, upper_dashes]
  | initialUpper =>
    rw [Casing.apply, Text.lower, lowerFrom_dashes, Text.capitalize, capitalizeFrom_dashes]

/-! ## When all choices can be laid out -/

theorem getElem?_normalized (hi : (normalized labels o)[i]? = some label) :
    ∃ given ∈ labels, label = Text.normalize o.choiceCase given := by
  rw [normalized, List.getElem?_map, Option.map_eq_some_iff] at hi
  obtain ⟨given, hgiven, rfl⟩ := hi
  exact ⟨given, List.mem_of_getElem? hgiven, rfl⟩

section
variable [Format.Things]

/-- The entry of every label under every number, if all choices can be laid out. -/
theorem LinesUsable.entry (h : LinesUsable o) (hformat : o.choiceFormat = some format)
    (hnumber : 0 < number) (label : String) (hlabel : label ≠ "") :
    ∃ line, Choice.entry format number (Text.normalize o.choiceCase label) = .ok line ∧
      (Text.normalize o.choiceCase label).toList <:+: line.toList := by
  have hne : List.replicate number label ≠ [] := by simp; omega
  obtain ⟨_, lines, hsome, hlines, -, hall⟩ := h (List.replicate number label) hne
    fun l hl => by rw [List.eq_of_mem_replicate hl]; exact hlabel
  obtain rfl := Option.some.inj (hformat.symm.trans hsome)
  have hlast : (normalized (List.replicate number label) o)[number - 1]? =
      some (Text.normalize o.choiceCase label) := by
    rw [normalized, List.map_replicate, List.getElem?_replicate, if_pos (by omega)]
  obtain ⟨line, hline, hentry⟩ := entry_of_entries hlines hlast
  rw [Nat.add_sub_cancel' hnumber] at hentry
  obtain ⟨hlast, hlabel'⟩ := List.getElem?_eq_some_iff.1 hlast
  obtain ⟨hline, hline'⟩ := List.getElem?_eq_some_iff.1 hline
  have hinfix := hall.get hlast hline
  rw [List.get_eq_getElem, List.get_eq_getElem, hlabel', hline'] at hinfix
  exact ⟨line, hentry, hinfix⟩

theorem not_linesUsable_of_unread (hformat : o.choiceFormat = some format)
    (h : ∀ parts, ¬ Reads format.toList parts) : ¬ LinesUsable o := by
  intro husable
  obtain ⟨line, hentry, -⟩ := husable.entry hformat Nat.one_pos "-" (by decide)
  obtain ⟨parts, hparts⟩ := Format.reads_of_render (entry_eq_ok_iff.1 hentry)
  exact h parts hparts

section Read
variable (hformat : o.choiceFormat = some format) (hreads : Reads format.toList parts)
include hreads

theorem label_infix_of_entry (hlabel : .field labelField ∈ parts)
    (h : entry format number label = .ok line) : label.toList <:+: line.toList :=
  Format.label_infix_of_render hreads hlabel (entry_eq_ok_iff.1 h)

theorem exists_entry_iff (hlabel : .field labelField ∈ parts) :
    (∃ line, entry format number label = .ok line) ↔
      ∀ part ∈ parts, ∃ written, part.written number label.toList = .ok written := by
  rw [← Format.exists_render_iff hreads hlabel]
  constructor
  · rintro ⟨line, h⟩
    exact ⟨_, entry_eq_ok_iff.1 h⟩
  · rintro ⟨text, h⟩
    exact ⟨String.ofList text, entry_eq_ok_iff.2 (by rwa [String.toList_ofList])⟩

include hformat

/-- With the field of the label, all choices can be laid out if every part can always be written. -/
theorem linesUsable_iff (hlabel : .field labelField ∈ parts) :
    LinesUsable o ↔ ∀ part ∈ parts, ∀ number label, 0 < number → label ≠ "" →
      ∃ written, part.written number (Text.normalize o.choiceCase label).toList = .ok written := by
  constructor
  · intro husable part hpart number label hnumber hne
    obtain ⟨line, hentry, -⟩ := husable.entry hformat hnumber label hne
    exact (exists_entry_iff hreads hlabel).1 ⟨line, hentry⟩ part hpart
  · intro hall labels hne hlabels
    have hentries : ∀ i label, (normalized labels o)[i]? = some label →
        ∃ line, entry format (1 + i) label = .ok line ∧ label.toList <:+: line.toList := by
      intro i label hi
      obtain ⟨given, hgiven, rfl⟩ := getElem?_normalized hi
      obtain ⟨line, hline⟩ := (exists_entry_iff hreads hlabel).2 fun part hpart =>
        hall part hpart (1 + i) given (by omega) (hlabels given hgiven)
      exact ⟨line, hline, label_infix_of_entry hreads hlabel hline⟩
    obtain ⟨lines, hlines, hcontains⟩ := exists_entries hentries
    refine ⟨format, lines, hformat, hlines, ?_, hcontains⟩
    rw [perLine_render hformat hne, hlines]
    rfl

/-- Fields of the number write the same for every label, so they lose a label that is longer. -/
theorem not_linesUsable_of_number (hnumber : ∀ f, .field f ∈ parts → f.IsNumber) :
    ¬ LinesUsable o := by
  intro husable
  obtain ⟨line, hentry, -⟩ := husable.entry hformat Nat.one_pos "-" (by decide)
  have hne : String.ofList (dashes (line.toList.length + 1)) ≠ "" := by simp [dashes]
  obtain ⟨line', hentry', hinfix⟩ := husable.entry hformat Nat.one_pos _ hne
  have hrender := entry_eq_ok_iff.1 hentry
  have hrender' := entry_eq_ok_iff.1 hentry'
  rw [Format.render_number hreads hnumber _ (Text.normalize o.choiceCase "-").toList, hrender]
    at hrender'
  rw [normalize_dashes, String.toList_ofList, ← Except.ok.inj hrender'] at hinfix
  have hlength := hinfix.length_le
  rw [dashes, List.length_replicate] at hlength
  omega

/-- Where all fields are plain, all choices can be laid out if one of them is the label. -/
theorem linesUsable_of_plain
    (hplain : ∀ f, .field f ∈ parts → f = numberField ∨ f = labelField) :
    LinesUsable o ↔ .field labelField ∈ parts := by
  constructor
  · intro husable
    by_contra hlabel
    refine not_linesUsable_of_number hformat hreads (fun f hf => ?_) husable
    rcases hplain f hf with rfl | rfl
    · exact Format.isNumber_numberField
    · exact absurd hf hlabel
  · intro hlabel
    refine (linesUsable_iff hformat hreads hlabel).2 fun part hpart number label _ _ => ?_
    cases part with
    | literal c => exact ⟨_, Format.written_eq_ok_iff.2 rfl⟩
    | field f =>
      rcases hplain f hpart with rfl | rfl
      · exact ⟨_, Format.written_eq_ok_iff.2 (Format.writeField_numberField _ _)⟩
      · exact ⟨_, Format.written_eq_ok_iff.2 (Format.writeField_label _ _)⟩

end Read

end

end FormDialogue.Choice

namespace FormDialogue.Settings
open Record (labelMark)
variable {o : Origin} {s : Settings} {d : Datum}

theorem occurs_of_check {v : (Record.OptionName.choiceFormat).kind.Concrete}
    (h : checkOptionSetting .choiceFormat d = .accepted v) :
    ∃ format, v.val = some format ∧ Text.occurs labelMark format.toList = true := by
  obtain ⟨format, hformat, rfl⟩ := Validation.Verdict.map_eq_accepted_iff.1 h
  obtain ⟨text, -, hcheck⟩ := Validation.Verdict.andThen_eq_accepted_iff.1 hformat
  rw [checkFormat] at hcheck
  split at hcheck
  · next hoccurs =>
    cases hcheck
    exact ⟨_, rfl, hoccurs⟩
  · cases hcheck

/-- The choice format of loaded settings holds the label mark. -/
theorem choiceFormat_of_load (h : load o = .ok s) :
    ∃ format, (s.accepted.option .choiceFormat).val = some format ∧
      Text.occurs labelMark format.toList = true := by
  obtain ⟨c, hc, rfl⟩ := load_eq_ok h
  rcases checkSetting_eq_accepted_iff.1 (option_of_checkConfiguration hc .choiceFormat) with
    ⟨-, hstock⟩ | ⟨d, -, hcheck⟩
  · refine ⟨_, congrArg Subtype.val hstock, by decide⟩
  · exact occurs_of_check hcheck

end FormDialogue.Settings

namespace FormDialogue.Action
variable {w : Workspace} {c : Ref Cascade} {record : Ref Record}

/-- A record without scopes takes its unset options from the defaults. -/
theorem resolve_alone (hdefaults :
    (w.store.get (w.cascades.get c).defaults).options.isResolved = true)
    (hpatterns : (w.store.get record).patterns ≠ []) {n : Record.OptionName}
    (hunset : (w.store.get record).options.isUnset n = true) :
    ((resolve c record []).runIn w).1 = .ok record ∧
      (((resolve c record []).runIn w).2.store.get record).options.get n =
        (w.store.get (w.cascades.get c).defaults).options.get n := by
  obtain ⟨store, notices, hresolve, hrecord⟩ := resolve_of_patterns [] hdefaults hpatterns
  rw [hresolve]
  refine ⟨rfl, ?_⟩
  dsimp only
  rw [hrecord, Record.Options.get_tabulate, chainOf, Store.firstSet_cons_of_unset hunset]
  exact Store.firstSet_cons_of_set (Record.Options.isResolved_iff.1 hdefaults n)

end FormDialogue.Action

namespace FormDialogue.Choice
open FormDialogue.Action
open Format (Reads labelField numberField)
open Record (Options labelMark)
open Settings (Origin load)

/-- Settings whose choice format holds the label mark need not be usable. A record that takes its
choice format from loaded settings can be laid out one per line for all labels exactly if all parts
of the format are always written, where the format has the field of the label; every entry then
holds its label. It cannot where the format is not read, or its only fields are of the number. -/
theorem lines_of_settings [Format.Things] (o : Origin) (s : Settings) (hload : load o = .ok s)
    (w : Workspace) :
    ∃ c format, ((cascadeOfSettings s).runIn w).1 = .ok c ∧
      (s.accepted.option .choiceFormat).val = some format ∧
      Text.occurs labelMark format.toList = true ∧
      let v := ((cascadeOfSettings s).runIn w).2
      ∀ record, (v.store.get record).patterns ≠ [] →
        (v.store.get record).options.isUnset .choiceFormat = true →
        ((resolve c record []).runIn v).1 = .ok record ∧
        let options := (((resolve c record []).runIn v).2.store.get record).options
        options.choiceFormat = some format ∧
        ((∀ parts, ¬ Reads format.toList parts) → ¬ LinesUsable options) ∧
        ∀ parts, Reads format.toList parts →
          (.field labelField ∈ parts →
            (LinesUsable options ↔ ∀ part ∈ parts, ∀ number label, 0 < number → label ≠ "" →
              ∃ written, part.written number
                (Text.normalize options.choiceCase label).toList = .ok written) ∧
            ∀ number label line, entry format number label = .ok line →
              label.toList <:+: line.toList) ∧
          ((∀ f, .field f ∈ parts → f = numberField ∨ f = labelField) →
            (LinesUsable options ↔ .field labelField ∈ parts)) ∧
          ((∀ f, .field f ∈ parts → f.IsNumber) → ¬ LinesUsable options) := by
  obtain ⟨format, hformat, hoccurs⟩ := Settings.choiceFormat_of_load hload
  obtain ⟨conf, -, rfl⟩ := Settings.load_eq_ok hload
  obtain ⟨hc, -⟩ := cascadeOfSettings_of_configuration conf w
  obtain ⟨hcascade, hrecord⟩ := defaults_of_settings conf w
  refine ⟨w.cascades.fresh, format, hc, hformat, hoccurs, ?_⟩
  intro v record hpatterns hunset
  have hdefaults : v.store.get (v.cascades.get w.cascades.fresh).defaults =
      ⟨.plain, [], conf.options, false⟩ := by
    rw [← hrecord]
    exact congrArg (fun cascade => v.store.get cascade.defaults) hcascade
  have hresolved : (v.store.get (v.cascades.get w.cascades.fresh).defaults).options.isResolved =
      true := by
    rw [hdefaults]
    exact conf.isResolved_options
  obtain ⟨hok, hoption⟩ := resolve_alone hresolved hpatterns hunset
  rw [hdefaults, Configuration.options, Options.get_tabulate] at hoption
  have hchoice := hoption.trans hformat
  refine ⟨hok, hchoice, not_linesUsable_of_unread hchoice, fun parts hreads => ⟨fun hlabel =>
    ⟨linesUsable_iff hchoice hreads hlabel, fun number label line hentry =>
      label_infix_of_entry hreads hlabel hentry⟩, linesUsable_of_plain hchoice hreads,
    not_linesUsable_of_number hchoice hreads⟩⟩

theorem lines_of_settings_sample :
    let o : Origin := ⟨[("default_choice_format", .text "\x7b\x7b1\x7d\x7d")], [], none⟩
    let w : Workspace := { store := .push .empty ⟨.template .none, ["Pick one."], .unset, true⟩ }
    ∃ s c, load o = .ok s ∧ ((cascadeOfSettings s).runIn w).1 = .ok c ∧
      let v := ((cascadeOfSettings s).runIn w).2
      ((resolve c ⟨0⟩ []).runIn v).1 = .ok ⟨0⟩ ∧
        ¬ LinesUsable (((resolve c ⟨0⟩ []).runIn v).2.store.get ⟨0⟩).options := by
  intro o w
  let format? (s : Settings) : Option String := (s.accepted.option .choiceFormat).val
  have hloaded : (load o).toOption.map format? = some (some "\x7b\x7b1\x7d\x7d") := by
    decide +kernel
  cases hload : load o with
  | error why =>
    rw [hload] at hloaded
    cases hloaded
  | ok s =>
    rw [hload] at hloaded
    obtain ⟨c, format, hc, hformat, -, hall⟩ := lines_of_settings o s hload w
    obtain rfl := Option.some.inj (hformat.symm.trans (Option.some.inj hloaded))
    have hrecord : ((cascadeOfSettings s).runIn w).2.store.get ⟨0⟩ =
        ⟨.template .none, ["Pick one."], .unset, true⟩ := by
      obtain ⟨conf, -, rfl⟩ := Settings.load_eq_ok hload
      obtain ⟨-, notices, hstate⟩ := cascadeOfSettings_of_configuration conf w
      rw [hstate]
      rfl
    obtain ⟨hok, -, -, hparts⟩ := hall ⟨0⟩ (by rw [hrecord]; decide) (by rw [hrecord]; rfl)
    -- The doubled braces are literal ones, so no field is left.
    have hreads : Reads "\x7b\x7b1\x7d\x7d".toList
        [.literal '\x7b', .literal '1', .literal '\x7d'] :=
      .literal rfl (.literal rfl (.literal rfl .finish))
    exact ⟨s, c, rfl, hc, hok, (hparts _ hreads).2.2 fun f hf => by simp at hf⟩

end FormDialogue.Choice
