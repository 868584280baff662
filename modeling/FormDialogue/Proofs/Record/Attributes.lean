import FormDialogue.Proofs.Workspace.Assigning

/-! # The attributes of a record as data

What can be read off a record by name: its patterns, its options, whether it is localized and, for a
template, its usage. Written down under their names, these data make the same record again, since
each of them is accepted as it is. -/

namespace FormDialogue
open Record (Kind OptionKind OptionName Options Role)

namespace Record

inductive Attribute
  | patterns
  | option (n : OptionName)
  | localizable
  | usage
  deriving DecidableEq, Repr

def Attribute.name : Attribute → String
  | patterns => "patterns"
  | option n => n.name
  | localizable => "localizable"
  | usage => "usage"

/-- The attributes that every record has, in their order. -/
def Attribute.common : List Attribute := patterns :: OptionName.all.map option ++ [localizable]

def Role.attributes : Role → List Attribute
  | plain | prompt => Attribute.common
  | template => Attribute.common ++ [.usage]

def Kind.datum : Kind → Datum
  | plain | prompt => .null
  | template usage => .member (.usage usage)

/-- What is read off a record. Without a usage there is nothing to read. -/
def datum (r : Record) : Attribute → Datum
  | .patterns => .list (r.patterns.map .text)
  | .option n => n.kind.datum (r.options.get n)
  | .localizable => .bool r.localizable
  | .usage => r.kind.datum

/-- All attributes of a record, under their names. -/
def dump (r : Record) : List (String × Datum) :=
  r.kind.role.attributes.map fun a => (a.name, r.datum a)

end Record

open Record (Attribute)
variable {r : Record} {a : Attribute}

theorem Record.Attribute.find?_of_mem {attributes : List Attribute}
    (hdistinct : (attributes.map Attribute.name).Nodup) (ha : a ∈ attributes) :
    (attributes.find? fun b => b.name == a.name) = some a := by
  induction attributes with
  | nil => cases ha
  | cons b attributes ih =>
    rw [List.map_cons, List.nodup_cons] at hdistinct
    rcases List.mem_cons.1 ha with rfl | hmem
    · exact List.find?_cons_of_pos (beq_self_eq_true _)
    · have hne : b.name ≠ a.name := fun heq => hdistinct.1 (heq ▸ List.mem_map_of_mem hmem)
      rw [List.find?_cons_of_neg (by simpa using hne)]
      exact ih hdistinct.2 hmem

theorem Datum.entry?_map {attributes : List Attribute} {value : Attribute → Datum}
    (hdistinct : (attributes.map Attribute.name).Nodup) (ha : a ∈ attributes) :
    Datum.entry? a.name (attributes.map fun a => (a.name, value a)) = some (value a) := by
  have hfind := Attribute.find?_of_mem hdistinct ha
  rw [Datum.entry?, List.find?_map]
  exact congrArg (Option.map Prod.snd) (congrArg (Option.map fun a => (a.name, value a)) hfind)

namespace Record

theorem nodup_attributes (role : Role) : (role.attributes.map Attribute.name).Nodup := by
  cases role <;> decide

theorem entry?_dump (r : Record) (ha : a ∈ r.kind.role.attributes) :
    Datum.entry? a.name r.dump = some (r.datum a) :=
  Datum.entry?_map (nodup_attributes _) ha

theorem option_mem_attributes (role : Role) (n : OptionName) : .option n ∈ role.attributes := by
  have hcommon : Attribute.option n ∈ Attribute.common := by simp [Attribute.common, n.mem_all]
  cases role with
  | plain | prompt => exact hcommon
  | template => exact List.mem_append_left _ hcommon

theorem patterns_mem_attributes (role : Role) : .patterns ∈ role.attributes := by
  cases role <;> decide

theorem localizable_mem_attributes (role : Role) : .localizable ∈ role.attributes := by
  cases role <;> decide

end Record

theorem Record.Usage.ofName?_name (u : Record.Usage) : Record.Usage.ofName? u.name = some u := by
  cases u <;> rfl

/-! ## Making a record from its attributes -/

namespace Validation
variable {α : Type} {entries : List (String × Datum)} {names : List OptionName} {o : Options}

theorem optional_of_entry {name : String} {d : Datum} {check : Datum → Verdict α} {v : α}
    (hentry : Datum.entry? name entries = some d) (hcheck : check d = .accepted v) (absent : α) :
    optional name absent check entries = .accepted v := by
  rw [optional, hentry]
  dsimp only
  rw [hcheck]
  rfl

theorem each_checkText (texts : List String) (position : Nat) :
    Verdict.each checkText position (texts.map .text) = .accepted texts := by
  induction texts generalizing position with
  | nil => rfl
  | cons s texts ih => rw [List.map_cons, Verdict.each, ih]; rfl

/-- Options that are given are taken over, one after the other. -/
theorem checkOptions_of_entries
    (h : ∀ n ∈ names, Datum.entry? n.name entries = some (n.kind.datum (o.get n))) :
    ∃ o', checkOptions entries names = .accepted o' ∧ ∀ n ∈ names, o'.get n = o.get n := by
  induction names with
  | nil => exact ⟨.unset, rfl, nofun⟩
  | cons n names ih =>
    obtain ⟨o', hrest, hget⟩ := ih fun m hm => h m (List.mem_cons_of_mem n hm)
    have hn := optional_of_entry (h n List.mem_cons_self) (checkOption_datum n.kind (o.get n))
      n.kind.unset
    refine ⟨o'.assign n (o.get n), by rw [checkOptions, hn, hrest]; rfl, fun m hm => ?_⟩
    by_cases hnm : n = m
    · subst hnm
      exact Options.get_assign_same ..
    · rw [Options.get_assign_other hnm]
      exact hget m (List.mem_of_ne_of_mem (Ne.symm hnm) hm)

theorem checkKind_dump (r : Record) : checkKind r.dump r.kind.role = .accepted r.kind := by
  obtain ⟨kind, patterns, options, localizable⟩ := r
  cases kind with
  | plain | prompt => rfl
  | template usage =>
    let r : Record := ⟨.template usage, patterns, options, localizable⟩
    have hentry : Datum.entry? "usage" r.dump = some (.member (.usage usage)) :=
      r.entry?_dump (a := .usage) (List.mem_append_right _ List.mem_cons_self)
    have hcheck : checkUsage (.member (.usage usage)) = .accepted usage :=
      checkMember_of_name (Record.Usage.ofName?_name usage)
    exact congrArg (Verdict.map Kind.template) (optional_of_entry hentry hcheck .none)

theorem checkRecordFields_dump (r : Record) :
    checkRecordFields r.kind.role r.dump = .accepted r := by
  have hpatterns : optional "patterns" [] (checkList checkText) r.dump = .accepted r.patterns :=
    optional_of_entry (r.entry?_dump (Record.patterns_mem_attributes _))
      (each_checkText r.patterns 0) []
  have hentries (n : OptionName) :
      Datum.entry? n.name r.dump = some (n.kind.datum (r.options.get n)) :=
    r.entry?_dump (Record.option_mem_attributes r.kind.role n)
  obtain ⟨o, hoptions, hget⟩ := checkOptions_of_entries fun n (_ : n ∈ OptionName.all) => hentries n
  obtain rfl : o = r.options := Options.ext_get fun n => hget n n.mem_all
  have hflag : checkFlag (r.datum .localizable) = .accepted r.localizable := rfl
  have hlocalizable : optional "localizable" true checkFlag r.dump = .accepted r.localizable :=
    optional_of_entry (r.entry?_dump (Record.localizable_mem_attributes _)) hflag true
  have hkind : checkKind r.dump r.kind.role = .accepted r.kind := checkKind_dump r
  rw [checkRecordFields, hpatterns, hoptions, hlocalizable, hkind]
  rfl

end Validation

end FormDialogue
