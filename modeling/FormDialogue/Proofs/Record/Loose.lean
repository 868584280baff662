import FormDialogue.Proofs.Record.Attributes
import FormDialogue.Proofs.Validation.Acceptance

/-! # Records without types

A loose record has some value or other for every attribute. Only what puts a value into it decides
what the value is: building and assigning check it and keep what the check makes of it. What they
make, and what they report, is the same as for records whose options are typed. -/

namespace FormDialogue
open Record (Attribute Kind OptionKind OptionName Options Role)
open Validation (Verdict checkFlag checkList checkOption checkText checkUsage optional)

/-! ## Verdicts -/

namespace Validation
variable {α β γ δ δ' ε : Type}

theorem Verdict.map_map (f : α → β) (g : β → γ) (v : Verdict α) :
    (v.map f).map g = v.map fun a => g (f a) := by
  cases v <;> rfl

theorem Verdict.map_congr {f g : α → β} {v : Verdict α} (h : ∀ a, v = accepted a → f a = g a) :
    v.map f = v.map g := by
  cases v with
  | accepted a => exact congrArg accepted (h a rfl)
  | _ => rfl

theorem Verdict.both_map_left (f : α → β → γ) (g : δ → α) (v : Verdict δ) (u : Verdict β) :
    both f (v.map g) u = both (fun a b => f (g a) b) v u := by
  cases v <;> cases u <;> rfl

theorem Verdict.both_map_right (f : α → β → γ) (g : δ → β) (v : Verdict α) (u : Verdict δ) :
    both f v (u.map g) = both (fun a b => f a (g b)) v u := by
  cases v <;> cases u <;> rfl

/-- Three checks in a row, with their issues in order either way. -/
theorem Verdict.both_both {f : δ → γ → ε} {g : α → β → δ} {p : α → δ' → ε} {q : β → γ → δ'}
    (h : ∀ a b c, f (g a b) c = p a (q b c)) (v : Verdict α) (u : Verdict β) (t : Verdict γ) :
    both f (both g v u) t = both p v (both q u t) := by
  cases v <;> cases u <;> cases t <;> simp [both, h]

theorem Verdict.both_eq_map (f : α → β → γ) (v : Verdict α) (u : Verdict β) :
    both f v u = (both Prod.mk v u).map fun p => f p.1 p.2 := by
  cases v <;> cases u <;> rfl

theorem Verdict.seq_four (f : α → β → γ → δ → ε) (v : Verdict α) (u : Verdict β) (t : Verdict γ)
    (s : Verdict δ) :
    f <$> v <*> u <*> t <*> s = (both Prod.mk v (both Prod.mk u (both Prod.mk t s))).map
      fun p => f p.1 p.2.1 p.2.2.1 p.2.2.2 := by
  change both (fun h a => h a) (both (fun h a => h a) (both (fun h a => h a) (v.map f) u) t) s = _
  rw [both_map_left,
    both_both (p := fun h x => h x.1 x.2) (q := Prod.mk) (fun _ _ _ => rfl) _ t s,
    both_both (p := fun a x => f a x.1 x.2.1 x.2.2) (q := Prod.mk) (fun _ _ _ => rfl) v u,
    both_eq_map]

theorem Verdict.within_map (name : String) (f : α → β) (v : Verdict α) :
    (v.map f).within name = (v.within name).map f := by
  cases v <;> rfl

theorem Verdict.orFail_map (title : String) (f : α → β) (v : Verdict α) :
    (v.map f).orFail title = (v.orFail title).map f := by
  cases v <;> rfl

theorem optional_map (name : String) (absent : α) (check : Datum → Verdict α) (g : α → β)
    (entries : List (String × Datum)) :
    optional name (g absent) (fun d => (check d).map g) entries =
      (optional name absent check entries).map g := by
  rw [optional, optional]
  cases Datum.entry? name entries with
  | none => rfl
  | some d => exact Verdict.within_map name g (check d)

end Validation

/-! ## Loose records -/

namespace Record.Attribute

/-- What an attribute is if nothing is given for it. -/
def absent : Attribute → Datum
  | patterns => .list []
  | option n => n.kind.datum n.kind.unset
  | localizable => .bool true
  | usage => .member (.usage .none)

/-- What is made of a value that is given for an attribute. -/
def coerce : Attribute → Datum → Verdict Datum
  | patterns, d => (checkList checkText d).map fun texts => .list (texts.map .text)
  | option n, d => (checkOption n.kind d).map n.kind.datum
  | localizable, d => (checkFlag d).map .bool
  | usage, d => (checkUsage d).map fun u => .member (.usage u)

end Record.Attribute

structure Loose where
  role : Role
  value : Attribute → Datum

/-- A record, as far as its attributes are data. -/
def Record.loose (r : Record) : Loose := ⟨r.kind.role, r.datum⟩

namespace Loose

instance : Inhabited Loose := ⟨Record.blank.loose⟩

def put (l : Loose) (a : Attribute) (d : Datum) : Loose :=
  { l with value := fun b => if b = a then d else l.value b }

/-- An attribute, from what is given for it. -/
def field (entries : List (String × Datum)) (a : Attribute) : Verdict Datum :=
  optional a.name a.absent a.coerce entries

def fields (entries : List (String × Datum)) : List Attribute → Verdict (Attribute → Datum)
  | [] => .accepted fun _ => .null
  | a :: rest =>
    .both (fun d value b => if b = a then d else value b) (field entries a) (fields entries rest)

def build (role : Role) (entries : List (String × Datum)) : Verdict Loose :=
  (fields entries role.attributes).map fun value => ⟨role, value⟩

def find? (l : Loose) (name : String) : Option Attribute :=
  l.role.attributes.find? fun a => a.name == name

def assign (l : Loose) (name : String) (d : Datum) : Verdict Loose :=
  match l.find? name with
  | some a => (a.coerce d).map (l.put a)
  | none => .fault (.noAttribute name)

end Loose

open Validation

/-! ## Building -/

namespace Loose
variable (entries : List (String × Datum))

theorem field_patterns : field entries .patterns =
    (optional "patterns" [] (checkList checkText) entries).map
      fun texts => .list (texts.map .text) :=
  optional_map "patterns" [] (checkList checkText)
    (fun texts : List String => Datum.list (texts.map .text)) entries

theorem field_option (n : OptionName) : field entries (.option n) =
    (optional n.name n.kind.unset (checkOption n.kind) entries).map n.kind.datum :=
  optional_map ..

theorem field_localizable : field entries .localizable =
    (optional "localizable" true checkFlag entries).map .bool := optional_map ..

theorem field_usage : field entries .usage =
    (optional "usage" .none checkUsage entries).map fun u => .member (.usage u) := optional_map ..

theorem fields_options (names : List OptionName) (rest : List Attribute) :
    fields entries (names.map .option ++ rest) =
      .both (fun o value a =>
          match a with
          | .option n => if n ∈ names then n.kind.datum (o.get n) else value a
          | a => value a)
        (checkOptions entries names) (fields entries rest) := by
  induction names with
  | nil =>
    rw [List.map_nil, List.nil_append, checkOptions]
    cases fields entries rest with
    | accepted value =>
      refine congrArg Verdict.accepted (funext fun a => ?_)
      cases a <;> simp
    | _ => rfl
  | cons n names ih =>
    rw [List.map_cons, List.cons_append, fields, ih, checkOptions, field_option,
      Verdict.both_map_left]
    refine (Verdict.both_both (fun v o value => funext fun a => ?_) _ _ _).symm
    cases a with
    | option m =>
      by_cases hm : m = n
      · subst hm
        simp [Options.get_assign_same]
      · simp [hm, Options.get_assign_other (Ne.symm hm)]
    | _ => rfl

/-- What is behind the options. -/
def lastAttributes : Role → List Attribute
  | .plain | .prompt => [.localizable]
  | .template => [.localizable, .usage]

theorem attributes_eq (role : Role) :
    role.attributes = .patterns :: (OptionName.all.map .option ++ lastAttributes role) := by
  cases role <;> rfl

theorem fields_last (role : Role) : fields entries (lastAttributes role) =
    .both (fun b kind a =>
        match a with
        | .localizable => .bool b
        | .usage => kind.datum
        | _ => .null)
      (optional "localizable" true checkFlag entries) (checkKind entries role) := by
  cases role with
  | plain | prompt =>
    rw [lastAttributes, fields, fields, field_localizable, Verdict.both_map_left, checkKind]
    cases optional "localizable" true checkFlag entries with
    | accepted b =>
      refine congrArg Verdict.accepted (funext fun a => ?_)
      cases a <;> rfl
    | _ => rfl
  | template =>
    rw [lastAttributes, fields, fields, fields, field_localizable, field_usage, checkKind,
      Verdict.both_map_left, Verdict.both_map_left, Verdict.both_map_right]
    cases optional "localizable" true checkFlag entries <;>
      cases optional "usage" .none checkUsage entries
    case accepted.accepted b u =>
      refine congrArg Verdict.accepted (funext fun a => ?_)
      cases a <;> rfl
    all_goals rfl

theorem role_of_checkKind {role : Role} {kind : Kind}
    (h : checkKind entries role = .accepted kind) : kind.role = role := by
  cases role with
  | plain | prompt =>
    cases h
    rfl
  | template =>
    obtain ⟨u, -, rfl⟩ := Verdict.map_eq_accepted_iff.1 h
    rfl

/-- Built from the same data, a loose record and a typed one have the same attributes, and the same
issues are found. -/
theorem build_eq (role : Role) :
    build role entries = (checkRecordFields role entries).map Record.loose := by
  rw [build, attributes_eq, fields, fields_options, fields_last, field_patterns,
    Verdict.both_map_left, Verdict.both_eq_map _ (optional "localizable" true checkFlag entries),
    Verdict.both_map_right, Verdict.both_eq_map _ (checkOptions entries OptionName.all),
    Verdict.both_map_right, Verdict.both_eq_map, Verdict.map_map, checkRecordFields,
    Verdict.seq_four, Verdict.map_map]
  refine Verdict.map_congr fun read h => ?_
  obtain ⟨texts, o, b, kind⟩ := read
  have hkind : checkKind entries role = .accepted kind := by
    obtain ⟨_, _, -, hrest, heq⟩ := Verdict.both_eq_accepted_iff.1 h
    cases heq
    obtain ⟨_, _, -, hlast, heq⟩ := Verdict.both_eq_accepted_iff.1 hrest
    cases heq
    obtain ⟨_, _, -, hkind, heq⟩ := Verdict.both_eq_accepted_iff.1 hlast
    cases heq
    exact hkind
  rw [Record.loose, role_of_checkKind entries hkind, mk.injEq]
  refine ⟨rfl, funext fun a => ?_⟩
  cases a with
  | option n => simp [Record.datum, n.mem_all]
  | _ => rfl

/-! ## Assigning -/

variable (r : Record) (name : String) (d : Datum)

theorem loose_patterns (texts : List String) :
    ({ r with patterns := texts } : Record).loose =
      r.loose.put .patterns (.list (texts.map .text)) := by
  refine congrArg (Loose.mk _) (funext fun a => ?_)
  cases a <;> rfl

theorem loose_localizable (b : Bool) :
    ({ r with localizable := b } : Record).loose = r.loose.put .localizable (.bool b) := by
  refine congrArg (Loose.mk _) (funext fun a => ?_)
  cases a <;> rfl

theorem loose_option (n : OptionName) (v : n.Value) :
    ({ r with options := r.options.assign n v } : Record).loose =
      r.loose.put (.option n) (n.kind.datum v) := by
  refine congrArg (Loose.mk _) (funext fun a => ?_)
  cases a with
  | option m =>
    by_cases hm : m = n
    · subst hm
      simp [Record.datum, Options.get_assign_same]
    · simp [Record.datum, Record.loose, hm, Options.get_assign_other (Ne.symm hm)]
  | _ => rfl

theorem loose_usage {usage : Record.Usage} (h : r.kind = .template usage) (u : Record.Usage) :
    ({ r with kind := .template u } : Record).loose =
      r.loose.put .usage (.member (.usage u)) := by
  have hrole : r.loose.role = .template := by rw [Record.loose, h]; rfl
  rw [Loose.put, hrole]
  refine congrArg (Loose.mk _) (funext fun a => ?_)
  cases a <;> rfl

theorem find?_eq_some {l : Loose} {a : Attribute} (h : l.find? name = some a) :
    a ∈ l.role.attributes ∧ a.name = name :=
  ⟨List.mem_of_find?_eq_some h, by simpa using List.find?_some h⟩

theorem assigned_of_absent (h : r.loose.find? name = none) :
    Action.assigned r name d = .fault (.noAttribute name) := by
  have hne (a : Attribute) (ha : a ∈ r.kind.role.attributes) : a.name ≠ name := by
    simpa using List.find?_eq_none.1 h a ha
  have hoption : OptionName.ofName? name = none := by
    refine List.find?_eq_none.2 fun n _ => ?_
    simpa [Attribute.name] using hne (.option n) (Record.option_mem_attributes _ n)
  unfold Action.assigned
  split
  · exact absurd rfl (hne .patterns (Record.patterns_mem_attributes _))
  · exact absurd rfl (hne .localizable (Record.localizable_mem_attributes _))
  · next u hkind =>
    refine absurd rfl (hne .usage ?_)
    rw [hkind]
    exact List.mem_append_right _ List.mem_cons_self
  · rw [hoption]

/-- A value is assigned to a loose record and to a typed one with the same effect or the same
fault. -/
theorem assign_eq : r.loose.assign name d = (Action.assigned r name d).map Record.loose := by
  rw [assign]
  cases hfind : r.loose.find? name with
  | none => rw [assigned_of_absent r name d hfind]; rfl
  | some a =>
    obtain ⟨hmem, rfl⟩ := find?_eq_some name hfind
    dsimp only
    cases a with
    | patterns =>
      change _ = ((checkList checkText d).map fun v => _).map Record.loose
      rw [Attribute.coerce, Verdict.map_map, Verdict.map_map]
      exact Verdict.map_congr fun texts _ => (loose_patterns r texts).symm
    | localizable =>
      change _ = ((checkFlag d).map fun v => _).map Record.loose
      rw [Attribute.coerce, Verdict.map_map, Verdict.map_map]
      exact Verdict.map_congr fun b _ => (loose_localizable r b).symm
    | option n =>
      have hassigned : Action.assigned r n.name d = (checkOption n.kind d).map fun v =>
          { r with options := r.options.assign n v } := by cases n <;> rfl
      rw [Attribute.name, hassigned, Attribute.coerce, Verdict.map_map, Verdict.map_map]
      exact Verdict.map_congr fun v _ => (loose_option r n v).symm
    | usage =>
      obtain ⟨kind, patterns, options, localizable⟩ := r
      cases kind with
      | plain | prompt =>
        change Attribute.usage ∈ Attribute.common at hmem
        exact absurd hmem (by decide)
      | template u =>
        change _ = ((checkUsage d).map fun v => _).map Record.loose
        rw [Attribute.coerce, Verdict.map_map, Verdict.map_map]
        exact Verdict.map_congr fun v _ => (loose_usage _ rfl v).symm

end Loose

end FormDialogue
