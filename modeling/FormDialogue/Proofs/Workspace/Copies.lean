import FormDialogue.Proofs.Workspace.PatternLists
import FormDialogue.Proofs.Workspace.Sessions

/-! # Copies of records

A prompt is made from the attributes of a record as data, and a copy has all of them as they are.
Either is a new record. It stays apart from the record that it was made from: what is done to one of
them, by whatever operations, is not seen at the other. This is also so where other records share
their lists of patterns, since a new record has a new list. -/

namespace FormDialogue
open Record (Kind Options)

/-! ## Operations that leave a record alone -/

namespace Operation
variable {w : Workspace} {q : Ref Record}

/-- The records that an operation may change. -/
def writes : Operation → List (Ref Record)
  | single edit => edit.target?.toList
  | recordOf .. => []
  | cascade _ templates => templates
  | register _ template => [template]
  | resolve _ record _ => [record]
  | resolveTemplate _ _ overrides => overrides.reduceOption.take 1

def run (w : Workspace) (operations : List Operation) : Workspace := operations.foldl after w

theorem run_append (w : Workspace) (operations more : List Operation) :
    run w (operations ++ more) = run (run w operations) more := List.foldl_append

theorem frame_push (record : Record) (hq : w.store.Has q) :
    (w.store.push record).Has q ∧ (w.store.push record).get q = w.store.get q :=
  ⟨Nat.lt_succ_of_lt hq, Heap.get_push_old hq record⟩

theorem frame_build (role : Record.Role) (d : Datum) (hq : w.store.Has q) :
    let v := ((discard (Action.buildRecord role d)).runIn w).2
    v.store.Has q ∧ v.store.get q = w.store.get q := by
  dsimp only
  rw [Action.runIn_buildRecord]
  split
  · exact ⟨hq, rfl⟩
  · exact frame_push _ hq
  · exact ⟨hq, rfl⟩

theorem frame_edit (edit : Edit) (hq : w.store.Has q) :
    let v := (edit.act.runIn w).2
    v.store.Has q ∧ (edit.target? ≠ some q → v.store.get q = w.store.get q) := by
  have hset (r : Ref Record) (record : Record) (hother : some r ≠ some q) :
      (w.store.set r record).get q = w.store.get q :=
    Heap.get_set_other (fun heq => hother (congrArg some heq.symm)) record
  cases edit with
  | build role d =>
    obtain ⟨hhas, hget⟩ := frame_build role d hq
    exact ⟨hhas, fun _ => hget⟩
  | assign r name d =>
    dsimp only
    rw [Edit.act]
    rcases Action.assignRecord_cases r name d w with ⟨record, _, h, -⟩ | ⟨why, h⟩
    · rw [h]
      exact ⟨hq, hset r record⟩
    · rw [h]
      exact ⟨hq, fun _ => rfl⟩
  | append r pattern => exact ⟨hq, hset r _⟩
  | merge specific general => exact ⟨hq, hset specific _⟩
  | promptFrom r =>
    obtain ⟨hhas, hget⟩ := frame_push (w.store.get r).asPrompt hq
    exact ⟨hhas, fun _ => hget⟩
  | copy r =>
    obtain ⟨hhas, hget⟩ := frame_push (w.store.get r) hq
    exact ⟨hhas, fun _ => hget⟩

theorem frame_call (call : Call) (hq : w.store.Has q) :
    (call.after w).store.Has q ∧
      (q ∉ (call.filling w).records → (call.after w).store.get q = w.store.get q) := by
  have hfilled := Call.filledFrom_after call hq
  exact ⟨hfilled.has hq, hfilled.get_of_not_mem⟩

/-- An operation takes no record away, and it changes none but those that it may change. -/
theorem frame (o : Operation) (hq : w.store.Has q) :
    (o.after w).store.Has q ∧ (q ∉ o.writes → (o.after w).store.get q = w.store.get q) := by
  cases o with
  | single edit =>
    obtain ⟨hhas, hget⟩ := frame_edit edit hq
    exact ⟨hhas, fun hother => hget fun h => hother (by simp [writes, h])⟩
  | recordOf role patterns options =>
    rw [after, act, Action.recordOf]
    split
    · exact ⟨hq, fun _ => rfl⟩
    · split
      · exact ⟨hq, fun _ => rfl⟩
      · obtain ⟨hhas, hget⟩ := frame_build role (.dict (("patterns", .list patterns) :: options)) hq
        exact ⟨hhas, fun _ => hget⟩
  | cascade defaults templates => exact frame_call (.build defaults templates) hq
  | register c template => exact frame_call (.register c template) hq
  | resolve c record scopes => exact frame_call (.resolve c record scopes) hq
  | resolveTemplate c usage overrides =>
    obtain ⟨hhas, hget⟩ := frame_call (.resolveTemplate c usage overrides) hq
    refine ⟨hhas, fun hother => hget ?_⟩
    rw [writes] at hother
    rw [Call.filling]
    cases h : overrides.reduceOption with
    | nil => exact List.not_mem_nil
    | cons first rest =>
      rw [h] at hother
      exact hother

theorem has_run (operations : List Operation) (hq : w.store.Has q) :
    (run w operations).store.Has q := by
  induction operations generalizing w with
  | nil => exact hq
  | cons o operations ih => exact ih (o.frame hq).1

theorem get_run {operations : List Operation} (hq : w.store.Has q)
    (hothers : ∀ o ∈ operations, q ∉ o.writes) :
    (run w operations).store.get q = w.store.get q := by
  induction operations generalizing w with
  | nil => rfl
  | cons o operations ih =>
    obtain ⟨hhas, hget⟩ := o.frame hq
    have hrest := ih hhas fun p hp => hothers p (List.mem_cons_of_mem o hp)
    exact hrest.trans (hget (hothers o List.mem_cons_self))

end Operation

/-! ## The memory of a workspace -/

namespace Memory
variable {m n : Memory} {s : Store} {w : Workspace} {r : Ref Record} {record : Record}

/-- The records of a memory are those of a store. -/
structure Shows (m : Memory) (s : Store) : Prop where
  size : m.cells.size = s.size
  read : ∀ r, m.Has r → m.read r = s.get r

/-- Every edit is one of records that are there. -/
def Finds (m : Memory) : List Edit → Prop
  | [] => True
  | edit :: rest => (∀ r ∈ edit.records, m.Has r) ∧ (m.after edit).Finds rest

/-- The records of a store, each with a list of its own. -/
def ofStore (s : Store) : Memory :=
  ⟨⟨s.size, fun i => .of (s.cell i) ⟨i⟩⟩, s.map Record.patterns⟩

theorem exists_shows (s : Store) : ∃ m : Memory, m.WellFormed ∧ m.Separated ∧ m.Shows s := by
  refine ⟨ofStore s, ?_⟩
  refine ⟨fun r hr => hr, fun r hr => ⟨hr, fun q _ hne heq => hne ?_⟩, rfl, fun _ _ => rfl⟩
  exact Ref.ext (Ref.mk.inj heq)

namespace Shows
variable (h : m.Shows s)
include h

theorem has_iff : m.Has r ↔ s.Has r := by
  rw [Has, Heap.Has, h.size]
  rfl

theorem fresh : m.fresh = s.fresh := congrArg Ref.mk h.size

theorem push (hm : m.WellFormed) (record : Record) :
    (m.push record).Shows (s.push record) := by
  refine ⟨congrArg Nat.succ h.size, fun q hq => ?_⟩
  rcases has_push_iff.1 hq with hold | rfl
  · have hkept := (Effect.push record).read_eq hm hold nofun
    rw [hkept, h.read q hold, Heap.get_push_old (h.has_iff.1 hold)]
  · rw [read_push_fresh, h.fresh, Heap.get_push_fresh]

theorem build (hm : m.WellFormed) (role : Record.Role) (d : Datum) (hs : s = w.store) :
    (m.build role d).Shows ((discard (Action.buildRecord role d)).runIn w).2.store := by
  subst hs
  rw [Action.runIn_buildRecord, Memory.build]
  cases Validation.checkRecord role d with
  | accepted built =>
    cases built with
    | existing ref => exact h
    | fresh record => exact h.push hm record
  | _ => exact h

theorem set (hm : m.WellFormed) (hr : m.Owns r) (heffect : m.Effect (some r) n)
    (hsize : n.cells.size = m.cells.size) (hread : n.read r = record) :
    n.Shows (s.set r record) := by
  refine ⟨hsize.trans h.size, fun q hq => ?_⟩
  by_cases hqr : q = r
  · subst hqr
    rw [hread, Heap.get_set_same]
  · have hold : m.Has q := by
      rw [Has, Heap.Has, ← hsize]
      exact hq
    have hkept : n.read q = m.read q := by
      refine heffect.read_apart hm hr hold fun p hp => ?_
      obtain rfl := Option.some.inj hp
      exact ⟨Ne.symm hqr, Or.inl rfl⟩
    rw [hkept, h.read q hold, Heap.get_set_other hqr]

end Shows

theorem patterns_assigned {record changed : Record} {name : String} {d : Datum}
    (hname : name ≠ "patterns") (h : Action.assigned record name d = .accepted changed) :
    changed.patterns = record.patterns := by
  unfold Action.assigned at h
  split at h
  · exact absurd rfl hname
  · obtain ⟨v, -, rfl⟩ := Validation.Verdict.map_eq_accepted_iff.1 h
    rfl
  · obtain ⟨v, -, rfl⟩ := Validation.Verdict.map_eq_accepted_iff.1 h
    rfl
  · split at h
    · obtain ⟨v, -, rfl⟩ := Validation.Verdict.map_eq_accepted_iff.1 h
      rfl
    · cases h

theorem Shows.assign (h : m.Shows w.store) (hm : m.WellFormed) (hr : m.Owns r) (name : String)
    (d : Datum) : (m.assign r name d).Shows ((Action.assignRecord r name d).runIn w).2.store := by
  rw [Action.runIn_assignRecord, Memory.assign, h.read r hr.1]
  cases hown : Action.isOwn name with
  | true =>
    rw [if_pos rfl, if_pos (Action.isHidden_of_isOwn name hown)]
    obtain ⟨_, hassign⟩ | ⟨_, hassign⟩ := Action.assignOwn_cases r name d w <;> rw [hassign] <;>
      exact h
  | false =>
    rw [if_neg Bool.false_ne_true]
    split
    · exact h
    split
    · exact h
    · cases hassigned : Action.assigned (w.store.get r) name d with
      | accepted record =>
        dsimp only
        split
        · exact h.set hm hr (.rebind hr.1 record) rfl (read_rebind m r record)
        · next hname =>
          have hpatterns : record.patterns = (m.read r).patterns := by
            rw [h.read r hr.1]
            exact patterns_assigned hname hassigned
          exact h.set hm hr (.rewrite hr.1 record) rfl (read_rewrite hpatterns)
      | _ => exact h

/-- Where no list is shared, an edit of records that are there is the same in a memory as in the
workspace. -/
theorem Shows.after (h : m.Shows w.store) (hm : m.WellFormed) (hseparated : m.Separated)
    {edit : Edit} (hrecords : ∀ r ∈ edit.records, m.Has r) :
    (m.after edit).Shows (edit.act.runIn w).2.store := by
  rw [Memory.after, if_pos hrecords]
  cases edit with
  | build role d => exact h.build hm role d rfl
  | assign r name d =>
    exact h.assign hm (hseparated r (hrecords r List.mem_cons_self)) name d
  | append r pattern =>
    have hr : m.Has r := hrecords r List.mem_cons_self
    have hread := read_extend m r pattern
    rw [h.read r hr] at hread
    exact h.set hm (hseparated r hr) (.extend hr pattern) rfl hread
  | merge specific general =>
    have hspecific : m.Has specific := hrecords specific List.mem_cons_self
    have hgeneral : m.Has general := hrecords general (List.mem_cons_of_mem _ List.mem_cons_self)
    have hread : (m.merge specific general).read specific = { m.read specific with
        options := (m.read specific).options.fill (m.read general).options } := read_rewrite rfl
    rw [h.read specific hspecific, h.read general hgeneral] at hread
    exact h.set hm (hseparated specific hspecific) (.rewrite hspecific _) rfl hread
  | promptFrom r =>
    have hr : m.Has r := hrecords r List.mem_cons_self
    rw [edited_promptFrom, h.read r hr]
    exact h.push hm _
  | copy r =>
    have hr : m.Has r := hrecords r List.mem_cons_self
    rw [Memory.edited, h.read r hr]
    exact h.push hm _

theorem Shows.run {edits : List Edit} (h : m.Shows w.store) (hm : m.WellFormed)
    (hseparated : m.Separated) (hfinds : m.Finds edits) :
    (m.run edits).Shows (Operation.run w (edits.map .single)).store := by
  induction edits generalizing m w with
  | nil => exact h
  | cons edit edits ih =>
    obtain ⟨hrecords, hrest⟩ := hfinds
    have heffect := m.effect_after edit
    exact ih (h.after hm hseparated hrecords) (heffect.wellFormed hm)
      (heffect.separated hm hseparated) hrest

end Memory

/-! ## Copies -/

theorem Action.runIn_buildRecord_promptData (record : Record) (w : Workspace) :
    (buildRecord .prompt (.dict record.loose.promptData)).runIn w =
      (.ok w.store.fresh, { w with store := w.store.push record.asPrompt }) := by
  rw [buildRecord, Validation.checkRecord, Record.checkRecordFields_promptData]
  rfl

/-- The edits that make a record from another one. -/
def Edit.Copies (t : Ref Record) (edit : Edit) : Prop := edit = promptFrom t ∨ edit = copy t

theorem Edit.Copies.push {t : Ref Record} {edit : Edit} (hedit : edit.Copies t) {m : Memory}
    {w : Workspace} (h : m.Shows w.store) (ht : w.store.Has t) :
    ∃ record, m.after edit = m.push record ∧
      ((Operation.single edit).after w).store = w.store.push record := by
  have hhas : m.Has t := h.has_iff.2 ht
  rcases hedit with rfl | rfl
  · refine ⟨(w.store.get t).asPrompt, ?_, rfl⟩
    rw [Memory.after, if_pos (by simpa [records] using hhas), Memory.edited_promptFrom,
      h.read t hhas]
  · refine ⟨w.store.get t, ?_, rfl⟩
    rw [Memory.after, if_pos (by simpa [records] using hhas), Memory.edited, h.read t hhas]

/-- A prompt made from a record has its patterns and options, set or not, and is not localized; it
is what is built from the attributes of the record as data. A copy is the same record once more.
Either is new, and nothing else changes. From then on, in every run of operations, a record stays as
it is while only others are changed. This is not because lists of patterns could not be shared: in
every memory that has the records of the workspace, however they share their lists, the new record
is not changed through others, nor others through it. There is one that shares no list, and such a
memory has the records of the workspace in every run. -/
theorem copies_stay_apart (w : Workspace) (t : Ref Record) (ht : w.store.Has t) :
    let record := w.store.get t
    let c := w.store.fresh
    let prompted := ((Action.promptFrom t).runIn w).2.store
    c ≠ t ∧
    (Action.promptFrom t).runIn w =
      (.ok c, { w with store := w.store.push ⟨.prompt, record.patterns, record.options, false⟩ }) ∧
    (Action.buildRecord .prompt (.dict record.loose.promptData)).runIn w =
      (Action.promptFrom t).runIn w ∧
    prompted.unresolved c = w.store.unresolved t ∧
    (prompted.get c).allowsNumbers = record.allowsNumbers ∧
    (Action.copyOf t).runIn w = (.ok c, { w with store := w.store.push record }) ∧
    (∃ m : Memory, m.WellFormed ∧ m.Separated ∧ m.Shows w.store) ∧
    ∀ copying : Edit, copying.Copies t →
      let v := (Operation.single copying).after w
      (∀ r, w.store.Has r → v.store.get r = w.store.get r) ∧
      (∀ before later : List Operation, ∀ r, v.store.Has r → (∀ o ∈ later, r ∉ o.writes) →
        (Operation.run v (before ++ later)).store.get r =
          (Operation.run v before).store.get r) ∧
      ∀ m : Memory, m.WellFormed → m.Shows w.store →
        let n := m.after copying
        n.Shows v.store ∧
        (∀ before later : List Edit, (∀ edit ∈ later, edit.target? ≠ some c) →
          (n.run (before ++ later)).read c = (n.run before).read c) ∧
        (∀ before later : List Edit, (∀ edit ∈ later, ∀ r, edit.target? = some r → r = c) →
          ∀ r, w.store.Has r → (n.run (before ++ later)).read r = (n.run before).read r) ∧
        (m.Separated → ∀ edits, n.Finds edits →
          (n.run edits).Shows (Operation.run v (edits.map .single)).store) := by
  intro record c prompted
  have hprompt : prompted.get c = record.asPrompt := Heap.get_push_fresh ..
  have hne (r : Ref Record) (hr : w.store.Has r) : c ≠ r := by
    rintro rfl
    exact Nat.lt_irrefl _ hr
  refine ⟨hne t ht, rfl, Action.runIn_buildRecord_promptData record w, ?_, ?_, rfl,
    Memory.exists_shows w.store, fun copying hcopying => ?_⟩
  · rw [Store.unresolved, hprompt]
    rfl
  · rw [hprompt]
    rfl
  intro v
  refine ⟨fun r hr => ?_, fun before later r hr hothers => ?_, fun m hm h => ?_⟩
  · have hother : r ∉ (Operation.single copying).writes := by
      rcases hcopying with rfl | rfl <;> exact List.not_mem_nil
    exact ((Operation.single copying).frame hr).2 hother
  · rw [Operation.run_append]
    exact Operation.get_run (Operation.has_run before hr) hothers
  intro n
  have heffect : m.Effect copying.target? n := m.effect_after copying
  have hformed : n.WellFormed := heffect.wellFormed hm
  obtain ⟨copied, hafter, hstore⟩ := hcopying.push h ht
  have hn : n = m.push copied := hafter
  have hv : v.store = w.store.push copied := hstore
  have hshows : n.Shows v.store := by
    rw [hn, hv]
    exact h.push hm copied
  have hown : n.Owns c := by
    have hnew := Memory.owns_push hm copied
    rw [h.fresh] at hnew
    rw [hn]
    exact hnew
  refine ⟨hshows, fun before later hothers => ?_, fun before later honly r hr => ?_,
    fun hseparated edits => hshows.run hformed (heffect.separated hm hseparated)⟩
  · obtain ⟨hformed, hown⟩ := Memory.owns_run before hformed hown
    rw [Memory.run_append]
    refine Memory.read_run hformed hown hown.1 fun edit hedit r hr => ⟨fun heq => ?_, Or.inr rfl⟩
    exact hothers edit hedit (heq ▸ hr)
  · obtain ⟨hformed, hown⟩ := Memory.owns_run before hformed hown
    have hhas := Memory.has_run before (heffect.has (h.has_iff.2 hr))
    rw [Memory.run_append]
    refine Memory.read_run hformed hown hhas fun edit hedit q hq => ?_
    obtain rfl := honly edit hedit q hq
    exact ⟨hne r hr, Or.inl rfl⟩

/-- A template, twice. -/
def twinSample : Workspace where
  store := List.foldl Heap.push .empty
    (List.replicate 2 ⟨.template .help, ["Say \x7b&\x7d."], { separator := some " / " }, true⟩)

/-- The same two with one list of patterns between them. -/
def sharedSample : Memory :=
  ⟨⟨2, fun i => .of (twinSample.store.cell i) ⟨0⟩⟩, ⟨1, fun _ => ["Say \x7b&\x7d."]⟩⟩

theorem copies_stay_apart_shared :
    let n := sharedSample.after (.copy ⟨0⟩)
    twinSample.store.Has ⟨0⟩ ∧ sharedSample.WellFormed ∧ sharedSample.Shows twinSample.store ∧
      ((n.run [.append ⟨1⟩ "Pick \x7b&\x7d."]).read ⟨0⟩).patterns =
        ["Say \x7b&\x7d.", "Pick \x7b&\x7d."] ∧
      (n.run [.append ⟨1⟩ "Pick \x7b&\x7d."]).read ⟨2⟩ = n.read ⟨2⟩ ∧
      (n.run [.append ⟨2⟩ "Name \x7b&\x7d."]).read ⟨0⟩ = n.read ⟨0⟩ := by
  intro n
  have hhas : twinSample.store.Has ⟨0⟩ := by decide
  have hformed : sharedSample.WellFormed := fun _ _ => Nat.zero_lt_one
  have hshows : sharedSample.Shows twinSample.store := by
    refine ⟨rfl, fun r hr => ?_⟩
    obtain ⟨i⟩ := r
    match i, hr with
    | 0, _ => rfl
    | 1, _ => rfl
  obtain ⟨-, -, -, -, -, -, -, hcopies⟩ := copies_stay_apart twinSample ⟨0⟩ hhas
  obtain ⟨-, -, hmemory⟩ := hcopies (.copy ⟨0⟩) (Or.inr rfl)
  obtain ⟨-, hown, hothers, -⟩ := hmemory sharedSample hformed hshows
  refine ⟨hhas, hformed, hshows, rfl, ?_, ?_⟩
  · exact hown [] [.append ⟨1⟩ "Pick \x7b&\x7d."] (by simp [Edit.target?]; decide)
  · exact hothers [] [.append ⟨2⟩ "Name \x7b&\x7d."] (by simp [Edit.target?]; rfl) ⟨0⟩ hhas

end FormDialogue
