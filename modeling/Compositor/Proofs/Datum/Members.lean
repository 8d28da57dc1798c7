import Compositor.Proofs.Datum.Records

/-! # What a record says

Reading the members of a record fills one slot after the other.  What comes of it depends on little:
for each field, on the values that are given under its name, of which there may be one at most
(`Field.Holds`); and of the other members, on whether they come to an end.  So neither the order of
the members matters nor what else is among them (`Fields.read_record_eq_ok`).
-/

namespace Compositor

/-! ## Members of a name -/

/-- The values of all members of a name, in order. -/
def Datum.valuesOf (name : String) (ms : List (Option String × Datum)) : List Datum :=
  ms.filterMap fun m => if m.1 = some name then some m.2 else none

namespace Datum

variable {name : String} {ms ms' : List (Option String × Datum)}

theorem mem_valuesOf {d : Datum} : d ∈ valuesOf name ms ↔ (some name, d) ∈ ms := by
  constructor
  · intro mem
    obtain ⟨⟨_, _⟩, there, same⟩ := List.mem_filterMap.mp mem
    split at same
    · next named =>
      cases named
      cases same
      exact there
    · cases same
  · exact fun mem => List.mem_filterMap.mpr ⟨_, mem, if_pos rfl⟩

theorem valuesOf_eq_nil : valuesOf name ms = [] ↔ ∀ m ∈ ms, m.1 ≠ some name := by
  rw [valuesOf, List.filterMap_eq_nil_iff]
  refine forall₂_congr fun m _ => ?_
  split
  · next same => simp [same]
  · next different => simp [different]

theorem valuesOf_cons_self (d : Datum) :
    valuesOf name ((some name, d) :: ms) = d :: valuesOf name ms :=
  List.filterMap_cons_some (if_pos rfl)

theorem valuesOf_cons_of_ne {m : Option String × Datum} (different : m.1 ≠ some name) :
    valuesOf name (m :: ms) = valuesOf name ms :=
  List.filterMap_cons_none (if_neg different)

theorem valuesOf_append : valuesOf name (ms ++ ms') = valuesOf name ms ++ valuesOf name ms' :=
  List.filterMap_append

theorem valuesOf_perm (name : String) (perm : ms.Perm ms') :
    (valuesOf name ms).Perm (valuesOf name ms') :=
  perm.filterMap _

end Datum

/-! ## One field -/

namespace Field

variable {α : Type} {f : Field α} {slot slot' : Option α} {d : Datum} {ds : List Datum} {x : α}

/-- How the slot of a field changes when it is given some values: it takes one if it is empty. -/
inductive Takes (f : Field α) : Option α → List Datum → Option α → Prop where
  | nothing {slot : Option α} : Takes f slot [] slot
  | value {d : Datum} {x : α} (reads : f.read d = .ok x) : Takes f none [d] (some x)

/-- The value of a field that is given some values: it is read from a single one, and without any
    it is the fallback. -/
inductive Holds (f : Field α) : List Datum → α → Prop where
  | fallback {x : α} (fallback : f.fallback = some x) : Holds f [] x
  | value {d : Datum} {x : α} (reads : f.read d = .ok x) : Holds f [d] x

theorem takes_nil : f.Takes slot [] slot' ↔ slot' = slot := by
  constructor
  · rintro ⟨⟩
    rfl
  · rintro rfl
    exact .nothing

theorem takes_cons :
    f.Takes slot (d :: ds) slot' ↔
      slot = none ∧ ∃ x, f.read d = .ok x ∧ f.Takes (some x) ds slot' := by
  constructor
  · rintro ⟨⟩
    next reads => exact ⟨rfl, _, reads, .nothing⟩
  · rintro ⟨rfl, x, reads, taken⟩
    cases taken
    exact .value reads

/-- What is left in a slot that was empty at first is the value of the field. -/
theorem holds_iff :
    f.Holds ds x ↔ ∃ slot, f.Takes none ds slot ∧ (slot.elim f.missing .ok) = .ok x := by
  constructor
  · intro holds
    cases holds with
    | fallback fallback =>
      refine ⟨none, .nothing, ?_⟩
      rw [Option.elim_none, missing, fallback]
    | value reads => exact ⟨some x, .value reads, rfl⟩
  · rintro ⟨slot, taken, value⟩
    cases taken with
    | nothing => exact .fallback (Fields.fallback_of_missing value)
    | value reads =>
      cases value
      exact .value reads

theorem Holds.unique {y : α} (holds : f.Holds ds x) (holds' : f.Holds ds y) : x = y := by
  cases holds with
  | fallback fallback =>
    cases holds' with
    | fallback fallback' => exact Option.some.inj (fallback.symm.trans fallback')
  | value reads =>
    cases holds' with
    | value reads' => exact Except.ok.inj (reads.symm.trans reads')

theorem Holds.length_le (holds : f.Holds ds x) : ds.length ≤ 1 := by
  cases holds with
  | fallback => exact Nat.zero_le 1
  | value => exact Nat.le_refl 1

end Field

/-! ## All fields -/

namespace Fields

variable {αs : List Type} {fields : Fields αs} {slots slots' : Slots αs} {xs : Values αs}
  {name : String} {d : Datum} {ms : List (Option String × Datum)}

/-- How the slots change when some members are taken in. -/
def Takes : {αs : List Type} → Fields αs → Slots αs → List (Option String × Datum) → Slots αs → Prop
  | _, nil, _, _, _ => True
  | _, cons f fs, (slot, slots), ms, (slot', slots') =>
    f.Takes slot (Datum.valuesOf f.name ms) slot' ∧ fs.Takes slots ms slots'

/-- The values of the fields if some members are given. -/
def Hold : {αs : List Type} → Fields αs → List (Option String × Datum) → Values αs → Prop
  | _, nil, _, _ => True
  | _, cons f fs, ms, (x, xs) => f.Holds (Datum.valuesOf f.name ms) x ∧ fs.Hold ms xs

/-- The member has a name, and unless a field has it too the member comes to an end. -/
def Admits (fields : Fields αs) (m : Option String × Datum) : Prop :=
  ∃ name, m.1 = some name ∧ (name ∉ fields.names → m.2.isWellFormed = true)

theorem admits_of_mem (known : name ∈ fields.names) : fields.Admits (some name, d) :=
  ⟨name, rfl, fun unknown => absurd known unknown⟩

theorem admits_of_notMem (unknown : name ∉ fields.names) :
    fields.Admits (some name, d) ↔ d.isWellFormed = true := by
  constructor
  · rintro ⟨_, ⟨⟩, ends⟩
    exact ends unknown
  · exact fun ends => ⟨name, rfl, fun _ => ends⟩

theorem put_eq_none : fields.put slots name d = none ↔ name ∉ fields.names := by
  induction fields with
  | nil => exact iff_of_true rfl List.not_mem_nil
  | cons f fs ih =>
    obtain ⟨slot, slots⟩ := slots
    simp only [put, names, List.mem_cons, not_or]
    split
    · next same =>
      refine iff_of_false ?_ fun different => different.1 same.symm
      split <;> exact Option.some_ne_none _
    · next different =>
      rw [Option.map_eq_none_iff, ih]
      exact (and_iff_right fun same => different same.symm).symm

theorem takes_nil : fields.Takes slots [] slots' ↔ slots' = slots := by
  induction fields with
  | nil => exact iff_of_true trivial rfl
  | cons f fs ih =>
    obtain ⟨slot, slots⟩ := slots
    obtain ⟨slot', slots'⟩ := slots'
    rw [Takes, ih]
    exact (and_congr_left' Field.takes_nil).trans Prod.mk_inj.symm

/-- A member that no field has a name for changes nothing. -/
theorem takes_cons_of_notMem (unknown : name ∉ fields.names) :
    fields.Takes slots ((some name, d) :: ms) slots' ↔ fields.Takes slots ms slots' := by
  induction fields with
  | nil => exact Iff.rfl
  | cons f fs ih =>
    obtain ⟨slot, slots⟩ := slots
    obtain ⟨slot', slots'⟩ := slots'
    obtain ⟨different, unknown⟩ := not_or.mp (List.mem_cons.not.mp unknown)
    rw [Takes, Takes, ih unknown,
      Datum.valuesOf_cons_of_ne fun same => different (Option.some.inj same)]

/-- A member of a field is taken in before those behind it. -/
theorem takes_cons_of_mem (distinct : fields.names.Nodup) (known : name ∈ fields.names) :
    fields.Takes slots ((some name, d) :: ms) slots' ↔
      ∃ between, fields.put slots name d = some (.ok between) ∧ fields.Takes between ms slots' := by
  induction fields with
  | nil => cases known
  | cons f fs ih =>
    obtain ⟨slot, slots⟩ := slots
    obtain ⟨slot', slots'⟩ := slots'
    obtain ⟨new, distinct⟩ := List.nodup_cons.mp distinct
    by_cases same : f.name = name
    · -- The member is the first field's own, and nothing changes for the other fields.
      subst same
      rw [Takes, takes_cons_of_notMem new, Datum.valuesOf_cons_self, Field.takes_cons]
      simp only [put, if_pos]
      constructor
      · rintro ⟨⟨rfl, x, reads, taken⟩, takens⟩
        rw [reads]
        exact ⟨(some x, slots), rfl, taken, takens⟩
      · rintro ⟨between, put, taken⟩
        cases slot with
        | some x => cases put
        | none =>
          cases reads : f.read d with
          | error fault =>
            rw [reads] at put
            cases put
          | ok x =>
            rw [reads] at put
            cases put
            exact ⟨⟨rfl, x, rfl, taken.1⟩, taken.2⟩
    · -- The member belongs to one of the other fields.
      have known : name ∈ fs.names := (List.mem_cons.mp known).resolve_left fun h => same h.symm
      rw [Takes, Datum.valuesOf_cons_of_ne fun h => same (Option.some.inj h).symm,
        ih distinct known]
      simp only [put, if_neg same]
      constructor
      · rintro ⟨taken, between, put, takens⟩
        rw [put]
        exact ⟨(slot, between), rfl, taken, takens⟩
      · rintro ⟨between, put, taken⟩
        obtain ⟨_ | between, put', same'⟩ := Option.map_eq_some_iff.mp put
        · cases same'
        · cases same'
          exact ⟨taken.1, between, put', taken.2⟩

/-- Taking in members succeeds if each field is given what it takes, in whichever order. -/
theorem putAll_eq_ok (distinct : fields.names.Nodup) :
    fields.putAll slots ms = .ok slots' ↔
      (∀ m ∈ ms, fields.Admits m) ∧ fields.Takes slots ms slots' := by
  induction ms generalizing slots with
  | nil =>
    rw [putAll, takes_nil, Except.ok.injEq, eq_comm]
    exact (and_iff_right fun m mem => absurd mem List.not_mem_nil).symm
  | cons m ms ih =>
    obtain ⟨_ | name, d⟩ := m
    · refine iff_of_false (fun taken => ?_) fun admitted => ?_
      · cases taken
      · obtain ⟨_, named, -⟩ := admitted.1 _ List.mem_cons_self
        cases named
    · rw [List.forall_mem_cons, putAll]
      by_cases known : name ∈ fields.names
      · rw [takes_cons_of_mem distinct known, and_iff_right (admits_of_mem known)]
        cases put : fields.put slots name d with
        | none => exact absurd known (put_eq_none.mp put)
        | some taken =>
          cases taken with
          | error fault => simp
          | ok between => simpa using ih
      · rw [takes_cons_of_notMem known, put_eq_none.mpr known, admits_of_notMem known]
        dsimp only
        by_cases ends : d.isWellFormed = true
        · rw [if_pos ends, and_iff_right ends, ih]
        · rw [if_neg ends]
          refine iff_of_false (fun taken => ?_) fun h => ends h.1.1
          cases taken

theorem hold_iff : fields.Hold ms xs ↔
    ∃ slots, fields.Takes fields.noSlots ms slots ∧ fields.complete slots = .ok xs := by
  induction fields with
  | nil => exact iff_of_true trivial ⟨(), trivial, rfl⟩
  | cons f fs ih =>
    obtain ⟨x, xs⟩ := xs
    rw [Hold, Field.holds_iff, ih]
    constructor
    · rintro ⟨⟨slot, taken, value⟩, slots, takens, values⟩
      refine ⟨(slot, slots), ⟨taken, takens⟩, ?_⟩
      cases slot with
      | none =>
        have left : f.missing = .ok x := value
        simp only [complete, left, values]
        rfl
      | some y =>
        cases value
        simp only [complete, values]
        rfl
    · rintro ⟨⟨slot, slots⟩, ⟨taken, takens⟩, completed⟩
      cases slot with
      | none =>
        obtain ⟨x', value, completed⟩ := exists_of_bind_eq_ok completed
        obtain ⟨xs', values, ⟨⟩⟩ := exists_of_bind_eq_ok completed
        exact ⟨⟨none, taken, value⟩, slots, takens, values⟩
      | some y =>
        obtain ⟨x', value, completed⟩ := exists_of_bind_eq_ok completed
        obtain ⟨xs', values, ⟨⟩⟩ := exists_of_bind_eq_ok completed
        exact ⟨⟨some y, taken, value⟩, slots, takens, values⟩

/-- A record is read as some values if its members can be told apart and give the fields these
    values. -/
theorem read_record_eq_ok (distinct : fields.names.Nodup) :
    fields.read (.record ms) = .ok xs ↔ (∀ m ∈ ms, fields.Admits m) ∧ fields.Hold ms xs := by
  rw [hold_iff, read]
  constructor
  · intro done
    obtain ⟨slots, taken, completed⟩ := exists_of_bind_eq_ok done
    obtain ⟨admitted, taken⟩ := (putAll_eq_ok distinct).mp taken
    exact ⟨admitted, slots, taken, completed⟩
  · rintro ⟨admitted, slots, taken, completed⟩
    rw [(putAll_eq_ok distinct).mpr ⟨admitted, taken⟩]
    exact completed

end Fields

end Compositor
