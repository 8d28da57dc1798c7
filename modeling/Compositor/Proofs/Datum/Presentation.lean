import Compositor.Proofs.Datum.Members
import Mathlib.Data.List.Forall2
import Mathlib.Data.List.Nodup

/-! # Ways to write the same record

A record may be written with its members in any order and with members of unknown names among them,
or as the list of its values (`Fields.Rearranged`); and it may not give a member of a known name
twice (`Fields.Faulty`).  Both are defined up to a relation on the values of the members, which may
be records themselves.  A reader respects the one and refuses the other if the readers of its fields
do (`Fields.Rearranged.reads`, `Fields.Faulty.refused`).
-/

namespace Compositor

/-- A field keeps its value if what it is given is rearranged and shuffled. -/
theorem Field.Holds.rearranged {α : Type} {f : Field α} {inside : Datum → Datum → Prop}
    {ds kept ds' : List Datum} {x : α} (holds : f.Holds ds x)
    (respected : ∀ d d' x, inside d d' → f.read d = .ok x → f.read d' = .ok x)
    (same : List.Forall₂ inside ds kept) (shuffled : kept.Perm ds') : f.Holds ds' x := by
  cases holds with
  | fallback fallback =>
    cases same
    obtain rfl := List.nil_perm.mp shuffled
    exact .fallback fallback
  | value reads =>
    cases same with
    | cons inside nothing =>
      cases nothing
      obtain rfl := List.singleton_perm.mp shuffled
      exact .value (respected _ _ _ inside reads)

namespace Fields

variable {αs : List Type} {fields : Fields αs} {inner : String → Datum → Datum → Prop}
  {xs : Values αs} {ms ms' : List (Option String × Datum)} {d d' : Datum} {ds ds' : List Datum}

/-! ## Rearranging -/

/-- A member keeps its name, and its value may be rearranged. -/
inductive Kept (inner : String → Datum → Datum → Prop) :
    Option String × Datum → Option String × Datum → Prop where
  | mk {name : String} {d d' : Datum} (inside : inner name d d') :
    Kept inner (some name, d) (some name, d')

/-- The values that members give the fields, in the order of the fields.  For a field that is left
    out there is a value that is read as its fallback. -/
inductive InOrder (inner : String → Datum → Datum → Prop) (ms : List (Option String × Datum)) :
    {αs : List Type} → Fields αs → List Datum → Prop where
  | nil : InOrder inner ms .nil []
  | given {α : Type} {αs : List Type} {f : Field α} {fs : Fields αs} {d d' : Datum}
      {ds : List Datum} (only : Datum.valuesOf f.name ms = [d]) (inside : inner f.name d d')
      (others : InOrder inner ms fs ds) : InOrder inner ms (.cons f fs) (d' :: ds)
  | leftOut {α : Type} {αs : List Type} {f : Field α} {fs : Fields αs} {d' : Datum}
      {ds : List Datum} {x : α} (absent : Datum.valuesOf f.name ms = [])
      (fallback : f.fallback = some x) (reads : f.read d' = .ok x)
      (others : InOrder inner ms fs ds) : InOrder inner ms (.cons f fs) (d' :: ds)

/-- The values of the first fields, each rearranged in its place. -/
inductive InPlace (inner : String → Datum → Datum → Prop) :
    {αs : List Type} → Fields αs → List Datum → List Datum → Prop where
  | nil {αs : List Type} {fields : Fields αs} : InPlace inner fields [] []
  | cons {α : Type} {αs : List Type} {f : Field α} {fs : Fields αs} {d d' : Datum}
      {ds ds' : List Datum} (inside : inner f.name d d') (others : InPlace inner fs ds ds') :
    InPlace inner (.cons f fs) (d :: ds) (d' :: ds')

/-- The second value says of the fields what the first one says. -/
inductive Rearranged (fields : Fields αs) (inner : String → Datum → Datum → Prop) :
    Datum → Datum → Prop where
  | same {d : Datum} : Rearranged fields inner d d
  /-- The members come in another order, and there are others, of names that no field has. -/
  | members {ms kept extra ms' : List (Option String × Datum)}
      (same : List.Forall₂ (Kept inner) ms kept)
      (unknown : ∀ m ∈ extra, ∃ name,
        m.1 = some name ∧ name ∉ fields.names ∧ m.2.isWellFormed = true)
      (shuffled : (kept ++ extra).Perm ms') : Rearranged fields inner (.record ms) (.record ms')
  /-- A record is written as a list. -/
  | positions {ms : List (Option String × Datum)} {ds : List Datum}
      (values : InOrder inner ms fields ds) : Rearranged fields inner (.record ms) (.list ds)
  | items {ds ds' : List Datum} (same : InPlace inner fields ds ds') :
    Rearranged fields inner (.list ds) (.list ds')

/-- The reader of each field reads rearranged values alike. -/
def RespectedBy (inner : String → Datum → Datum → Prop) : {αs : List Type} → Fields αs → Prop
  | _, nil => True
  | _, cons f fs =>
    (∀ d d' x, inner f.name d d' → f.read d = .ok x → f.read d' = .ok x) ∧ RespectedBy inner fs

/-- Only the relations on values of fields count. -/
theorem RespectedBy.congr {inner' : String → Datum → Datum → Prop}
    (respected : fields.RespectedBy inner) (same : ∀ name ∈ fields.names, inner' name = inner name) :
    fields.RespectedBy inner' := by
  induction fields with
  | nil => trivial
  | cons f fs ih =>
    obtain ⟨here, there⟩ := List.forall_mem_cons.mp same
    refine ⟨?_, ih respected.2 there⟩
    rw [here]
    exact respected.1

theorem forall₂_valuesOf {kept : List (Option String × Datum)} (name : String)
    (same : List.Forall₂ (Kept inner) ms kept) :
    List.Forall₂ (inner name) (Datum.valuesOf name ms) (Datum.valuesOf name kept) := by
  induction same with
  | nil => exact .nil
  | @cons m m' ms kept first _ ih =>
    obtain @⟨name', d, d', inside⟩ := first
    by_cases here : name' = name
    · subst here
      rw [Datum.valuesOf_cons_self, Datum.valuesOf_cons_self]
      exact .cons inside ih
    · have different : some name' ≠ some name := fun equal => here (Option.some.inj equal)
      rw [Datum.valuesOf_cons_of_ne different, Datum.valuesOf_cons_of_ne different]
      exact ih

theorem Hold.rearranged (hold : fields.Hold ms xs) (respected : fields.RespectedBy inner)
    (same : ∀ name ∈ fields.names, ∃ kept,
      List.Forall₂ (inner name) (Datum.valuesOf name ms) kept ∧
        kept.Perm (Datum.valuesOf name ms')) : fields.Hold ms' xs := by
  induction fields with
  | nil => trivial
  | cons f fs ih =>
    obtain ⟨x, xs⟩ := xs
    obtain ⟨⟨kept, here, shuffled⟩, there⟩ := List.forall_mem_cons.mp same
    exact ⟨hold.1.rearranged respected.1 here shuffled, ih hold.2 respected.2 there⟩

theorem Hold.inOrder (hold : fields.Hold ms xs) (respected : fields.RespectedBy inner)
    (values : InOrder inner ms fields ds) : fields.readList ds = .ok xs := by
  induction values with
  | nil => rfl
  | given only inside others ih =>
    obtain ⟨x, xs⟩ := xs
    obtain ⟨holds, hold⟩ := hold
    rw [only] at holds
    cases holds with
    | value reads =>
      rw [readList, respected.1 _ _ _ inside reads, ih hold respected.2]
      rfl
  | leftOut absent fallback reads others ih =>
    obtain ⟨x, xs⟩ := xs
    obtain ⟨holds, hold⟩ := hold
    rw [absent] at holds
    cases holds with
    | fallback fallback' =>
      cases fallback.symm.trans fallback'
      rw [readList, reads, ih hold respected.2]
      rfl

theorem InPlace.readList (same : InPlace inner fields ds ds') (respected : fields.RespectedBy inner)
    (done : fields.readList ds = .ok xs) : fields.readList ds' = .ok xs := by
  induction same with
  | nil => exact done
  | cons inside others ih =>
    simp only [Fields.readList] at done ⊢
    obtain ⟨x, reads, done⟩ := exists_of_bind_eq_ok done
    obtain ⟨xs, values, ⟨⟩⟩ := exists_of_bind_eq_ok done
    rw [respected.1 _ _ _ inside reads, ih respected.2 values]
    rfl

/-- A member that is passed over has kept its value. -/
theorem admits_kept {kept : List (Option String × Datum)} (same : List.Forall₂ (Kept inner) ms kept)
    (apart : ∀ name, name ∉ fields.names → ∀ d d', inner name d d' → d = d')
    (admitted : ∀ m ∈ ms, fields.Admits m) : ∀ m ∈ kept, fields.Admits m := by
  induction same with
  | nil => exact admitted
  | @cons m m' ms kept first _ ih =>
    obtain ⟨here, there⟩ := List.forall_mem_cons.mp admitted
    refine List.forall_mem_cons.mpr ⟨?_, ih there⟩
    obtain @⟨name, d, d', inside⟩ := first
    obtain ⟨_, ⟨⟩, ends⟩ := here
    refine ⟨name, rfl, fun unknown => ?_⟩
    rw [← apart name unknown d d' inside]
    exact ends unknown

/-- Rearranged values of a record type are read as the same values. -/
theorem Rearranged.reads (rearranged : fields.Rearranged inner d d')
    (distinct : fields.names.Nodup) (respected : fields.RespectedBy inner)
    (apart : ∀ name, name ∉ fields.names → ∀ d d', inner name d d' → d = d')
    (done : fields.read d = .ok xs) : fields.read d' = .ok xs := by
  cases rearranged with
  | same => exact done
  | @members ms kept extra ms' same unknown shuffled =>
    obtain ⟨admitted, hold⟩ := (read_record_eq_ok distinct).mp done
    refine (read_record_eq_ok distinct).mpr ⟨?_, hold.rearranged respected ?_⟩
    · intro m mem
      obtain mem | mem := List.mem_append.mp (shuffled.mem_iff.mpr mem)
      · exact admits_kept same apart admitted m mem
      · obtain ⟨name, named, notMem, ends⟩ := unknown m mem
        exact ⟨name, named, fun _ => ends⟩
    · -- The members that were put in have no field's name.
      intro name known
      have nothing : Datum.valuesOf name extra = [] := by
        refine Datum.valuesOf_eq_nil.mpr fun m mem named => ?_
        obtain ⟨name', named', notMem, -⟩ := unknown m mem
        cases named.symm.trans named'
        exact notMem known
      refine ⟨_, forall₂_valuesOf name same, ?_⟩
      have perm := Datum.valuesOf_perm name shuffled
      rwa [Datum.valuesOf_append, nothing, List.append_nil] at perm
  | positions values =>
    exact ((read_record_eq_ok distinct).mp done).2.inOrder respected values
  | items same => exact same.readList respected done

/-! ## Refusing -/

/-- A known member is given twice, or a value of a field is faulty itself. -/
inductive Faulty (fields : Fields αs) (inner : String → Datum → Prop) : Datum → Prop where
  | twice {name : String} {ms : List (Option String × Datum)} (known : name ∈ fields.names)
      (again : 2 ≤ (Datum.valuesOf name ms).length) : Faulty fields inner (.record ms)
  | member {name : String} {d : Datum} {ms : List (Option String × Datum)}
      (known : name ∈ fields.names) (mem : (some name, d) ∈ ms) (inside : inner name d) :
    Faulty fields inner (.record ms)
  | item {name : String} {d : Datum} {ds : List Datum} (mem : (name, d) ∈ fields.names.zip ds)
      (inside : inner name d) : Faulty fields inner (.list ds)

/-- The reader of each field refuses faulty values. -/
def RefusedBy (inner : String → Datum → Prop) : {αs : List Type} → Fields αs → Prop
  | _, nil => True
  | _, cons f fs => (∀ d x, inner f.name d → f.read d ≠ .ok x) ∧ RefusedBy inner fs

/-- Only the faults of values of fields count. -/
theorem RefusedBy.congr {inner inner' : String → Datum → Prop} (refused : fields.RefusedBy inner)
    (same : ∀ name ∈ fields.names, inner' name = inner name) : fields.RefusedBy inner' := by
  induction fields with
  | nil => trivial
  | cons f fs ih =>
    obtain ⟨here, there⟩ := List.forall_mem_cons.mp same
    refine ⟨?_, ih refused.2 there⟩
    rw [here]
    exact refused.1

variable {faulty : String → Datum → Prop} {name : String}

theorem Hold.length_le (hold : fields.Hold ms xs) (known : name ∈ fields.names) :
    (Datum.valuesOf name ms).length ≤ 1 := by
  induction fields with
  | nil => cases known
  | cons f fs ih =>
    obtain ⟨x, xs⟩ := xs
    obtain ⟨holds, hold⟩ := hold
    obtain rfl | known := List.mem_cons.mp known
    · exact holds.length_le
    · exact ih hold known

theorem Hold.sound (hold : fields.Hold ms xs) (refused : fields.RefusedBy faulty)
    (known : name ∈ fields.names) (mem : d ∈ Datum.valuesOf name ms) : ¬ faulty name d := by
  induction fields with
  | nil => cases known
  | cons f fs ih =>
    obtain ⟨x, xs⟩ := xs
    obtain ⟨holds, hold⟩ := hold
    obtain rfl | known := List.mem_cons.mp known
    · intro inside
      generalize Datum.valuesOf f.name ms = ds at holds mem
      cases holds with
      | fallback => cases mem
      | value reads =>
        obtain rfl := List.mem_singleton.mp mem
        exact refused.1 _ _ inside reads
    · exact ih hold refused.2 known

theorem sound_of_readList (done : fields.readList ds = .ok xs) (refused : fields.RefusedBy faulty)
    (mem : (name, d) ∈ fields.names.zip ds) : ¬ faulty name d := by
  induction fields generalizing ds with
  | nil => cases mem
  | cons f fs ih =>
    cases ds with
    | nil => cases mem
    | cons d' ds =>
      simp only [readList] at done
      obtain ⟨x, reads, done⟩ := exists_of_bind_eq_ok done
      obtain ⟨xs, values, ⟨⟩⟩ := exists_of_bind_eq_ok done
      obtain same | mem := List.mem_cons.mp mem
      · cases same
        exact fun inside => refused.1 _ _ inside reads
      · exact ih values refused.2 mem

/-- What is faulty is not read as a value of the record type. -/
theorem Faulty.refused (fault : fields.Faulty faulty d) (distinct : fields.names.Nodup)
    (refused : fields.RefusedBy faulty) : fields.read d ≠ .ok xs := by
  intro done
  cases fault with
  | twice known again =>
    exact absurd (((read_record_eq_ok distinct).mp done).2.length_le known) (Nat.not_le.mpr again)
  | member known mem inside =>
    exact ((read_record_eq_ok distinct).mp done).2.sound refused known
      (Datum.mem_valuesOf.mpr mem) inside
  | item mem inside => exact sound_of_readList done refused mem inside

end Fields

/-! ## Readers of record types -/

namespace Reader

variable {α : Type} {αs : List Type} {read : Reader α} {fields : Fields αs}
  {make : Values αs → Except Fault α} {d d' : Datum} {x : α}

/-- A reader that makes its value from fields reads alike what gives the fields the same values. -/
theorem reads_of_fields (steps : read = fun d => fields.read d >>= make)
    (same : ∀ xs, fields.read d = .ok xs → fields.read d' = .ok xs) (done : read d = .ok x) :
    read d' = .ok x := by
  subst steps
  obtain ⟨xs, values, made⟩ := exists_of_bind_eq_ok done
  dsimp only
  rw [same xs values]
  exact made

theorem refused_of_fields (steps : read = fun d => fields.read d >>= make)
    (refused : ∀ xs, fields.read d ≠ .ok xs) : read d ≠ .ok x := by
  subst steps
  intro done
  obtain ⟨xs, values, -⟩ := exists_of_bind_eq_ok done
  exact refused xs values

end Reader

end Compositor
