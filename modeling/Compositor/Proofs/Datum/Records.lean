import Compositor.Datum.Record
import Compositor.Proofs.Json.RoundTrip

/-! # Recovering values from their data form

A reader recovers a value from its data form if the text of the form is read as the form, and
the form as the value.  Scalars, lists and records of recoverable values are recoverable; for a
record each field has to be given, or else to have the value that it has when it is left out.
-/

namespace Compositor

/-- The data form is written faithfully and read as the value. -/
structure Reader.Recovers {α : Type} (read : Reader α) (form : Datum) (x : α) : Prop where
  written : Json.Written form
  reads : read form = .ok x

namespace Reader.Recovers

variable {α : Type} {read : Reader α} {form : Datum} {x : α}

/-- The text of the data form is decoded to the value. -/
theorem decode (recovers : read.Recovers form x) : Json.decode read (Json.encode form) = .ok x := by
  rw [Json.decode, recovers.written.document]
  simp only [recovers.reads]
  rfl

/-! ## Scalars -/

theorem text (s : String) : Reader.text.Recovers (.text s) s :=
  ⟨Json.written_text s, rfl⟩

theorem bool (b : Bool) : Reader.bool.Recovers (.bool b) b :=
  ⟨Json.written_bool b, rfl⟩

theorem real {x : Double} (readsBack : x.ReadsBack) : Reader.real.Recovers (.real x) x :=
  ⟨Json.written_real readsBack, rfl⟩

theorem integer32 {i : Int} (low : -2 ^ 31 ≤ i) (high : i < 2 ^ 31) :
    Reader.integer32.Recovers (.integer i) i := by
  refine ⟨Json.written_integer (by omega) (by omega), ?_⟩
  have range : -((Nat.pow 2 31 : Nat) : Int) ≤ i ∧ i ≤ (Nat.pow 2 31 : Nat) - 1 := by
    rw [Nat.pow_eq]
    omega
  rw [Reader.integer32, integerBetween, if_pos range]

theorem natural32 {n : Nat} (high : n < 2 ^ 32) : Reader.natural32.Recovers (.integer n) n := by
  refine ⟨Json.written_integer (by omega) (by omega), ?_⟩
  have range : 0 ≤ (n : Int) ∧ (n : Int) ≤ (Nat.pow 2 32 - 1 : Nat) := by
    rw [Nat.pow_eq]
    omega
  rw [Reader.natural32, naturalUpTo, integerBetween, if_pos range]
  rfl

/-! ## Combined values -/

theorem optional (recovers : read.Recovers form x) (present : form ≠ .null) :
    (Reader.optional read).Recovers form (some x) := by
  refine ⟨recovers.written, ?_⟩
  rw [Reader.optional]
  · rw [recovers.reads]
    rfl
  · exact present

theorem items {write : α → Datum} {xs : List α} (reads : ∀ x ∈ xs, read (write x) = .ok x) :
    Reader.items read (xs.map write) = .ok xs := by
  induction xs with
  | nil => rfl
  | cons x xs inductionHypothesis =>
    obtain ⟨head, tail⟩ := List.forall_mem_cons.mp reads
    rw [List.map_cons, Reader.items, head, inductionHypothesis tail]
    rfl

theorem list {write : α → Datum} {xs : List α} (recovers : ∀ x ∈ xs, read.Recovers (write x) x) :
    (Reader.list read).Recovers (.list (xs.map write)) xs := by
  constructor
  · apply Json.written_list
    intro form mem
    obtain ⟨x, mem', rfl⟩ := List.mem_map.mp mem
    exact (recovers x mem').written
  · exact items fun x mem => (recovers x mem).reads

theorem choice {ofName? : String → Option α} {name : String} (named : ofName? name = some x) :
    (Reader.choice ofName?).Recovers (.text name) x := by
  refine ⟨Json.written_text name, ?_⟩
  rw [Reader.choice, choiceOf, Reader.named, named]

theorem alternative {named : String → Option (Reader α)} {name : String}
    (known : named name = some read) (recovers : read.Recovers form x) :
    (Reader.alternative named).Recovers (.ofMembers [(name, form)]) x := by
  constructor
  · exact Json.written_ofMembers (List.forall_mem_singleton.mpr recovers.written)
  · simp only [Datum.ofMembers, List.map_singleton, Reader.alternative, known, recovers.reads]
    rfl

end Reader.Recovers

/-! ## Records -/

/-- What comes of two steps comes of the second one. -/
theorem exists_of_bind_eq_ok {ε α β : Type} {x : Except ε α} {next : α → Except ε β} {y : β}
    (bound : (x >>= next) = .ok y) : ∃ a, x = .ok a ∧ next a = .ok y := by
  cases x with
  | error e => cases bound
  | ok a => exact ⟨a, rfl, bound⟩

/-- The items of a list and the values of a record. -/
def Datum.parts : Datum → List Datum
  | list items => items
  | record members => members.map (·.2)
  | _ => []

namespace Fields

variable {α : Type} {αs : List Type} {f : Field α} {fs : Fields αs}

def names : {αs : List Type} → Fields αs → List String
  | _, nil => []
  | _, cons f fs => f.name :: fs.names

/-- The members give the fields their values, in the order of the fields.  A field is left out
    only if its value is the one that it has then. -/
inductive Given : {αs : List Type} → Fields αs → List (String × Datum) → Values αs → Prop where
  | nil : Given .nil [] ()
  | given {α : Type} {αs : List Type} {f : Field α} {fs : Fields αs} {form : Datum} {x : α}
      {ms : List (String × Datum)} {xs : Values αs} (value : f.read.Recovers form x)
      (others : Given fs ms xs) : Given (.cons f fs) ((f.name, form) :: ms) (x, xs)
  | leftOut {α : Type} {αs : List Type} {f : Field α} {fs : Fields αs} {x : α}
      {ms : List (String × Datum)} {xs : Values αs} (fallback : f.fallback = some x)
      (others : Given fs ms xs) : Given (.cons f fs) ms (x, xs)

/-- The data forms of members, with their names. -/
def labelled (ms : List (String × Datum)) : List (Option String × Datum) :=
  ms.map fun m => (some m.1, m.2)

theorem noSlots_cons : (cons f fs).noSlots = (none, fs.noSlots) := rfl

/-- Members of other names leave the slot of a field alone. -/
theorem putAll_cons_of_ne {ms : List (String × Datum)} (others : ∀ m ∈ ms, m.1 ≠ f.name)
    (slot : Option α) (slots : Slots αs) :
    (cons f fs).putAll (slot, slots) (labelled ms) =
      (fs.putAll slots (labelled ms)).map fun slots => (slot, slots) := by
  induction ms generalizing slots with
  | nil => rfl
  | cons m ms inductionHypothesis =>
    obtain ⟨other, others⟩ := List.forall_mem_cons.mp others
    rw [labelled, List.map_cons, ← labelled]
    simp only [putAll, put, if_neg other.symm]
    cases fs.put slots m.1 m.2 with
    | none =>
      -- No field has this name, and the member is passed over if it comes to an end.
      simp only [Option.map_none]
      split
      · exact inductionHypothesis others slots
      · rfl
    | some taken =>
      -- One of the other fields takes it in or refuses it; either way the first slot stays.
      cases taken with
      | error fault => rfl
      | ok slots' => exact inductionHypothesis others slots'

namespace Given

variable {fields : Fields αs} {ms : List (String × Datum)} {xs : Values αs}

theorem mem_names (given : Given fields ms xs) : ∀ m ∈ ms, m.1 ∈ fields.names := by
  induction given with
  | nil => exact fun m mem => absurd mem List.not_mem_nil
  | given value others inductionHypothesis =>
    intro m mem
    rcases List.mem_cons.mp mem with rfl | mem
    · exact .head _
    · exact .tail _ (inductionHypothesis m mem)
  | leftOut fallback others inductionHypothesis =>
    exact fun m mem => .tail _ (inductionHypothesis m mem)

/-- With distinct names the members of the other fields leave the first one alone. -/
theorem apart (others : Given fs ms xs) (distinct : (cons f fs).names.Nodup) :
    (∀ m ∈ ms, m.1 ≠ f.name) ∧ fs.names.Nodup := by
  obtain ⟨new, distinct⟩ := List.nodup_cons.mp distinct
  refine ⟨?_, distinct⟩
  intro m mem same
  rw [← same] at new
  exact new (others.mem_names m mem)

theorem written (given : Given fields ms xs) : ∀ m ∈ ms, Json.Written m.2 := by
  induction given with
  | nil => exact fun m mem => absurd mem List.not_mem_nil
  | given value others inductionHypothesis =>
    exact List.forall_mem_cons.mpr ⟨value.written, inductionHypothesis⟩
  | leftOut fallback others inductionHypothesis => exact inductionHypothesis

/-- Taking in the members fills the slots with the values. -/
theorem putAll (given : Given fields ms xs) (distinct : fields.names.Nodup) :
    ∃ slots, fields.putAll fields.noSlots (labelled ms) = .ok slots ∧
      fields.complete slots = .ok xs := by
  induction given with
  | nil => exact ⟨(), rfl, rfl⟩
  | @given α αs f fs form x ms xs value others inductionHypothesis =>
    obtain ⟨elsewhere, distinct⟩ := others.apart distinct
    obtain ⟨slots, taken, completed⟩ := inductionHypothesis distinct
    refine ⟨(some x, slots), ?_, ?_⟩
    · -- The first member goes to the first field, and all others to the other fields.
      have here : (cons f fs).put (none, fs.noSlots) f.name form = some (.ok (some x, fs.noSlots)) := by
        simp only [put, if_pos, value.reads]
        rfl
      rw [labelled, List.map_cons, ← labelled, Fields.putAll, noSlots_cons, here]
      simp only [putAll_cons_of_ne elsewhere, taken]
      rfl
    · rw [complete, completed]
      rfl
  | @leftOut α αs f fs x ms xs fallback others inductionHypothesis =>
    -- The slot stays empty, and completing the record fills in the fallback.
    obtain ⟨elsewhere, distinct⟩ := others.apart distinct
    obtain ⟨slots, taken, completed⟩ := inductionHypothesis distinct
    refine ⟨(none, slots), ?_, ?_⟩
    · rw [noSlots_cons, putAll_cons_of_ne elsewhere, taken]
      rfl
    · rw [complete, Field.missing, fallback, completed]
      rfl

/-- Members that give the fields of a record type their values are read as these values. -/
theorem recovers (given : Given fields ms xs) (distinct : fields.names.Nodup) :
    fields.read.Recovers (.ofMembers ms) xs := by
  refine ⟨Json.written_ofMembers given.written, ?_⟩
  obtain ⟨slots, taken, completed⟩ := given.putAll distinct
  rw [labelled] at taken
  rw [Datum.ofMembers, Fields.read, taken]
  exact completed

end Given

/-! ## What is read -/

/-- Each value has been accepted by the reader of its field, from a form with the property, or is
    what the field is without one. -/
def Obtained (P : Datum → Prop) : {αs : List Type} → Fields αs → Values αs → Prop
  | _, nil, _ => True
  | _, cons f fs, (x, xs) =>
    ((∃ form, P form ∧ f.read form = .ok x) ∨ f.fallback = some x) ∧ Obtained P fs xs

theorem fallback_of_missing {x : α} (missing : f.missing = .ok x) : f.fallback = some x := by
  rw [Field.missing] at missing
  cases fallback : f.fallback with
  | none =>
    rw [fallback] at missing
    cases missing
  | some y =>
    rw [fallback] at missing
    cases missing
    rfl

/-- Each value that has been given was accepted by the reader of its field. -/
def Accepted (P : Datum → Prop) : {αs : List Type} → Fields αs → Slots αs → Prop
  | _, nil, _ => True
  | _, cons f fs, (slot, slots) =>
    (∀ x ∈ slot, ∃ form, P form ∧ f.read form = .ok x) ∧ Accepted P fs slots

variable {P : Datum → Prop}

theorem accepted_noSlots : {αs : List Type} → (fields : Fields αs) →
    Accepted P fields fields.noSlots
  | _, nil => trivial
  | _, cons _ fs => ⟨fun _ mem => absurd mem (Option.not_mem_none _), accepted_noSlots fs⟩

theorem Accepted.put {fields : Fields αs} {slots slots' : Slots αs} {name : String} {form : Datum}
    (accepted : Accepted P fields slots) (property : P form)
    (taken : fields.put slots name form = some (.ok slots')) : Accepted P fields slots' := by
  induction fields with
  | nil => cases taken
  | cons f fs inductionHypothesis =>
    obtain ⟨slot, slots⟩ := slots
    simp only [Fields.put] at taken
    split at taken
    · split at taken
      · -- The field has its value already.
        cases taken
      · cases value : f.read form with
        | error fault =>
          rw [value] at taken
          cases taken
        | ok x =>
          rw [value] at taken
          cases taken
          refine ⟨?_, accepted.2⟩
          rintro _ ⟨⟩
          exact ⟨form, property, value⟩
    · obtain ⟨later, taken', same⟩ := Option.map_eq_some_iff.mp taken
      cases later with
      | error fault => cases same
      | ok later =>
        cases same
        exact ⟨accepted.1, inductionHypothesis accepted.2 taken'⟩

theorem Accepted.putAll {fields : Fields αs} {slots slots' : Slots αs}
    {ms : List (Option String × Datum)} (accepted : Accepted P fields slots)
    (property : ∀ m ∈ ms, P m.2) (taken : fields.putAll slots ms = .ok slots') :
    Accepted P fields slots' := by
  induction ms generalizing slots with
  | nil =>
    cases taken
    exact accepted
  | cons m ms inductionHypothesis =>
    obtain ⟨name, form⟩ := m
    obtain ⟨here, others⟩ := List.forall_mem_cons.mp property
    cases name with
    | none => cases taken
    | some name =>
      rw [Fields.putAll] at taken
      split at taken
      · next put => exact inductionHypothesis (accepted.put here put) others taken
      · cases taken
      · split at taken
        · exact inductionHypothesis accepted others taken
        · cases taken

theorem Accepted.complete {fields : Fields αs} {slots : Slots αs} {xs : Values αs}
    (accepted : Accepted P fields slots) (completed : fields.complete slots = .ok xs) :
    Obtained P fields xs := by
  induction fields with
  | nil => trivial
  | cons f fs inductionHypothesis =>
    obtain ⟨slot, slots⟩ := slots
    simp only [Fields.complete] at completed
    cases slot with
    | some x =>
      obtain ⟨_, ⟨⟩, completed⟩ := exists_of_bind_eq_ok completed
      obtain ⟨xs, others, ⟨⟩⟩ := exists_of_bind_eq_ok completed
      exact ⟨.inl (accepted.1 x rfl), inductionHypothesis accepted.2 others⟩
    | none =>
      obtain ⟨x, value, completed⟩ := exists_of_bind_eq_ok completed
      obtain ⟨xs, others, ⟨⟩⟩ := exists_of_bind_eq_ok completed
      exact ⟨.inr (fallback_of_missing value), inductionHypothesis accepted.2 others⟩

theorem readList_obtained {fields : Fields αs} {forms : List Datum} {xs : Values αs}
    (property : ∀ form ∈ forms, P form) (read : fields.readList forms = .ok xs) :
    Obtained P fields xs := by
  induction fields generalizing forms with
  | nil => trivial
  | cons f fs inductionHypothesis =>
    cases forms with
    | nil =>
      simp only [readList] at read
      obtain ⟨x, value, read⟩ := exists_of_bind_eq_ok read
      obtain ⟨xs, others, ⟨⟩⟩ := exists_of_bind_eq_ok read
      exact ⟨.inr (fallback_of_missing value), inductionHypothesis property others⟩
    | cons form forms =>
      simp only [readList] at read
      obtain ⟨here, property⟩ := List.forall_mem_cons.mp property
      obtain ⟨x, value, read⟩ := exists_of_bind_eq_ok read
      obtain ⟨xs, others, ⟨⟩⟩ := exists_of_bind_eq_ok read
      exact ⟨.inl ⟨form, here, value⟩, inductionHypothesis property others⟩

/-- Whichever form a record has, its values come from the readers of its fields and from their
    fallbacks. -/
theorem read_obtained {fields : Fields αs} {form : Datum} {xs : Values αs}
    (property : ∀ part ∈ form.parts, P part) (read : fields.read form = .ok xs) :
    Obtained P fields xs := by
  cases form with
  | record ms =>
    obtain ⟨slots, taken, completed⟩ := exists_of_bind_eq_ok read
    exact ((accepted_noSlots fields).putAll (List.forall_mem_map.mp property) taken).complete completed
  | list forms => exact readList_obtained property read
  | _ => cases read

end Fields

/-- A reader that makes its value from the fields of a record. -/
theorem Reader.Recovers.record {α : Type} {αs : List Type} {read : Reader α} {fields : Fields αs}
    {make : Values αs → Except Fault α} {ms : List (String × Datum)} {xs : Values αs} {x : α}
    (steps : read = fun d => fields.read d >>= make) (given : fields.Given ms xs)
    (distinct : fields.names.Nodup) (made : make xs = .ok x) : read.Recovers (.ofMembers ms) x := by
  obtain ⟨written, reads⟩ := given.recovers distinct
  refine ⟨written, ?_⟩
  have bound : (fields.read (.ofMembers ms) >>= make) = .ok x := by
    rw [reads]
    exact made
  rwa [steps]

end Compositor
