import Compositor.Proofs.Datum.Presentation
import Compositor.Scene.Format

/-! # Ways to write the same background

The members of a background are taken in before its kind is known.  Their order does not matter, and
members of unknown names are passed over; but other than elsewhere they have to be readable, since
they are kept until the kind is found.
-/

namespace Compositor

/-! ## Readable values end somewhere -/

namespace Datum

mutual
theorem isWellFormed_of_isReadable {depth : Nat} :
    (d : Datum) → d.isReadable depth = true → d.isWellFormed = true
  | .list items, readable => by
    cases depth with
    | zero => cases readable
    | succ depth => exact allWellFormed_of_allReadable items readable
  | .record members, readable => by
    cases depth with
    | zero => cases readable
    | succ depth => exact membersWellFormed_of_membersReadable members readable
  | .null, _ => rfl
  | .bool _, _ => rfl
  | .integer _, _ => rfl
  | .real _, _ => rfl
  | .text _, _ => rfl
  | .unreadable, _ => rfl
  | .broken, readable => by cases readable

theorem allWellFormed_of_allReadable {depth : Nat} :
    (ds : List Datum) → allReadable depth ds = true → allWellFormed ds = true
  | [], _ => rfl
  | d :: ds, readable => by
    obtain ⟨first, others⟩ := Bool.and_eq_true_iff.mp readable
    rw [allWellFormed, isWellFormed_of_isReadable d first, allWellFormed_of_allReadable ds others]
    rfl

theorem membersWellFormed_of_membersReadable {depth : Nat} :
    (ms : List (Option String × Datum)) → membersReadable depth ms = true →
      membersWellFormed ms = true
  | [], _ => rfl
  | (name, d) :: ms, readable => by
    obtain ⟨first, others⟩ := Bool.and_eq_true_iff.mp readable
    obtain ⟨-, value⟩ := Bool.and_eq_true_iff.mp first
    rw [membersWellFormed, memberWellFormed, isWellFormed_of_isReadable d value,
      membersWellFormed_of_membersReadable ms others]
    rfl
end

end Datum

namespace Background

variable {ms ms' others others' : List (Option String × Datum)} {kind : Kind}
  {before after : Option Kind} {b : Background} {d d' : Datum}

/-! ## What a background says -/

/-- The field that tells the kind of a background. -/
def kindField : Field Kind := .required "type" Kind.read

/-- The member that a background of some kind has beside its kind. -/
def Kind.member : Kind → String
  | color => "color"
  | image => "source"

/-- The members name a kind, once. -/
def Names (ms : List (Option String × Datum)) (kind : Kind) : Prop :=
  kindField.Holds (Datum.valuesOf "type" ms) kind

/-- The member has a name, and unless it tells the kind its value is readable. -/
def Admits (m : Option String × Datum) : Prop :=
  ∃ name, m.1 = some name ∧ (name ≠ "type" → m.2.isReadable depthLimit = true)

/-- The members that do not tell the kind. -/
def rest (ms : List (Option String × Datum)) : List (Option String × Datum) :=
  ms.filter fun m => m.1 ≠ some "type"

theorem admits_kind : Admits (some "type", d) := ⟨"type", rfl, fun other => absurd rfl other⟩

theorem admits_of_ne {name : String} (other : name ≠ "type") :
    Admits (some name, d) ↔ d.isReadable depthLimit = true := by
  constructor
  · rintro ⟨_, ⟨⟩, readable⟩
    exact readable other
  · exact fun readable => ⟨name, rfl, fun _ => readable⟩

theorem takeMembers_eq_ok :
    takeMembers before others ms = .ok (after, others') ↔
      (∀ m ∈ ms, Admits m) ∧ kindField.Takes before (Datum.valuesOf "type" ms) after ∧
        others' = others.reverse ++ rest ms := by
  induction ms generalizing before others with
  | nil =>
    rw [takeMembers, Except.ok.injEq, Prod.mk.injEq]
    constructor
    · rintro ⟨rfl, rfl⟩
      exact ⟨fun m mem => absurd mem List.not_mem_nil, .nothing, (List.append_nil _).symm⟩
    · rintro ⟨-, taken, rfl⟩
      exact ⟨(Field.takes_nil.mp taken).symm, (List.append_nil _).symm⟩
  | cons m ms ih =>
    obtain ⟨_ | name, d⟩ := m
    · refine iff_of_false (fun taken => ?_) fun admitted => ?_
      · cases taken
      · obtain ⟨_, named, -⟩ := admitted.1 _ List.mem_cons_self
        cases named
    · simp only [List.forall_mem_cons, takeMembers]
      by_cases kindly : name = "type"
      · subst kindly
        have left : rest ((some "type", d) :: ms) = rest ms := List.filter_cons_of_neg (by simp)
        rw [if_pos rfl, and_iff_right admits_kind, Datum.valuesOf_cons_self, Field.takes_cons, left]
        cases before with
        | some _ => simp
        | none =>
          rw [and_iff_right rfl]
          constructor
          · intro done
            obtain ⟨kind, reads, done⟩ := exists_of_bind_eq_ok done
            obtain ⟨admitted, taken, rfl⟩ := ih.mp done
            exact ⟨admitted, ⟨kind, reads, taken⟩, rfl⟩
          · rintro ⟨admitted, ⟨kind, reads, taken⟩, rfl⟩
            have reads : Kind.read d = .ok kind := reads
            rw [reads]
            exact ih.mpr ⟨admitted, taken, rfl⟩
      · have other : some name ≠ some "type" := fun same => kindly (Option.some.inj same)
        have left : rest ((some name, d) :: ms) = (some name, d) :: rest ms :=
          List.filter_cons_of_pos (by simpa using kindly)
        rw [if_neg kindly, admits_of_ne kindly, Datum.valuesOf_cons_of_ne other, left]
        by_cases readable : d.isReadable depthLimit = true
        · rw [if_pos readable, and_iff_right readable, ih, List.reverse_cons, List.append_assoc,
            List.singleton_append]
        · rw [if_neg readable]
          refine iff_of_false (fun taken => ?_) fun h => readable h.1.1
          cases taken

theorem takenIn_eq_ok {α : Type} {read : Reader α} {x : α} :
    Reader.takenIn read d = .ok x ↔ read d = .ok x := by
  rw [Reader.takenIn]
  cases read d <;> simp [Except.mapError]

/-- A background is read from its kind and from what its other members say of that kind. -/
theorem read_record_eq_ok :
    read (.record ms) = .ok b ↔
      (∀ m ∈ ms, Admits m) ∧ ∃ kind, Names ms kind ∧ readKind kind (.record (rest ms)) = .ok b := by
  rw [read]
  constructor
  · intro done
    obtain ⟨⟨_ | kind, others⟩, took, done⟩ := exists_of_bind_eq_ok done
    · cases done
    · obtain ⟨admitted, taken, rfl⟩ := takeMembers_eq_ok.mp took
      exact ⟨admitted, kind, Field.holds_iff.mpr ⟨_, taken, rfl⟩, takenIn_eq_ok.mp done⟩
  · rintro ⟨admitted, kind, names, done⟩
    obtain ⟨slot, taken, value⟩ := Field.holds_iff.mp names
    cases slot with
    | none => cases value
    | some kind' =>
      cases value
      rw [takeMembers_eq_ok.mpr ⟨admitted, taken, rfl⟩]
      exact takenIn_eq_ok.mpr done

/-! ## Rearranging -/

/-- The second value says of a background what the first one says: it is the same, or the members
    come in another order and there are others, of names that are unknown for the kind. -/
inductive Rearranged : Datum → Datum → Prop where
  | same {d : Datum} : Rearranged d d
  | members {kind : Kind} {ms extra ms' : List (Option String × Datum)} (names : Names ms kind)
      (unknown : ∀ m ∈ extra, ∃ name, m.1 = some name ∧ name ≠ "type" ∧ name ≠ kind.member ∧
        m.2.isReadable depthLimit = true)
      (shuffled : (ms ++ extra).Perm ms') : Rearranged (.record ms) (.record ms')

/-- A known member is given twice, or some member beside the kind is unreadable. -/
inductive Faulty : Datum → Prop where
  | kindTwice {ms : List (Option String × Datum)}
      (again : 2 ≤ (Datum.valuesOf "type" ms).length) : Faulty (.record ms)
  | memberTwice {kind : Kind} {ms : List (Option String × Datum)} (names : Names ms kind)
      (again : 2 ≤ (Datum.valuesOf kind.member ms).length) : Faulty (.record ms)
  | unreadable {name : String} {d : Datum} {ms : List (Option String × Datum)}
      (other : name ≠ "type") (mem : (some name, d) ∈ ms)
      (unreadable : d.isReadable depthLimit = false) : Faulty (.record ms)

/-- A background of a given kind has one field. -/
theorem exists_field (kind : Kind) :
    ∃ (α : Type) (f : Field α) (make : Values [α] → Except Fault Background),
      f.name = kind.member ∧ readKind kind = fun d => (Fields.cons f .nil).read d >>= make := by
  cases kind
  · exact ⟨_, _, _, rfl, rfl⟩
  · exact ⟨_, _, _, rfl, rfl⟩

theorem Kind.member_ne (kind : Kind) : kind.member ≠ "type" := by
  cases kind <;> decide

theorem valuesOf_rest {name : String} (other : name ≠ "type") :
    Datum.valuesOf name (rest ms) = Datum.valuesOf name ms := by
  induction ms with
  | nil => rfl
  | cons m ms ih =>
    by_cases kindly : m.1 = some "type"
    · have different : m.1 ≠ some name := fun same =>
        other (Option.some.inj (same.symm.trans kindly))
      rw [Datum.valuesOf_cons_of_ne different, ← ih]
      congr 1
      exact List.filter_cons_of_neg (by simpa using kindly)
    · have left : rest (m :: ms) = m :: rest ms := List.filter_cons_of_pos (by simpa using kindly)
      rw [left, Datum.valuesOf, Datum.valuesOf, List.filterMap_cons, List.filterMap_cons,
        ← Datum.valuesOf, ← Datum.valuesOf, ih]

theorem rest_perm (shuffled : (ms ++ ms').Perm others) :
    (rest ms ++ rest ms').Perm (rest others) := by
  have perm := shuffled.filter fun m => m.1 ≠ some "type"
  rwa [List.filter_append] at perm

theorem Rearranged.reads (rearranged : Rearranged d d') (done : read d = .ok b) :
    read d' = .ok b := by
  cases rearranged with
  | same => exact done
  | @members kind ms extra ms' names unknown shuffled =>
    obtain ⟨admitted, kind', names', done⟩ := read_record_eq_ok.mp done
    -- The kind was found by the member that tells it, so it is the kind that the names fit.
    obtain rfl := names.unique names'
    refine read_record_eq_ok.mpr ⟨fun m mem => ?_, kind, ?_, ?_⟩
    · obtain mem | mem := List.mem_append.mp (shuffled.mem_iff.mpr mem)
      · exact admitted m mem
      · obtain ⟨name, named, -, -, readable⟩ := unknown m mem
        exact ⟨name, named, fun _ => readable⟩
    · have nothing : Datum.valuesOf "type" extra = [] := by
        refine Datum.valuesOf_eq_nil.mpr fun m mem named => ?_
        obtain ⟨_, named', other, -⟩ := unknown m mem
        exact other (Option.some.inj (named'.symm.trans named))
      have perm := Datum.valuesOf_perm "type" shuffled
      rw [Datum.valuesOf_append, nothing, List.append_nil] at perm
      have respected : ∀ d d' x, d = d' → kindField.read d = .ok x → kindField.read d' = .ok x :=
        fun _ _ _ same reads => same ▸ reads
      exact names.rearranged respected (List.forall₂_same.mpr fun _ _ => rfl) perm
    · obtain ⟨α, f, make, named, steps⟩ := exists_field kind
      have rearranged : (Fields.cons f .nil).Rearranged (fun _ => Eq) (.record (rest ms))
          (.record (rest ms')) := by
        refine .members (List.forall₂_same.mpr fun m mem => ?_) (fun m mem => ?_)
          (rest_perm shuffled)
        · obtain ⟨name, named, -⟩ := admitted m (List.mem_filter.mp mem).1
          obtain ⟨_, _⟩ := m
          cases named
          exact .mk rfl
        · obtain ⟨name, named', -, notMember, readable⟩ := unknown m (List.mem_filter.mp mem).1
          refine ⟨name, named', ?_, Datum.isWellFormed_of_isReadable _ readable⟩
          rw [Fields.names, named]
          exact fun mem => notMember (List.mem_singleton.mp mem)
      exact Reader.reads_of_fields steps
        (fun xs => rearranged.reads (List.nodup_singleton _)
          ⟨fun _ _ _ same reads => same ▸ reads, trivial⟩ fun _ _ _ _ same => same) done

theorem Faulty.refused (fault : Faulty d) : read d ≠ .ok b := by
  intro done
  cases fault with
  | kindTwice again =>
    obtain ⟨-, kind, names, -⟩ := read_record_eq_ok.mp done
    exact absurd names.length_le (Nat.not_le.mpr again)
  | @memberTwice kind ms names again =>
    obtain ⟨-, kind', names', done⟩ := read_record_eq_ok.mp done
    obtain rfl := names.unique names'
    obtain ⟨α, f, make, named, steps⟩ := exists_field kind
    have fault : (Fields.cons f .nil).Faulty (fun _ _ => False) (.record (rest ms)) := by
      have known : f.name ∈ (Fields.cons f .nil).names := List.mem_cons_self
      refine .twice known ?_
      rwa [named, valuesOf_rest kind.member_ne]
    exact Reader.refused_of_fields steps
      (fun xs => fault.refused (List.nodup_singleton _) ⟨fun _ _ => False.elim, trivial⟩) done
  | unreadable other mem unreadable =>
    obtain ⟨admitted, -⟩ := read_record_eq_ok.mp done
    rw [(admits_of_ne other).mp (admitted _ mem)] at unreadable
    cases unreadable

end Background

end Compositor
