import Compositor.Json.Reader
import Compositor.Proofs.Datum.Records
import Compositor.Proofs.Double.Arithmetic

/-! # The numbers of a document

The value of a document has finite numbers only: what is written with more digits than a double has
room for becomes a leaf that no reader accepts, or a whole number of sixty-four bits.  Past the
numbers, the machine that reads a document puts together what it has been given.
-/

namespace Compositor

/-- What can be read as a real number, here or in a part, is finite. -/
inductive Datum.IsFinite : Datum → Prop where
  | intro {d : Datum} (number : ∀ x, Reader.real d = .ok x → x.isFinite = true)
    (parts : ∀ part ∈ d.parts, part.IsFinite) : IsFinite d

namespace Datum.IsFinite

variable {d : Datum} {items : List Datum} {members : List (Option String × Datum)}

theorem number {x : Double} (finite : d.IsFinite) (read : Reader.real d = .ok x) :
    x.isFinite = true := by
  cases finite with
  | intro number => exact number x read

theorem parts (finite : d.IsFinite) : ∀ part ∈ d.parts, part.IsFinite := by
  cases finite with
  | intro _ parts => exact parts

theorem list (finite : ∀ d ∈ items, d.IsFinite) : (Datum.list items).IsFinite :=
  .intro (fun _ read => nomatch read) finite

theorem record (finite : ∀ m ∈ members, m.2.IsFinite) : (Datum.record members).IsFinite :=
  .intro (fun _ read => nomatch read) (List.forall_mem_map.mpr finite)

theorem broken : Datum.broken.IsFinite := .intro (fun _ read => nomatch read) (fun _ mem => nomatch mem)

theorem unreadable : Datum.unreadable.IsFinite :=
  .intro (fun _ read => nomatch read) (fun _ mem => nomatch mem)

theorem text (s : String) : (Datum.text s).IsFinite :=
  .intro (fun _ read => nomatch read) (fun _ mem => nomatch mem)

theorem real {x : Double} (finite : x.isFinite = true) : (Datum.real x).IsFinite :=
  .intro (fun _ read => by cases read; exact finite) (fun _ mem => nomatch mem)

theorem integer {i : Int} (small : i.natAbs ≤ Nat.pow 2 64) : (Datum.integer i).IsFinite :=
  .intro (fun _ read => by cases read; exact Double.isFinite_ofInt small) (fun _ mem => nomatch mem)

end Datum.IsFinite

namespace Json

variable {r : Rounding} {negative : Bool} {cs rest : List Char} {d : Datum} {t : Token}

/-! ## Tokens -/

theorem isFinite_realDatum (r : Rounding) (negative : Bool) (whole fraction : List Char)
    (exponent : Int) : (realDatum r negative whole fraction exponent).IsFinite := by
  rw [realDatum]
  split
  · next finite => exact .real finite
  · exact .unreadable

theorem isFinite_wholeDatum (r : Rounding) (negative : Bool) (whole : List Char) :
    (wholeDatum r negative whole).IsFinite := by
  have bits : Nat.pow 2 63 ≤ Nat.pow 2 64 := by decide
  rw [wholeDatum]
  split
  · split
    · exact isFinite_realDatum ..
    · next range =>
      refine .integer ?_
      rw [Int.natAbs_neg, Int.natAbs_natCast]
      omega
  · split
    · next range => exact .integer (Nat.le_of_lt range)
    · exact isFinite_realDatum ..

theorem isFinite_scanUnsigned (scanned : scanUnsigned r negative cs = some (d, rest)) :
    d.IsFinite := by
  rw [scanUnsigned] at scanned
  split at scanned
  · cases scanned
  · cases scanned
  split at scanned
  · cases scanned
  split at scanned
  · cases scanned
  cases scanned
  unfold numberDatum
  split
  · exact isFinite_realDatum ..
  · split
    · exact isFinite_wholeDatum ..
    · exact isFinite_realDatum ..

theorem isFinite_scanNumber (scanned : scanNumber r cs = some (d, rest)) : d.IsFinite := by
  unfold scanNumber at scanned
  split at scanned <;> exact isFinite_scanUnsigned scanned

theorem isFinite_scanWord (scanned : scanWord cs = some (d, rest)) : d.IsFinite := by
  unfold scanWord at scanned
  split at scanned <;> cases scanned <;>
    exact .intro (fun _ read => nomatch read) (fun _ mem => nomatch mem)

theorem isFinite_scanToken (scanned : scanToken r cs = some (.scalar d, rest)) : d.IsFinite := by
  cases cs with
  | nil => cases scanned
  | cons c cs =>
    rw [scanToken] at scanned
    split at scanned
    · next punctuation =>
      cases scanned
      unfold punctuation? at punctuation
      split at punctuation <;> cases punctuation
    split at scanned
    · obtain ⟨_, -, same⟩ := Option.map_eq_some_iff.mp scanned
      cases same
    split at scanned
    · obtain ⟨_, number, ⟨⟩⟩ := Option.map_eq_some_iff.mp scanned
      exact isFinite_scanNumber number
    · obtain ⟨_, word, ⟨⟩⟩ := Option.map_eq_some_iff.mp scanned
      exact isFinite_scanWord word

theorem isFinite_tokens (mem : .scalar d ∈ tokens r cs) : d.IsFinite := by
  fun_induction tokens r cs with
  | case1 => cases mem
  | case2 c rest blank inductionHypothesis => exact inductionHypothesis mem
  | case3 => cases List.mem_singleton.mp mem
  | case4 c rest blank t rest' scanned inductionHypothesis =>
    rcases List.mem_cons.mp mem with rfl | mem
    · exact isFinite_scanToken scanned
    · exact inductionHypothesis mem

/-! ## The machine -/

/-- The values in the state are finite. -/
def Frame.IsFinite : Frame → Prop
  | list before => ∀ d ∈ before, d.IsFinite
  | record before _ => ∀ m ∈ before, m.2.IsFinite

def Phase.IsFinite : Phase → Prop
  | value | firstItem | firstName => True
  | inList items => ∀ d ∈ items, d.IsFinite
  | name members | colon members _ | inRecord members => ∀ m ∈ members, m.2.IsFinite
  | done d => d.IsFinite

structure State.IsFinite (s : State) : Prop where
  phase : s.phase.IsFinite
  frames : ∀ frame ∈ s.frames, frame.IsFinite

def Token.IsFinite : Token → Prop
  | scalar d => d.IsFinite
  | _ => True

variable {s s' : State} {frames : List Frame}

theorem isFinite_place (finite : d.IsFinite) (around : ∀ frame ∈ frames, frame.IsFinite) :
    (place d frames).IsFinite := by
  cases frames with
  | nil => exact ⟨finite, around⟩
  | cons frame frames =>
    obtain ⟨here, others⟩ := List.forall_mem_cons.mp around
    cases frame with
    | list before => exact ⟨List.forall_mem_cons.mpr ⟨finite, here⟩, others⟩
    | record before name => exact ⟨List.forall_mem_cons.mpr ⟨finite, here⟩, others⟩

theorem isFinite_startValue (token : t.IsFinite) (around : ∀ frame ∈ frames, frame.IsFinite)
    (started : step.startValue frames t = some s) : s.IsFinite := by
  have empty : ∀ d ∈ ([] : List Datum), d.IsFinite := fun _ mem => nomatch mem
  unfold step.startValue at started
  split at started <;> cases started
  · exact isFinite_place token around
  · exact isFinite_place (.text _) around
  · exact isFinite_place .unreadable around
  · exact ⟨trivial, List.forall_mem_cons.mpr ⟨empty, around⟩⟩
  · exact ⟨trivial, around⟩

theorem isFinite_step (state : s.IsFinite) (token : t.IsFinite) (stepped : step s t = some s') :
    s'.IsFinite := by
  obtain ⟨phase, around⟩ := state
  have noMembers : ∀ m ∈ ([] : List (Option String × Datum)), m.2.IsFinite :=
    fun _ mem => nomatch mem
  unfold step at stepped
  split at stepped
  -- A value starts.
  · exact isFinite_startValue token around stepped
  · cases stepped
    exact isFinite_place (.list fun _ mem => nomatch mem) (List.forall_mem_cons.mp around).2
  · exact isFinite_startValue token around stepped
  -- A list goes on or ends.
  · cases stepped
    exact ⟨trivial, List.forall_mem_cons.mpr ⟨phase, around⟩⟩
  · cases stepped
    exact isFinite_place (.list fun d mem => phase d (List.mem_reverse.mp mem)) around
  -- A record goes on or ends.
  · cases stepped
    exact isFinite_place (.record noMembers) around
  · cases stepped
    exact ⟨noMembers, around⟩
  · cases stepped
    exact ⟨phase, around⟩
  · cases stepped
    exact ⟨trivial, List.forall_mem_cons.mpr ⟨phase, around⟩⟩
  · cases stepped
    exact ⟨phase, around⟩
  · cases stepped
    exact isFinite_place (.record fun m mem => phase m (List.mem_reverse.mp mem)) around
  · cases stepped

theorem isFinite_listWith {before : List Datum} (finite : ∀ d ∈ before, d.IsFinite)
    (last : d.IsFinite) : (Datum.list (before.reverse ++ [d])).IsFinite := by
  refine .list fun e mem => ?_
  rcases List.mem_append.mp mem with mem | mem
  · exact finite e (List.mem_reverse.mp mem)
  · rwa [List.mem_singleton.mp mem]

theorem isFinite_recordWith {before : List (Option String × Datum)}
    (finite : ∀ m ∈ before, m.2.IsFinite) (name : Option String) (last : d.IsFinite) :
    (Datum.record (before.reverse ++ [(name, d)])).IsFinite := by
  refine .record fun m mem => ?_
  rcases List.mem_append.mp mem with mem | mem
  · exact finite m (List.mem_reverse.mp mem)
  · rwa [List.mem_singleton.mp mem]

theorem isFinite_closeAll (finite : d.IsFinite) (around : ∀ frame ∈ frames, frame.IsFinite) :
    (closeAll d frames).IsFinite := by
  induction frames generalizing d with
  | nil => exact finite
  | cons frame frames inductionHypothesis =>
    obtain ⟨here, others⟩ := List.forall_mem_cons.mp around
    cases frame with
    | list before => exact inductionHypothesis (isFinite_listWith here finite) others
    | record before name => exact inductionHypothesis (isFinite_recordWith here name finite) others

theorem isFinite_breakOff (state : s.IsFinite) : (breakOff s).IsFinite := by
  obtain ⟨phase, around⟩ := state
  have noMembers : ∀ m ∈ ([] : List (Option String × Datum)), m.2.IsFinite :=
    fun _ mem => nomatch mem
  unfold breakOff
  split
  · exact isFinite_closeAll .broken around
  · exact isFinite_closeAll .broken around
  · exact isFinite_closeAll (isFinite_listWith phase .broken) around
  · exact isFinite_closeAll (isFinite_recordWith noMembers none .broken) around
  · exact isFinite_closeAll (isFinite_recordWith phase none .broken) around
  · exact isFinite_closeAll (isFinite_recordWith phase _ .broken) around
  · exact isFinite_closeAll (isFinite_recordWith phase none .broken) around
  · exact phase

theorem isFinite_run {ts : List Token} (state : s.IsFinite) (tokens : ∀ t ∈ ts, t.IsFinite) :
    (run s ts).value.IsFinite := by
  induction ts generalizing s with
  | nil => exact isFinite_breakOff state
  | cons t ts inductionHypothesis =>
    obtain ⟨token, tokens⟩ := List.forall_mem_cons.mp tokens
    rw [run]
    split
    · next stepped => exact inductionHypothesis (isFinite_step state token stepped) tokens
    · have broken := isFinite_breakOff state
      split
      · next whole =>
        have finite := state.phase
        rw [whole] at finite
        exact finite
      · exact broken

theorem isFinite_document (r : Rounding) (text : String) : (document r text).value.IsFinite := by
  refine isFinite_run ⟨trivial, fun _ mem => nomatch mem⟩ fun t mem => ?_
  cases t with
  | scalar d => exact isFinite_tokens mem
  | _ => trivial

end Json

end Compositor
