import Compositor.Http.Site
import Compositor.Proofs.Assets.Payloads
import Compositor.Proofs.Job.Histories
import Mathlib.Algebra.BigOperators.Group.List.Basic
import Mathlib.Algebra.GroupWithZero.Nat

/-! # Listings

A history says which jobs there are and what is on record for each: its creations, in their
order, are the jobs, and the last accepted call that names a job has left its record.  What the
store lists and counts is `newestFirst`, which is read off the history alone.

The store keeps up with the history call by call; `Effect.ids_eq` and `Effect.get?_eq` say how.
A list follows the order of the identifiers and a count goes over the records.  They agree because
the store is well-formed (`WellFormed.filterMap_ids_perm`).
-/

namespace Compositor

namespace JobStore

variable {s s' : JobStore} {past : List Exchange}

/-! ## What a history says -/

/-- The identifier that is created in an exchange. -/
def Exchange.created? (x : Exchange) : Option String :=
  match x.call with
  | .create id _ _ => some id
  | .update _ _ _ => none

/-- The record that an exchange leaves under an identifier, if it leaves one. -/
def Exchange.left? (id : String) (x : Exchange) : Option Job :=
  match x.answer with
  | .ok job => if x.call.id = id then some job else none
  | .error _ => none

/-- The identifiers that are created, in their order. -/
def created (past : List Exchange) : List String := past.filterMap Exchange.created?

/-- The record that is left under an identifier in the end. -/
def latest? (past : List Exchange) (id : String) : Option Job :=
  (past.filterMap (Exchange.left? id)).getLast?

/-- All jobs, or those of one status, the one that was created last first. -/
def newestFirst (past : List Exchange) (status : Option JobStatus) : List Job :=
  ((created past).reverse.filterMap (latest? past)).filter fun job => status.all (· == job.status)

theorem latest?_cons (x : Exchange) (later : List Exchange) (id : String) :
    latest? (x :: later) id = (latest? later id).or (x.left? id) := by
  rw [latest?, List.filterMap_cons]
  cases x.left? id with
  | none => rw [Option.or_none, latest?]
  | some job =>
    rw [List.getLast?_cons, latest?]
    cases (later.filterMap (Exchange.left? id)).getLast? <;> rfl

/-! ## The store keeps up with its history -/

namespace Effect

variable {c : StoreCall} {answer : Except JobError Job}

theorem ids_eq (effect : s.Effect c answer s') :
    s'.ids = s.ids ++ (Exchange.created? ⟨c, answer⟩).toList := by
  cases effect with
  | created new => rfl
  | changed found taken => exact (List.append_nil s.ids).symm
  | refused e => exact (List.append_nil s.ids).symm

theorem get?_eq (effect : s.Effect c answer s') (id : String) :
    s'.get? id = (Exchange.left? id ⟨c, answer⟩).or (s.get? id) := by
  cases answer with
  | error e =>
    cases effect with
    | refused => rfl
  | ok job =>
    have left : Exchange.left? id ⟨c, .ok job⟩ = if c.id = id then some job else none := rfl
    by_cases same : c.id = id
    · subst same
      rw [left, if_pos rfl, Option.some_or]
      exact effect.named
    · rw [left, if_neg same, Option.none_or]
      exact effect.others (Ne.symm same)

end Effect

namespace History

theorem ids_eq (history : History s past s') : s'.ids = s.ids ++ created past := by
  induction history with
  | nil s => exact (List.append_nil s.ids).symm
  | cons fresh called _ inductionHypothesis =>
    rw [inductionHypothesis, (call_effect fresh called).ids_eq, List.append_assoc, created,
      created, List.filterMap_cons]
    split <;> rename_i none_or_some <;> rw [none_or_some] <;> rfl

theorem get?_eq (history : History s past s') (id : String) :
    s'.get? id = (latest? past id).or (s.get? id) := by
  induction history with
  | nil s => rfl
  | cons fresh called _ inductionHypothesis =>
    rw [inductionHypothesis, (call_effect fresh called).get?_eq, latest?_cons, Option.or_assoc]

end History

/-! ## The order and the records -/

namespace WellFormed

/-- The identifiers of the records are those in the order. -/
theorem keys_perm (wellFormed : s.WellFormed) : s.records.keys.Perm s.ids := by
  refine (List.perm_ext_iff_of_nodup Std.TreeMap.nodup_keys wellFormed.nodup).mpr fun id => ?_
  rw [Std.TreeMap.mem_keys, wellFormed.known, Std.TreeMap.mem_iff_isSome_getElem?, get?]

/-- The records in the order of the identifiers are all records. -/
theorem filterMap_ids_perm (wellFormed : s.WellFormed) : (s.ids.filterMap s.get?).Perm s.jobs := by
  have each : s.records.keys.filterMap s.get? = s.jobs := by
    have found : ∀ e ∈ s.records.toList, (s.get? ∘ Prod.fst) e = some e.2 := by
      rintro ⟨id, job⟩ mem
      exact Std.TreeMap.mem_toList_iff_getElem?_eq_some.mp mem
    rw [← Std.TreeMap.map_fst_toList_eq_keys, List.filterMap_map, List.filterMap_congr found, jobs]
    exact congrFun List.filterMap_eq_map' _
  exact each ▸ (wellFormed.keys_perm.symm.filterMap s.get?)

/-- A count, which goes over the records, is the number of all jobs that a list is a part of. -/
theorem count_eq (wellFormed : s.WellFormed) (f : JobFilter) :
    s.count f = (s.matching f).length := by
  rw [count, matching, ← List.countP_eq_length_filter, List.filterMap_reverse, List.countP_reverse]
  exact wellFormed.filterMap_ids_perm.symm.countP_eq _

/-- No two of the records in a list have the same identifier. -/
theorem nodup_matching (wellFormed : s.WellFormed) (f : JobFilter) :
    ((s.matching f).map Job.id).Nodup := by
  have names : (s.ids.reverse.filterMap s.get?).map Job.id = s.ids.reverse := by
    have found : ∀ id ∈ s.ids.reverse, (s.get? id).map Job.id = some id := by
      intro id mem
      obtain ⟨job, found⟩ :=
        Option.isSome_iff_exists.mp ((wellFormed.known id).mp (List.mem_reverse.mp mem))
      rw [found, Option.map_some, wellFormed.named found]
    rw [List.map_filterMap, List.filterMap_congr found, List.filterMap_some]
  exact (names ▸ List.filter_sublist.map Job.id).nodup (List.nodup_reverse.mpr wellFormed.nodup)

end WellFormed

theorem matching_eq (reached : History empty past s) (f : JobFilter) :
    s.matching f = newestFirst past f.status := by
  have records : latest? past = s.get? := by
    funext id
    rw [reached.get?_eq id]
    exact (Option.or_none).symm
  have admits : f.admits = fun job => f.status.all (· == job.status) := by
    funext job
    rw [JobFilter.admits]
    cases f.status with
    | none => rfl
    | some status => exact Bool.beq_comm
  rw [matching, newestFirst, records, admits, show created past = s.ids from reached.ids_eq.symm]

/-! ## Pages -/

/-- Pages of one size, one after the other, are the beginning of what is paged. -/
theorem flatMap_page {α : Type} (xs : List α) (size count : Nat) :
    (List.range count).flatMap (fun i => (xs.drop (i * size)).take size) = xs.take (count * size) := by
  induction count with
  | zero => rw [Nat.zero_mul, List.take_zero]; rfl
  | succ count inductionHypothesis =>
    rw [List.range_succ, List.flatMap_append, inductionHypothesis, List.flatMap_singleton,
      Nat.succ_mul, List.take_add]

/-- The counts of the five statuses make up the count of all jobs. -/
theorem sum_count (limit offset limit' offset' : Nat) :
    (JobStatus.all.map fun status => s.count ⟨some status, limit, offset⟩).sum =
      s.count ⟨none, limit', offset'⟩ := by
  have single : ∀ actual : JobStatus,
      (JobStatus.all.map fun status => if (actual == status) = true then 1 else 0).sum = 1 := by
    intro actual
    cases actual <;> rfl
  -- Job by job: each one has one of the five statuses.
  simp only [count]
  induction s.jobs with
  | nil => rfl
  | cons job jobs inductionHypothesis =>
    simp only [List.countP_cons, List.sum_map_add, inductionHypothesis, JobFilter.admits, if_true]
    exact congrArg _ (single job.status)

end JobStore

/-! ## Queries -/

/-- ASCII characters are read from their codes. -/
theorem Text.decodeLossy_ascii {bs : List UInt8} (ascii : ∀ b ∈ bs, b.toNat < 128) :
    decodeLossy bs = String.ofList (bs.map charOfByte) := by
  have read : decodeFrom none bs = bs.map fun b => some (charOfByte b) := by
    induction bs with
    | nil => rw [decodeFrom, List.map_nil]
    | cons b bs ih =>
      obtain ⟨here, others⟩ := List.forall_mem_cons.mp ascii
      have single : firstByte b = .complete (charOfByte b) := if_pos (UInt8.lt_iff_toNat_lt.mpr here)
      rw [decodeFrom, decodeFrom.start, single, List.map_cons, ih others]
  rw [decodeLossy, read, List.map_map]
  rfl

namespace Query

/-- The character stands for itself in a query. -/
def isPlain (c : Char) : Bool := decide (c.toNat < 128) && c != '+' && c != '%'

theorem isPlain_iff {c : Char} : isPlain c = true ↔ c.toNat < 128 ∧ c ≠ '+' ∧ c ≠ '%' := by
  rw [isPlain, Bool.and_eq_true, Bool.and_eq_true, decide_eq_true_iff, bne_iff_ne, bne_iff_ne,
    and_assoc]

theorem decodePart_plain {cs : List Char} (allPlain : cs.all isPlain = true) :
    decodePart cs = String.ofList cs := by
  have plain (c : Char) (mem : c ∈ cs) := isPlain_iff.mp (List.all_eq_true.mp allPlain c mem)
  have noBlank : (cs.map fun c => if c == '+' then ' ' else c) = cs := by
    refine (List.map_congr_left fun c mem => if_neg ?_).trans (List.map_id cs)
    exact fun same => (plain c mem).2.1 (beq_iff_eq.mp same)
  obtain ⟨bs, rfl⟩ : ∃ bs : List UInt8, bs.map Text.charOfByte = cs := by
    refine ⟨cs.map fun c => UInt8.ofNat c.toNat, ?_⟩
    rw [List.map_map]
    refine (List.map_congr_left fun c mem => ?_).trans (List.map_id cs)
    have small : c.toNat % 2 ^ 8 = c.toNat := Nat.mod_eq_of_lt (by have := (plain c mem).1; omega)
    simp only [Function.comp, Text.charOfByte, UInt8.toNat_ofNat', small, Char.ofNat_toNat, id]
  have ascii : ∀ b ∈ bs, b.toNat < 128 := fun b mem =>
    Text.toNat_charOfByte b ▸ (plain _ (List.mem_map_of_mem mem)).1
  have unencoded : Percent.decode bs = bs := by
    have other : ∀ b ∈ bs, b ≠ 0x25 := by
      rintro b mem rfl
      exact (plain _ (List.mem_map_of_mem mem)).2.2 (by decide)
    clear noBlank plain allPlain ascii
    induction bs with
    | nil => rfl
    | cons b bs ih =>
      obtain ⟨here, others⟩ := List.forall_mem_cons.mp other
      rw [Percent.decode_cons_of_ne here, ih others]
  rw [decodePart, noBlank, Text.utf8_ascii ascii, unencoded, Text.decodeLossy_ascii ascii]

/-- A query of plain characters has the parameters that are written. -/
theorem parameters_plain {text : String} {written : List (List Char × List Char)}
    (split : (((Text.splitOn '&' text.toList).filter fun cs => !cs.isEmpty).map fun cs =>
      ((cs.span (· != '=')).1, (cs.span (· != '=')).2.drop 1)) = written)
    (plain : (written.all fun p => p.1.all isPlain && p.2.all isPlain) = true) :
    parameters text = written.map fun p => (String.ofList p.1, String.ofList p.2) := by
  subst split
  rw [parameters, List.map_map]
  refine List.map_congr_left fun cs mem => ?_
  have both := List.all_eq_true.mp plain _ (List.mem_map_of_mem mem)
  rw [Bool.and_eq_true] at both
  exact Prod.ext (decodePart_plain both.1) (decodePart_plain both.2)

end Query

/-! ## The page of a query -/

/-- The answer to a query that can be understood. -/
theorem Site.listJobs_eq {ω : Type} (v : Service ω) {query : String} {name : Option String}
    {limit offset : Option Nat} {status : Option JobStatus}
    (named : Query.text? "status" (Query.parameters query) = some name)
    (limited : Query.number?? "limit" (Query.parameters query) = some limit)
    (placed : Query.number?? "offset" (Query.parameters query) = some offset)
    (meant : name.map JobStatus.parse? = status.map some) :
    Site.listJobs v query =
      Site.page v ⟨status, min (max (limit.getD 100) 1) 1000, offset.getD 0⟩ := by
  have filter : Site.filterOf? query =
      some (⟨none, min (max (limit.getD 100) 1) 1000, offset.getD 0⟩, name) := by
    rw [Site.filterOf?, named, limited, placed]
    rfl
  rw [Site.listJobs, filter]
  cases name with
  | none =>
    cases status with
    | none => rfl
    | some status => cases meant
  | some name =>
    cases status with
    | none => cases meant
    | some status =>
      have parsed : JobStatus.parse? name = some status := Option.some.inj meant
      simp only [parsed]

namespace JobStore

variable {s : JobStore} {past : List Exchange}

/-- What a store that calls have led to lists and counts.  Its identifiers are those that were
    created, each of them once, and they are the ones under which there is a record.  A list is
    a part of the jobs of the wanted status, newest first, and a count is the number of all of
    them; so pages of one size make up the whole, in which no job stands twice, and the counts
    of the statuses make up the count of all jobs.  The site shows the same page and count, of
    1000 jobs at most and of one at least. -/
theorem history_listing (reached : History empty past s) :
    (s.ids = created past ∧ (created past).Nodup ∧
      ∀ id, id ∈ created past ↔ id ∈ s.records) ∧
    (∀ f : JobFilter,
      s.list f = ((newestFirst past f.status).drop f.offset).take f.limit ∧
      s.count f = (newestFirst past f.status).length) ∧
    (∀ status, ((newestFirst past status).map Job.id).Nodup ∧
      ∀ size count, (newestFirst past status).length ≤ count * size →
        (List.range count).flatMap (fun i => s.list ⟨status, size, i * size⟩) =
          newestFirst past status) ∧
    (∀ limit offset limit' offset',
      (JobStatus.all.map fun status => s.count ⟨some status, limit, offset⟩).sum =
        s.count ⟨none, limit', offset'⟩) ∧
    (∀ {ω : Type} (v : Service ω), v.store = s → ∀ query name limit offset status,
      Query.text? "status" (Query.parameters query) = some name →
      Query.number?? "limit" (Query.parameters query) = some limit →
      Query.number?? "offset" (Query.parameters query) = some offset →
      name.map JobStatus.parse? = status.map some →
      let shown := min (max (limit.getD 100) 1) 1000
      let page := ((newestFirst past status).drop (offset.getD 0)).take shown
      Site.listJobs v query = .ofDatum 200 (.ofMembers
        [("jobs", .list (page.map Job.report)), ("total", .integer (newestFirst past status).length),
         ("limit", .integer shown), ("offset", .integer (offset.getD 0))])) := by
  have ids : s.ids = created past := reached.ids_eq
  have wellFormed := reached.wellFormed .empty
  have lists : ∀ f : JobFilter,
      s.list f = ((newestFirst past f.status).drop f.offset).take f.limit := by
    intro f
    rw [list, matching_eq reached]
  have counts : ∀ f : JobFilter, s.count f = (newestFirst past f.status).length := by
    intro f
    rw [wellFormed.count_eq, matching_eq reached]
  refine ⟨⟨ids, ids ▸ wellFormed.nodup, fun id => ?_⟩, fun f => ⟨lists f, counts f⟩, ?_, sum_count, ?_⟩
  · rw [← ids, wellFormed.known, Std.TreeMap.mem_iff_isSome_getElem?, get?]
  · intro status
    constructor
    · exact matching_eq reached ⟨status, 0, 0⟩ ▸ wellFormed.nodup_matching ⟨status, 0, 0⟩
    · intro size count enough
      simp only [lists]
      rw [flatMap_page, List.take_of_length_le enough]
  · rintro ω v rfl query name limit offset status named limited placed meant shown page
    rw [Site.listJobs_eq v named limited placed meant, Site.page, lists, counts]

/-- Of three jobs one is taken up.  The two that wait are listed on pages of one job, also for a
    query that asks for pages of none. -/
theorem history_listing_waiting :
    ∃ past s, History empty past s ∧
      past.map Exchange.call =
        [.create "a" "A" ⟨"8:00"⟩, .create "b" "B" ⟨"8:01"⟩, .create "c" "C" ⟨"8:02"⟩,
          .update "b" .start ⟨"8:03"⟩] ∧
      s.ids = ["a", "b", "c"] ∧
      s.list ⟨some .pending, 1, 1⟩ = [.queued "a" "A" ⟨"8:00"⟩] ∧
      (List.range 2).flatMap (fun i => s.list ⟨some .pending, 1, i * 1⟩) =
        [.queued "c" "C" ⟨"8:02"⟩, .queued "a" "A" ⟨"8:00"⟩] ∧
      ∀ v : Service Unit, v.store = s →
        Site.listJobs v "status=Pending&limit=0&offset=1" = .ofDatum 200 (.ofMembers
          [("jobs", .list [(Job.queued "a" "A" ⟨"8:00"⟩).report]), ("total", .integer 2),
           ("limit", .integer 1), ("offset", .integer 1)]) := by
  have reached : History empty _ _ :=
    .cons (c := .create "a" "A" ⟨"8:00"⟩) List.not_mem_nil rfl <|
    .cons (c := .create "b" "B" ⟨"8:01"⟩) (by simp [StoreCall.IsFresh, create, empty]) rfl <|
    .cons (c := .create "c" "C" ⟨"8:02"⟩) (by simp [StoreCall.IsFresh, create, empty]) rfl <|
    .cons (c := .update "b" .start ⟨"8:03"⟩) trivial rfl <| .nil _
  obtain ⟨⟨ids, -, -⟩, lists, pages, -, site⟩ := history_listing reached
  refine ⟨_, _, reached, rfl, ids, (lists _).1, (pages (some .pending)).2 1 2 (by decide), ?_⟩
  intro v stored
  have parameters : Query.parameters "status=Pending&limit=0&offset=1" =
      [("status", "Pending"), ("limit", "0"), ("offset", "1")] :=
    Query.parameters_plain
      (by decide +kernel : _ = [("status".toList, "Pending".toList),
        ("limit".toList, "0".toList), ("offset".toList, "1".toList)])
      (by decide +kernel)
  exact site v stored _ (some "Pending") (some 0) (some 1) (some .pending)
    (by rw [parameters]; rfl) (by rw [parameters]; decide +kernel)
    (by rw [parameters]; decide +kernel) (by decide +kernel)

end JobStore

end Compositor
