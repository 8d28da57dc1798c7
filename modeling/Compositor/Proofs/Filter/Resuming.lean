import Compositor.Proofs.Filter.Labels
import Compositor.Proofs.Filter.Renaming

/-! # Labels for a graph that has labels already

`LabelAllocator.resume` reads the ordinals off the outputs of a graph, whose labels may be any
texts: with gaps and leading zeros, with digits that are too many for a counter, or with something
else than digits behind a stem.  What it goes by is that the label of a kind and an ordinal is read
back as just these two (`Label.parse?_numbered`), so that a label which is handed out later cannot
be one of the outputs as long as its ordinal is greater than all of them.

Counters have thirty-two bits and start again at zero.  `Graph.Resumes` says that none of them does
so while labels of some kinds are taken.
-/

namespace Compositor

/-! ## Reading labels back -/

namespace Label

theorem ordinal?_toDigits {n : Nat} (small : n < ordinalLimit) :
    ordinal? (Nat.toDigits 10 n) = some n := by
  have digits : (Nat.toDigits 10 n).all Char.isDigit = true :=
    List.all_eq_true.mpr fun _ mem => Nat.isDigit_of_mem_toDigits (by decide) (by decide) mem
  have nonempty : (Nat.toDigits 10 n).isEmpty = false :=
    List.isEmpty_eq_false_iff.mpr Nat.toDigits_ne_nil
  rw [ordinal?, if_neg (by simp [nonempty, digits]), Nat.ofDigitChars_ten_toDigits]
  exact if_pos small

theorem ordinal?_eq_none {digits : List Char}
    (great : ordinalLimit ≤ Nat.ofDigitChars 10 digits 0) : ordinal? digits = none := by
  rw [ordinal?]
  split
  · rfl
  · exact if_neg (Nat.not_lt.mpr great)

theorem ordinalOf?_numbered {kind : LabelKind} {n : Nat} (small : n < ordinalLimit) :
    (numbered kind n).ordinalOf? kind = some n := by
  have begins := List.isPrefixOf_iff_prefix.mpr
    (List.prefix_append kind.stem.toList (Nat.toDigits 10 n))
  rw [ordinalOf?, toList_numbered, if_pos begins, List.drop_left, ordinal?_toDigits small]

/-- A numbered label begins with the stem of its own kind only. -/
theorem eq_of_stem_begins {kind kind' : LabelKind} {n : Nat}
    (begins : kind'.stem.toList <+: (numbered kind n).name.toList) : kind = kind' := by
  apply head_stem_inj
  obtain ⟨rest, whole⟩ := begins
  rw [← head_toList_numbered kind n, ← whole]
  cases kind' <;> rfl

theorem ordinalOf?_numbered_of_ne {kind kind' : LabelKind} (different : kind ≠ kind') (n : Nat) :
    (numbered kind n).ordinalOf? kind' = none :=
  if_neg fun begins => different (eq_of_stem_begins (List.isPrefixOf_iff_prefix.mp begins))

/-- The kind and the ordinal of a label can be read off its text. -/
theorem parse?_numbered (kind : LabelKind) {n : Nat} (small : n < ordinalLimit) :
    (numbered kind n).parse? = some (kind, n) := by
  have others : ∀ kind',
      (numbered kind n).ordinalOf? kind' = if kind = kind' then some n else none := by
    intro kind'
    split
    · next same => exact same ▸ ordinalOf?_numbered small
    · next different => exact ordinalOf?_numbered_of_ne different n
  simp only [parse?, others, LabelKind.all, List.findSome?]
  cases kind <;> rfl

/-- A label whose digits are too many for a counter is none that a counter gives. -/
theorem numbered_ne_of_great {kind kind' : LabelKind} {n : Nat} {digits : List Char}
    (small : n < ordinalLimit) (great : ordinalLimit ≤ Nat.ofDigitChars 10 digits 0) :
    numbered kind n ≠ ⟨kind'.stem ++ String.ofList digits⟩ := by
  intro equal
  have name : (numbered kind n).name.toList = kind'.stem.toList ++ digits := by
    rw [equal, String.toList_append, String.toList_ofList]
  obtain rfl : kind = kind' := eq_of_stem_begins ⟨digits, name.symm⟩
  have ordinal : (numbered kind n).ordinalOf? kind = some n := ordinalOf?_numbered small
  rw [ordinalOf?, name, if_pos (List.isPrefixOf_iff_prefix.mpr (List.prefix_append _ _)),
    List.drop_left, ordinal?_eq_none great] at ordinal
  cases ordinal

end Label

/-! ## Where counters stand -/

theorem Graph.ordinals_eq (g : Graph) (kind : LabelKind) :
    g.ordinals kind = g.outputs.filterMap (Label.ordinalOf? kind) := by
  rw [outputs, List.filterMap_map]
  rfl

/-- The ordinal of an output is among those that are read off a graph. -/
theorem Graph.mem_ordinals {g : Graph} {kind : LabelKind} {n : Nat}
    (mem : .numbered kind n ∈ g.outputs) (small : n < Label.ordinalLimit) :
    n ∈ g.ordinals kind := by
  rw [ordinals_eq]
  exact List.mem_filterMap.mpr ⟨_, mem, Label.ordinalOf?_numbered small⟩

namespace LabelAllocator

variable {g : Graph} {kind : LabelKind}

theorem next_resume_of_none (none : g.highestOrdinal? kind = none) : (resume g).next kind = 0 := by
  rw [resume]
  dsimp only
  rw [none]

theorem next_resume_of_some {n : Nat} (highest : g.highestOrdinal? kind = some n)
    (room : n + 1 < Label.ordinalLimit) : (resume g).next kind = n + 1 := by
  rw [resume]
  dsimp only
  rw [highest]
  exact Nat.mod_eq_of_lt room

theorem next_resume_lt (g : Graph) (kind : LabelKind) :
    (resume g).next kind < Label.ordinalLimit := by
  cases highest : g.highestOrdinal? kind with
  | none =>
    rw [next_resume_of_none highest]
    decide
  | some n =>
    rw [resume]
    dsimp only
    rw [highest]
    exact Nat.mod_lt _ (by decide)

/-- A counter comes after the ordinals of its kind, unless it had to start again at zero. -/
theorem lt_next_resume (room : ∀ n, g.highestOrdinal? kind = some n → n + 1 < Label.ordinalLimit)
    {n : Nat} (mem : n ∈ g.ordinals kind) : n < (resume g).next kind := by
  cases highest : g.highestOrdinal? kind with
  | none =>
    rw [List.max?_eq_none_iff.mp highest] at mem
    cases mem
  | some m =>
    have greatest := (List.max?_eq_some_iff.mp highest).2 n mem
    rw [next_resume_of_some highest (room m highest)]
    omega

/-! ## Taking labels one after another -/

/-- The labels that are handed out when labels of some kinds are asked for. -/
def labels (a : LabelAllocator) : List LabelKind → List Label
  | [] => []
  | kind :: kinds => (a.take kind).1 :: (a.take kind).2.labels kinds

/-- No counter starts again at zero while labels of some kinds are handed out. -/
def Counts (a : LabelAllocator) : List LabelKind → Prop
  | [] => True
  | kind :: kinds => a.next kind + 1 < Label.ordinalLimit ∧ (a.take kind).2.Counts kinds

variable {a : LabelAllocator} {kinds : List LabelKind} {label : Label}

/-- The labels of a kind that are still to be taken, and the counter of that kind, add up. -/
theorem next_take_add_count (room : a.next kind + 1 < Label.ordinalLimit) (kinds : List LabelKind)
    (k : LabelKind) :
    (a.take kind).2.next k + kinds.count k = a.next k + (kind :: kinds).count k := by
  rw [next_take room, List.count_cons]
  by_cases same : k = kind
  · subst same
    rw [if_pos rfl, if_pos (beq_self_eq_true k)]
    omega
  · rw [if_neg same, if_neg fun equal => same (beq_iff_eq.mp equal).symm]
    omega

/-- It is enough to look at the counters of the kinds that are taken, at the end. -/
theorem counts_iff :
    a.Counts kinds ↔ ∀ k ∈ kinds, a.next k + kinds.count k < Label.ordinalLimit := by
  induction kinds generalizing a with
  | nil => exact iff_of_true trivial fun _ mem => absurd mem List.not_mem_nil
  | cons kind kinds ih =>
    rw [Counts, ih]
    constructor
    · rintro ⟨room, rest⟩ k mem
      rw [← next_take_add_count room]
      by_cases again : k ∈ kinds
      · exact rest k again
      · obtain rfl : k = kind := (List.mem_cons.mp mem).resolve_right again
        rwa [List.count_eq_zero_of_not_mem again, next_take room, if_pos rfl]
    · intro all
      have first := all kind List.mem_cons_self
      rw [List.count_cons_self] at first
      have room : a.next kind + 1 < Label.ordinalLimit := by omega
      refine ⟨room, fun k mem => ?_⟩
      rw [next_take_add_count room]
      exact all k (List.mem_cons_of_mem _ mem)

/-- What is handed out bears an ordinal that its counter had not passed before. -/
theorem mem_labels (counts : a.Counts kinds) (mem : label ∈ a.labels kinds) :
    ∃ k n, label = .numbered k n ∧ a.next k ≤ n ∧ n < Label.ordinalLimit := by
  induction kinds generalizing a with
  | nil => cases mem
  | cons kind kinds ih =>
    obtain ⟨room, rest⟩ := counts
    obtain rfl | later := List.mem_cons.mp mem
    · exact ⟨kind, a.next kind, rfl, Nat.le_refl _, by omega⟩
    · obtain ⟨k, n, rfl, passed, small⟩ := ih rest later
      refine ⟨k, n, rfl, Nat.le_trans ?_ passed, small⟩
      rw [next_take room]
      split
      · next same =>
        subst same
        exact Nat.le_succ _
      · exact Nat.le_refl _

/-- Also of counters that start again at zero no label bears an ordinal that is too great. -/
theorem mem_labels_lt (small : ∀ k, a.next k < Label.ordinalLimit) (mem : label ∈ a.labels kinds) :
    ∃ k n, label = .numbered k n ∧ n < Label.ordinalLimit := by
  induction kinds generalizing a with
  | nil => cases mem
  | cons kind kinds ih =>
    obtain rfl | later := List.mem_cons.mp mem
    · exact ⟨kind, a.next kind, rfl, small kind⟩
    · refine ih (fun k => ?_) later
      rw [take]
      dsimp only
      split
      · exact Nat.mod_lt _ (by decide)
      · exact small k

theorem labels_nodup (counts : a.Counts kinds) : (a.labels kinds).Nodup := by
  induction kinds generalizing a with
  | nil => exact List.nodup_nil
  | cons kind kinds ih =>
    obtain ⟨room, rest⟩ := counts
    refine List.nodup_cons.mpr ⟨fun again => ?_, ih rest⟩
    obtain ⟨k, n, equal, passed, -⟩ := mem_labels rest again
    obtain ⟨rfl, rfl⟩ := Label.numbered_inj.mp equal
    rw [next_take room, if_pos rfl] at passed
    omega

end LabelAllocator

/-! ## Labels behind those of a graph -/

namespace Graph

variable {g : Graph} {kinds : List LabelKind}

/-- Nothing overflows when an allocator resumes from a graph and hands out labels of some kinds. -/
structure Resumes (g : Graph) (kinds : List LabelKind) : Prop where
  start : ∀ kind n, g.highestOrdinal? kind = some n → n + 1 < Label.ordinalLimit
  steps : (LabelAllocator.resume g).Counts kinds

/-- Nothing overflows if, and only if, there are enough ordinals behind each label of the graph. -/
theorem resumes_iff (short : kinds.length < Label.ordinalLimit) :
    g.Resumes kinds ↔
      ∀ kind, ∀ n ∈ g.ordinals kind, n + 1 + kinds.count kind < Label.ordinalLimit := by
  constructor
  · rintro ⟨start, steps⟩ kind n mem
    obtain ⟨m, highest⟩ := Option.isSome_iff_exists.mp
      (List.isSome_max?_of_mem mem : (g.highestOrdinal? kind).isSome)
    have greatest := (List.max?_eq_some_iff.mp highest).2 n mem
    have room := start kind m highest
    by_cases taken : kind ∈ kinds
    · have last := LabelAllocator.counts_iff.mp steps kind taken
      rw [LabelAllocator.next_resume_of_some highest room] at last
      omega
    · rw [List.count_eq_zero_of_not_mem taken]
      omega
  · intro room
    have start : ∀ kind n, g.highestOrdinal? kind = some n → n + 1 < Label.ordinalLimit := by
      intro kind n highest
      have := room kind n (List.max?_eq_some_iff.mp highest).1
      omega
    refine ⟨start, LabelAllocator.counts_iff.mpr fun kind _ => ?_⟩
    cases highest : g.highestOrdinal? kind with
    | none =>
      have := List.count_le_length (a := kind) (l := kinds)
      rw [LabelAllocator.next_resume_of_none highest]
      omega
    | some n =>
      rw [LabelAllocator.next_resume_of_some highest (start kind n highest)]
      exact room kind n (List.max?_eq_some_iff.mp highest).1

theorem Resumes.notMem (resumes : g.Resumes kinds) {label : Label}
    (mem : label ∈ (LabelAllocator.resume g).labels kinds) : label ∉ g.outputs := by
  obtain ⟨k, n, rfl, passed, small⟩ := LabelAllocator.mem_labels resumes.steps mem
  intro taken
  have := LabelAllocator.lt_next_resume (resumes.start k) (mem_ordinals taken small)
  omega

/-- An allocator that resumes from a graph, whatever its labels are, hands out labels that differ
    from all outputs of the graph and from each other, as long as nothing overflows; and that is as
    long as there are enough ordinals behind those of the graph.  Each label is read back as the
    kind and the ordinal that it was made of, and none is a label with too many digits. -/
theorem labels_resume (g : Graph) (short : kinds.length < Label.ordinalLimit) :
    (g.Resumes kinds ↔
      ∀ kind, ∀ n ∈ g.ordinals kind, n + 1 + kinds.count kind < Label.ordinalLimit) ∧
    (g.Resumes kinds →
      ((LabelAllocator.resume g).labels kinds).Nodup ∧
        ∀ label ∈ (LabelAllocator.resume g).labels kinds, label ∉ g.outputs) ∧
    (∀ kind n, n < Label.ordinalLimit → (Label.numbered kind n).parse? = some (kind, n)) ∧
    (∀ (kind : LabelKind) (digits : List Char),
      Label.ordinalLimit ≤ Nat.ofDigitChars 10 digits 0 →
        ⟨kind.stem ++ String.ofList digits⟩ ∉ (LabelAllocator.resume g).labels kinds) := by
  refine ⟨resumes_iff short, fun resumes => ?_, fun kind _ => Label.parse?_numbered kind, ?_⟩
  · exact ⟨LabelAllocator.labels_nodup resumes.steps, fun _ => resumes.notMem⟩
  · intro kind digits great mem
    obtain ⟨k, n, equal, small⟩ :=
      LabelAllocator.mem_labels_lt (LabelAllocator.next_resume_lt g) mem
    exact Label.numbered_ne_of_great small great equal.symm

/-- A graph with the given outputs, one filter for each. -/
def withOutputs (labels : List Label) : Graph :=
  ⟨labels.map fun label => ⟨.passThrough, [.stream 0 .video], "null", label⟩⟩

/-- Labels with gaps, leading zeros and too many digits. -/
def assorted : Graph :=
  withOutputs [⟨"presub007"⟩, ⟨"presub4"⟩, ⟨"img4294967296"⟩, ⟨"imgx"⟩, ⟨"kb"⟩]

theorem labels_resume_assorted :
    [LabelKind.beforeSubtitles, .scaledImage, .beforeSubtitles].length < Label.ordinalLimit ∧
      assorted.Resumes [.beforeSubtitles, .scaledImage, .beforeSubtitles] ∧
      ((LabelAllocator.resume assorted).labels
        [.beforeSubtitles, .scaledImage, .beforeSubtitles]).Nodup ∧
      (LabelAllocator.resume assorted).labels [.beforeSubtitles, .scaledImage, .beforeSubtitles] =
        [.numbered .beforeSubtitles 8, .numbered .scaledImage 0, .numbered .beforeSubtitles 9] := by
  have short : [LabelKind.beforeSubtitles, .scaledImage, .beforeSubtitles].length <
      Label.ordinalLimit := by decide
  obtain ⟨iff, fresh, -⟩ := labels_resume assorted short
  have resumes := iff.mpr fun kind => by cases kind <;> decide
  exact ⟨short, resumes, (fresh resumes).1, by decide⟩

/-- Behind the last ordinal that there is the counter starts again, and the label is taken. -/
theorem labels_resume_exhausted :
    (LabelAllocator.resume (withOutputs [⟨"presub0"⟩, ⟨"presub4294967295"⟩])).labels
        [.beforeSubtitles] = [⟨"presub0"⟩] ∧
      ⟨"presub0"⟩ ∈ (withOutputs [⟨"presub0"⟩, ⟨"presub4294967295"⟩]).outputs ∧
      ¬ (withOutputs [⟨"presub0"⟩, ⟨"presub4294967295"⟩]).Resumes [.beforeSubtitles] := by
  refine ⟨by decide, by decide, fun resumes => ?_⟩
  exact absurd (resumes.start .beforeSubtitles 4294967295 (by decide)) (by decide)

end Graph

end Compositor
