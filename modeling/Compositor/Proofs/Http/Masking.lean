import Compositor.Http.PathLabel
import Mathlib.Data.List.Chain
import Mathlib.Data.List.Infix
import Mathlib.Data.List.TakeWhile

/-! # What is left of a path in its label

A unique identifier has no slash in it, so that the segments of a path are masked one by one
(`splitOn_maskUnique`), and none of them has an identifier left.

Numbers are different: a masked segment takes the slash after it along, and the segment behind
that slash is passed over (`maskSegments`).  So of numbers next to each other every other one is
left, and a label has no number in it exactly if the path has no two numbers next to each other.
-/

namespace Compositor.PathLabel

/-! ## The parts of a path -/

/-- The parts between slashes. -/
def segments (path : String) : List (List Char) := path.toList.splitOn '/'

/-- Digits and nothing else. -/
def IsNumber (s : List Char) : Prop := s ≠ [] ∧ ∀ c ∈ s, c.isDigit = true

instance (s : List Char) : Decidable (IsNumber s) :=
  decidable_of_iff (s ≠ [] ∧ s.all Char.isDigit = true) (and_congr Iff.rfl List.all_eq_true)

/-- The form of a unique identifier: groups of eight, four, four, four and twelve hexadecimal
    digits with hyphens between them. -/
def IsIdentifier (u : List Char) : Prop :=
  ∃ groups : List (List Char), groups.map List.length = [8, 4, 4, 4, 12] ∧
    (∀ g ∈ groups, ∀ c ∈ g, Text.isHexDigit c = true) ∧ u = ['-'].intercalate groups

/-- Somewhere in a text is a unique identifier. -/
def HasIdentifier (cs : List Char) : Prop := ∃ u, IsIdentifier u ∧ u <:+: cs

/-- No two segments next to each other are numbers. -/
def NumbersApart (parts : List (List Char)) : Prop :=
  parts.IsChain fun s t => ¬ (IsNumber s ∧ IsNumber t)

instance (parts : List (List Char)) : Decidable (NumbersApart parts) :=
  inferInstanceAs (Decidable (List.IsChain _ _))

variable {c : Char} {cs ds s t u rest : List Char}

/-- A text is one segment, or a segment and what follows its slash. -/
@[elab_as_elim]
theorem segmentInduction {motive : List Char → Prop} (cs : List Char)
    (single : ∀ s, '/' ∉ s → motive s)
    (more : ∀ s rest, '/' ∉ s → motive rest → motive (s ++ '/' :: rest)) : motive cs := by
  by_cases slash : '/' ∈ cs
  · obtain ⟨s, rest, rfl, noSlash⟩ := List.eq_append_cons_of_mem slash
    exact more s rest noSlash (segmentInduction rest single more)
  · exact single cs slash
termination_by cs.length
decreasing_by
  subst_vars
  rw [List.length_append, List.length_cons]
  omega

theorem splitOn_append_slash (noSlash : '/' ∉ s) (rest : List Char) :
    (s ++ '/' :: rest).splitOn '/' = s :: rest.splitOn '/' := by
  rw [List.splitOn_append_cons_self, List.splitOn_eq_singleton noSlash]
  rfl

theorem splitOn_injective (same : cs.splitOn '/' = ds.splitOn '/') : cs = ds :=
  calc cs = ['/'].intercalate (cs.splitOn '/') := (List.intercalate_splitOn '/').symm
    _ = ['/'].intercalate (ds.splitOn '/') := by rw [same]
    _ = ds := List.intercalate_splitOn '/'

/-- A text that lacks a character does not reach over it. -/
theorem prefix_of_prefix_append_cons (other : c ∉ u) (start : u <+: cs ++ c :: ds) : u <+: cs := by
  induction cs generalizing u with
  | nil =>
    rcases List.prefix_cons_iff.mp start with rfl | ⟨v, rfl, -⟩
    · exact List.nil_prefix
    · exact absurd List.mem_cons_self other
  | cons a cs ih =>
    rcases List.prefix_cons_iff.mp start with rfl | ⟨v, rfl, below⟩
    · exact List.nil_prefix
    · have other' : c ∉ v := fun mem => other (List.mem_cons_of_mem _ mem)
      exact List.prefix_cons_iff.mpr (.inr ⟨v, rfl, ih other' below⟩)

theorem infix_of_infix_append_cons (other : c ∉ u) (inside : u <:+: cs ++ c :: ds) :
    u <:+: cs ∨ u <:+: ds := by
  induction cs with
  | nil =>
    rcases List.infix_cons_iff.mp inside with start | inside
    · exact .inl (@prefix_of_prefix_append_cons c [] ds u other start).isInfix
    · exact .inr inside
  | cons a cs ih =>
    rcases List.infix_cons_iff.mp inside with start | inside
    · exact .inl (@prefix_of_prefix_append_cons c (a :: cs) ds u other start).isInfix
    · exact (ih inside).imp_left fun inside => List.infix_cons inside

/-- What has no slash in it lies in one segment. -/
theorem exists_segment_of_infix (noSlash : '/' ∉ u) (inside : u <:+: cs) :
    ∃ s ∈ cs.splitOn '/', u <:+: s := by
  induction cs using segmentInduction with
  | single s whole => exact ⟨s, by simp [List.splitOn_eq_singleton whole], inside⟩
  | more s rest whole ih =>
    rw [splitOn_append_slash whole]
    rcases infix_of_infix_append_cons noSlash inside with first | later
    · exact ⟨s, List.mem_cons_self, first⟩
    · obtain ⟨t, mem, within⟩ := ih later
      exact ⟨t, List.mem_cons_of_mem _ mem, within⟩

/-! ## Unique identifiers -/

theorem fits_hyphen {form : List Bool} :
    fits (false :: form) cs = true ↔ ∃ rest, fits form rest = true ∧ cs = '-' :: rest := by
  cases cs with
  | nil => simp [fits]
  | cons c cs =>
    simp only [fits, Bool.false_eq_true, if_false, Bool.and_eq_true, beq_iff_eq, List.cons.injEq]
    constructor
    · rintro ⟨rfl, fit⟩
      exact ⟨cs, fit, rfl, rfl⟩
    · rintro ⟨rest, fit, rfl, rfl⟩
      exact ⟨rfl, fit⟩

theorem fits_digits {n : Nat} {form : List Bool} :
    fits (List.replicate n true ++ form) cs = true ↔
      ∃ g rest, g.length = n ∧ (∀ c ∈ g, Text.isHexDigit c = true) ∧ fits form rest = true ∧
        cs = g ++ rest := by
  induction n generalizing cs with
  | zero => simp
  | succ n ih =>
    cases cs with
    | nil => simp [List.replicate_succ, fits]
    | cons c cs =>
      rw [List.replicate_succ, List.cons_append, fits, Bool.and_eq_true, if_pos rfl, ih]
      constructor
      · rintro ⟨digit, g, rest, length, digits, fit, rfl⟩
        exact ⟨c :: g, rest, by simp [length], by simpa [digit] using digits, fit, rfl⟩
      · rintro ⟨g, rest, length, digits, fit, split⟩
        cases g with
        | nil => cases length
        | cons d g =>
          obtain ⟨rfl, rfl⟩ := List.cons.inj split
          obtain ⟨digit, digits⟩ := List.forall_mem_cons.mp digits
          exact ⟨digit, g, rest, Nat.succ.inj length, digits, fit, rfl⟩

theorem fits_groups {lengths : List Nat} :
    fits (lengths.flatMap fun n => false :: List.replicate n true) cs = true ↔
      ∃ (groups : List (List Char)) (rest : List Char), groups.map List.length = lengths ∧
        (∀ g ∈ groups, ∀ c ∈ g, Text.isHexDigit c = true) ∧
        cs = groups.flatMap ('-' :: ·) ++ rest := by
  induction lengths generalizing cs with
  | nil => simp [fits]
  | cons n lengths ih =>
    rw [List.flatMap_cons, List.cons_append, fits_hyphen]
    simp only [fits_digits, ih]
    constructor
    · rintro ⟨_, ⟨g, _, length, digits, ⟨groups, rest, lengths, allDigits, rfl⟩, rfl⟩, rfl⟩
      exact ⟨g :: groups, rest, by simp [length, lengths], by simpa using ⟨digits, allDigits⟩,
        by simp⟩
    · rintro ⟨groups, rest, lengths, allDigits, rfl⟩
      cases groups with
      | nil => cases lengths
      | cons g groups =>
        obtain ⟨length, lengths⟩ := List.cons.inj lengths
        obtain ⟨digits, allDigits⟩ := List.forall_mem_cons.mp allDigits
        exact ⟨_, ⟨g, _, length, digits, ⟨groups, rest, lengths, allDigits, rfl⟩, rfl⟩, by simp⟩

theorem intercalate_cons (g : List Char) (groups : List (List Char)) :
    ['-'].intercalate (g :: groups) = g ++ groups.flatMap ('-' :: ·) := by
  induction groups generalizing g with
  | nil => simp
  | cons h groups ih => rw [List.intercalate_cons_cons, ih, List.flatMap_cons]; simp

/-- The masked form is that of an identifier. -/
theorem fits_uniqueForm : fits uniqueForm cs = true ↔ ∃ u, IsIdentifier u ∧ u <+: cs := by
  have form : uniqueForm =
      List.replicate 8 true ++ [4, 4, 4, 12].flatMap fun n => false :: List.replicate n true := rfl
  rw [form, fits_digits]
  simp only [fits_groups]
  constructor
  · rintro ⟨g, _, length, digits, ⟨groups, rest, lengths, allDigits, rfl⟩, rfl⟩
    refine ⟨g ++ groups.flatMap ('-' :: ·), ⟨g :: groups, ?_, ?_, ?_⟩, rest, by simp⟩
    · rw [List.map_cons, length, lengths]
    · exact List.forall_mem_cons.mpr ⟨digits, allDigits⟩
    · exact (intercalate_cons g groups).symm
  · rintro ⟨_, ⟨groups, lengths, allDigits, rfl⟩, rest, rfl⟩
    cases groups with
    | nil => cases lengths
    | cons g groups =>
      obtain ⟨length, lengths⟩ := List.cons.inj lengths
      obtain ⟨digits, allDigits⟩ := List.forall_mem_cons.mp allDigits
      exact ⟨g, _, length, digits, ⟨groups, rest, lengths, allDigits, rfl⟩,
        by rw [intercalate_cons, List.append_assoc]⟩

namespace IsIdentifier

theorem mem (identifier : IsIdentifier u) (mem : c ∈ u) : c = '-' ∨ Text.isHexDigit c = true := by
  obtain ⟨groups, -, digits, rfl⟩ := identifier
  cases groups with
  | nil => cases mem
  | cons g groups =>
    rw [intercalate_cons, List.mem_append, List.mem_flatMap] at mem
    rcases mem with first | ⟨h, later, within⟩
    · exact .inr (digits g List.mem_cons_self c first)
    · rcases List.mem_cons.mp within with rfl | within
      · exact .inl rfl
      · exact .inr (digits h (List.mem_cons_of_mem _ later) c within)

theorem hyphen_mem (identifier : IsIdentifier u) : '-' ∈ u := by
  obtain ⟨groups, lengths, -, rfl⟩ := identifier
  match groups with
  | [] | [_] => simp at lengths
  | g :: h :: groups =>
    rw [intercalate_cons]
    simp

theorem notMem (identifier : IsIdentifier u) (hyphen : c ≠ '-')
    (digit : Text.isHexDigit c = false) : c ∉ u := fun mem => by
  rcases identifier.mem mem with isHyphen | isDigit
  · exact hyphen isHyphen
  · rw [digit] at isDigit
    cases isDigit

end IsIdentifier

theorem not_hasIdentifier (noHyphen : '-' ∉ cs) : ¬ HasIdentifier cs := by
  rintro ⟨u, identifier, inside⟩
  exact noHyphen (inside.subset identifier.hyphen_mem)

theorem HasIdentifier.cons (has : HasIdentifier cs) (c : Char) : HasIdentifier (c :: cs) := by
  obtain ⟨u, identifier, inside⟩ := has
  exact ⟨u, identifier, List.infix_cons inside⟩

/-! ## Masking identifiers -/

theorem maskUnique_of_not_hasIdentifier (free : ¬ HasIdentifier cs) : maskUnique cs = cs := by
  fun_induction maskUnique cs with
  | case1 => rfl
  | case2 c rest fit =>
    obtain ⟨u, identifier, start⟩ := fits_uniqueForm.mp fit
    exact absurd ⟨u, identifier, start.isInfix⟩ free
  | case3 c rest _ ih => rw [ih fun has => free (has.cons c)]

/-- What stands before the first placeholder stood there before. -/
theorem prefix_of_prefix_maskUnique (noBrace : '{' ∉ u) (start : u <+: maskUnique cs) :
    u <+: cs := by
  fun_induction maskUnique cs generalizing u with
  | case1 => exact start
  | case2 c rest fit =>
    rcases List.prefix_cons_iff.mp start with rfl | ⟨v, rfl, -⟩
    · exact List.nil_prefix
    · exact absurd List.mem_cons_self noBrace
  | case3 c rest _ ih =>
    rcases List.prefix_cons_iff.mp start with rfl | ⟨v, rfl, below⟩
    · exact List.nil_prefix
    · have noBrace' : '{' ∉ v := fun mem => noBrace (List.mem_cons_of_mem _ mem)
      exact List.prefix_cons_iff.mpr (.inr ⟨v, rfl, ih noBrace' below⟩)

/-- No identifier is left, and none arises: it would have a brace in it. -/
theorem not_hasIdentifier_maskUnique (cs : List Char) : ¬ HasIdentifier (maskUnique cs) := by
  rintro ⟨u, identifier, inside⟩
  fun_induction maskUnique cs with
  | case1 => exact not_hasIdentifier (by simp) ⟨u, identifier, inside⟩
  | case2 c rest fit ih =>
    have split : placeholder ++ maskUnique (rest.drop (uniqueForm.length - 1)) =
        ['{', 'i', 'd'] ++ '}' :: maskUnique (rest.drop (uniqueForm.length - 1)) := rfl
    rw [split] at inside
    have noBrace : '}' ∉ u := identifier.notMem (by decide) (by decide)
    rcases infix_of_infix_append_cons noBrace inside with early | later
    · exact not_hasIdentifier (by decide) ⟨u, identifier, early⟩
    · exact ih later
  | case3 c rest noFit ih =>
    rcases List.infix_cons_iff.mp inside with start | later
    · -- The text from here on begins with the identifier, and would have been masked.
      have whole : c :: maskUnique rest = maskUnique (c :: rest) := by
        rw [maskUnique, if_neg noFit]
      rw [whole] at start
      have noBrace : '{' ∉ u := identifier.notMem (by decide) (by decide)
      exact noFit (fits_uniqueForm.mpr ⟨u, identifier, prefix_of_prefix_maskUnique noBrace start⟩)
    · exact ih later

theorem length_le_of_fits {form : List Bool} (fit : fits form cs = true) :
    form.length ≤ cs.length := by
  induction form generalizing cs with
  | nil => exact Nat.zero_le _
  | cons isDigit form ih =>
    cases cs with
    | nil => simp [fits] at fit
    | cons c cs =>
      rw [fits, Bool.and_eq_true] at fit
      exact Nat.succ_le_succ (ih fit.2)

theorem fits_append_slash (form : List Bool) (s rest : List Char) :
    fits form (s ++ '/' :: rest) = fits form s := by
  induction form generalizing s with
  | nil => rw [fits, fits]
  | cons isDigit form ih =>
    cases s with
    | nil => cases isDigit <;> rfl
    | cons c s => rw [List.cons_append, fits, fits, ih]

/-- An identifier does not reach over a slash. -/
theorem maskUnique_append_slash (s rest : List Char) :
    maskUnique (s ++ '/' :: rest) = maskUnique s ++ '/' :: maskUnique rest := by
  fun_induction maskUnique s with
  | case1 =>
    rw [List.nil_append, maskUnique, if_neg]
    · rfl
    · exact Bool.eq_false_iff.mp (fits_append_slash uniqueForm [] rest)
  | case2 c s fit ih =>
    have long : uniqueForm.length - 1 ≤ s.length := Nat.pred_le_pred (length_le_of_fits fit)
    rw [List.cons_append, maskUnique, ← List.cons_append, fits_append_slash, if_pos fit,
      List.drop_append_of_le_length long, ih, List.append_assoc]
  | case3 c s noFit ih =>
    rw [List.cons_append, maskUnique, ← List.cons_append, fits_append_slash, if_neg noFit, ih]
    rfl

theorem slash_notMem_maskUnique (noSlash : '/' ∉ s) : '/' ∉ maskUnique s := by
  fun_induction maskUnique s with
  | case1 => exact noSlash
  | case2 c rest fit ih =>
    have later := ih fun mem => noSlash (List.mem_cons_of_mem _ (List.mem_of_mem_drop mem))
    simpa [placeholder] using later
  | case3 c rest _ ih =>
    rw [List.mem_cons, not_or] at noSlash ⊢
    exact ⟨noSlash.1, ih noSlash.2⟩

/-- Segments are masked one by one. -/
theorem splitOn_maskUnique (cs : List Char) :
    (maskUnique cs).splitOn '/' = (cs.splitOn '/').map maskUnique := by
  induction cs using segmentInduction with
  | single s noSlash =>
    rw [List.splitOn_eq_singleton noSlash,
      List.splitOn_eq_singleton (slash_notMem_maskUnique noSlash), List.map_singleton]
  | more s rest noSlash ih =>
    rw [maskUnique_append_slash, splitOn_append_slash (slash_notMem_maskUnique noSlash),
      splitOn_append_slash noSlash, ih, List.map_cons]

/-! ## Masking numbers -/

theorem IsNumber.notMem (number : IsNumber s) (other : c.isDigit = false) : c ∉ s := fun mem => by
  rw [number.2 c mem] at other
  cases other

theorem not_isNumber_placeholder : ¬ IsNumber placeholder := by decide

theorem maskUnique_of_isNumber (number : IsNumber s) : maskUnique s = s :=
  maskUnique_of_not_hasIdentifier (not_hasIdentifier (number.notMem (by decide)))

/-- A segment with an identifier in it is no number, before it is masked and after. -/
theorem isNumber_maskUnique : IsNumber (maskUnique s) ↔ IsNumber s := by
  constructor
  · intro number
    have noBrace : '{' ∉ maskUnique s := number.notMem (by decide)
    suffices same : maskUnique s = s by rwa [same] at number
    clear number
    fun_induction maskUnique s with
    | case1 => rfl
    | case2 c rest fit => exact absurd List.mem_cons_self noBrace
    | case3 c rest _ ih => rw [ih fun mem => noBrace (List.mem_cons_of_mem _ mem)]
  · intro number
    rwa [maskUnique_of_isNumber number]

/-- The segments of a label: a number is masked if the slash before it is `free`, and takes the
    slash behind it. -/
def maskSegments : Bool → List (List Char) → List (List Char)
  | _, [] => []
  | free, s :: rest =>
    if free ∧ IsNumber s then placeholder :: maskSegments false rest
    else s :: maskSegments true rest

theorem maskNumbers_append (noSlash : '/' ∉ s) (rest : List Char) :
    maskNumbers (s ++ rest) = s ++ maskNumbers rest := by
  induction s with
  | nil => rfl
  | cons c s ih =>
    rw [List.mem_cons, not_or] at noSlash
    have other : ¬ (c == '/' && (s ++ rest).head?.any Char.isDigit) = true := by
      simp [Ne.symm noSlash.1]
    rw [List.cons_append, maskNumbers, if_neg other, ih noSlash.2, List.cons_append]

theorem maskNumbers_of_dropWhile_eq_nil (first : rest.head?.any Char.isDigit = true)
    (dropped : rest.dropWhile Char.isDigit = []) :
    maskNumbers ('/' :: rest) = '/' :: placeholder := by
  rw [maskNumbers, if_pos (by rw [first]; rfl)]
  split
  · rfl
  · next kept => simp [dropped] at kept

theorem maskNumbers_of_dropWhile_eq_cons {tail : List Char}
    (first : rest.head?.any Char.isDigit = true)
    (dropped : rest.dropWhile Char.isDigit = c :: tail) :
    maskNumbers ('/' :: rest) =
      if c = '/' then '/' :: (placeholder ++ '/' :: maskNumbers tail)
      else '/' :: maskNumbers rest := by
  rw [maskNumbers, if_pos (by rw [first]; rfl)]
  split
  · next kept => simp [dropped] at kept
  · next d tail' kept =>
    rw [dropped] at kept
    obtain ⟨rfl, rfl⟩ := List.cons.inj kept
    simp

theorem maskNumbers_of_head (first : rest.head?.any Char.isDigit = false) :
    maskNumbers ('/' :: rest) = '/' :: maskNumbers rest := by
  rw [maskNumbers, if_neg]
  simp [first]

theorem maskNumbers_number (number : IsNumber s) :
    maskNumbers ('/' :: s) = '/' :: placeholder ∧
      ∀ rest, maskNumbers ('/' :: (s ++ '/' :: rest)) =
        '/' :: (placeholder ++ '/' :: maskNumbers rest) := by
  obtain ⟨filled, digits⟩ := number
  obtain ⟨c, s, rfl⟩ := List.exists_cons_of_ne_nil filled
  have first : c.isDigit = true := digits c List.mem_cons_self
  constructor
  · have dropped : (c :: s).dropWhile Char.isDigit = [] := List.dropWhile_eq_nil_iff.mpr digits
    exact maskNumbers_of_dropWhile_eq_nil first dropped
  · intro rest
    have dropped : (c :: s ++ '/' :: rest).dropWhile Char.isDigit = '/' :: rest := by
      rw [List.dropWhile_append_of_pos digits]
      rfl
    have start : (c :: s ++ '/' :: rest).head?.any Char.isDigit = true := first
    rw [maskNumbers_of_dropWhile_eq_cons start dropped, if_pos rfl]

theorem maskNumbers_other (noSlash : '/' ∉ s) (other : ¬ IsNumber s)
    (after : rest.head?.any Char.isDigit = false) :
    maskNumbers ('/' :: (s ++ rest)) = '/' :: (s ++ maskNumbers rest) := by
  rw [← maskNumbers_append noSlash]
  cases s with
  | nil => exact maskNumbers_of_head after
  | cons c s =>
    by_cases first : c.isDigit = true
    · -- Behind its digits the segment goes on with something else, which is no slash.
      have kept : (c :: s).dropWhile Char.isDigit ≠ [] := fun all =>
        other ⟨List.cons_ne_nil c s, List.dropWhile_eq_nil_iff.mp all⟩
      obtain ⟨d, tail, dropped⟩ := List.exists_cons_of_ne_nil kept
      have whole : (c :: s ++ rest).dropWhile Char.isDigit = d :: (tail ++ rest) := by
        rw [List.dropWhile_append, dropped]
        rfl
      have within : d ∈ c :: s :=
        (List.dropWhile_suffix Char.isDigit).subset (dropped ▸ List.mem_cons_self)
      have start : (c :: s ++ rest).head?.any Char.isDigit = true := first
      rw [maskNumbers_of_dropWhile_eq_cons start whole, if_neg]
      rintro rfl
      exact noSlash within
    · exact maskNumbers_of_head (Bool.eq_false_iff.mpr first)

/-- The segments of a text without a slash before it, and of one with a slash. -/
theorem splitOn_maskNumbers (cs : List Char) :
    (maskNumbers cs).splitOn '/' = maskSegments false (cs.splitOn '/') ∧
      ∃ out, maskNumbers ('/' :: cs) = '/' :: out ∧
        out.splitOn '/' = maskSegments true (cs.splitOn '/') := by
  -- Both at once: behind a number the rest is read without its slash, else with it.
  induction cs using segmentInduction with
  | single s noSlash =>
    have plain : maskNumbers s = s := by
      have whole := maskNumbers_append noSlash []
      rwa [List.append_nil, maskNumbers, List.append_nil] at whole
    rw [plain, List.splitOn_eq_singleton noSlash]
    refine ⟨rfl, ?_⟩
    by_cases number : IsNumber s
    · refine ⟨placeholder, (maskNumbers_number number).1, ?_⟩
      rw [maskSegments, if_pos ⟨rfl, number⟩]
      rfl
    · have whole := @maskNumbers_other s [] noSlash number rfl
      rw [maskNumbers, List.append_nil] at whole
      refine ⟨s, whole, ?_⟩
      rw [List.splitOn_eq_singleton noSlash, maskSegments, if_neg fun masked => number masked.2]
      rfl
  | more s rest noSlash ih =>
    obtain ⟨taken, out, slash, free⟩ := ih
    rw [splitOn_append_slash noSlash, maskNumbers_append noSlash, slash,
      splitOn_append_slash noSlash]
    refine ⟨by rw [free]; rfl, ?_⟩
    by_cases number : IsNumber s
    · refine ⟨placeholder ++ '/' :: maskNumbers rest, (maskNumbers_number number).2 rest, ?_⟩
      rw [splitOn_append_slash (by decide), taken, maskSegments, if_pos ⟨rfl, number⟩]
    · refine ⟨s ++ '/' :: out, ?_, ?_⟩
      · rw [maskNumbers_other noSlash number rfl, slash]
      · rw [splitOn_append_slash noSlash, free, maskSegments, if_neg fun masked => number masked.2]

section

variable {free : Bool} {parts : List (List Char)}

theorem length_maskSegments : (maskSegments free parts).length = parts.length := by
  fun_induction maskSegments free parts <;> simp_all

theorem getElem?_maskSegments {i : Nat} (part : parts[i]? = some s) (other : ¬ IsNumber s) :
    (maskSegments free parts)[i]? = some s := by
  induction parts generalizing free i with
  | nil => cases part
  | cons t parts ih =>
    cases i with
    | zero =>
      cases part
      rw [maskSegments, if_neg fun masked => other masked.2]
      rfl
    | succ i =>
      rw [maskSegments]
      split
      · exact ih part
      · exact ih part

theorem mem_of_mem_maskSegments (mem : s ∈ maskSegments free parts) :
    s = placeholder ∨ s ∈ parts := by
  fun_induction maskSegments free parts with
  | case1 => cases mem
  | case2 free t parts masked ih | case3 free t parts masked ih =>
    rcases List.mem_cons.mp mem with rfl | mem
    · simp
    · exact (ih mem).imp_right (List.mem_cons_of_mem _)

theorem not_isNumber_head_maskSegments : ∀ s ∈ (maskSegments true parts).head?, ¬ IsNumber s := by
  cases parts with
  | nil => simp [maskSegments]
  | cons t parts =>
    rw [maskSegments]
    split
    · simp [not_isNumber_placeholder]
    · next other => simpa using other

/-- The numbers that are left stand apart. -/
theorem numbersApart_maskSegments : NumbersApart (maskSegments free parts) := by
  fun_induction maskSegments free parts with
  | case1 => exact .nil
  | case2 free t parts masked ih =>
    exact ih.cons fun _ _ numbers => not_isNumber_placeholder numbers.1
  | case3 free t parts kept ih =>
    exact ih.cons fun next mem numbers => not_isNumber_head_maskSegments next mem numbers.2

/-- No number is left exactly if no two segments next to each other were numbers, and the first
    one was none, unless the slash before it was free. -/
theorem forall_mem_maskSegments :
    (∀ s ∈ maskSegments free parts, ¬ IsNumber s) ↔
      (free = false → ∀ s ∈ parts.head?, ¬ IsNumber s) ∧ NumbersApart parts := by
  induction parts generalizing free with
  | nil => simp [maskSegments, NumbersApart]
  | cons t parts ih =>
    rw [NumbersApart, List.isChain_cons, ← NumbersApart, maskSegments]
    split
    · next masked =>
      rw [List.forall_mem_cons, ih]
      simp [masked, not_isNumber_placeholder]
    · next kept =>
      rw [List.forall_mem_cons, ih]
      cases free <;> simp_all

/-- Numbers behind a free slash are what a pass changes. -/
theorem maskSegments_true_eq_self :
    maskSegments true parts = parts ↔ ∀ s ∈ parts, ¬ IsNumber s := by
  induction parts with
  | nil => simp [maskSegments]
  | cons t parts ih =>
    rw [List.forall_mem_cons, maskSegments]
    split
    · next masked =>
      have other : placeholder ≠ t := by
        rintro rfl
        exact not_isNumber_placeholder masked.2
      simp [masked.2, other]
    · next kept => simp_all

theorem maskSegments_false_eq_self (first : ∀ s ∈ parts.head?, ¬ IsNumber s) :
    maskSegments false parts = parts ↔ ∀ s ∈ parts, ¬ IsNumber s := by
  cases parts with
  | nil => simp [maskSegments]
  | cons t parts =>
    have kept : ¬ IsNumber t := first t rfl
    rw [maskSegments, if_neg (by simp), List.cons_inj_right, maskSegments_true_eq_self,
      List.forall_mem_cons, and_iff_right kept]

theorem numbersApart_map_maskUnique :
    NumbersApart (parts.map maskUnique) ↔ NumbersApart parts := by
  simp only [NumbersApart, List.isChain_map, isNumber_maskUnique]

end

/-! ## Labels -/

theorem segments_injective {p q : String} (same : segments p = segments q) : p = q :=
  String.toList_injective (splitOn_injective same)

/-- The segments of a label, by the segments of the path. -/
theorem segments_ofPath (path : String) :
    segments (ofPath path) = maskSegments false ((segments path).map maskUnique) := by
  rw [segments, ofPath, String.toList_ofList, (splitOn_maskNumbers _).1, splitOn_maskUnique]
  rfl

theorem not_hasIdentifier_of_mem_segments {path : String} (mem : s ∈ segments (ofPath path)) :
    ¬ HasIdentifier s := by
  rw [segments_ofPath] at mem
  rcases mem_of_mem_maskSegments mem with rfl | mem
  · exact not_hasIdentifier (by decide)
  · obtain ⟨t, -, rfl⟩ := List.mem_map.mp mem
    exact not_hasIdentifier_maskUnique t

/-- The second pass finds no identifiers. -/
theorem segments_ofPath_ofPath (path : String) :
    segments (ofPath (ofPath path)) = maskSegments false (segments (ofPath path)) := by
  have same : (segments (ofPath path)).map maskUnique = (segments (ofPath path)).map id :=
    List.map_congr_left fun s mem =>
      maskUnique_of_not_hasIdentifier (not_hasIdentifier_of_mem_segments mem)
  rw [segments_ofPath, same, List.map_id]

/-- What does not begin with a digit does not begin with a number. -/
theorem not_isNumber_head_segments {path : String}
    (start : ∀ c ∈ path.toList.head?, c.isDigit = false) :
    ∀ s ∈ (segments path).head?, ¬ IsNumber s := by
  rintro s first number
  obtain ⟨c, rest, rfl⟩ := List.exists_cons_of_ne_nil number.1
  have digit : c.isDigit = true := number.2 c List.mem_cons_self
  have begins : c ∈ path.toList.head? := by
    rw [segments] at first
    generalize path.toList = cs at first
    induction cs using segmentInduction with
    | single s noSlash =>
      rw [List.splitOn_eq_singleton noSlash] at first
      cases first
      rfl
    | more s after noSlash _ =>
      rw [splitOn_append_slash noSlash] at first
      cases first
      rfl
  rw [start c begins] at digit
  cases digit

/-- The first segment is masked only if there is an identifier in it. -/
theorem not_isNumber_head_segments_ofPath {path : String}
    (start : ∀ c ∈ path.toList.head?, c.isDigit = false) :
    ∀ s ∈ (segments (ofPath path)).head?, ¬ IsNumber s := by
  have first := not_isNumber_head_segments start
  rw [segments_ofPath]
  cases parts : segments path with
  | nil => simp [maskSegments]
  | cons t rest =>
    rw [parts] at first
    have other : ¬ IsNumber t := first t rfl
    rw [List.map_cons, maskSegments, if_neg (by simp)]
    rintro _ ⟨⟩
    rwa [isNumber_maskUnique]

/-- A label without numbers is its own label. -/
theorem ofPath_ofPath_eq_iff {path : String}
    (start : ∀ c ∈ path.toList.head?, c.isDigit = false) :
    ofPath (ofPath path) = ofPath path ↔ ∀ s ∈ segments (ofPath path), ¬ IsNumber s := by
  rw [← maskSegments_false_eq_self (not_isNumber_head_segments_ofPath start),
    ← segments_ofPath_ofPath]
  exact ⟨fun same => by rw [same], segments_injective⟩

theorem forall_mem_segments_ofPath {path : String}
    (start : ∀ c ∈ path.toList.head?, c.isDigit = false) :
    (∀ s ∈ segments (ofPath path), ¬ IsNumber s) ↔ NumbersApart (segments path) := by
  rw [segments_ofPath, forall_mem_maskSegments, numbersApart_map_maskUnique]
  refine and_iff_right fun _ s first => ?_
  rw [List.head?_map, Option.mem_def, Option.map_eq_some_iff] at first
  obtain ⟨t, first, rfl⟩ := first
  rw [isNumber_maskUnique]
  exact not_isNumber_head_segments start t first

/-- What masking makes of a path.  A label has no unique identifier in it.  It has the segments of
    the path, in their places, but for numbers and for segments with an identifier in them.  If the
    path does not begin with a digit, then its label has no number in it, and is its own label,
    exactly if no two segments of the path next to each other are numbers; the label of the label
    is its own label in any case. -/
theorem ofPath_masks (path : String) (start : ∀ c ∈ path.toList.head?, c.isDigit = false) :
    ¬ HasIdentifier (ofPath path).toList ∧
    (segments (ofPath path)).length = (segments path).length ∧
    (∀ (i : Nat) (s : List Char), (segments path)[i]? = some s → ¬ IsNumber s →
      ¬ HasIdentifier s → (segments (ofPath path))[i]? = some s) ∧
    ((∀ s ∈ segments (ofPath path), ¬ IsNumber s) ↔ NumbersApart (segments path)) ∧
    (ofPath (ofPath path) = ofPath path ↔ NumbersApart (segments path)) ∧
    ofPath (ofPath (ofPath path)) = ofPath (ofPath path) := by
  refine ⟨?_, ?_, ?_, forall_mem_segments_ofPath start, ?_, ?_⟩
  · rintro ⟨u, identifier, inside⟩
    have noSlash : '/' ∉ u := identifier.notMem (by decide) (by decide)
    obtain ⟨s, mem, within⟩ := exists_segment_of_infix noSlash inside
    exact not_hasIdentifier_of_mem_segments mem ⟨u, identifier, within⟩
  · rw [segments_ofPath, length_maskSegments, List.length_map]
  · intro i s part other free
    rw [segments_ofPath]
    refine getElem?_maskSegments ?_ other
    rw [List.getElem?_map, part, Option.map_some, maskUnique_of_not_hasIdentifier free]
  · rw [ofPath_ofPath_eq_iff start, forall_mem_segments_ofPath start]
  · -- The numbers that are left stand apart, so that the second pass leaves none.
    have apart : NumbersApart (segments (ofPath path)) := by
      rw [segments_ofPath]
      exact numbersApart_maskSegments
    have first := not_isNumber_head_segments_ofPath start
    have none : ∀ s ∈ segments (ofPath (ofPath path)), ¬ IsNumber s := by
      rw [segments_ofPath_ofPath]
      exact forall_mem_maskSegments.mpr ⟨fun _ => first, apart⟩
    apply segments_injective
    rw [segments_ofPath_ofPath (ofPath path)]
    exact (maskSegments_false_eq_self fun s mem => none s (List.mem_of_mem_head? mem)).mpr none

/-- Two numbers next to each other. -/
theorem ofPath_masks_neighbours :
    segments (ofPath "/1/2") = [[], placeholder, ['2']] ∧ IsNumber ['2'] ∧
      ofPath (ofPath "/1/2") ≠ ofPath "/1/2" := by
  decide +kernel

/-- Two numbers with a segment between them that has an identifier in it. -/
theorem ofPath_masks_job :
    let path := "/jobs/12/x550e8400-e29b-41d4-a716-446655440000/7"
    (∀ c ∈ path.toList.head?, c.isDigit = false) ∧ NumbersApart (segments path) ∧
      (∀ s ∈ segments (ofPath path), ¬ IsNumber s) := by
  intro path
  have start : ∀ c ∈ path.toList.head?, c.isDigit = false := by
    have first : path.toList.head? = some '/' := by decide +kernel
    intro c mem
    rw [first, Option.mem_def, Option.some.injEq] at mem
    rw [← mem]
    rfl
  have apart : NumbersApart (segments path) := by decide +kernel
  obtain ⟨-, -, -, numbers, -⟩ := ofPath_masks path start
  exact ⟨start, apart, numbers.mpr apart⟩

end Compositor.PathLabel
