import Compositor.Proofs.Filter.Reading

/-! # Reading the options of a filter

Behind its name a filter has options, and the engine reads them twice.  The first reading takes
quotes and protecting backslashes away.  The second splits what is left at each colon that
nothing protects, and takes away the protection that it meets itself.  `readOptions` does both.

Options that are written without quotes, backslashes and colons of their own are read back
(`splitOnP_append_options`), unless what stands before them leaves a quote open: then they all
belong to the last option before them (`exists_mem_splitOnP_append`).
-/

namespace Compositor

/-! ## Taking protection away -/

/-- The character stands for itself and does not merely protect others. -/
def Quoting.keeps : Quoting → Char → Bool
  | outside, c => c != '\'' && c != '\\'
  | escaped, _ => true
  | inside, c => c != '\''

/-- What is left of a text when protection is taken away.  A character is bare if nothing
    protected it. -/
def literals (q : Quoting) : List Char → List Glyph
  | [] => []
  | c :: cs =>
    if q.keeps c then ⟨c, q == .outside⟩ :: literals (q.next c) cs else literals (q.next c) cs

theorem literals_append (q : Quoting) (first second : List Char) :
    literals q (first ++ second) = literals q first ++ literals (q.final first) second := by
  induction first generalizing q with
  | nil => rfl
  | cons c first ih =>
    simp only [List.cons_append, literals, ih, Quoting.final, List.foldl_cons]
    split <;> rfl

theorem Quoting.final_append (q : Quoting) (first second : List Char) :
    q.final (first ++ second) = (q.final first).final second := List.foldl_append

/-- A character that is protected. -/
def Glyph.covered (c : Char) : Glyph := ⟨c, false⟩

/-- The character has a meaning neither to the first reading nor to the second. -/
def isPlainChar (c : Char) : Bool := c != '\'' && c != '\\' && c != ':'

/-- No character of the text has a meaning to a reader of options. -/
def IsPlain (s : String) : Prop := ∀ c ∈ s.toList, isPlainChar c = true

/-- A text without quotes and backslashes loses nothing, and a reader stays where it is. -/
theorem literals_outside {cs : List Char} (unquoted : ∀ c ∈ cs, Quoting.keeps .outside c = true) :
    literals .outside cs = cs.map Glyph.ofChar ∧ Quoting.final .outside cs = .outside := by
  induction cs with
  | nil => exact ⟨rfl, rfl⟩
  | cons c cs ih =>
    obtain ⟨text, stays⟩ := ih fun d mem => unquoted d (by simp [mem])
    have kept := unquoted c (by simp)
    have next : Quoting.next .outside c = .outside := by
      simp only [Quoting.keeps, Bool.and_eq_true, bne_iff_ne] at kept
      simp [Quoting.next, kept]
    constructor
    · rw [literals, if_pos kept, next, text, List.map_cons]
      rfl
    · rw [Quoting.final, List.foldl_cons, next]
      exact stays

/-- Between quotes everything but a quote is literal. -/
theorem literals_inside {cs : List Char} (unquoted : '\'' ∉ cs) :
    literals .inside cs = cs.map Glyph.covered ∧ Quoting.final .inside cs = .inside := by
  induction cs with
  | nil => exact ⟨rfl, rfl⟩
  | cons c cs ih =>
    simp only [List.mem_cons, not_or] at unquoted
    obtain ⟨text, stays⟩ := ih unquoted.2
    have next : Quoting.next .inside c = .inside := if_neg (Ne.symm unquoted.1)
    constructor
    · have kept : Quoting.keeps .inside c = true := bne_iff_ne.mpr (Ne.symm unquoted.1)
      rw [literals, if_pos kept, next, text, List.map_cons]
      rfl
    · rw [Quoting.final, List.foldl_cons, next]
      exact stays

theorem map_char_ofChar (cs : List Char) : (cs.map Glyph.ofChar).map Glyph.char = cs := by
  rw [List.map_map]
  exact List.map_id cs

theorem map_char_covered (cs : List Char) : (cs.map Glyph.covered).map Glyph.char = cs := by
  rw [List.map_map]
  exact List.map_id cs

/-- A reader that comes to a text in one state leaves it in another, and what is left of the
    text when its protection is taken away. -/
structure Strips (q : Quoting) (cs left : List Char) (r : Quoting) : Prop where
  final : q.final cs = r
  left : (literals q cs).map Glyph.char = left

namespace Strips

variable {q r s : Quoting} {cs ds left left' : List Char}

theorem append (first : Strips q cs left r) (second : Strips r ds left' s) :
    Strips q (cs ++ ds) (left ++ left') s where
  final := by rw [Quoting.final_append, first.final, second.final]
  left := by rw [literals_append, first.final, List.map_append, first.left, second.left]

theorem flatMap {α : Type} {xs : List α} {f g : α → List Char}
    (parts : ∀ x ∈ xs, Strips q (f x) (g x) q) : Strips q (xs.flatMap f) (xs.flatMap g) q := by
  induction xs with
  | nil => exact ⟨rfl, rfl⟩
  | cons x xs ih =>
    rw [List.flatMap_cons, List.flatMap_cons]
    exact (parts x (by simp)).append (ih fun y mem => parts y (by simp [mem]))

theorem outside (unquoted : ∀ c ∈ cs, Quoting.keeps .outside c = true) :
    Strips .outside cs cs .outside := by
  obtain ⟨text, stays⟩ := literals_outside unquoted
  exact ⟨stays, by rw [text, map_char_ofChar]⟩

theorem inside (unquoted : '\'' ∉ cs) : Strips .inside cs cs .inside := by
  obtain ⟨text, stays⟩ := literals_inside unquoted
  exact ⟨stays, by rw [text, map_char_covered]⟩

end Strips

/-! ## Options -/

/-- An option of a filter. -/
structure FilterOption where
  key : String
  value : String
deriving DecidableEq

namespace FilterOption

/-- The option as it is written. -/
def chars (o : FilterOption) : List Char := o.key.toList ++ '=' :: o.value.toList

/-- The key ends at the first equals sign. -/
def ofChars (cs : List Char) : FilterOption :=
  ⟨String.ofList (cs.takeWhile (· != '=')), String.ofList ((cs.dropWhile (· != '=')).drop 1)⟩

/-- The key is a key, and nothing in the option has a meaning to a reader. -/
structure IsPlain (o : FilterOption) : Prop where
  key : ∀ c ∈ o.key.toList, (c != '=') = true
  chars : ∀ c ∈ o.chars, isPlainChar c = true

theorem ofChars_append {key : List Char} (noSign : ∀ c ∈ key, (c != '=') = true) (value : List Char) :
    ofChars (key ++ '=' :: value) = ⟨String.ofList key, String.ofList value⟩ := by
  rw [ofChars, List.takeWhile_append_of_pos noSign, List.dropWhile_append_of_pos noSign,
    List.takeWhile_cons_of_neg (by simp), List.dropWhile_cons_of_neg (by simp), List.append_nil]
  rfl

theorem ofChars_chars {o : FilterOption} (noSign : ∀ c ∈ o.key.toList, (c != '=') = true) :
    ofChars o.chars = o := by
  rw [chars, ofChars_append noSign, String.ofList_toList, String.ofList_toList]

/-- An option is hardly shorter than the text that it is read from. -/
theorem length_le_ofChars (cs : List Char) : cs.length ≤ (ofChars cs).chars.length := by
  have split := congrArg List.length (List.takeWhile_append_dropWhile (p := (· != '=')) (l := cs))
  rw [List.length_append] at split
  simp only [ofChars, chars, String.toList_ofList, List.length_append, List.length_cons,
    List.length_drop]
  omega

end FilterOption

/-- The options of a filter with the given name, as the engine takes them. -/
def readOptions (name filter : String) : Option (List FilterOption) :=
  let text := (literals .outside filter.toList).map Glyph.char
  let start := name.toList ++ ['=']
  if start.isPrefixOf text then
    some (((literals .outside (text.drop start.length)).splitOnP fun g => g.is ':').map
      fun piece => .ofChars (piece.map Glyph.char))
  else none

/-! ## Splitting at colons -/

/-- Options in a row, each behind a colon. -/
def optionTail (options : List FilterOption) : List Char :=
  options.flatMap fun o => ':' :: o.chars

/-- Bare options are split from one another and from what stands before them. -/
theorem splitOnP_append_options (before : List Glyph) {options : List FilterOption}
    (plain : ∀ o ∈ options, o.IsPlain) :
    (before ++ (optionTail options).map Glyph.ofChar).splitOnP (fun g => g.is ':') =
      before.splitOnP (fun g => g.is ':') ++ options.map fun o => o.chars.map Glyph.ofChar := by
  induction options generalizing before with
  | nil => simp [optionTail]
  | cons o options ih =>
    have whole : (o.chars.map Glyph.ofChar).splitOnP (fun g => g.is ':') =
        [o.chars.map Glyph.ofChar] := by
      apply List.splitOnP_eq_singleton
      intro g mem
      obtain ⟨c, memChars, rfl⟩ := List.mem_map.mp mem
      have ordinary := (plain o (by simp)).chars c memChars
      simp only [isPlainChar, Bool.and_eq_true, bne_iff_ne] at ordinary
      simp [Glyph.is, Glyph.ofChar, ordinary]
    have rest := ih (o.chars.map Glyph.ofChar) fun other mem => plain other (by simp [mem])
    rw [optionTail, List.flatMap_cons, List.map_append, List.map_cons, List.cons_append,
      List.splitOnP_append_cons _ _ (by rfl), ← optionTail, rest, whole, List.map_cons]
    rfl

/-- What stands behind an open quote belongs to the last piece. -/
theorem exists_mem_splitOnP_append (before : List Glyph) {after : List Glyph}
    (covered : ∀ g ∈ after, g.is ':' = false) :
    ∃ pieces last, before.splitOnP (fun g => g.is ':') = pieces ++ [last] ∧
      (before ++ after).splitOnP (fun g => g.is ':') = pieces ++ [last ++ after] := by
  induction before with
  | nil => exact ⟨[], [], rfl, List.splitOnP_eq_singleton covered⟩
  | cons g before ih =>
    obtain ⟨pieces, last, split, joined⟩ := ih
    rw [List.cons_append, List.splitOnP_cons_eq_if_modifyHead,
      List.splitOnP_cons_eq_if_modifyHead, split, joined]
    split
    · exact ⟨[] :: pieces, last, rfl, rfl⟩
    · cases pieces with
      | nil => exact ⟨[], g :: last, rfl, rfl⟩
      | cons piece pieces => exact ⟨(g :: piece) :: pieces, last, rfl, rfl⟩

/-- A text that is not split has no bare colon. -/
theorem forall_of_length_splitOnP {text : List Glyph}
    (unsplit : (text.splitOnP fun g => g.is ':').length = 1) : ∀ g ∈ text, g.is ':' = false := by
  intro g mem
  rw [Bool.eq_false_iff]
  intro colon
  obtain ⟨before, after, rfl⟩ := List.append_of_mem mem
  rw [List.splitOnP_append_cons before after colon, List.length_append] at unsplit
  have first := List.length_pos_iff.mpr (List.splitOnP_ne_nil (fun g : Glyph => g.is ':') before)
  have second := List.length_pos_iff.mpr (List.splitOnP_ne_nil (fun g : Glyph => g.is ':') after)
  omega

end Compositor
