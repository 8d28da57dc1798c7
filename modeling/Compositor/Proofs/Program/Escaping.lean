import Compositor.Proofs.Filter.Options
import Compositor.Proofs.Program.Quotes

/-! # Values in quotes

A value stands between single quotes, and what is written for it may hold any character.  A
reader takes the quotes away first and the backslashes after that.  Whatever the value is, the
reader is outside the quotes again when it is through, all that it has met there are quotes
that a backslash protects, and it is left with the value (`Filter.ReadsBack`).  For this a
backslash has to be among the characters that are marked, and a quote must not be: the
backslashes before protected quotes are gone when marks are taken away.
-/

namespace Compositor

/-! ## What a reader keeps -/

/-- The characters that stand for themselves, each with where the reader meets it. -/
def kept (q : Quoting) : List Char → List (Quoting × Char)
  | [] => []
  | c :: cs => if q.keeps c then (q, c) :: kept (q.next c) cs else kept (q.next c) cs

theorem kept_append (q : Quoting) (first second : List Char) :
    kept q (first ++ second) = kept q first ++ kept (q.final first) second := by
  induction first generalizing q with
  | nil => rfl
  | cons c first ih =>
    simp only [List.cons_append, kept, ih, Quoting.final, List.foldl_cons]
    split <;> rfl

theorem literals_eq_map_kept (q : Quoting) (cs : List Char) :
    literals q cs = (kept q cs).map fun m => ⟨m.2, m.1 == .outside⟩ := by
  induction cs generalizing q with
  | nil => rfl
  | cons c cs ih =>
    rw [literals, kept]
    split
    · rw [List.map_cons, ih]
    · exact ih _

theorem Strips.map_snd_kept {q r : Quoting} {cs left : List Char} (strips : Strips q cs left r) :
    (kept q cs).map Prod.snd = left := by
  rw [← strips.left, literals_eq_map_kept, List.map_map]
  rfl

theorem kept_outside {cs : List Char} (unquoted : ∀ c ∈ cs, Quoting.keeps .outside c = true) :
    kept .outside cs = cs.map (Prod.mk .outside) := by
  induction cs with
  | nil => rfl
  | cons c cs ih =>
    obtain ⟨here, others⟩ := List.forall_mem_cons.mp unquoted
    have stays : Quoting.next .outside c = .outside := by
      simp only [Quoting.keeps, Bool.and_eq_true, bne_iff_ne] at here
      simp [Quoting.next, here]
    rw [kept, if_pos here, stays, ih others, List.map_cons]

theorem kept_inside {cs : List Char} (unquoted : '\'' ∉ cs) :
    kept .inside cs = cs.map (Prod.mk .inside) := by
  induction cs with
  | nil => rfl
  | cons c cs ih =>
    simp only [List.mem_cons, not_or] at unquoted
    have here : Quoting.keeps .inside c = true := bne_iff_ne.mpr (Ne.symm unquoted.1)
    have stays : Quoting.next .inside c = .inside := if_neg (Ne.symm unquoted.1)
    rw [kept, if_pos here, stays, ih unquoted.2, List.map_cons]

theorem map_snd_met (q : Quoting) (cs : List Char) : (cs.map (Prod.mk q)).map Prod.snd = cs := by
  rw [List.map_map]
  exact List.map_id cs

namespace Filter

/-! ## Texts that do not get out of their quotes -/

/-- The reader meets the character between quotes, or it is a quote that is protected. -/
def IsGuarded (m : Quoting × Char) : Prop := m.1 = .inside ∨ m = (.escaped, '\'')

/-- A text that leads a reader through quotes, and what is left of it. -/
structure Covers (cs left : List Char) : Prop extends Strips .inside cs left .inside where
  guarded : ∀ m ∈ kept .inside cs, IsGuarded m

namespace Covers

variable {cs ds left left' : List Char}

theorem append (first : Covers cs left) (second : Covers ds left') :
    Covers (cs ++ ds) (left ++ left') where
  toStrips := first.toStrips.append second.toStrips
  guarded := by
    rw [kept_append, first.final]
    exact List.forall_mem_append.mpr ⟨first.guarded, second.guarded⟩

theorem flatMap {α : Type} {xs : List α} {f g : α → List Char}
    (parts : ∀ x ∈ xs, Covers (f x) (g x)) : Covers (xs.flatMap f) (xs.flatMap g) := by
  induction xs with
  | nil => exact ⟨⟨rfl, rfl⟩, fun _ mem => absurd mem List.not_mem_nil⟩
  | cons x xs ih =>
    obtain ⟨here, others⟩ := List.forall_mem_cons.mp parts
    exact here.append (ih others)

theorem inside (unquoted : '\'' ∉ cs) : Covers cs cs where
  toStrips := .inside unquoted
  guarded := by
    rw [kept_inside unquoted]
    intro m mem
    obtain ⟨c, -, rfl⟩ := List.mem_map.mp mem
    exact .inl rfl

/-- The protected quote is the one character that is met outside. -/
theorem quotedQuote : Covers Filter.quotedQuote ['\''] := by
  refine ⟨⟨rfl, rfl⟩, fun m mem => ?_⟩
  obtain rfl := List.mem_singleton.mp (show m ∈ [(Quoting.escaped, '\'')] from mem)
  exact .inr rfl

end Covers

/-! ## One character after another -/

/-- Replaces a character wherever it occurs. -/
def replaceChar (c : Char) (written : List Char) (cs : List Char) : List Char :=
  cs.flatMap fun d => if d = c then written else [d]

/-- What is written for a text can be had by replacing one character after another, the
    backslash first and the quote, which brings in a backslash of its own, behind it. -/
theorem drawnText_eq_replaceChar (s : String) :
    (drawnText s).toList =
      replaceChar '\'' quotedQuote (replaceChar '%' ['\\', '%']
        (replaceChar '\\' ['\\', '\\'] s.toList)) := by
  simp only [drawnText, String.toList_ofList, replaceChar, List.flatMap_assoc]
  refine congrArg (List.flatMap · s.toList) (funext fun c => ?_)
  by_cases backslash : c = '\\'
  · subst backslash
    rfl
  · by_cases percent : c = '%'
    · subst percent
      rfl
    · simp [drawnChar, backslash, percent]

theorem quotedValue_eq_replaceChar (s : String) :
    (quotedValue s).toList =
      replaceChar ':' ['\\', ':'] (replaceChar '\'' quotedQuote
        (replaceChar '\\' ['\\', '\\'] s.toList)) := by
  simp only [quotedValue, String.toList_ofList, replaceChar, List.flatMap_assoc]
  refine congrArg (List.flatMap · s.toList) (funext fun c => ?_)
  by_cases backslash : c = '\\'
  · subst backslash
    rfl
  · by_cases quote : c = '\''
    · subst quote
      rfl
    · simp [valueChar, backslash, quote]
/-! ## Marked characters -/

/-- A character with a backslash before it, if it is to have one. -/
def markedChar (marked : Char → Bool) (c : Char) : List Char :=
  if marked c then ['\\', c] else [c]

/-- A character as it is written between quotes. -/
def coveredChar (marked : Char → Bool) (c : Char) : List Char :=
  if c = '\'' then quotedQuote else markedChar marked c

/-- Takes each backslash away and keeps the character behind it. -/
def unescape : List Char → List Char
  | [] => []
  | ['\\'] => []
  | '\\' :: c :: cs => c :: unescape cs
  | c :: cs => c :: unescape cs

/-- Directly before each colon stands a backslash. -/
def GuardsColons (cs : List Char) : Prop :=
  ∀ before after, cs = before ++ ':' :: after → ['\\'] <:+ before

def isDrawnMark (c : Char) : Bool := c == '\\' || c == '%'

def isValueMark (c : Char) : Bool := c == '\\' || c == ':'

theorem drawnChar_eq (c : Char) : drawnChar c = coveredChar isDrawnMark c := by
  by_cases quote : c = '\''
  · subst quote
    rfl
  · rw [drawnChar, coveredChar, if_neg quote, markedChar, isDrawnMark]
    by_cases backslash : c = '\\'
    · subst backslash
      rfl
    · by_cases percent : c = '%'
      · subst percent
        rfl
      · simp [quote, backslash, percent]

theorem valueChar_eq (c : Char) : valueChar c = coveredChar isValueMark c := by
  by_cases quote : c = '\''
  · subst quote
    rfl
  · rw [valueChar, coveredChar, if_neg quote, markedChar, isValueMark]
    by_cases backslash : c = '\\'
    · subst backslash
      rfl
    · by_cases colon : c = ':'
      · subst colon
        rfl
      · simp [quote, backslash, colon]

section Marks

variable {marked : Char → Bool}

theorem covers_coveredChar (bareQuote : marked '\'' = false) (c : Char) :
    Covers (coveredChar marked c) (markedChar marked c) := by
  rw [coveredChar]
  split
  · next quote =>
    -- The backslash that protects the quote is taken away with the quotes, so it is no mark.
    rw [quote, markedChar, if_neg (by simp [bareQuote])]
    exact .quotedQuote
  · next quote =>
    refine .inside ?_
    rw [markedChar]
    split <;> simp [Ne.symm quote]

theorem unescape_cons_of_ne {c : Char} (ordinary : c ≠ '\\') (cs : List Char) :
    unescape (c :: cs) = c :: unescape cs := by
  rw [unescape]
  · exact fun same => absurd same ordinary
  · exact fun _ _ same => absurd same ordinary

/-- Only if a backslash is marked too, each backslash that is read is a mark. -/
theorem unescape_markedChars (markedBackslash : marked '\\' = true) (cs : List Char) :
    unescape (cs.flatMap (markedChar marked)) = cs := by
  induction cs with
  | nil => rfl
  | cons c cs ih =>
    rw [List.flatMap_cons, markedChar]
    split
    · exact congrArg (c :: ·) ih
    · next plain =>
      -- A backslash that stood here alone would take the next character for its own.
      have ordinary : c ≠ '\\' := fun same => plain (same ▸ markedBackslash)
      rw [List.singleton_append, unescape_cons_of_ne ordinary, ih]

theorem guardsColons_markedChars (markedColon : marked ':' = true) (cs : List Char) :
    GuardsColons (cs.flatMap (markedChar marked)) := by
  induction cs with
  | nil => exact fun before _ none => absurd none (by simp)
  | cons c cs ih =>
    intro before after split
    rw [List.flatMap_cons, markedChar] at split
    split at split
    · -- The colon is the marked character itself, or stands behind it.
      match before with
      | [] => simp at split
      | [d] =>
        obtain rfl : '\\' = d := (List.cons.inj split).1
        exact List.suffix_rfl
      | d :: e :: before =>
        have rest := (List.cons.inj (List.cons.inj split).2).2
        exact (ih before after rest).trans (List.suffix_append [d, e] before)
    · next plain =>
      match before with
      | [] =>
        have colon : c = ':' := (List.cons.inj split).1
        exact absurd (colon ▸ markedColon) plain
      | d :: before =>
        exact (ih before after (List.cons.inj split).2).trans (List.suffix_cons d before)

end Marks

/-! ## Reading a value back -/

/-- The text in single quotes. -/
def inQuotes (written : String) : List Char := '\'' :: (written.toList ++ ['\''])

/-- A reader leaves the quotes where they end, meets nothing outside of them but quotes that are
    protected, and is left with the value. -/
structure ReadsBack (written value : String) : Prop where
  closes : Quoting.final .outside (inQuotes written) = .outside
  guarded : ∀ m ∈ kept .outside (inQuotes written), IsGuarded m
  value : unescape ((kept .outside (inQuotes written)).map Prod.snd) = value.toList

theorem kept_inQuotes {written : String} {left : List Char} (covers : Covers written.toList left) :
    kept .outside (inQuotes written) = kept .inside written.toList := by
  change kept .inside (written.toList ++ ['\'']) = _
  rw [kept_append, covers.final]
  exact List.append_nil _

theorem ReadsBack.ofCovers {written value : String} {left : List Char}
    (covers : Covers written.toList left) (plain : unescape left = value.toList) :
    ReadsBack written value where
  closes := by
    change Quoting.final .inside (written.toList ++ ['\'']) = _
    rw [Quoting.final_append, covers.final]
    rfl
  guarded := kept_inQuotes covers ▸ covers.guarded
  value := by rw [kept_inQuotes covers, covers.map_snd_kept, plain]

/-- What is read is read from what is written alone. -/
theorem injective_of_readsBack {write : String → String} (reads : ∀ s, ReadsBack (write s) s) :
    Function.Injective write := by
  intro s t same
  apply String.toList_inj.mp
  rw [← (reads s).value, ← (reads t).value, same]

theorem covers_drawnText (s : String) :
    Covers (drawnText s).toList (s.toList.flatMap (markedChar isDrawnMark)) := by
  rw [drawnText, String.toList_ofList, funext drawnChar_eq]
  exact .flatMap fun c _ => covers_coveredChar rfl c

theorem covers_quotedValue (s : String) :
    Covers (quotedValue s).toList (s.toList.flatMap (markedChar isValueMark)) := by
  rw [quotedValue, String.toList_ofList, funext valueChar_eq]
  exact .flatMap fun c _ => covers_coveredChar rfl c

theorem readsBack_drawnText (s : String) : ReadsBack (drawnText s) s :=
  .ofCovers (covers_drawnText s) (unescape_markedChars rfl _)

theorem readsBack_quotedValue (s : String) : ReadsBack (quotedValue s) s :=
  .ofCovers (covers_quotedValue s) (unescape_markedChars rfl _)

/-! ## The options of subtitles -/

/-- A colon that stands outside quotes. -/
def isOpenColon (m : Quoting × Char) : Bool := m.1 != .inside && m.2 == ':'

theorem IsGuarded.isOpenColon_eq {m : Quoting × Char} (guarded : IsGuarded m) :
    isOpenColon m = false := by
  obtain inside | rfl := guarded
  · rw [isOpenColon, inside]
    rfl
  · rfl

/-- An option whose value is still escaped. -/
def optionOf (cs : List Char) : FilterOption :=
  let o := FilterOption.ofChars cs
  { o with value := String.ofList (unescape o.value.toList) }

/-- The options of a filter for a reader that splits its text at the colons outside quotes. -/
def readQuotedOptions (name filter : String) : Option (List FilterOption) :=
  let read := kept .outside filter.toList
  let start := name.toList ++ ['=']
  if start.isPrefixOf (read.map Prod.snd) then
    some (((read.drop start.length).splitOnP isOpenColon).map fun piece =>
      optionOf (piece.map Prod.snd))
  else none

/-- What is written for an option: no colon in it stands outside quotes. -/
structure WritesOption (cs : List Char) (o : FilterOption) : Prop where
  final : Quoting.final .outside cs = .outside
  closed : ∀ m ∈ kept .outside cs, isOpenColon m = false
  option : optionOf ((kept .outside cs).map Prod.snd) = o

theorem WritesOption.ofCovers {key written value : String} {left : List Char}
    (plainKey : key.toList.all (fun c => isPlainChar c && c != '=') = true)
    (covers : Covers written.toList left) (plain : unescape left = value.toList) :
    WritesOption (key.toList ++ '=' :: inQuotes written) ⟨key, value⟩ := by
  have plainChars : ∀ c ∈ key.toList, isPlainChar c = true ∧ (c != '=') = true := fun c mem =>
    Bool.and_eq_true_iff.mp (List.all_eq_true.mp plainKey c mem)
  have unquoted : ∀ c ∈ key.toList ++ ['='], Quoting.keeps .outside c = true := by
    refine List.forall_mem_append.mpr ⟨fun c mem => ?_, by simp [Quoting.keeps]⟩
    have ordinary := (plainChars c mem).1
    simp only [isPlainChar, Bool.and_eq_true] at ordinary
    simp [Quoting.keeps, ordinary.1]
  have read : kept .outside (key.toList ++ '=' :: inQuotes written) =
      (key.toList ++ ['=']).map (Prod.mk .outside) ++ kept .inside written.toList := by
    rw [List.append_cons, kept_append, kept_outside unquoted, (literals_outside unquoted).2,
      kept_inQuotes covers]
  constructor
  · rw [List.append_cons, Quoting.final_append, (literals_outside unquoted).2]
    exact (ReadsBack.ofCovers covers plain).closes
  · -- Only the key and its sign are met outside quotes, and they have no colon.
    rw [read]
    refine List.forall_mem_append.mpr ⟨fun m mem => ?_, fun m mem =>
      (covers.guarded m mem).isOpenColon_eq⟩
    obtain ⟨c, given, rfl⟩ := List.mem_map.mp mem
    rcases List.mem_append.mp given with given | given
    · have ordinary := (plainChars c given).1
      simp only [isPlainChar, Bool.and_eq_true, bne_iff_ne] at ordinary
      simp [isOpenColon, ordinary.2]
    · rw [List.mem_singleton.mp given]
      rfl
  · have text : (kept .outside (key.toList ++ '=' :: inQuotes written)).map Prod.snd =
        key.toList ++ '=' :: left := by
      rw [read, List.map_append, covers.map_snd_kept, map_snd_met, ← List.append_cons]
    rw [text, optionOf, FilterOption.ofChars_append fun c mem => (plainChars c mem).2]
    simp only [String.toList_ofList, plain, String.ofList_toList]

theorem readQuotedOptions_pair {name filter : String} {first second : List Char}
    {o p : FilterOption} (plainName : name.toList.all (Quoting.keeps .outside) = true)
    (text : filter.toList = name.toList ++ '=' :: (first ++ ':' :: second))
    (writes : WritesOption first o) (writes' : WritesOption second p) :
    readQuotedOptions name filter = some [o, p] := by
  have unquoted : ∀ c ∈ name.toList ++ ['='], Quoting.keeps .outside c = true :=
    List.forall_mem_append.mpr ⟨List.all_eq_true.mp plainName, by simp [Quoting.keeps]⟩
  have read : kept .outside filter.toList = (name.toList ++ ['=']).map (Prod.mk .outside) ++
      (kept .outside first ++ (.outside, ':') :: kept .outside second) := by
    rw [text, List.append_cons, kept_append, kept_outside unquoted, (literals_outside unquoted).2,
      kept_append, writes.final]
    rfl
  have size : (name.toList ++ ['=']).length =
      ((name.toList ++ ['=']).map (Prod.mk Quoting.outside)).length :=
    (List.length_map _).symm
  have start : (name.toList ++ ['=']).isPrefixOf ((kept .outside filter.toList).map Prod.snd) =
      true := by
    rw [read, List.map_append, map_snd_met, List.isPrefixOf_iff_prefix]
    exact List.prefix_append _ _
  rw [readQuotedOptions, if_pos start, read, size, List.drop_left,
    List.splitOnP_append_cons _ _ (by rfl), List.splitOnP_eq_singleton writes.closed,
    List.splitOnP_eq_singleton writes'.closed]
  simp only [List.singleton_append, List.map_cons, List.map_nil, writes.option, writes'.option]

theorem unescape_of_notMem {cs : List Char} (none : '\\' ∉ cs) : unescape cs = cs := by
  induction cs with
  | nil => rfl
  | cons c cs ih =>
    simp only [List.mem_cons, not_or] at none
    rw [unescape_cons_of_ne (Ne.symm none.1), ih none.2]

theorem notMem_forceStyle (s : Subtitles) :
    '\'' ∉ s.forceStyle.toList ∧ '\\' ∉ s.forceStyle.toList :=
  ⟨fun mem => absurd (s.isInert_forceStyle _ mem) (by decide),
    fun mem => absurd (s.isInert_forceStyle _ mem) (by decide)⟩

theorem readQuotedOptions_subtitles (s : Subtitles) (path : String) :
    readQuotedOptions "subtitles" (s.filter path) =
      some [⟨"filename", path⟩, ⟨"force_style", s.forceStyle⟩] := by
  obtain ⟨noQuote, noBackslash⟩ := notMem_forceStyle s
  have file : WritesOption ("filename".toList ++ '=' :: inQuotes (quotedValue path))
      ⟨"filename", path⟩ :=
    .ofCovers rfl (covers_quotedValue path) (unescape_markedChars rfl _)
  have style : WritesOption ("force_style".toList ++ '=' :: inQuotes s.forceStyle)
      ⟨"force_style", s.forceStyle⟩ :=
    .ofCovers rfl (.inside noQuote) (unescape_of_notMem noBackslash)
  have text : (s.filter path).toList = "subtitles".toList ++ '=' ::
      (("filename".toList ++ '=' :: inQuotes (quotedValue path)) ++
        ':' :: ("force_style".toList ++ '=' :: inQuotes s.forceStyle)) := by
    have opens : "subtitles=filename='".toList =
        "subtitles".toList ++ '=' :: ("filename".toList ++ ['=', '\'']) := by decide
    have between : "':force_style='".toList =
        '\'' :: ':' :: ("force_style".toList ++ ['=', '\'']) := by decide
    have closes : "'".toList = ['\''] := by decide
    have whole : s.filter path = "subtitles=filename='" ++ quotedValue path ++
        "':force_style='" ++ s.forceStyle ++ "'" := rfl
    rw [whole, String.toList_append, String.toList_append, String.toList_append,
      String.toList_append, opens, between, closes, inQuotes, inQuotes]
    simp only [List.append_assoc, List.cons_append, List.nil_append]
  exact readQuotedOptions_pair (by decide) text file style

/-- Values stay in the quotes that they are written between, and are read back from there. -/
theorem escaped_readsBack :
    (∀ s, ReadsBack (drawnText s) s) ∧
    (∀ s, ReadsBack (quotedValue s) s ∧
      GuardsColons ((kept .outside (inQuotes (quotedValue s))).map Prod.snd)) ∧
    (∀ (s : Subtitles) (path : String), '\'' ∉ s.forceStyle.toList ∧
      readQuotedOptions "subtitles" (s.filter path) =
        some [⟨"filename", path⟩, ⟨"force_style", s.forceStyle⟩]) ∧
    Function.Injective drawnText ∧ Function.Injective quotedValue := by
  refine ⟨readsBack_drawnText, fun s => ⟨readsBack_quotedValue s, ?_⟩, fun s path =>
    ⟨(notMem_forceStyle s).1, readQuotedOptions_subtitles s path⟩,
    injective_of_readsBack readsBack_drawnText, injective_of_readsBack readsBack_quotedValue⟩
  rw [kept_inQuotes (covers_quotedValue s), (covers_quotedValue s).map_snd_kept]
  exact guardsColons_markedChars rfl _

end Filter

end Compositor
