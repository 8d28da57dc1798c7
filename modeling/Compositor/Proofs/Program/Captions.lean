import Compositor.Proofs.Filter.Options
import Compositor.Proofs.Program.Quotes

/-! # The options of a drawn text

A cue is drawn by a filter whose first option is the cue's text, in quotes.  The first reading
of the options takes these quotes away, so that the second meets the text bare: a quote in it
opens quotes, and a colon outside of them ends the option.  `readOptions_drawText` says for
which texts the options are read as they were written, namely for those whose quotes pair up
and whose colons stand between quotes.
-/

namespace Compositor

/-! ## Styles -/

/-- All options of a text that does not move, as they are meant; its text is left out. -/
def TextCue.styleOptions (cue : TextCue) : List FilterOption :=
  (cue.fontFile.map fun font => ⟨"fontfile", font⟩).toList
    ++ [⟨"fontsize", toString cue.fontSize⟩, ⟨"fontcolor", cue.color⟩,
      ⟨"x", (cue.x.map Double.numeralText).getD "(w-text_w)/2"⟩,
      ⟨"y", (cue.y.map Double.numeralText).getD "(h-text_h)/2"⟩]
    ++ cue.boxColor.toList.flatMap fun color =>
      [⟨"box", "1"⟩, ⟨"boxcolor", color⟩, ⟨"boxborderw", "10"⟩]

/-- When the text is shown. -/
def TextCue.timeOption (cue : TextCue) : FilterOption :=
  ⟨"enable", "between(t," ++ cue.start.numeralText ++ "," ++ cue.finish.numeralText ++ ")"⟩

/-- Colours and font have no character that means something to a reader of options. -/
structure TextCue.HasPlainStyle (cue : TextCue) : Prop where
  font : ∀ font ∈ cue.fontFile, IsPlain font
  color : IsPlain cue.color
  box : ∀ color ∈ cue.boxColor, IsPlain color

theorem isPlainChar_of_isNumeralChar {c : Char} (numeral : isNumeralChar c = true) :
    isPlainChar c = true := by
  have inert := isInert_of_isNumeralChar numeral
  simp only [isInert, Bool.and_eq_true, bne_iff_ne] at inert
  have noColon : c ≠ ':' := by
    rintro rfl
    revert numeral
    decide
  simp [isPlainChar, inert, noColon]

namespace IsPlain

theorem append {a b : String} (first : IsPlain a) (second : IsPlain b) : IsPlain (a ++ b) := by
  rw [IsPlain, String.toList_append]
  exact List.forall_mem_append.mpr ⟨first, second⟩

theorem literal {a : String} (plain : a.toList.all isPlainChar = true) : IsPlain a :=
  List.all_eq_true.mp plain

theorem numeralText (x : Double) : IsPlain x.numeralText := by
  rw [IsPlain, Double.numeralText, String.toList_ofList]
  exact fun c mem => isPlainChar_of_isNumeralChar (x.isNumeralChar_numeral c mem)

end IsPlain

theorem FilterOption.IsPlain.ofValue {key value : String}
    (noSign : key.toList.all (· != '=') = true) (plainKey : key.toList.all isPlainChar = true)
    (plain : Compositor.IsPlain value) : (FilterOption.mk key value).IsPlain where
  key := List.all_eq_true.mp noSign
  chars := List.forall_mem_append.mpr
    ⟨List.all_eq_true.mp plainKey, List.forall_mem_cons.mpr ⟨rfl, plain⟩⟩

theorem TextCue.isPlain_timeOption (cue : TextCue) : cue.timeOption.IsPlain := by
  refine .ofValue rfl rfl ?_
  have comma : IsPlain "," := .literal rfl
  have close : IsPlain ")" := .literal rfl
  have start := (IsPlain.literal (a := "between(t,") rfl).append (.numeralText cue.start)
  exact ((start.append comma).append (.numeralText cue.finish)).append close

theorem TextCue.HasPlainStyle.options {cue : TextCue} (plain : cue.HasPlainStyle) :
    ∀ o ∈ cue.styleOptions, o.IsPlain := by
  have place : ∀ {fallback : String} (x : Option Double), IsPlain fallback →
      IsPlain ((x.map Double.numeralText).getD fallback) := by
    intro fallback x instead
    cases x with
    | none => exact instead
    | some x => exact .numeralText x
  have size : IsPlain (toString cue.fontSize) :=
    fun c mem => isPlainChar_of_isNumeralChar (isNumeralChar_repr _ c mem)
  have center : IsPlain "(w-text_w)/2" ∧ IsPlain "(h-text_h)/2" := ⟨.literal rfl, .literal rfl⟩
  simp only [styleOptions, List.forall_mem_append, List.forall_mem_cons]
  refine ⟨⟨?_, .ofValue rfl rfl size, .ofValue rfl rfl plain.color,
    .ofValue rfl rfl (place cue.x center.1), .ofValue rfl rfl (place cue.y center.2),
    by simp⟩, ?_⟩
  · intro o mem
    obtain ⟨font, given, rfl⟩ := Option.map_eq_some_iff.mp (Option.mem_toList.mp mem)
    exact .ofValue rfl rfl (plain.font font given)
  · intro o mem
    obtain ⟨color, given, mem⟩ := List.mem_flatMap.mp mem
    simp only [List.mem_cons, List.not_mem_nil, or_false] at mem
    rcases mem with rfl | rfl | rfl
    · exact .ofValue rfl rfl (.literal rfl)
    · exact .ofValue rfl rfl (plain.box color (Option.mem_toList.mp given))
    · exact .ofValue rfl rfl (.literal rfl)

/-! ## The first reading -/

namespace Filter

/-- A character of a drawn text as the second reading meets it. -/
def laidChar (c : Char) : List Char :=
  if c == '\\' then ['\\', '\\'] else if c == '%' then ['\\', '%'] else [c]

theorem strips_drawnText (s : String) :
    Strips .inside (drawnText s).toList (s.toList.flatMap laidChar) .inside := by
  rw [drawnText, String.toList_ofList]
  refine Strips.flatMap fun c _ => ?_
  rw [drawnChar, laidChar]
  split
  · exact .inside (by decide)
  · split
    · exact .inside (by decide)
    · split
      · next quote =>
        rw [beq_iff_eq] at quote
        subst quote
        exact ⟨rfl, rfl⟩
      · next other =>
        rw [beq_iff_eq] at other
        exact .inside (by simp [Ne.symm other])

/-- A value that means nothing to a reader is written as it is. -/
theorem quotedValue_of_isPlain {s : String} (plain : IsPlain s) : quotedValue s = s := by
  have same : s.toList.map valueChar = s.toList.map fun c => [c] := by
    refine List.map_congr_left fun c mem => ?_
    have ordinary := plain c mem
    simp only [isPlainChar, Bool.and_eq_true, bne_iff_ne] at ordinary
    simp [valueChar, ordinary]
  rw [quotedValue, List.flatMap_def, same, ← List.flatMap_def, List.flatMap_singleton',
    String.ofList_toList]

theorem keeps_of_isPlainChar {c : Char} (plain : isPlainChar c = true) :
    Quoting.keeps .outside c = true := by
  simp only [isPlainChar, Bool.and_eq_true] at plain
  simp [Quoting.keeps, plain.1]

theorem keeps_optionTail {options : List FilterOption} (plain : ∀ o ∈ options, o.IsPlain) :
    ∀ c ∈ optionTail options, Quoting.keeps .outside c = true := by
  intro c mem
  obtain ⟨o, given, mem⟩ := List.mem_flatMap.mp mem
  rcases List.mem_cons.mp mem with rfl | mem
  · rfl
  · exact keeps_of_isPlainChar ((plain o given).chars c mem)

theorem optionTail_append (first second : List FilterOption) :
    optionTail (first ++ second) = optionTail first ++ optionTail second := List.flatMap_append

/-- Options that are written as they are meant, with their colons. -/
theorem strips_optionTail {options : List FilterOption} (plain : ∀ o ∈ options, o.IsPlain) :
    Strips .outside (optionTail options) (optionTail options) .outside :=
  .outside (keeps_optionTail plain)

/-- What is written behind the text of a cue that does not move. -/
def writtenTail (cue : TextCue) : List Char :=
  ((cue.fontFile.map fun font => "fontfile='" ++ quotedValue font ++ "'").toList
    ++ fixedTextOptions cue
    ++ (cue.boxColor.map fun color => "box=1:boxcolor=" ++ color ++ ":boxborderw=10").toList
    ++ ["enable='between(t," ++ cue.start.numeralText ++ "," ++ cue.finish.numeralText ++ ")'"]).flatMap
      fun option => ':' :: option.toList

theorem intercalate_cons (separator : Char) (first : List Char) (rest : List (List Char)) :
    [separator].intercalate (first :: rest) = first ++ rest.flatMap (separator :: ·) := by
  induction rest generalizing first with
  | nil => simp
  | cons next rest ih =>
    rw [List.intercalate_cons_cons, ih, List.flatMap_cons, List.append_assoc]
    rfl

theorem toList_drawText {cue : TextCue} (still : cue.keyframes = []) :
    (drawText cue).toList = "drawtext=".toList ++
      (("text='" ++ drawnText cue.text ++ "'").toList ++ writtenTail cue) := by
  have options : textOptions cue = ("text='" ++ drawnText cue.text ++ "'") ::
      ((cue.fontFile.map fun font => "fontfile='" ++ quotedValue font ++ "'").toList
        ++ fixedTextOptions cue
        ++ (cue.boxColor.map fun color => "box=1:boxcolor=" ++ color ++ ":boxborderw=10").toList
        ++ ["enable='between(t," ++ cue.start.numeralText ++ "," ++ cue.finish.numeralText
          ++ ")'"]) := by
    simp [textOptions, still]
  rw [drawText, String.toList_append, String.toList_intercalate, options, List.map_cons]
  exact congrArg _ ((intercalate_cons ':' _ _).trans (congrArg _ (List.flatMap_map ..)))

theorem strips_writtenTail {cue : TextCue} (plain : cue.HasPlainStyle) :
    Strips .outside (writtenTail cue) (optionTail (cue.styleOptions ++ [cue.timeOption])) .outside := by
  have style := plain.options
  simp only [TextCue.styleOptions, List.forall_mem_append] at style
  obtain ⟨⟨-, fixed⟩, box⟩ := style
  have font : Strips .outside
      ((cue.fontFile.map fun font => "fontfile='" ++ quotedValue font ++ "'").toList.flatMap
        fun option => ':' :: option.toList)
      (optionTail (cue.fontFile.map fun font => ⟨"fontfile", font⟩).toList) .outside := by
    cases given : cue.fontFile with
    | none => exact ⟨rfl, rfl⟩
    | some font =>
      have plainFont := plain.font font given
      have unquoted : '\'' ∉ font.toList := fun mem => absurd (plainFont _ mem) (by decide)
      have opens : Strips .outside ":fontfile='".toList ":fontfile=".toList .inside := ⟨rfl, rfl⟩
      have closes : Strips .inside "'".toList [] .outside := ⟨rfl, rfl⟩
      have text := (opens.append (.inside unquoted)).append closes
      simpa [optionTail, FilterOption.chars, quotedValue_of_isPlain plainFont] using text
  have times : Strips .outside
      (':' :: ("enable='between(t," ++ cue.start.numeralText ++ "," ++ cue.finish.numeralText
        ++ ")'").toList) (optionTail [cue.timeOption]) .outside := by
    have opens : Strips .outside ":enable='".toList ":enable=".toList .inside := ⟨rfl, rfl⟩
    have closes : Strips .inside "'".toList [] .outside := ⟨rfl, rfl⟩
    have plainTime := cue.isPlain_timeOption.chars
    have unquoted : '\'' ∉ cue.timeOption.value.toList := fun mem =>
      absurd (plainTime _ (List.mem_append_right _ (List.mem_cons_of_mem _ mem))) (by decide)
    have text := (opens.append (.inside unquoted)).append closes
    simpa [optionTail, FilterOption.chars, TextCue.timeOption] using text
  have boxed : Strips .outside
      ((cue.boxColor.map fun color => "box=1:boxcolor=" ++ color ++ ":boxborderw=10").toList.flatMap
        fun option => ':' :: option.toList)
      (optionTail (cue.boxColor.toList.flatMap fun color =>
        [⟨"box", "1"⟩, ⟨"boxcolor", color⟩, ⟨"boxborderw", "10"⟩])) .outside := by
    have text := strips_optionTail box
    cases given : cue.boxColor with
    | none => exact ⟨rfl, rfl⟩
    | some color => simpa [given, optionTail, FilterOption.chars] using text
  have sized : Strips .outside ((fixedTextOptions cue).flatMap fun option => ':' :: option.toList)
      (optionTail [⟨"fontsize", toString cue.fontSize⟩, ⟨"fontcolor", cue.color⟩,
        ⟨"x", (cue.x.map Double.numeralText).getD "(w-text_w)/2"⟩,
        ⟨"y", (cue.y.map Double.numeralText).getD "(h-text_h)/2"⟩]) .outside := by
    have text := strips_optionTail fixed
    simpa [fixedTextOptions, optionTail, FilterOption.chars] using text
  simp only [writtenTail, List.flatMap_append, TextCue.styleOptions, optionTail_append]
  have all := ((font.append sized).append boxed).append times
  simpa using all

/-! ## The second reading -/

/-- Where a reader is when the quotes that it has met are open, or closed. -/
def quotingOf (quoted : Bool) : Quoting := if quoted then .inside else .outside

/-- The quotes that are open, or closed, behind a text. -/
def quotedAfter (quoted : Bool) (cs : List Char) : Bool :=
  cs.foldl (fun quoted c => if c = '\'' then !quoted else quoted) quoted

/-- The quotes of the text pair up, and its colons stand between them. -/
def isSealed (quoted : Bool) : List Char → Bool
  | [] => !quoted
  | c :: cs =>
    if c = '\'' then isSealed (!quoted) cs else (quoted || c != ':') && isSealed quoted cs

theorem final_laidChar (quoted : Bool) (c : Char) :
    (quotingOf quoted).final (laidChar c) =
      quotingOf (if c = '\'' then !quoted else quoted) := by
  rw [laidChar]
  split
  · next backslash =>
    rw [beq_iff_eq] at backslash
    subst backslash
    cases quoted <;> rfl
  · split
    · next percent =>
      rw [beq_iff_eq] at percent
      subst percent
      cases quoted <;> rfl
    · next backslash _ =>
      rw [beq_iff_eq] at backslash
      by_cases quote : c = '\''
      · subst quote
        cases quoted <;> rfl
      · cases quoted <;> simp [quotingOf, Quoting.final, Quoting.next, quote, backslash]

theorem final_laid (quoted : Bool) (cs : List Char) :
    (quotingOf quoted).final (cs.flatMap laidChar) = quotingOf (quotedAfter quoted cs) := by
  induction cs generalizing quoted with
  | nil => rfl
  | cons c cs ih =>
    rw [List.flatMap_cons, Quoting.final_append, final_laidChar, ih, quotedAfter, quotedAfter,
      List.foldl_cons]

/-- Of the characters of a text only a colon outside quotes ends the option. -/
theorem unsplit_laidChar (quoted : Bool) (c : Char) :
    (∀ g ∈ literals (quotingOf quoted) (laidChar c), g.is ':' = false) ↔
      (quoted || c != ':') = true := by
  rw [laidChar]
  split
  · next backslash =>
    rw [beq_iff_eq] at backslash
    subst backslash
    cases quoted <;> decide
  · split
    · next percent =>
      rw [beq_iff_eq] at percent
      subst percent
      cases quoted <;> decide
    · next backslash _ =>
      rw [beq_iff_eq] at backslash
      by_cases quote : c = '\''
      · subst quote
        cases quoted <;> decide
      · cases quoted <;> simp [quotingOf, literals, Quoting.keeps, Glyph.is, quote, backslash]

theorem isSealed_iff (quoted : Bool) (cs : List Char) :
    isSealed quoted cs = true ↔ quotedAfter quoted cs = false ∧
      ∀ g ∈ literals (quotingOf quoted) (cs.flatMap laidChar), g.is ':' = false := by
  induction cs generalizing quoted with
  | nil => cases quoted <;> simp [isSealed, quotedAfter, literals]
  | cons c cs ih =>
    have here := unsplit_laidChar quoted c
    rw [List.flatMap_cons, literals_append, List.forall_mem_append, here, final_laidChar,
      quotedAfter, List.foldl_cons, ← quotedAfter, isSealed]
    by_cases quote : c = '\''
    · subst quote
      simp [ih]
    · simp only [if_neg quote, Bool.and_eq_true, ih]
      exact and_left_comm

/-- A text without quotes and colons comes through both readings as it is. -/
theorem strips_laid {cs : List Char} (noQuote : '\'' ∉ cs) :
    Strips .outside (cs.flatMap laidChar) cs .outside := by
  have single : cs.flatMap (fun c => [c]) = cs := List.flatMap_singleton' cs
  conv => arg 3; rw [← single]
  refine Strips.flatMap fun c mem => ?_
  have quote : c ≠ '\'' := fun same => noQuote (same ▸ mem)
  rw [laidChar]
  split
  · next backslash =>
    rw [beq_iff_eq] at backslash
    subst backslash
    exact ⟨rfl, rfl⟩
  · split
    · next percent =>
      rw [beq_iff_eq] at percent
      subst percent
      exact ⟨rfl, rfl⟩
    · next backslash _ =>
      rw [beq_iff_eq] at backslash
      exact .outside (by simp [Quoting.keeps, quote, backslash])

theorem isSealed_of_notMem {cs : List Char} (noQuote : '\'' ∉ cs) (noColon : ':' ∉ cs) :
    isSealed false cs = true := by
  induction cs with
  | nil => rfl
  | cons c cs ih =>
    simp only [List.mem_cons, not_or] at noQuote noColon
    rw [isSealed, if_neg (Ne.symm noQuote.1), ih noQuote.2 noColon.2]
    simp [Ne.symm noColon.1]

/-- The characters of the option with the text, for the second reading. -/
def textGlyphs (text : String) : List Glyph :=
  "text=".toList.map Glyph.ofChar ++ literals .outside (text.toList.flatMap laidChar)

theorem readOptions_eq {cue : TextCue} (still : cue.keyframes = []) (plain : cue.HasPlainStyle) :
    readOptions "drawtext" (drawText cue) =
      some (((textGlyphs cue.text ++ literals (quotingOf (quotedAfter false cue.text.toList))
          (optionTail (cue.styleOptions ++ [cue.timeOption]))).splitOnP fun g => g.is ':').map
        fun piece => .ofChars (piece.map Glyph.char)) := by
  have start : Strips .outside "drawtext=".toList "drawtext=".toList .outside := ⟨rfl, rfl⟩
  have opens : Strips .outside "text='".toList "text=".toList .inside := ⟨rfl, rfl⟩
  have closes : Strips .inside "'".toList [] .outside := ⟨rfl, rfl⟩
  have text := (opens.append (strips_drawnText cue.text)).append closes
  have first := (start.append (text.append (strips_writtenTail plain))).left
  have chars : (drawText cue).toList = "drawtext=".toList ++
      ("text='".toList ++ (drawnText cue.text).toList ++ "'".toList ++ writtenTail cue) := by
    rw [toList_drawText still, String.toList_append, String.toList_append]
  have name : "drawtext".toList ++ ['='] = "drawtext=".toList := rfl
  rw [readOptions, chars, first, name, if_pos (by simp), List.drop_left, List.append_nil,
    literals_append, literals_append, Quoting.final_append]
  have bare : Quoting.final .outside "text=".toList = .outside := rfl
  have laid : Quoting.final .outside (cue.text.toList.flatMap laidChar) = _ := final_laid false _
  rw [bare, laid]
  rfl

/-! ## Which texts survive -/

theorem ofChars_textGlyphs (text : String) :
    FilterOption.ofChars ((textGlyphs text).map Glyph.char) =
      ⟨"text", String.ofList
        ((literals .outside (text.toList.flatMap laidChar)).map Glyph.char)⟩ := by
  have whole : textGlyphs text = "text=".toList.map Glyph.ofChar ++
      literals .outside (text.toList.flatMap laidChar) := rfl
  rw [whole, List.map_append, map_char_ofChar]
  have noSign : ∀ c ∈ "text".toList, (c != '=') = true := List.all_eq_true.mp rfl
  exact FilterOption.ofChars_append noSign _

/-- If the quotes pair up, all options behind the text are read as they were written. -/
theorem readOptions_of_paired {cue : TextCue} (still : cue.keyframes = [])
    (plain : cue.HasPlainStyle) (paired : quotedAfter false cue.text.toList = false) :
    readOptions "drawtext" (drawText cue) =
      some (((textGlyphs cue.text).splitOnP fun g => g.is ':').map
          (fun piece => FilterOption.ofChars (piece.map Glyph.char))
        ++ (cue.styleOptions ++ [cue.timeOption])) := by
  have options : ∀ o ∈ cue.styleOptions ++ [cue.timeOption], o.IsPlain :=
    List.forall_mem_append.mpr
      ⟨plain.options, List.forall_mem_singleton.mpr cue.isPlain_timeOption⟩
  have bare := (literals_outside (keeps_optionTail options)).1
  have read : (cue.styleOptions ++ [cue.timeOption]).map
      (fun o => FilterOption.ofChars ((o.chars.map Glyph.ofChar).map Glyph.char)) =
      cue.styleOptions ++ [cue.timeOption] := by
    conv => rhs; rw [← List.map_id (cue.styleOptions ++ [cue.timeOption])]
    refine List.map_congr_left fun o mem => ?_
    rw [map_char_ofChar, FilterOption.ofChars_chars (options o mem).key, id]
  rw [readOptions_eq still plain, paired, show quotingOf false = .outside from rfl, bare,
    splitOnP_append_options _ options, List.map_append, List.map_map]
  exact congrArg (fun rest => some (_ ++ rest)) read

/-- If a quote stays open, the last option that is read has all of the rest in it. -/
theorem readOptions_of_unpaired {cue : TextCue} (still : cue.keyframes = [])
    (plain : cue.HasPlainStyle) (unpaired : quotedAfter false cue.text.toList = true) :
    ∃ options cs, readOptions "drawtext" (drawText cue) =
        some (options ++ [FilterOption.ofChars cs]) ∧
      cue.timeOption.chars.length < cs.length := by
  have options : ∀ o ∈ cue.styleOptions ++ [cue.timeOption], o.IsPlain :=
    List.forall_mem_append.mpr
      ⟨plain.options, List.forall_mem_singleton.mpr cue.isPlain_timeOption⟩
  have unquoted : '\'' ∉ optionTail (cue.styleOptions ++ [cue.timeOption]) := fun mem =>
    absurd (keeps_optionTail options _ mem) (by decide)
  have covered : ∀ g ∈ (optionTail (cue.styleOptions ++ [cue.timeOption])).map Glyph.covered,
      g.is ':' = false := by
    intro g mem
    obtain ⟨c, -, rfl⟩ := List.mem_map.mp mem
    rfl
  obtain ⟨pieces, last, -, joined⟩ := exists_mem_splitOnP_append (textGlyphs cue.text) covered
  refine ⟨pieces.map fun piece => .ofChars (piece.map Glyph.char),
    (last ++ (optionTail (cue.styleOptions ++ [cue.timeOption])).map Glyph.covered).map Glyph.char,
    ?_, ?_⟩
  · rw [readOptions_eq still plain, unpaired, show quotingOf true = .inside from rfl,
      (literals_inside unquoted).1, joined, List.map_append]
    rfl
  · rw [optionTail_append]
    simp only [optionTail, List.flatMap_singleton, List.length_map, List.length_append,
      List.length_cons]
    omega

/-- A text that does not move is drawn with options whose colours and font mean nothing to a
    reader.  These options are read as they were written, behind a single option for the text,
    exactly if the quotes of the text pair up and its colons stand between them.  A text without
    quotes and colons is its option's value. -/
theorem readOptions_drawText (cue : TextCue) (still : cue.keyframes = [])
    (plain : cue.HasPlainStyle) :
    ((∃ value, readOptions "drawtext" (drawText cue) =
        some (⟨"text", value⟩ :: (cue.styleOptions ++ [cue.timeOption]))) ↔
      isSealed false cue.text.toList = true) ∧
    ('\'' ∉ cue.text.toList → ':' ∉ cue.text.toList →
      readOptions "drawtext" (drawText cue) =
        some (⟨"text", cue.text⟩ :: (cue.styleOptions ++ [cue.timeOption]))) := by
  -- An unsplit text is one option, and all others are read behind it.
  have single : isSealed false cue.text.toList = true →
      readOptions "drawtext" (drawText cue) = some (⟨"text", String.ofList
        ((literals .outside (cue.text.toList.flatMap laidChar)).map Glyph.char)⟩ ::
          (cue.styleOptions ++ [cue.timeOption])) := by
    intro closed
    obtain ⟨paired, unsplit⟩ := (isSealed_iff _ _).mp closed
    have whole : ∀ g ∈ textGlyphs cue.text, g.is ':' = false :=
      List.forall_mem_append.mpr ⟨by decide, unsplit⟩
    rw [readOptions_of_paired still plain paired, List.splitOnP_eq_singleton whole,
      List.map_singleton, ofChars_textGlyphs]
    rfl
  refine ⟨⟨?_, fun closed => ⟨_, single closed⟩⟩, ?_⟩
  · rintro ⟨value, read⟩
    cases paired : quotedAfter false cue.text.toList with
    | false =>
      rw [readOptions_of_paired still plain paired, Option.some.injEq] at read
      have lengths := congrArg List.length read
      simp only [List.length_append, List.length_cons, List.length_map] at lengths
      have unsplit : ((textGlyphs cue.text).splitOnP fun g => g.is ':').length = 1 := by omega
      have whole := forall_of_length_splitOnP unsplit
      exact (isSealed_iff _ _).mpr ⟨paired, (List.forall_mem_append.mp whole).2⟩
    | true =>
      obtain ⟨options, cs, swallowed, longer⟩ := readOptions_of_unpaired still plain paired
      rw [swallowed, Option.some.injEq, ← List.cons_append] at read
      have last := (List.append_inj' read rfl).2
      rw [List.singleton_inj] at last
      have shorter := FilterOption.length_le_ofChars cs
      rw [last] at shorter
      omega
  · intro noQuote noColon
    rw [single (isSealed_of_notMem noQuote noColon), (strips_laid noQuote).left,
      String.ofList_toList]

/-- A time of day between quotes, in a box and with a font, and a text without either. -/
theorem readOptions_drawText_boxed :
    let cue := { TextCue.plain "at '12:30' \\ 5%" 0 1 with
      fontFile := some "serif", boxColor := some "black" }
    let noon := { cue with text := "at noon \\ 5%" }
    (cue.keyframes = [] ∧ cue.HasPlainStyle ∧ isSealed false cue.text.toList = true ∧
      ∃ value, readOptions "drawtext" (drawText cue) =
        some (⟨"text", value⟩ :: (cue.styleOptions ++ [cue.timeOption]))) ∧
    (noon.keyframes = [] ∧ noon.HasPlainStyle ∧
      '\'' ∉ noon.text.toList ∧ ':' ∉ noon.text.toList ∧
      readOptions "drawtext" (drawText noon) =
        some (⟨"text", noon.text⟩ :: (noon.styleOptions ++ [noon.timeOption]))) := by
  intro cue noon
  have plain : cue.HasPlainStyle := by
    constructor
    · rintro font ⟨rfl⟩
      exact .literal rfl
    · exact .literal (by decide)
    · rintro color ⟨rfl⟩
      exact .literal rfl
  have plain' : noon.HasPlainStyle := ⟨plain.font, plain.color, plain.box⟩
  have closed : isSealed false cue.text.toList = true := by decide
  have noQuote : '\'' ∉ noon.text.toList := by decide
  have noColon : ':' ∉ noon.text.toList := by decide
  exact ⟨⟨rfl, plain, closed, (readOptions_drawText cue rfl plain).1.mpr closed⟩,
    ⟨rfl, plain', noQuote, noColon, (readOptions_drawText noon rfl plain').2 noQuote noColon⟩⟩

/-- The time of day is drawn as the hour, and its minutes are taken for an option. -/
theorem readOptions_drawText_time :
    let cue := TextCue.plain "12:30" 0 1
    cue.isEligible = true ∧ cue.keyframes = [] ∧ cue.HasPlainStyle ∧
      readOptions "drawtext" (drawText cue) =
        some (⟨"text", "12"⟩ :: ⟨"30", ""⟩ :: (cue.styleOptions ++ [cue.timeOption])) ∧
      ¬ ∃ options, readOptions "drawtext" (drawText cue) = some options ∧
        options.map FilterOption.key =
          "text" :: (cue.styleOptions ++ [cue.timeOption]).map FilterOption.key := by
  intro cue
  have plain : cue.HasPlainStyle := ⟨by rintro font ⟨⟩, .literal (by decide), by rintro color ⟨⟩⟩
  have read : readOptions "drawtext" (drawText cue) =
      some (⟨"text", "12"⟩ :: ⟨"30", ""⟩ :: (cue.styleOptions ++ [cue.timeOption])) := by
    decide +kernel
  refine ⟨by decide +kernel, rfl, plain, read, ?_⟩
  rintro ⟨options, same, keys⟩
  rw [read, Option.some.injEq] at same
  subst same
  have lengths := congrArg List.length keys
  simp at lengths

end Filter

end Compositor
