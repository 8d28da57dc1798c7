import Compositor.Program.Layers
import Compositor.Proofs.Filter.Reading

/-! # Texts between the quotes of a filter

Numbers, sizes and formulas hold no character that a reader of filter programs would act on.
Texts to be drawn and file names may hold any, so that they stand between quotes, and what is
written for a quote in them leaves the quotes and comes back.

Colours and the pans of a zoom are written as they come.  The lemmas about filters that hold
them ask that they are calm where they stand.
-/

namespace Compositor

/-! ## Texts without meaning to a reader -/

/-- No character of the text has a meaning to a reader. -/
def IsInert (s : String) : Prop := ∀ c ∈ s.toList, isInert c = true

instance (s : String) : Decidable (IsInert s) :=
  decidable_of_iff (s.toList.all isInert = true) List.all_eq_true

namespace IsInert

variable {a b : String}

@[simp] theorem append_iff : IsInert (a ++ b) ↔ IsInert a ∧ IsInert b := by
  rw [IsInert, String.toList_append]
  exact List.forall_mem_append

theorem literal (plain : a.toList.all isInert = true) : IsInert a := List.all_eq_true.mp plain

theorem ofList {cs : List Char} (inert : ∀ c ∈ cs, isInert c = true) :
    IsInert (String.ofList cs) := by
  rw [IsInert, String.toList_ofList]
  exact inert

theorem intercalate {parts : List String} (between : IsInert a)
    (inert : ∀ part ∈ parts, IsInert part) : IsInert (String.intercalate a parts) := by
  rw [IsInert, String.toList_intercalate]
  induction parts with
  | nil => exact fun _ mem => absurd mem List.not_mem_nil
  | cons part parts ih =>
    have first := inert part (by simp)
    have rest := ih fun other mem => inert other (by simp [mem])
    cases parts with
    | nil => simpa [IsInert] using first
    | cons next parts =>
      rw [List.map_cons, List.map_cons, List.intercalate_cons_cons]
      exact List.forall_mem_append.mpr ⟨List.forall_mem_append.mpr ⟨first, between⟩, rest⟩

theorem calm (inert : IsInert a) {q : Quoting} (stays : q = .outside ∨ q = .inside) :
    Calm q a.toList q := calm_of_inert stays inert

end IsInert

/-- A character that numbers are written with. -/
def isNumeralChar (c : Char) : Bool :=
  c.isAlphanum || c == '.' || c == '-' || c == '(' || c == ')'

theorem isInert_of_isNumeralChar {c : Char} (numeral : isNumeralChar c = true) :
    isInert c = true := by
  simp only [isNumeralChar, Bool.or_eq_true, beq_iff_eq] at numeral
  rcases numeral with (((word | rfl) | rfl) | rfl) | rfl
  · exact isInert_of_isAlphanum word
  all_goals rfl

theorem isNumeralChar_of_mem_toDigits {n : Nat} {c : Char} (mem : c ∈ Nat.toDigits 10 n) :
    isNumeralChar c = true := by
  have digit := Nat.isDigit_of_mem_toDigits (by decide) (by decide) mem
  simp [isNumeralChar, Char.isAlphanum, digit]

theorem isNumeralChar_repr (n : Nat) : ∀ c ∈ n.repr.toList, isNumeralChar c = true := by
  intro c mem
  rw [Nat.repr_eq_ofList_toDigits, String.toList_ofList] at mem
  exact isNumeralChar_of_mem_toDigits mem

@[simp] theorem isInert_repr_nat (n : Nat) : IsInert n.repr :=
  fun c mem => isInert_of_isNumeralChar (isNumeralChar_repr n c mem)

@[simp] theorem isInert_repr_int (i : Int) : IsInert i.repr := by
  cases i with
  | ofNat n => exact isInert_repr_nat n
  | negSucc n => exact IsInert.append_iff.mpr ⟨.literal rfl, isInert_repr_nat (n + 1)⟩

theorem Decimal.isNumeralChar_layout (d : Decimal) : ∀ c ∈ d.layout, isNumeralChar c = true := by
  have zeros : ∀ n, ∀ c ∈ List.replicate n '0', isNumeralChar c = true := by
    intro n c mem
    rw [List.eq_of_mem_replicate mem]
    rfl
  have digits : ∀ c ∈ Nat.toDigits 10 d.digits, isNumeralChar c = true :=
    fun _ => isNumeralChar_of_mem_toDigits
  rw [layout]
  split
  · exact List.forall_mem_append.mpr ⟨digits, zeros _⟩
  · have padded := List.forall_mem_append.mpr
      ⟨zeros ((-d.exponent).toNat + 1 - (Nat.toDigits 10 d.digits).length), digits⟩
    refine List.forall_mem_append.mpr ⟨?_, List.forall_mem_cons.mpr ⟨rfl, ?_⟩⟩
    · exact fun c mem => padded c (List.mem_of_mem_take mem)
    · exact fun c mem => padded c (List.mem_of_mem_drop mem)

namespace Double

theorem isNumeralChar_magnitudeText (x : Double) :
    ∀ c ∈ x.magnitudeText, isNumeralChar c = true := by
  rw [magnitudeText]
  split
  · exact List.all_eq_true.mp (show "inf".toList.all isNumeralChar = true from rfl)
  · split
    · exact List.forall_mem_singleton.mpr rfl
    · exact Decimal.isNumeralChar_layout _

theorem isNumeralChar_text (x : Double) : ∀ c ∈ x.text.toList, isNumeralChar c = true := by
  rw [text]
  split
  · exact List.all_eq_true.mp rfl
  · rw [String.toList_ofList]
    split
    · exact List.forall_mem_cons.mpr ⟨rfl, x.isNumeralChar_magnitudeText⟩
    · exact x.isNumeralChar_magnitudeText

theorem isNumeralChar_numeral (x : Double) : ∀ c ∈ x.numeral, isNumeralChar c = true := by
  rw [numeral]
  have close : ∀ c ∈ [')'], isNumeralChar c = true := List.forall_mem_singleton.mpr rfl
  split
  · exact List.forall_mem_singleton.mpr rfl
  · split
    · exact List.forall_mem_cons.mpr
        ⟨rfl, List.forall_mem_append.mpr ⟨x.isNumeralChar_text, close⟩⟩
    · exact x.isNumeralChar_text

theorem isInert_numeral (x : Double) : ∀ c ∈ x.numeral, isInert c = true :=
  fun c mem => isInert_of_isNumeralChar (x.isNumeralChar_numeral c mem)

@[simp] theorem isInert_numeralText (x : Double) : IsInert x.numeralText := .ofList x.isInert_numeral

end Double

/-- A formula has no character of its own that a reader would act on. -/
theorem Expression.isInert_render {α : Type} {numeral : α → List Char} {name : List Char}
    (numerals : ∀ x, ∀ c ∈ numeral x, isInert c = true) (inert : ∀ c ∈ name, isInert c = true)
    (e : Expression α) (place : Binding) : ∀ c ∈ e.render numeral name place, isInert c = true := by
  have joined : ∀ {cs ds : List Char} {c : Char}, (∀ c ∈ cs, isInert c = true) → isInert c = true →
      (∀ d ∈ ds, isInert d = true) → ∀ d ∈ cs ++ c :: ds, isInert d = true :=
    fun first middle last =>
      List.forall_mem_append.mpr ⟨first, List.forall_mem_cons.mpr ⟨middle, last⟩⟩
  have enclosed : ∀ {parentheses : Bool} {cs : List Char}, (∀ c ∈ cs, isInert c = true) →
      ∀ c ∈ enclose parentheses cs, isInert c = true := by
    intro parentheses cs within
    cases parentheses with
    | false => exact within
    | true => exact List.forall_mem_cons.mpr ⟨rfl, joined within rfl (by simp)⟩
  induction e generalizing place with
  | number value => exact numerals value
  | «variable» => exact inert
  | add a b first second =>
    rw [render_add]
    exact enclosed (joined (first .sum) (by decide) (second .product))
  | sub a b first second =>
    rw [render_sub]
    exact enclosed (joined (first .sum) (by decide) (second .product))
  | mul a b first second =>
    rw [render_mul]
    exact enclosed (joined (first .product) (by decide) (second .atom))
  | div a b first second =>
    rw [render_div]
    exact enclosed (joined (first .product) (by decide) (second .atom))
  | ifLess a b yes no first second third fourth =>
    have called : ∀ c ∈ "if(lt(".toList, isInert c = true := IsInert.literal rfl
    simp only [render_ifLess, List.forall_mem_append, List.forall_mem_cons]
    exact ⟨⟨⟨⟨⟨called, first .sum⟩, rfl, second .sum⟩, rfl, rfl, third .sum⟩, rfl, fourth .sum⟩, rfl,
      by simp⟩

theorem Curve.isInert_expressionText (curve : Curve Double) {name : String} (inert : IsInert name) :
    IsInert (curve.expressionText name) :=
  .ofList (Expression.isInert_render Double.isInert_numeral inert _ _)

/-! ## Quoted texts -/

namespace Calm

variable {q r t : Quoting} {a b : String}

theorem join (first : Calm q a.toList r) (second : Calm r b.toList t) :
    Calm q (a ++ b).toList t := by
  rw [String.toList_append]
  exact first.append second

/-- An inert text before or behind a calm one. -/
theorem outside (inert : IsInert a) : Calm .outside a.toList .outside := inert.calm (.inl rfl)

theorem inside (inert : IsInert a) : Calm .inside a.toList .inside := inert.calm (.inr rfl)

/-- A text in quotes that are its own. -/
theorem quoted {before after : String} (opens : Calm .outside before.toList .inside)
    (calm : Calm .inside a.toList .inside) (closes : Calm .inside after.toList .outside) :
    Calm .outside (before ++ a ++ after).toList .outside :=
  (opens.join calm).join closes

end Calm

namespace Filter

/-- What is written for a quote leaves the quotes, and comes back to them. -/
theorem calm_quotedQuote : Calm .inside quotedQuote .inside := by decide

/-- Between quotes everything but a quote is literal. -/
theorem calm_inside {cs : List Char} (unquoted : '\'' ∉ cs) : Calm .inside cs .inside := by
  induction cs with
  | nil => exact .nil _
  | cons c cs ih =>
    simp only [List.mem_cons, not_or] at unquoted
    have rest := ih unquoted.2
    have stays : Quoting.next .inside c = .inside := if_neg (Ne.symm unquoted.1)
    constructor
    · rw [Quoting.final, List.foldl_cons, stays]
      exact rest.final
    · rw [glyphs, stays]
      exact List.forall_mem_cons.mpr ⟨by simp [Glyph.isMark, Glyph.is], rest.unmarked⟩

theorem calm_drawnChar (c : Char) : Calm .inside (drawnChar c) .inside := by
  rw [drawnChar]
  split
  · exact calm_inside (by decide)
  · split
    · exact calm_inside (by decide)
    · split
      · exact calm_quotedQuote
      · next other =>
        rw [beq_iff_eq] at other
        exact calm_inside (by simp [Ne.symm other])

theorem calm_valueChar (c : Char) : Calm .inside (valueChar c) .inside := by
  rw [valueChar]
  split
  · exact calm_inside (by decide)
  · split
    · exact calm_quotedQuote
    · next other =>
      split
      · exact calm_inside (by decide)
      · rw [beq_iff_eq] at other
        exact calm_inside (by simp [Ne.symm other])

theorem calm_drawnText (s : String) : Calm .inside (drawnText s).toList .inside := by
  rw [drawnText, String.toList_ofList]
  exact Calm.flatMap fun c _ => calm_drawnChar c

theorem calm_quotedValue (s : String) : Calm .inside (quotedValue s).toList .inside := by
  rw [quotedValue, String.toList_ofList]
  exact Calm.flatMap fun c _ => calm_valueChar c

/-! ## Filters -/

variable {fps width height : Nat} {clip : ImageClip} {cue : TextCue}

theorem isInert_fillCrop (width height : Nat) : IsInert (fillCrop width height) := by
  simp +decide [fillCrop]

theorem isInert_stretch (width height : Nat) : IsInert (stretch width height) := by
  simp +decide [stretch]

/-- A zoom is calm if its pans stay between the quotes around them. -/
theorem calm_zoom {z : Zoom} (panX : Calm .inside z.panX.toList .inside)
    (panY : Calm .inside z.panY.toList .inside) (clip : ImageClip) (width height fps : Nat) :
    Calm .outside (zoom z clip width height fps).toList .outside := by
  have size : Calm .outside ("scale=" ++ toString z.prescaleWidth).toList .outside :=
    .outside (by simp +decide)
  have opens : Calm .outside ":-2,zoompan=z='min(zoom+".toList .inside := by decide
  have comma : Calm .inside ",".toList .inside := by decide
  have x : Calm .inside ")':x='".toList .inside := by decide
  have y : Calm .inside "':y='".toList .inside := by decide
  have closes : Calm .inside "':d=".toList .outside := by decide
  have rate := ((size.join opens).join (.inside z.rate.isInert_numeralText)).join comma
  have limit := rate.join (.inside maxZoom.isInert_numeralText)
  have pans := ((((limit.join x).join panX).join y).join panY).join closes
  have timing : IsInert (toString (zoomFrames clip.length fps) ++ ":s=" ++ toString width ++ "x"
      ++ toString height ++ ":fps=" ++ toString fps ++ ",setpts=PTS-STARTPTS+"
      ++ clip.start.numeralText ++ "/TB") := by
    simp +decide
  have text := pans.join (.outside timing)
  simp only [← String.append_assoc] at text
  exact text

theorem calm_overlay (x y : Int) (clip : ImageClip) :
    Calm .outside (overlay x y clip).toList .outside := by
  have place : Calm .outside ("overlay=" ++ toString x ++ ":" ++ toString y).toList .outside :=
    .outside (by simp +decide)
  have opens : Calm .outside ":enable='gte(t,".toList .inside := by decide
  have between : Calm .inside ")*lt(t,".toList .inside := by decide
  have closes : Calm .inside ")'".toList .outside := by decide
  have start := (place.join opens).join (.inside clip.start.isInert_numeralText)
  exact ((start.join between).join (.inside clip.finish.isInert_numeralText)).join closes

theorem calm_mix (count : Nat) {weights : List String} (inert : ∀ w ∈ weights, IsInert w) :
    Calm .outside (mix count weights).toList .outside := by
  have inputs : Calm .outside ("amix=inputs=" ++ toString count).toList .outside :=
    .outside (by simp +decide)
  have opens : Calm .outside ":duration=longest:dropout_transition=0:weights='".toList .inside := by
    decide
  have closes : Calm .inside "':normalize=0".toList .outside := by decide
  exact ((inputs.join opens).join (.inside (.intercalate (.literal rfl) inert))).join closes

end Filter

/-! ## Drawn texts -/

/-- The colours of a cue are calm where they are written, outside quotes. -/
structure TextCue.HasCalmColors (cue : TextCue) : Prop where
  color : Calm .outside cue.color.toList .outside
  box : ∀ color ∈ cue.boxColor, Calm .outside color.toList .outside

namespace Filter

theorem calm_fixedTextOptions {cue : TextCue} (colors : cue.HasCalmColors) :
    ∀ option ∈ fixedTextOptions cue, Calm .outside option.toList .outside := by
  have place : ∀ {name fallback : String} (x : Option Double), IsInert name → IsInert fallback →
      Calm .outside (name ++ (x.map Double.numeralText).getD fallback).toList .outside := by
    intro name fallback x inert instead
    apply Calm.outside
    cases x <;> simp [inert, instead]
  simp only [fixedTextOptions, List.forall_mem_cons]
  refine ⟨.outside (by simp +decide), ?_, place cue.x (.literal rfl) (.literal rfl),
    place cue.y (.literal rfl) (.literal rfl), by simp⟩
  exact Calm.join (.outside (.literal rfl)) colors.color

/-- A formula stands between quotes. -/
theorem calm_formula {before : String} (opens : Calm .outside before.toList .inside)
    (curve : Curve Double) {name : String} (inert : IsInert name) :
    Calm .outside (before ++ curve.expressionText name ++ "'").toList .outside :=
  Calm.quoted opens (.inside (curve.isInert_expressionText inert)) (by decide)

theorem calm_scaledFontSize (fontSize : Nat) {name : String} (inert : IsInert name)
    (scale : Curve Double) : Calm .outside (scaledFontSize fontSize name scale).toList .outside := by
  cases scale with
  | constant s => exact .outside (by simp +decide [scaledFontSize])
  | pieces before segments after =>
    have opens : Calm .outside "fontsize='".toList .inside := by decide
    have number : IsInert (toString fontSize ++ "*") := by simp +decide
    have text := calm_formula (opens.join (.inside number)) (.pieces before segments after) inert
    simp only [← String.append_assoc] at text
    exact text

theorem calm_opacityOptions {name : String} (inert : IsInert name) (opacity : Curve Double) :
    ∀ option ∈ opacityOptions name opacity, Calm .outside option.toList .outside := by
  have drawn : Calm .outside ("alpha='" ++ opacity.expressionText name ++ "'").toList .outside :=
    calm_formula (by decide) opacity inert
  cases opacity with
  | constant v =>
    simp only [opacityOptions]
    split
    · simp
    · exact List.forall_mem_singleton.mpr drawn
  | pieces before segments after => exact List.forall_mem_singleton.mpr drawn

theorem calm_movingTextOptions {cue : TextCue} (colors : cue.HasCalmColors) :
    ∀ option ∈ movingTextOptions cue, Calm .outside option.toList .outside := by
  have inert : IsInert ("(t-" ++ cue.start.numeralText ++ ")") := by simp +decide
  simp only [movingTextOptions, List.forall_mem_append, List.forall_mem_cons]
  refine ⟨⟨calm_scaledFontSize cue.fontSize inert _, ?_, ?_, ?_, by simp⟩,
    calm_opacityOptions inert _⟩
  · exact Calm.join (.outside (.literal rfl)) colors.color
  · exact calm_formula (by decide) _ inert
  · exact calm_formula (by decide) _ inert

theorem calm_textOptions {cue : TextCue} (colors : cue.HasCalmColors) :
    ∀ option ∈ textOptions cue, Calm .outside option.toList .outside := by
  simp only [textOptions, List.forall_mem_append]
  refine ⟨⟨⟨⟨?_, ?_⟩, ?_⟩, ?_⟩, ?_⟩
  · rw [List.forall_mem_singleton]
    exact Calm.quoted (by decide) (calm_drawnText cue.text) (by decide)
  · intro option mem
    obtain ⟨font, -, rfl⟩ := Option.map_eq_some_iff.mp (Option.mem_toList.mp mem)
    exact Calm.quoted (by decide) (calm_quotedValue font) (by decide)
  · split
    · exact calm_fixedTextOptions colors
    · exact calm_movingTextOptions colors
  · intro option mem
    obtain ⟨color, given, rfl⟩ := Option.map_eq_some_iff.mp (Option.mem_toList.mp mem)
    exact (Calm.join (.outside (.literal rfl)) (colors.box color given)).join
      (.outside (.literal rfl))
  · rw [List.forall_mem_singleton]
    have times : IsInert (cue.start.numeralText ++ "," ++ cue.finish.numeralText) := by
      simp +decide
    have opens : Calm .outside "enable='between(t,".toList .inside := by decide
    have text := Calm.quoted opens (.inside times) (show Calm .inside ")'".toList .outside by decide)
    simp only [← String.append_assoc] at text
    exact text

theorem calm_drawText {cue : TextCue} (colors : cue.HasCalmColors) :
    Calm .outside (drawText cue).toList .outside := by
  have options : ∀ part ∈ (textOptions cue).map String.toList, Calm .outside part .outside := by
    intro part mem
    obtain ⟨option, given, rfl⟩ := List.mem_map.mp mem
    exact calm_textOptions colors option given
  rw [drawText, String.toList_append, String.toList_intercalate]
  exact Calm.append (.outside (.literal rfl)) (.intercalate (by decide) options)

end Filter

/-! ## Subtitles -/

namespace Subtitles

theorem toNat_of_isHexDigit {c : Char} (digit : Text.isHexDigit c = true) : c.toNat < 128 := by
  rw [Text.isHexDigit, Text.hexValue?] at digit
  split at digit
  · next decimal =>
    simp only [Char.isDigit, Bool.and_eq_true, decide_eq_true_eq, UInt32.le_iff_toNat_le] at decimal
    exact Nat.lt_of_le_of_lt decimal.2 (by decide)
  · split at digit
    · next small =>
      simp only [Bool.and_eq_true, decide_eq_true_eq, Char.le_def, UInt32.le_iff_toNat_le] at small
      exact Nat.lt_of_le_of_lt small.2 (by decide)
    · split at digit
      · next capital =>
        simp only [Bool.and_eq_true, decide_eq_true_eq, Char.le_def, UInt32.le_iff_toNat_le] at capital
        exact Nat.lt_of_le_of_lt capital.2 (by decide)
      · cases digit

theorem isInert_toUpper {c : Char} (digit : Text.isHexDigit c = true) : isInert c.toUpper = true := by
  have all : ∀ n < 128, Text.isHexDigit (Char.ofNat n) = true →
      isInert (Char.ofNat n).toUpper = true := by decide
  have upper := all c.toNat (toNat_of_isHexDigit digit)
  rw [Char.ofNat_toNat] at upper
  exact upper digit

/-- Whatever a colour is, six hexadecimal digits are left of it. -/
@[simp] theorem isInert_styleColor (color : String) : IsInert (styleColor color) := by
  rw [styleColor]
  split
  · dsimp only
    split
    · next digits =>
      refine IsInert.append_iff.mpr ⟨.literal rfl, .ofList ?_⟩
      intro c mem
      obtain ⟨digit, given, rfl⟩ := List.mem_map.mp mem
      exact isInert_toUpper (List.all_eq_true.mp digits digit given)
    · exact .literal rfl
  · exact .literal rfl

theorem isInert_forceStyle (s : Subtitles) : IsInert s.forceStyle := by
  have border : ∀ part ∈ s.borderStyle, IsInert part := by
    rw [borderStyle]
    split
    · cases s.outline <;> decide
    · simp +decide
  refine .intercalate (.literal rfl) ?_
  simp only [List.forall_mem_append, List.forall_mem_singleton, List.forall_mem_cons]
  refine ⟨⟨⟨?_, ?_, ?_⟩, border⟩, .literal rfl⟩ <;> simp +decide

theorem calm_filter (s : Subtitles) (path : String) :
    Calm .outside (s.filter path).toList .outside := by
  have opens : Calm .outside "subtitles=filename='".toList .inside := by decide
  have between : Calm .inside "':force_style='".toList .inside := by decide
  have closes : Calm .inside "'".toList .outside := by decide
  exact (((opens.join (Filter.calm_quotedValue path)).join between).join
    (.inside s.isInert_forceStyle)).join closes

end Subtitles

end Compositor
