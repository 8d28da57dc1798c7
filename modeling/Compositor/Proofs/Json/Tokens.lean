import Compositor.Json.Writer
import Mathlib.Data.List.TakeWhile
import Mathlib.Data.Nat.Digits.Defs

/-! # The tokens of written values

A scalar that is written is cut off again as one token, whatever follows it: a string ends at
its quote, and a number at any character that may follow a value.
-/

namespace Compositor.Json

variable {r : Rounding} {cs rest : List Char}

/-- What may follow a value. -/
def Ends (rest : List Char) : Prop := ∀ c ∈ rest.head?, c = ',' ∨ c = ']' ∨ c = '}'

theorem ends_nil : Ends [] := by
  intro c mem
  cases mem

theorem ends_cons {c : Char} (closes : c = ',' ∨ c = ']' ∨ c = '}') (rest : List Char) :
    Ends (c :: rest) := by
  intro d mem
  cases mem
  exact closes

/-! ## Single tokens -/

theorem tokens_nil : tokens r [] = [] := by
  rw [tokens]

theorem tokens_blank {c : Char} (blank : isBlank c = true) :
    tokens r (c :: rest) = tokens r rest := by
  rw [tokens, if_pos blank]

theorem tokens_cons {c : Char} {t : Token} (visible : isBlank c = false)
    (scanned : scanToken r (c :: cs) = some (t, rest)) :
    tokens r (c :: cs) = t :: tokens r rest := by
  rw [tokens, if_neg (by rw [visible]; exact Bool.false_ne_true)]
  split
  · next nothing => cases nothing.symm.trans scanned
  · next t' rest' found =>
    cases found.symm.trans scanned
    rfl

theorem tokens_bad {c : Char} (visible : isBlank c = false)
    (refused : scanToken r (c :: cs) = none) : tokens r (c :: cs) = [.bad] := by
  rw [tokens, if_neg (by rw [visible]; exact Bool.false_ne_true)]
  split
  · rfl
  · next t' rest' found => cases found.symm.trans refused

theorem tokens_punctuation {c : Char} {t : Token} (visible : isBlank c = false)
    (mark : punctuation? c = some t) : tokens r (c :: rest) = t :: tokens r rest := by
  apply tokens_cons visible
  rw [scanToken, mark]

theorem tokens_eq_nil_iff : tokens r cs = [] ↔ cs.all isBlank = true := by
  induction cs with
  | nil => simp [tokens_nil]
  | cons c cs inductionHypothesis =>
    by_cases visible : isBlank c = true
    · rw [tokens_blank visible, inductionHypothesis, List.all_cons, visible, Bool.true_and]
    · -- A visible character starts a token, or what is no token is cut off as one.
      rw [List.all_cons, Bool.eq_false_iff.mpr visible, Bool.false_and, tokens, if_neg visible]
      split <;> simp

theorem tokens_append_of_blank (blank : cs.all isBlank = true) :
    tokens r (cs ++ rest) = tokens r rest := by
  induction cs with
  | nil => rfl
  | cons c cs inductionHypothesis =>
    rw [List.all_cons, Bool.and_eq_true] at blank
    rw [List.cons_append, tokens_blank blank.1, inductionHypothesis blank.2]

theorem tokens_null (rest : List Char) :
    tokens r ("null".toList ++ rest) = .scalar .null :: tokens r rest :=
  tokens_cons rfl rfl

theorem tokens_bool (b : Bool) (rest : List Char) :
    tokens r (write (.bool b) ++ rest) = .scalar (.bool b) :: tokens r rest := by
  cases b <;> exact tokens_cons rfl rfl

/-! ## Strings -/

theorem hexValue?_lowerHex : ∀ n < 16, Text.hexValue? (Text.lowerHex n) = some n := by
  decide

theorem hexUnit?_control {n : Nat} (control : n < 0x20) :
    hexUnit? '0' '0' (Text.lowerHex (n / 16)) (Text.lowerHex (n % 16)) = some n := by
  have zero : Text.hexValue? '0' = some 0 := by decide
  have value : n / 16 * 16 + n % 16 = n := by omega
  simp only [hexUnit?, zero, hexValue?_lowerHex (n / 16) (by omega),
    hexValue?_lowerHex (n % 16) (by omega), Option.bind_eq_bind, Option.bind_some, Option.pure_def,
    Nat.zero_mul, Nat.zero_add, value]

theorem scanPieces_escape {letter c : Char} (denotes : escaped? letter = some c)
    (rest : List Char) :
    scanPieces ('\\' :: letter :: rest) =
      (scanPieces rest).map fun read => (.char c :: read.1, read.2) := by
  have short : letter ≠ 'u' := by
    rintro rfl
    cases denotes
  rw [scanPieces]
  · rw [denotes]
  · intro a b c d after
    simp [short]

/-- Each character that is written is read as one place of the string. -/
theorem scanPieces_writeChar (c : Char) (rest : List Char) :
    scanPieces (writeChar c ++ rest) =
      (scanPieces rest).map fun read => (.char c :: read.1, read.2) := by
  simp only [writeChar, beq_iff_eq]
  -- The characters with an escape of one letter.
  iterate 7
    split
    · subst c; exact scanPieces_escape rfl rest
  split
  · next control =>
    -- A control character is no half of a surrogate pair, so its unit is a place of its own.
    have piece : unitPiece c.toNat = .char c := by
      have low : ¬(0xD800 ≤ c.toNat) ∧ ¬(0xDC00 ≤ c.toNat) := by omega
      simp [unitPiece, isHighSurrogate, isLowSurrogate, low]
    simp only [List.cons_append, List.nil_append, scanPieces, hexUnit?_control control, piece]
  · next quote backslash _ _ _ _ _ visible =>
    rw [List.cons_append, List.nil_append, scanPieces]
    · rw [if_neg (by simp [visible, backslash])]
    all_goals simp [quote, backslash]

theorem scanPieces_flatMap (s rest : List Char) :
    scanPieces (s.flatMap writeChar ++ '"' :: rest) = some (s.map .char, rest) := by
  induction s with
  | nil => rfl
  | cons c s inductionHypothesis =>
    rw [List.flatMap_cons, List.append_assoc, scanPieces_writeChar, inductionHypothesis]
    rfl

theorem joinPieces_map (s : List Char) : joinPieces (s.map .char) = some s := by
  induction s with
  | nil => rfl
  | cons c s inductionHypothesis =>
    rw [List.map_cons, joinPieces, inductionHypothesis]
    rfl

theorem tokens_writeString (s : String) (rest : List Char) :
    tokens r (writeString s ++ rest) = .string (some s) :: tokens r rest := by
  have read := scanPieces_flatMap s.toList rest
  simp only [writeString, List.cons_append, List.append_assoc, List.nil_append]
  apply tokens_cons (by decide)
  simp [scanToken, punctuation?, read, joinPieces_map, String.ofList_toList]

/-! ## Numbers -/

theorem takeWhile_append_ends {p : Char → Bool} (cs : List Char)
    (stop : ∀ c ∈ rest.head?, p c = false) :
    (cs ++ rest).takeWhile p = cs.takeWhile p ∧
      (cs ++ rest).dropWhile p = cs.dropWhile p ++ rest := by
  induction cs with
  | nil =>
    cases rest with
    | nil => exact ⟨rfl, rfl⟩
    | cons c rest => simp [stop c rfl]
  | cons c cs inductionHypothesis =>
    by_cases digit : p c = true
    · simp [digit, inductionHypothesis]
    · simp [digit]

theorem spanDigits_append (cs : List Char) (ends : Ends rest) :
    spanDigits (cs ++ rest) = ((spanDigits cs).1, (spanDigits cs).2 ++ rest) := by
  have stop : ∀ c ∈ rest.head?, c.isDigit = false := by
    intro c mem
    rcases ends c mem with rfl | rfl | rfl <;> decide
  obtain ⟨taken, left⟩ := takeWhile_append_ends cs stop
  rw [spanDigits, spanDigits, taken, left]

theorem spanSign_append (ends : Ends rest) :
    spanSign (cs ++ rest) = ((spanSign cs).1, (spanSign cs).2 ++ rest) := by
  cases cs with
  | nil =>
    cases rest with
    | nil => rfl
    | cons c rest => rcases ends c rfl with rfl | rfl | rfl <;> rfl
  | cons c cs =>
    rw [List.cons_append]
    unfold spanSign
    split <;> simp_all

/-- What has been read of a text is read of a longer one as well. -/
theorem scanFraction_append {read : List Char × List Char} (ends : Ends rest)
    (scanned : scanFraction cs = some read) :
    scanFraction (cs ++ rest) = some (read.1, read.2 ++ rest) := by
  cases cs with
  | nil =>
    cases scanned
    cases rest with
    | nil => rfl
    | cons c rest => rcases ends c rfl with rfl | rfl | rfl <;> rfl
  | cons c cs =>
    by_cases point : c = '.'
    · subst c
      rw [List.cons_append, scanFraction, spanDigits_append _ ends]
      rw [scanFraction] at scanned
      -- A point without digits after it has been refused.
      cases digits : (spanDigits cs).1 with
      | nil =>
        rw [← Prod.eta (spanDigits cs), digits] at scanned
        cases scanned
      | cons d ds =>
        rw [← Prod.eta (spanDigits cs), digits] at scanned
        cases scanned
        rfl
    · have plain : ∀ after, c :: cs = '.' :: after → False := by simp [point]
      have plain' : ∀ after, c :: (cs ++ rest) = '.' :: after → False := by simp [point]
      rw [scanFraction] at scanned
      · cases scanned
        rw [List.cons_append, scanFraction]
        exact plain'
      · exact plain

theorem scanExponent_append {read : Option Int × List Char} (ends : Ends rest)
    (scanned : scanExponent cs = some read) :
    scanExponent (cs ++ rest) = some (read.1, read.2 ++ rest) := by
  cases cs with
  | nil =>
    cases scanned
    cases rest with
    | nil => rfl
    | cons c rest => rcases ends c rfl with rfl | rfl | rfl <;> rfl
  | cons c cs =>
    rw [List.cons_append]
    simp only [scanExponent, spanSign_append ends, spanDigits_append _ ends] at scanned ⊢
    by_cases mark : (c == 'e' || c == 'E') = true
    · rw [if_pos mark] at scanned ⊢
      -- So has a mark without digits after it and its sign.
      cases digits : (spanDigits (spanSign cs).2).1 with
      | nil =>
        rw [← Prod.eta (spanDigits _), digits] at scanned
        cases scanned
      | cons d ds =>
        rw [← Prod.eta (spanDigits _), digits] at scanned
        cases scanned
        rfl
    · rw [if_neg mark] at scanned ⊢
      cases scanned
      rfl

theorem scanUnsigned_of_span {negative : Bool} {whole after : List Char}
    (span : spanDigits cs = (whole, after)) (filled : whole ≠ [])
    (noZero : ∀ c ds, whole ≠ '0' :: c :: ds) :
    scanUnsigned r negative cs =
      (scanFraction after).bind fun fraction =>
        (scanExponent fraction.2).map fun exponent =>
          (numberDatum r negative whole fraction.1 exponent.1, exponent.2) := by
  rw [scanUnsigned, span]
  split
  · next same => exact absurd (congrArg Prod.fst same) filled
  · next c ds after same => exact absurd (congrArg Prod.fst same) (noZero c ds)
  · next whole' after' _ _ same =>
    cases same
    cases scanFraction after with
    | none => rfl
    | some fraction =>
      simp only [Option.bind_some]
      cases scanExponent fraction.2 <;> rfl

theorem scanUnsigned_append {negative : Bool} {read : Datum × List Char} (ends : Ends rest)
    (scanned : scanUnsigned r negative cs = some read) :
    scanUnsigned r negative (cs ++ rest) = some (read.1, read.2 ++ rest) := by
  obtain ⟨whole, after, span⟩ : ∃ whole after, spanDigits cs = (whole, after) := ⟨_, _, rfl⟩
  -- The digits began well, since they have been read, and they are the digits of the longer text.
  have begins : whole ≠ [] ∧ ∀ c ds, whole ≠ '0' :: c :: ds := by
    rw [scanUnsigned, span] at scanned
    split at scanned
    · cases scanned
    · cases scanned
    · next filled noZero same =>
      cases same
      exact ⟨filled, noZero⟩
  have span' := spanDigits_append cs ends
  rw [span] at span'
  rw [scanUnsigned_of_span span begins.1 begins.2] at scanned
  rw [scanUnsigned_of_span span' begins.1 begins.2]
  obtain ⟨fraction, found, scanned⟩ := Option.bind_eq_some_iff.mp scanned
  obtain ⟨exponent, found', rfl⟩ := Option.map_eq_some_iff.mp scanned
  rw [scanFraction_append ends found, Option.bind_some, scanExponent_append ends found',
    Option.map_some]

theorem scanNumber_append {read : Datum × List Char} (ends : Ends rest)
    (scanned : scanNumber r cs = some read) :
    scanNumber r (cs ++ rest) = some (read.1, read.2 ++ rest) := by
  cases cs with
  | nil => cases scanned
  | cons c cs =>
    by_cases minus : c = '-'
    · subst c
      exact scanUnsigned_append ends scanned
    · have plain : ∀ after, c :: cs = '-' :: after → False := by simp [minus]
      have plain' : ∀ after, c :: (cs ++ rest) = '-' :: after → False := by simp [minus]
      rw [scanNumber] at scanned
      · rw [List.cons_append, scanNumber]
        · exact scanUnsigned_append ends scanned
        · exact plain'
      · exact plain

section

variable {c : Char} (first : c = '-' ∨ c.isDigit = true)
include first

theorem ne_of_number {d : Char} (minus : d ≠ '-') (digit : d.isDigit = false) : c ≠ d := by
  rintro rfl
  rcases first with rfl | isDigit
  · exact minus rfl
  · exact Bool.false_ne_true (digit.symm.trans isDigit)

theorem isBlank_of_number : isBlank c = false := by
  have others {d : Char} := ne_of_number first (d := d)
  simp [isBlank, others (d := ' '), others (d := '\t'), others (d := '\n'), others (d := '\r')]

/-- A text that starts like a number is read as one. -/
theorem scanToken_of_number (cs : List Char) :
    scanToken r (c :: cs) = (scanNumber r (c :: cs)).map fun read => (.scalar read.1, read.2) := by
  have mark : punctuation? c = none := by
    rw [punctuation?]
    all_goals exact ne_of_number first (by decide) (by decide)
  have quote := ne_of_number first (d := '"') (by decide) (by decide)
  have first' : (c == '-' || c.isDigit) = true := by simpa using first
  simp only [scanToken, mark, beq_iff_eq, quote, if_false, first', if_true]

theorem tokens_number {d : Datum} (scanned : scanNumber r (c :: cs) = some (d, rest)) :
    tokens r (c :: cs) = .scalar d :: tokens r rest := by
  apply tokens_cons (isBlank_of_number first)
  rw [scanToken_of_number first, scanned, Option.map_some]

end

/-! ## Whole numbers -/

theorem toDigits_isDigit (n : Nat) : ∀ c ∈ Nat.toDigits 10 n, c.isDigit = true := fun _ mem =>
  Nat.isDigit_of_mem_toDigits (by decide) (by decide) mem

theorem toDigits_ne_nil (n : Nat) : Nat.toDigits 10 n ≠ [] :=
  List.ne_nil_of_length_pos Nat.length_toDigits_pos

/-- A positive number is not written with a leading zero. -/
theorem head?_toDigits {n : Nat} (positive : 0 < n) : (Nat.toDigits 10 n).head? ≠ some '0' := by
  induction n using Nat.strongRecOn with
  | ind n inductionHypothesis =>
    by_cases small : n < 10
    · have single : ∀ n < 10, 0 < n → n.digitChar ≠ '0' := by decide
      rw [Nat.toDigits_of_lt_base small]
      simpa using single n small positive
    · have shorter := inductionHypothesis (n / 10) (by omega) (by omega)
      rw [Nat.toDigits_of_base_le (by decide) (by omega), List.head?_append]
      cases digits : Nat.toDigits 10 (n / 10) with
      | nil => exact absurd digits (toDigits_ne_nil _)
      | cons c cs =>
        rw [digits] at shorter
        exact shorter

theorem scanUnsigned_toDigits (negative : Bool) (n : Nat) (ends : Ends rest) :
    scanUnsigned r negative (Nat.toDigits 10 n ++ rest) =
      some (wholeDatum r negative (Nat.toDigits 10 n), rest) := by
  have span : spanDigits (Nat.toDigits 10 n ++ rest) = (Nat.toDigits 10 n, rest) := by
    have all := toDigits_isDigit n
    rw [spanDigits_append _ ends, spanDigits, List.takeWhile_eq_self_iff.mpr all,
      List.dropWhile_eq_nil_iff.mpr all, List.nil_append]
  have noZero : ∀ c ds, Nat.toDigits 10 n ≠ '0' :: c :: ds := by
    intro c ds same
    rcases Nat.eq_zero_or_pos n with rfl | positive
    · cases same
    · exact head?_toDigits positive (congrArg List.head? same)
  -- Nothing of what follows belongs to the number.
  have noFraction : scanFraction [] = some ([], []) := rfl
  have noExponent : scanExponent [] = some (none, []) := rfl
  have fraction := scanFraction_append ends noFraction
  have exponent := scanExponent_append ends noExponent
  rw [List.nil_append] at fraction exponent
  rw [scanUnsigned_of_span span (toDigits_ne_nil n) noZero, fraction, Option.bind_some, exponent]
  rfl

theorem tokens_writeInteger {i : Int} (low : -2 ^ 63 ≤ i) (high : i < 2 ^ 64) (ends : Ends rest) :
    tokens r (writeInteger i ++ rest) = .scalar (.integer i) :: tokens r rest := by
  have value : Text.decimalValue (Nat.toDigits 10 i.natAbs) = i.natAbs :=
    Nat.ofDigitChars_toDigits (by decide) (by decide)
  rw [writeInteger]
  split
  · next negative =>
    have fits : ¬(i.natAbs = 0 ∨ Nat.pow 2 63 < i.natAbs) := by
      simp only [Nat.pow_eq]
      omega
    have number : wholeDatum r true (Nat.toDigits 10 i.natAbs) = .integer i := by
      rw [wholeDatum, value, if_pos rfl, if_neg fits]
      congr 1
      omega
    rw [List.cons_append]
    apply tokens_number (.inl rfl)
    rw [scanNumber, scanUnsigned_toDigits true _ ends, number]
  · next natural =>
    have fits : i.natAbs < Nat.pow 2 64 := by
      simp only [Nat.pow_eq]
      omega
    have number : wholeDatum r false (Nat.toDigits 10 i.natAbs) = .integer i := by
      rw [wholeDatum, value, if_neg Bool.false_ne_true, if_pos fits]
      congr 1
      omega
    have read := scanUnsigned_toDigits (r := r) false i.natAbs ends
    have all := toDigits_isDigit i.natAbs
    rw [number] at read
    cases digits : Nat.toDigits 10 i.natAbs with
    | nil => exact absurd digits (toDigits_ne_nil _)
    | cons c cs =>
      rw [digits] at read all
      have digit := all c (.head _)
      rw [List.cons_append] at read ⊢
      apply tokens_number (.inr digit)
      rw [scanNumber]
      · exact read
      · rintro after same
        cases same
        cases digit

end Compositor.Json
