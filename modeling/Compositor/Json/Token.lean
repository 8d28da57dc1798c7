import Compositor.Json.Number
import Compositor.Text.Hex

/-! # Tokens of a JSON text

The text of a document is cut into punctuation, strings and scalars.  Blank
characters between tokens are dropped, and the first character that starts no
token ends the cut with the token `bad`.

The grammar is the strict one: no leading zeros, no sign before a positive
number, digits on both sides of a point, no control characters inside a string.
An escape that denotes half of a surrogate pair makes its string unreadable
without making it malformed.
-/

namespace Compositor.Json

/-- A token of a JSON text. -/
inductive Token where
  | openList
  | closeList
  | openRecord
  | closeRecord
  | comma
  | colon
  /-- A string; nothing if it denotes no text. -/
  | string (value : Option String)
  /-- A number, a truth value or null. -/
  | scalar (value : Datum)
  /-- Where the text starts no token. -/
  | bad

/-- The blank characters between tokens. -/
def isBlank (c : Char) : Bool := c == ' ' || c == '\t' || c == '\n' || c == '\r'

/-! ## Strings -/

/-- The value of four hexadecimal digits. -/
def hexUnit? (a b c d : Char) : Option Nat := do
  let a ← Text.hexValue? a
  let b ← Text.hexValue? b
  let c ← Text.hexValue? c
  let d ← Text.hexValue? d
  pure (((a * 16 + b) * 16 + c) * 16 + d)

/-- The first half of a surrogate pair. -/
def isHighSurrogate (n : Nat) : Bool := decide (0xD800 ≤ n) && decide (n < 0xDC00)

/-- The second half of a surrogate pair. -/
def isLowSurrogate (n : Nat) : Bool := decide (0xDC00 ≤ n) && decide (n < 0xE000)

/-- The character of a surrogate pair. -/
def pairChar (high low : Nat) : Char :=
  Char.ofNat (0x10000 + (high - 0xD800) * 0x400 + (low - 0xDC00))

/-- The character that a one-letter escape denotes. -/
def escaped? : Char → Option Char
  | '"' => some '"'
  | '\\' => some '\\'
  | '/' => some '/'
  | 'b' => some '\x08'
  | 'f' => some '\x0c'
  | 'n' => some '\n'
  | 'r' => some '\r'
  | 't' => some '\t'
  | _ => none

/-- What one place of a string denotes: a character, or half of a surrogate
    pair. -/
inductive Piece where
  | char (c : Char)
  | half (unit : Nat)

/-- What a four-digit escape denotes. -/
def unitPiece (n : Nat) : Piece :=
  if isHighSurrogate n || isLowSurrogate n then .half n else .char (Char.ofNat n)

/-- Reads the rest of a string after its opening quote.  The answer is what the
    places of the string denote, and what follows the closing quote. -/
def scanPieces : List Char → Option (List Piece × List Char)
  | [] => none
  | '"' :: rest => some ([], rest)
  | '\\' :: 'u' :: a :: b :: c :: d :: rest =>
    match hexUnit? a b c d with
    | none => none
    | some n => (scanPieces rest).map fun r => (unitPiece n :: r.1, r.2)
  | '\\' :: c :: rest =>
    match escaped? c with
    | none => none
    | some x => (scanPieces rest).map fun r => (.char x :: r.1, r.2)
  | c :: rest =>
    if c.toNat < 0x20 || c == '\\' then none
    else (scanPieces rest).map fun r => (.char c :: r.1, r.2)

/-- Joins the halves of surrogate pairs; nothing if a half stands alone. -/
def joinPieces : List Piece → Option (List Char)
  | [] => some []
  | .char c :: rest => (joinPieces rest).map (c :: ·)
  | .half n :: .half m :: rest =>
    if isHighSurrogate n && isLowSurrogate m then (joinPieces rest).map (pairChar n m :: ·)
    else none
  | .half _ :: _ => none

theorem scanPieces_length {cs : List Char} {r : List Piece × List Char}
    (h : scanPieces cs = some r) : r.2.length < cs.length := by
  fun_induction scanPieces cs generalizing r with
  | case1 => simp at h
  | case2 rest =>
    simp only [Option.some.injEq] at h
    subst h
    simp
  | case3 => simp at h
  | case4 a b c d rest n _ ih =>
    obtain ⟨s, hs, rfl⟩ := Option.map_eq_some_iff.1 h
    have := ih hs
    simp
    omega
  | case5 => simp at h
  | case6 c rest _ x _ ih =>
    obtain ⟨s, hs, rfl⟩ := Option.map_eq_some_iff.1 h
    have := ih hs
    simp
    omega
  | case7 => simp at h
  | case8 c rest _ _ _ _ ih =>
    obtain ⟨s, hs, rfl⟩ := Option.map_eq_some_iff.1 h
    have := ih hs
    simp
    omega

/-! ## Numbers -/

/-- Splits off the longest run of decimal digits. -/
def spanDigits (cs : List Char) : List Char × List Char :=
  (cs.takeWhile Char.isDigit, cs.dropWhile Char.isDigit)

/-- The fraction after the whole digits: the digits after the point, or none. -/
def scanFraction : List Char → Option (List Char × List Char)
  | '.' :: rest =>
    match spanDigits rest with
    | ([], _) => none
    | r => some r
  | rest => some ([], rest)

/-- Splits off the sign of an exponent: whether it is a minus, and the rest. -/
def spanSign : List Char → Bool × List Char
  | '-' :: rest => (true, rest)
  | '+' :: rest => (false, rest)
  | rest => (false, rest)

/-- The exponent after a number, if there is one. -/
def scanExponent : List Char → Option (Option Int × List Char)
  | [] => some (none, [])
  | c :: rest =>
    if c == 'e' || c == 'E' then
      match spanDigits (spanSign rest).2 with
      | ([], _) => none
      | (ds, after) =>
        let size : Int := Text.decimalValue ds
        some (some (if (spanSign rest).1 then -size else size), after)
    else some (none, c :: rest)

/-- Reads a number whose sign has been read. -/
def scanUnsigned (r : Rounding) (negative : Bool) (cs : List Char) : Option (Datum × List Char) :=
  match spanDigits cs with
  | ([], _) => none
  -- No digit follows a leading zero.
  | ('0' :: _ :: _, _) => none
  | (whole, rest) =>
    match scanFraction rest with
    | none => none
    | some (fraction, rest) =>
      match scanExponent rest with
      | none => none
      | some (exponent, rest) => some (numberDatum r negative whole fraction exponent, rest)

/-- Reads a number. -/
def scanNumber (r : Rounding) : List Char → Option (Datum × List Char)
  | '-' :: rest => scanUnsigned r true rest
  | rest => scanUnsigned r false rest

theorem length_dropWhile_le {α : Type} (p : α → Bool) (xs : List α) :
    (xs.dropWhile p).length ≤ xs.length :=
  (List.dropWhile_sublist p).length_le

theorem spanDigits_length_le (cs : List Char) : (spanDigits cs).2.length ≤ cs.length :=
  length_dropWhile_le Char.isDigit cs

theorem spanDigits_length {cs : List Char} (h : (spanDigits cs).1 ≠ []) :
    (spanDigits cs).2.length < cs.length := by
  cases cs with
  | nil => simp [spanDigits] at h
  | cons c cs =>
    have := length_dropWhile_le Char.isDigit cs
    by_cases hc : c.isDigit
    · simp [spanDigits, hc]
      omega
    · simp [spanDigits, hc] at h

theorem spanSign_length_le (cs : List Char) : (spanSign cs).2.length ≤ cs.length := by
  unfold spanSign
  split <;> simp

theorem scanFraction_length {cs : List Char} {r : List Char × List Char}
    (h : scanFraction cs = some r) : r.2.length ≤ cs.length := by
  unfold scanFraction at h
  split at h
  · rename_i rest
    have := spanDigits_length_le rest
    split at h
    · simp at h
    · simp only [Option.some.injEq] at h
      subst h
      simp
      omega
  · simp only [Option.some.injEq] at h
    subst h
    simp

theorem scanExponent_length {cs : List Char} {r : Option Int × List Char}
    (h : scanExponent cs = some r) : r.2.length ≤ cs.length := by
  unfold scanExponent at h
  split at h
  · simp only [Option.some.injEq] at h
    subst h
    simp
  · rename_i c rest
    have h1 := spanDigits_length_le (spanSign rest).2
    have h2 := spanSign_length_le rest
    split at h
    · split at h
      · simp at h
      · rename_i ds after _ hs
        simp only [Option.some.injEq] at h
        subst h
        rw [hs] at h1
        simp at h1 ⊢
        omega
    · simp only [Option.some.injEq] at h
      subst h
      simp

theorem scanUnsigned_length {r : Rounding} {negative : Bool} {cs : List Char}
    {x : Datum × List Char} (h : scanUnsigned r negative cs = some x) :
    x.2.length < cs.length := by
  unfold scanUnsigned at h
  split at h
  · simp at h
  · simp at h
  · rename_i whole rest hne _ hs
    have hlt : rest.length < cs.length := by
      have := @spanDigits_length cs (by rw [hs]; exact hne)
      rw [hs] at this
      exact this
    split at h
    · simp at h
    · rename_i hf
      have h1 := scanFraction_length hf
      split at h
      · simp at h
      · rename_i he
        have h2 := scanExponent_length he
        simp only [Option.some.injEq] at h
        subst h
        simp at h1 h2 ⊢
        omega

theorem scanNumber_length {r : Rounding} {cs : List Char} {x : Datum × List Char}
    (h : scanNumber r cs = some x) : x.2.length < cs.length := by
  unfold scanNumber at h
  split at h
  · have := scanUnsigned_length h
    simp
    omega
  · exact scanUnsigned_length h

/-! ## The cut -/

/-- The token that a single punctuation character is. -/
def punctuation? : Char → Option Token
  | '[' => some .openList
  | ']' => some .closeList
  | '{' => some .openRecord
  | '}' => some .closeRecord
  | ',' => some .comma
  | ':' => some .colon
  | _ => none

/-- Reads one of the three words. -/
def scanWord : List Char → Option (Datum × List Char)
  | 'n' :: 'u' :: 'l' :: 'l' :: rest => some (.null, rest)
  | 't' :: 'r' :: 'u' :: 'e' :: rest => some (.bool true, rest)
  | 'f' :: 'a' :: 'l' :: 's' :: 'e' :: rest => some (.bool false, rest)
  | _ => none

theorem scanWord_length {cs : List Char} {r : Datum × List Char}
    (h : scanWord cs = some r) : r.2.length < cs.length := by
  unfold scanWord at h
  split at h <;> simp_all <;> subst h <;> simp <;> omega

/-- Reads the token that starts a text without leading blanks. -/
def scanToken (r : Rounding) : List Char → Option (Token × List Char)
  | [] => none
  | c :: rest =>
    match punctuation? c with
    | some t => some (t, rest)
    | none =>
      if c == '"' then
        (scanPieces rest).map fun x => (.string ((joinPieces x.1).map String.ofList), x.2)
      else if c == '-' || c.isDigit then (scanNumber r (c :: rest)).map fun x => (.scalar x.1, x.2)
      else (scanWord (c :: rest)).map fun x => (.scalar x.1, x.2)

theorem scanToken_length {r : Rounding} {cs : List Char} {x : Token × List Char}
    (h : scanToken r cs = some x) : x.2.length < cs.length := by
  unfold scanToken at h
  split at h
  · simp at h
  · split at h
    · simp only [Option.some.injEq] at h
      subst h
      simp
    · split at h
      · obtain ⟨s, hs, rfl⟩ := Option.map_eq_some_iff.1 h
        have := scanPieces_length hs
        simp
        omega
      · split at h
        · obtain ⟨s, hs, rfl⟩ := Option.map_eq_some_iff.1 h
          exact scanNumber_length hs
        · obtain ⟨s, hs, rfl⟩ := Option.map_eq_some_iff.1 h
          exact scanWord_length hs

/-- All tokens of a text. -/
def tokens (r : Rounding) (cs : List Char) : List Token :=
  match cs with
  | [] => []
  | c :: rest =>
    if isBlank c then tokens r rest
    else
      match _h : scanToken r (c :: rest) with
      | none => [.bad]
      | some (t, rest') => t :: tokens r rest'
termination_by cs.length
decreasing_by
  · simp
  · have := scanToken_length _h
    simpa using this

end Compositor.Json
