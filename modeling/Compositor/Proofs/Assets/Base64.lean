import Compositor.Assets.Base64
import Compositor.Proofs.Datum.Records

/-! # Base64 is read as it is written

Three bytes and four symbols hold the same twenty-four bits, so that each determines the other.
The last group can be shorter: then the bits that its symbols have in excess are zero, and
padding signs stand for the missing symbols.  Reading checks both, which is why a text is
accepted only if it is the one that is written for its bytes (`decode_eq_ok`).
-/

namespace Compositor.Base64

variable {offset : Nat}

/-! ## Symbols -/

/-- The alphabet is four rows of consecutive codes, the last two of which are not joined. -/
theorem toNat_symbol {v : Nat} (small : v < 64) :
    (symbol v).toNat = if v < 26 then v + 65 else if v < 52 then v + 71
      else if v < 62 then v - 4 else if v = 62 then 43 else 47 := by
  unfold symbol
  split
  · rw [UInt8.toNat_ofNat']
    omega
  · split
    · rw [UInt8.toNat_ofNat']
      omega
    · split
      · rw [UInt8.toNat_ofNat']
        omega
      · split <;> rfl

theorem value?_symbol {v : Nat} (small : v < 64) : value? (symbol v) = some v := by
  simp only [value?, toNat_symbol small]
  grind

theorem lt_of_value? {b : UInt8} {v : Nat} (value : value? b = some v) : v < 64 := by
  simp only [value?] at value
  grind

theorem symbol_of_value? {b : UInt8} {v : Nat} (value : value? b = some v) : symbol v = b := by
  apply UInt8.toNat_inj.mp
  rw [toNat_symbol (lt_of_value? value)]
  simp only [value?] at value
  grind

theorem symbol_ne_padding {v : Nat} (small : v < 64) : symbol v ≠ padding := by
  intro same
  have value := value?_symbol small
  rw [same] at value
  cases value

theorem valueAt_symbol {v : Nat} (small : v < 64) : valueAt offset (symbol v) = .ok v := by
  rw [valueAt, value?_symbol small]

theorem valueAt_eq_ok {b : UInt8} {v : Nat} (value : valueAt offset b = .ok v) :
    v < 64 ∧ symbol v = b := by
  rw [valueAt] at value
  split at value
  · next found =>
    cases value
    exact ⟨lt_of_value? found, symbol_of_value? found⟩
  · cases value

/-! ## Bits -/

theorem toNat_byte1 {a b : Nat} (first : a < 64) (second : b < 64) :
    (byte1 a b).toNat = a * 4 + b / 16 := by
  rw [byte1, UInt8.toNat_ofNat']
  omega

theorem toNat_byte2 {b c : Nat} (third : c < 64) :
    (byte2 b c).toNat = b % 16 * 16 + c / 4 := by
  rw [byte2, UInt8.toNat_ofNat']
  omega

theorem toNat_byte3 {c d : Nat} (fourth : d < 64) : (byte3 c d).toNat = c % 4 * 64 + d := by
  rw [byte3, UInt8.toNat_ofNat']
  omega

/-- A byte is put together from its first six bits and its last two, whatever follows these. -/
theorem byte1_split (a : UInt8) {k : Nat} (small : k < 16) :
    byte1 (a.toNat / 4) (a.toNat % 4 * 16 + k) = a := by
  have bound := a.toNat_lt
  apply UInt8.toNat_inj.mp
  rw [toNat_byte1 (by omega) (by omega)]
  omega

theorem byte2_split (b : UInt8) (high : Nat) {k : Nat} (small : k < 4) :
    byte2 (high * 16 + b.toNat / 16) (b.toNat % 16 * 4 + k) = b := by
  have bound := b.toNat_lt
  apply UInt8.toNat_inj.mp
  rw [toNat_byte2 (by omega)]
  omega

theorem byte3_split (c : UInt8) (high : Nat) :
    byte3 (high * 4 + c.toNat / 64) (c.toNat % 64) = c := by
  have bound := c.toNat_lt
  apply UInt8.toNat_inj.mp
  rw [toNat_byte3 (by omega)]
  omega

/-! ## The last group -/

/-- Symbols and then padding signs are taken as what they are, if padding may stand there. -/
theorem lastSymbols_append {values : List Nat} (small : ∀ v ∈ values, v < 64) (symbols : List Nat)
    {count : Nat} (enough : count = 0 ∨ 2 ≤ (symbols ++ values).length) :
    lastSymbols offset symbols 0 (values.map symbol ++ List.replicate count padding) =
      .ok (symbols ++ values, count) := by
  induction values generalizing symbols with
  | nil =>
    have signs : ∀ before, lastSymbols offset symbols before (List.replicate count padding) =
        .ok (symbols, before + count) := by
      intro before
      induction count generalizing before with
      | zero => rfl
      | succ count inductionHypothesis =>
        have two : ¬ symbols.length < 2 := by
          rw [List.append_nil] at enough
          omega
        rw [List.replicate_succ, lastSymbols, if_pos rfl, if_neg two,
          inductionHypothesis (.inr (by rw [List.append_nil]; omega))]
        congr 2
        omega
    rw [List.map_nil, List.nil_append, List.append_nil, signs, Nat.zero_add]
  | cons v values inductionHypothesis =>
    obtain ⟨here, small⟩ := List.forall_mem_cons.mp small
    rw [List.map_cons, List.cons_append, lastSymbols, if_neg (symbol_ne_padding here),
      if_neg (Nat.lt_irrefl 0), valueAt_symbol here]
    dsimp only
    rw [inductionHypothesis small, List.append_assoc, List.singleton_append]
    rwa [List.append_assoc, List.singleton_append]

/-- What is taken is symbols and then padding signs. -/
theorem lastSymbols_eq_ok {symbols found : List Nat} {paddings count : Nat} {bs : List UInt8}
    (read : lastSymbols offset symbols paddings bs = .ok (found, count)) :
    ∃ values more, (∀ v ∈ values, v < 64) ∧
      bs = values.map symbol ++ List.replicate more padding ∧
      found = symbols ++ values ∧ count = paddings + more ∧ (0 < paddings → values = []) := by
  induction bs generalizing symbols paddings with
  | nil =>
    cases read
    exact ⟨[], 0, by simp, rfl, (List.append_nil _).symm, rfl, fun _ => rfl⟩
  | cons b bs inductionHypothesis =>
    rw [lastSymbols] at read
    split at read
    · next sign =>
      split at read
      · cases read
      · -- Behind a padding sign there are only padding signs.
        obtain ⟨values, more, -, rest, same, total, none⟩ := inductionHypothesis read
        obtain rfl := none (Nat.succ_pos _)
        exact ⟨[], more + 1, by simp, by rw [rest, sign]; rfl, same, by omega, fun _ => rfl⟩
    · split at read
      · cases read
      · next noneBefore =>
        split at read
        · next v value =>
          obtain ⟨small, rfl⟩ := valueAt_eq_ok value
          obtain ⟨values, more, others, rest, same, total, -⟩ := inductionHypothesis read
          refine ⟨v :: values, more, List.forall_mem_cons.mpr ⟨small, others⟩, ?_, ?_, total,
            fun some => absurd some noneBefore⟩
          · rw [rest, List.map_cons, List.cons_append]
          · rw [same, List.append_assoc, List.singleton_append]
        · cases read

theorem decodeLast_two {a b : Nat} (first : a < 64) (second : b < 64) (rest : b % 16 = 0) :
    decodeLast offset [symbol a, symbol b, padding, padding] = .ok [byte1 a b] := by
  have small : ∀ v ∈ [a, b], v < 64 := by simp [first, second]
  have taken := @lastSymbols_append offset [a, b] small [] 2 (.inr (by simp))
  have group : [symbol a, symbol b, padding, padding] =
      [a, b].map symbol ++ List.replicate 2 padding := rfl
  rw [decodeLast, group, taken]
  exact if_pos rest

theorem decodeLast_three {a b c : Nat} (first : a < 64) (second : b < 64) (third : c < 64)
    (rest : c % 4 = 0) :
    decodeLast offset [symbol a, symbol b, symbol c, padding] = .ok [byte1 a b, byte2 b c] := by
  have small : ∀ v ∈ [a, b, c], v < 64 := by simp [first, second, third]
  have taken := @lastSymbols_append offset [a, b, c] small [] 1 (.inr (by simp))
  have group : [symbol a, symbol b, symbol c, padding] =
      [a, b, c].map symbol ++ List.replicate 1 padding := rfl
  rw [decodeLast, group, taken]
  exact if_pos rest

theorem decodeLast_four {a b c d : Nat} (first : a < 64) (second : b < 64) (third : c < 64)
    (fourth : d < 64) :
    decodeLast offset [symbol a, symbol b, symbol c, symbol d] =
      .ok [byte1 a b, byte2 b c, byte3 c d] := by
  have small : ∀ v ∈ [a, b, c, d], v < 64 := by simp [first, second, third, fourth]
  have taken := @lastSymbols_append offset [a, b, c, d] small [] 0 (.inl rfl)
  have group : [symbol a, symbol b, symbol c, symbol d] =
      [a, b, c, d].map symbol ++ List.replicate 0 padding := rfl
  rw [decodeLast, group, taken]
  rfl

/-! ## Whole texts -/

theorem encode_byte {a b : Nat} (first : a < 64) (second : b < 64) (rest : b % 16 = 0) :
    encode [byte1 a b] = [symbol a, symbol b, padding, padding] := by
  have high : (byte1 a b).toNat / 4 = a := by
    rw [toNat_byte1 first second]
    omega
  have low : (byte1 a b).toNat % 4 * 16 = b := by
    rw [toNat_byte1 first second]
    omega
  rw [encode, high, low]

theorem encode_pair {a b c : Nat} (first : a < 64) (second : b < 64) (third : c < 64)
    (rest : c % 4 = 0) :
    encode [byte1 a b, byte2 b c] = [symbol a, symbol b, symbol c, padding] := by
  have high : (byte1 a b).toNat / 4 = a := by
    rw [toNat_byte1 first second]
    omega
  have middle : (byte1 a b).toNat % 4 * 16 + (byte2 b c).toNat / 16 = b := by
    rw [toNat_byte1 first second, toNat_byte2 third]
    omega
  have low : (byte2 b c).toNat % 16 * 4 = c := by
    rw [toNat_byte2 third]
    omega
  rw [encode, high, middle, low]

/-- Four symbols are those of the three bytes that they are put together to. -/
theorem encode_triple {a b c d : Nat} (first : a < 64) (second : b < 64) (third : c < 64)
    (fourth : d < 64) (bytes : List UInt8) :
    encode (byte1 a b :: byte2 b c :: byte3 c d :: bytes) =
      symbol a :: symbol b :: symbol c :: symbol d :: encode bytes := by
  have v1 : (byte1 a b).toNat / 4 = a := by
    rw [toNat_byte1 first second]
    omega
  have v2 : (byte1 a b).toNat % 4 * 16 + (byte2 b c).toNat / 16 = b := by
    rw [toNat_byte1 first second, toNat_byte2 third]
    omega
  have v3 : (byte2 b c).toNat % 16 * 4 + (byte3 c d).toNat / 64 = c := by
    rw [toNat_byte2 third, toNat_byte3 fourth]
    omega
  have v4 : (byte3 c d).toNat % 64 = d := by
    rw [toNat_byte3 fourth]
    omega
  rw [encode, v1, v2, v3, v4]

theorem length_encode (bytes : List UInt8) : (encode bytes).length % 4 = 0 := by
  fun_induction encode bytes with
  | case1 | case2 | case3 => simp
  | case4 a b c rest inductionHypothesis =>
    simp only [List.length_cons]
    omega

theorem strayByte?_encode (bytes : List UInt8) : strayByte? (encode bytes) = none := by
  have whole : ¬ (encode bytes).length % 4 = 1 := by
    rw [length_encode]
    decide
  rw [strayByte?]
  split
  · exact if_neg fun stray => whole stray.1
  · rfl

theorem decodeFrom_encode (bytes : List UInt8) : decodeFrom offset (encode bytes) = .ok bytes := by
  fun_induction encode bytes generalizing offset with
  | case1 => rfl
  | case2 a =>
    have bound := a.toNat_lt
    have last := @decodeLast_two offset (a.toNat / 4) (a.toNat % 4 * 16)
      (by omega) (by omega) (by omega)
    have whole := byte1_split a (k := 0) (by decide)
    rw [Nat.add_zero] at whole
    rwa [whole] at last
  | case3 a b =>
    have bounds := And.intro a.toNat_lt b.toNat_lt
    have last := @decodeLast_three offset (a.toNat / 4)
      (a.toNat % 4 * 16 + b.toNat / 16) (b.toNat % 16 * 4)
      (by omega) (by omega) (by omega) (by omega)
    have whole := byte2_split b (a.toNat % 4) (k := 0) (by decide)
    rw [Nat.add_zero] at whole
    rwa [byte1_split a (by omega), whole] at last
  | case4 a b c rest inductionHypothesis =>
    have bounds := And.intro a.toNat_lt (And.intro b.toNat_lt c.toNat_lt)
    have first := byte1_split a (k := b.toNat / 16) (by omega)
    have second := byte2_split b (a.toNat % 4) (k := c.toNat / 64) (by omega)
    have third := byte3_split c (b.toNat % 16)
    cases more : encode rest with
    | nil =>
      -- Nothing follows, so these four symbols are the last group.
      have none := @inductionHypothesis offset
      rw [more] at none
      cases none
      have last := @decodeLast_four offset (a.toNat / 4)
        (a.toNat % 4 * 16 + b.toNat / 16) (b.toNat % 16 * 4 + c.toNat / 64)
        (c.toNat % 64) (by omega) (by omega) (by omega) (by omega)
      rwa [first, second, third] at last
    | cons e others =>
      have read := @inductionHypothesis (offset + 4)
      rw [more] at read
      rw [decodeFrom, valueAt_symbol (by omega), valueAt_symbol (by omega),
        valueAt_symbol (by omega), valueAt_symbol (by omega), read]
      change Except.ok (_ :: _ :: _ :: rest) = _
      rw [first, second, third]

theorem encode_of_decodeLast {bs bytes : List UInt8} (read : decodeLast offset bs = .ok bytes) :
    encode bytes = bs := by
  rw [decodeLast] at read
  split at read
  · next none =>
    cases read
    rw [List.isEmpty_iff.mp none]
    rfl
  · obtain ⟨⟨symbols, paddings⟩, taken, made⟩ := exists_of_bind_eq_ok read
    obtain ⟨values, count, small, rfl, rfl, rfl, -⟩ := lastSymbols_eq_ok taken
    dsimp only at made
    split at made
    · cases made
    · split at made
      · cases made
      · next whole =>
        rw [Nat.zero_add, ne_eq, not_not] at whole
        -- Symbols and padding signs are four, so the symbols tell how many signs there are.
        split at made
        · simp only [List.length_cons, List.length_nil] at whole
          obtain rfl : count = 2 := by omega
          split at made
          · next rest =>
            cases made
            exact encode_byte (small _ (by simp)) (small _ (by simp)) rest
          · cases made
        · simp only [List.length_cons, List.length_nil] at whole
          obtain rfl : count = 1 := by omega
          split at made
          · next rest =>
            cases made
            exact encode_pair (small _ (by simp)) (small _ (by simp)) (small _ (by simp)) rest
          · cases made
        · simp only [List.length_cons, List.length_nil] at whole
          obtain rfl : count = 0 := by omega
          cases made
          exact encode_triple (small _ (by simp)) (small _ (by simp)) (small _ (by simp))
            (small _ (by simp)) []
        · cases made

theorem encode_of_decodeFrom {bs bytes : List UInt8} (read : decodeFrom offset bs = .ok bytes) :
    encode bytes = bs := by
  fun_induction decodeFrom offset bs generalizing bytes with
  | case1 offset a b c d e rest inductionHypothesis =>
    obtain ⟨v1, first, read⟩ := exists_of_bind_eq_ok read
    obtain ⟨v2, second, read⟩ := exists_of_bind_eq_ok read
    obtain ⟨v3, third, read⟩ := exists_of_bind_eq_ok read
    obtain ⟨v4, fourth, read⟩ := exists_of_bind_eq_ok read
    obtain ⟨others, more, ⟨⟩⟩ := exists_of_bind_eq_ok read
    obtain ⟨small1, rfl⟩ := valueAt_eq_ok first
    obtain ⟨small2, rfl⟩ := valueAt_eq_ok second
    obtain ⟨small3, rfl⟩ := valueAt_eq_ok third
    obtain ⟨small4, rfl⟩ := valueAt_eq_ok fourth
    rw [encode_triple small1 small2 small3 small4, inductionHypothesis more]
  | case2 offset last short => exact encode_of_decodeLast read

/-- A text is accepted exactly if it is the one that is written for the bytes. -/
theorem decode_eq_ok {bs bytes : List UInt8} : decode bs = .ok bytes ↔ bs = encode bytes := by
  constructor
  · intro read
    rw [decode] at read
    split at read
    · cases read
    · exact (encode_of_decodeFrom read).symm
  · rintro rfl
    rw [decode, strayByte?_encode]
    exact decodeFrom_encode bytes

end Compositor.Base64
