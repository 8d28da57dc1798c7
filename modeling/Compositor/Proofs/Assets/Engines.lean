import Compositor.Proofs.Assets.Base64
import Mathlib.Data.List.Basic

/-! # Engines that read Base64

To read Base64 is to take the bits of the symbols, six for each, as the bits of bytes, eight for
each (`Denotes`).  Engines can differ in the texts that they accept: padding signs may be missing,
and bits may be left over that are not zero.  A standard engine accepts what is written and refuses
both (`IsStandard`).  That leaves it no choice (`IsStandard.eq_ok`), and `decode` is such an engine
(`isStandard_decode`).
-/

namespace Compositor.Base64

/-! ## Bits -/

/-- The lowest bits of a number, the highest of them first. -/
def bits : Nat → Nat → List Bool
  | 0, _ => []
  | k + 1, n => bits k (n / 2) ++ [n % 2 == 1]

@[simp] theorem length_bits (k n : Nat) : (bits k n).length = k := by
  induction k generalizing n with
  | zero => rfl
  | succ k ih => rw [bits, List.length_append, ih, List.length_singleton]

theorem bits_append {k n : Nat} (small : n < 2 ^ k) (j m : Nat) :
    bits j m ++ bits k n = bits (j + k) (m * 2 ^ k + n) := by
  induction k generalizing n with
  | zero =>
    obtain rfl : n = 0 := by omega
    rw [bits, List.append_nil, Nat.pow_zero, Nat.mul_one, Nat.add_zero, Nat.add_zero]
  | succ k ih =>
    rw [Nat.pow_succ] at small ⊢
    have half : (m * (2 ^ k * 2) + n) / 2 = m * 2 ^ k + n / 2 := by
      rw [← Nat.mul_assoc]
      omega
    have last : (m * (2 ^ k * 2) + n) % 2 = n % 2 := by
      rw [← Nat.mul_assoc]
      omega
    rw [← Nat.add_assoc, bits, bits, half, last, ← ih (by omega), List.append_assoc]

theorem bits_inj {k m n : Nat} (smallM : m < 2 ^ k) (smallN : n < 2 ^ k)
    (same : bits k m = bits k n) : m = n := by
  induction k generalizing m n with
  | zero => omega
  | succ k ih =>
    rw [Nat.pow_succ] at smallM smallN
    obtain ⟨high, low⟩ := List.append_inj same (by simp)
    have halves := ih (by omega) (by omega) high
    rw [List.singleton_inj, Bool.eq_iff_iff, beq_iff_eq, beq_iff_eq] at low
    omega

/-- The bits of some numbers, so many for each. -/
def bitsOf (k : Nat) (values : List Nat) : List Bool := values.flatMap (bits k)

theorem length_bitsOf (k : Nat) (values : List Nat) :
    (bitsOf k values).length = k * values.length := by
  induction values with
  | nil => rfl
  | cons v values ih =>
    rw [bitsOf, List.flatMap_cons, List.length_append, length_bits, ← bitsOf, ih, List.length_cons,
      Nat.mul_succ, Nat.add_comm]

theorem bitsOf_inj {k : Nat} {values values' : List Nat} (small : ∀ v ∈ values, v < 2 ^ k)
    (small' : ∀ v ∈ values', v < 2 ^ k) (length : values.length = values'.length)
    (same : bitsOf k values = bitsOf k values') : values = values' := by
  induction values generalizing values' with
  | nil => exact (List.length_eq_zero_iff.mp length.symm).symm
  | cons v values ih =>
    cases values' with
    | nil => cases length
    | cons v' values' =>
      obtain ⟨first, others⟩ := List.append_inj same (by simp)
      rw [List.forall_mem_cons] at small small'
      rw [bits_inj small.1 small'.1 first,
        ih small.2 small'.2 (Nat.succ.inj length) others]

/-! ## Readings -/

/-- The text consists of symbols with some values and of padding signs.  The bits of the values are
    those of the bytes, and some that are left over, too few for another symbol. -/
structure Denotes (text bytes : List UInt8) (values : List Nat) (paddings : Nat)
    (rest : List Bool) : Prop where
  text : text = values.map symbol ++ List.replicate paddings padding
  small : ∀ v ∈ values, v < 2 ^ 6
  bits : bitsOf 6 values = bitsOf 8 (bytes.map UInt8.toNat) ++ rest
  few : rest.length < 6

/-- The engine reads what is written, and reads it from nothing else but a text for it that is
    padded and has no bits of its own. -/
structure IsStandard (engine : Engine) : Prop where
  reads : ∀ bytes, engine (encode bytes) = .ok bytes
  denotes : ∀ {text bytes}, engine text = .ok bytes →
    ∃ values paddings rest, Denotes text bytes values paddings rest
  /-- The padding is canonical: it fills the symbols up to a multiple of four. -/
  padded : ∀ {text bytes values paddings rest}, engine text = .ok bytes →
    Denotes text bytes values paddings rest →
      (values.length + paddings) % 4 = 0 ∧ paddings < 4
  /-- Bits that are left over are zero. -/
  trimmed : ∀ {text bytes values paddings rest}, engine text = .ok bytes →
    Denotes text bytes values paddings rest → true ∉ rest

variable {text text' bytes : List UInt8} {values values' : List Nat} {paddings paddings' : Nat}
  {rest rest' : List Bool}

theorem Denotes.length (denotes : Denotes text bytes values paddings rest) :
    6 * values.length = 8 * bytes.length + rest.length := by
  have lengths := congrArg List.length denotes.bits
  rwa [length_bitsOf, List.length_append, length_bitsOf, List.length_map] at lengths

/-- There is no more than one text for bytes that is padded and has no bits of its own. -/
theorem Denotes.unique (denotes : Denotes text bytes values paddings rest)
    (denotes' : Denotes text' bytes values' paddings' rest')
    (padded : (values.length + paddings) % 4 = 0 ∧ paddings < 4)
    (padded' : (values'.length + paddings') % 4 = 0 ∧ paddings' < 4)
    (trimmed : true ∉ rest) (trimmed' : true ∉ rest') : text = text' := by
  have lengths := And.intro denotes.length denotes'.length
  have fews := And.intro denotes.few denotes'.few
  have zeros : ∀ {bs : List Bool}, true ∉ bs → bs = List.replicate bs.length false := by
    intro bs clear
    refine List.eq_replicate_iff.mpr ⟨rfl, fun bit mem => ?_⟩
    cases bit with
    | false => rfl
    | true => exact absurd mem clear
  have sameRest : rest = rest' := by
    rw [zeros trimmed, zeros trimmed', show rest.length = rest'.length by omega]
  have sameValues : values = values' := by
    refine bitsOf_inj denotes.small denotes'.small (by omega) ?_
    rw [denotes.bits, denotes'.bits, sameRest]
  have samePaddings : paddings = paddings' := by
    rw [sameValues] at padded
    omega
  rw [denotes.text, denotes'.text, sameValues, samePaddings]

theorem filterMap_value? (small : ∀ v ∈ values, v < 2 ^ 6) :
    (values.map symbol).filterMap value? = values := by
  rw [List.filterMap_map]
  refine (List.filterMap_congr fun v mem => ?_).trans List.filterMap_some
  exact value?_symbol (small v mem)

/-- A text has no more than one reading as bytes. -/
theorem Denotes.reading_unique (denotes : Denotes text bytes values paddings rest)
    (denotes' : Denotes text bytes values' paddings' rest') :
    values = values' ∧ paddings = paddings' ∧ rest = rest' := by
  -- The symbols of a text end where its padding begins.
  have symbols : ∀ {values paddings rest}, Denotes text bytes values paddings rest →
      text.takeWhile (· != padding) = values.map symbol := by
    intro values paddings rest denotes
    have none : (List.replicate paddings padding).takeWhile (· != padding) = [] := by
      cases paddings with
      | zero => rfl
      | succ n => exact List.takeWhile_cons_of_neg (by simp)
    rw [denotes.text, List.takeWhile_append_of_pos, none, List.append_nil]
    intro b mem
    obtain ⟨v, among, rfl⟩ := List.mem_map.mp mem
    exact bne_iff_ne.mpr (symbol_ne_padding (denotes.small v among))
  have sameValues : values = values' := by
    rw [← filterMap_value? denotes.small, ← symbols denotes, symbols denotes',
      filterMap_value? denotes'.small]
  subst sameValues
  have texts := congrArg List.length (denotes.text.symm.trans denotes'.text)
  have bits := denotes.bits.symm.trans denotes'.bits
  exact ⟨rfl, by simpa using texts, List.append_cancel_left bits⟩

/-! ## Written texts -/

/-- What is written denotes the bytes, padded and without bits of its own. -/
theorem denotes_encode (bytes : List UInt8) :
    ∃ values paddings rest, Denotes (encode bytes) bytes values paddings rest ∧
      ((values.length + paddings) % 4 = 0 ∧ paddings < 4) ∧ true ∉ rest := by
  fun_induction encode bytes with
  | case1 => exact ⟨[], 0, [], ⟨rfl, List.forall_mem_nil _, rfl, by decide⟩, by decide, by decide⟩
  | case2 a =>
    have bound := a.toNat_lt
    have small : a.toNat / 4 < 2 ^ 6 ∧ a.toNat % 4 * 16 < 2 ^ 6 := by omega
    refine ⟨[a.toNat / 4, a.toNat % 4 * 16], 2, bits 4 0, ⟨rfl, ?_, ?_, by decide⟩,
      ⟨by simp, by decide⟩, by decide⟩
    · simpa using small
    · simp only [bitsOf, List.map_cons, List.map_nil, List.flatMap_cons, List.flatMap_nil,
        List.append_nil]
      rw [bits_append small.2, bits_append (by decide)]
      exact congrArg (bits 12) (by omega)
  | case3 a b =>
    have bounds := And.intro a.toNat_lt b.toNat_lt
    have small : a.toNat / 4 < 2 ^ 6 ∧ a.toNat % 4 * 16 + b.toNat / 16 < 2 ^ 6 ∧
        b.toNat % 16 * 4 < 2 ^ 6 := by omega
    refine ⟨[a.toNat / 4, a.toNat % 4 * 16 + b.toNat / 16, b.toNat % 16 * 4], 1, bits 2 0,
      ⟨rfl, ?_, ?_, by decide⟩, ⟨by simp, by decide⟩, by decide⟩
    · simpa using small
    · simp only [bitsOf, List.map_cons, List.map_nil, List.flatMap_cons, List.flatMap_nil,
        List.append_nil, List.append_assoc]
      rw [bits_append small.2.2, bits_append (by omega), bits_append (by decide),
        bits_append (by omega)]
      exact congrArg (bits 18) (by omega)
  | case4 a b c rest ih =>
    have bounds := And.intro a.toNat_lt (And.intro b.toNat_lt c.toNat_lt)
    have small : a.toNat / 4 < 2 ^ 6 ∧ a.toNat % 4 * 16 + b.toNat / 16 < 2 ^ 6 ∧
        b.toNat % 16 * 4 + c.toNat / 64 < 2 ^ 6 ∧ c.toNat % 64 < 2 ^ 6 := by omega
    let sextets := [a.toNat / 4, a.toNat % 4 * 16 + b.toNat / 16,
      b.toNat % 16 * 4 + c.toNat / 64, c.toNat % 64]
    have group : bitsOf 6 sextets = bitsOf 8 [a.toNat, b.toNat, c.toNat] := by
      simp only [sextets, bitsOf, List.flatMap_cons, List.flatMap_nil, List.append_nil]
      rw [bits_append small.2.2.2, bits_append (by omega), bits_append (by omega),
        bits_append c.toNat_lt, bits_append (by omega)]
      exact congrArg (bits 24) (by omega)
    obtain ⟨values, paddings, left, denotes, padded, trimmed⟩ := ih
    refine ⟨sextets ++ values, paddings, left, ⟨?_, ?_, ?_, denotes.few⟩, ⟨?_, padded.2⟩, trimmed⟩
    · rw [List.map_append, List.append_assoc, ← denotes.text]
      rfl
    · exact List.forall_mem_append.mpr ⟨by simpa [sextets] using small, denotes.small⟩
    · rw [bitsOf, List.flatMap_append, ← bitsOf, ← bitsOf, group, denotes.bits, ← List.append_assoc]
      rfl
    · rw [List.length_append, Nat.add_assoc]
      exact (Nat.add_mod_left 4 _).trans padded.1

/-! ## Standard engines -/

/-- A standard engine accepts a text exactly if it is the one that is written for the bytes. -/
theorem IsStandard.eq_ok {engine : Engine} (standard : IsStandard engine) :
    engine text = .ok bytes ↔ text = encode bytes := by
  constructor
  · intro read
    obtain ⟨values, paddings, rest, denotes⟩ := standard.denotes read
    obtain ⟨values', paddings', rest', denotes', padded', trimmed'⟩ := denotes_encode bytes
    exact denotes.unique denotes' (standard.padded read denotes) padded'
      (standard.trimmed read denotes) trimmed'
  · rintro rfl
    exact standard.reads bytes

theorem isStandard_decode : IsStandard decode := by
  have canonical : ∀ {text bytes values paddings rest}, decode text = .ok bytes →
      Denotes text bytes values paddings rest →
        ((values.length + paddings) % 4 = 0 ∧ paddings < 4) ∧ true ∉ rest := by
    intro text bytes values paddings rest read denotes
    obtain rfl := decode_eq_ok.mp read
    obtain ⟨values', paddings', rest', denotes', canonical⟩ := denotes_encode bytes
    obtain ⟨rfl, rfl, rfl⟩ := denotes.reading_unique denotes'
    exact canonical
  constructor
  case reads => exact fun bytes => decode_eq_ok.mpr rfl
  case denotes =>
    intro text bytes read
    obtain rfl := decode_eq_ok.mp read
    obtain ⟨values, paddings, rest, denotes, -⟩ := denotes_encode bytes
    exact ⟨values, paddings, rest, denotes⟩
  case padded => exact fun read denotes => (canonical read denotes).1
  case trimmed => exact fun read denotes => (canonical read denotes).2

end Compositor.Base64
