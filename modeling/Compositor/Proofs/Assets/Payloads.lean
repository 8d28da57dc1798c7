import Compositor.Assets.Embedded
import Compositor.Proofs.Assets.Engines
import Compositor.Url.Percent
import Mathlib.Data.List.DropRight
import Mathlib.Data.List.TakeDrop

/-! # What embedded assets hold

An embedded asset is given by a text: bare Base64, a data URI with Base64 behind its comma, or a
data URI with the bytes as they are.  Base64 may have blank characters in it and is read
exactly otherwise, whatever standard engine reads it (`Embedded.decodeWith_base64`), and in
particular by the one that is used (`Embedded.decode_base64`).  Without Base64 the
percent-encoding that data URIs prescribe is kept, so that the bytes are those that are meant only
if none of them had to be encoded (`Embedded.decode_plainUri`).
-/

namespace Compositor

namespace Text

/-! ## Texts and their bytes -/

/-- The character whose code is the byte. -/
def charOfByte (b : UInt8) : Char := Char.ofNat b.toNat

theorem toNat_charOfByte (b : UInt8) : (charOfByte b).toNat = b.toNat := by
  have bound := b.toNat_lt
  have valid : b.toNat.isValidChar := .inl (by omega)
  rw [charOfByte, Char.ofNat, dif_pos valid]
  rfl

theorem toNat_of_isAlphanum {c : Char} (word : c.isAlphanum = true) :
    48 ≤ c.toNat ∧ c.toNat ≤ 57 ∨ 65 ≤ c.toNat ∧ c.toNat ≤ 90 ∨ 97 ≤ c.toNat ∧ c.toNat ≤ 122 := by
  change ((decide ('A'.val ≤ c.val ∧ c.val ≤ 'Z'.val)
    || (decide ('a'.val ≤ c.val) && decide (c.val ≤ 'z'.val)))
    || (decide ('0'.val ≤ c.val) && decide (c.val ≤ '9'.val))) = true at word
  simp only [UInt32.le_iff_toNat_le, Bool.or_eq_true, Bool.and_eq_true,
    decide_eq_true_eq, Char.toNat_val, Char.reduceToNat] at word
  omega

theorem utf8EncodeChar_charOfByte {b : UInt8} (ascii : b.toNat < 128) :
    String.utf8EncodeChar (charOfByte b) = [b] := by
  have code : (charOfByte b).val.toNat = b.toNat := toNat_charOfByte b
  have short : (charOfByte b).utf8Size = 1 := by
    refine if_pos ?_
    rw [UInt32.le_iff_toNat_le, code]
    exact Nat.le_of_lt_succ ascii
  rw [String.utf8EncodeChar_eq_singleton short, List.singleton_inj]
  apply UInt8.toNat_inj.mp
  rw [UInt32.toNat_toUInt8, code]
  omega

theorem utf8_ofList (cs : List Char) :
    utf8 (String.ofList cs) = cs.flatMap String.utf8EncodeChar := by
  rw [utf8, String.toList_ofList]

/-- A text of ASCII characters has their codes as its bytes. -/
theorem utf8_ascii {bs : List UInt8} (ascii : ∀ b ∈ bs, b.toNat < 128) :
    utf8 (String.ofList (bs.map charOfByte)) = bs := by
  rw [utf8_ofList, List.flatMap_map]
  induction bs with
  | nil => rfl
  | cons b bs inductionHypothesis =>
    obtain ⟨here, others⟩ := List.forall_mem_cons.mp ascii
    rw [List.flatMap_cons, utf8EncodeChar_charOfByte here, inductionHypothesis others]
    rfl

theorem utf8_injective : Function.Injective utf8 := by
  intro s t same
  have encoded : s.toList.utf8Encode = t.toList.utf8Encode := congrArg List.toByteArray same
  rw [← String.toByteArray_ofList, ← String.toByteArray_ofList, String.toByteArray_inj,
    String.ofList_toList, String.ofList_toList] at encoded
  exact encoded

/-! ## Blank characters -/

/-- The characters that are not blank. -/
def inked (cs : List Char) : List Char := cs.filter fun c => !isBlank c

/-- The second text is the first one with blank characters put in. -/
inductive Spaced : List Char → List Char → Prop
  | nil : Spaced [] []
  | blank {c : Char} {cs ds : List Char} (isBlank : Text.isBlank c = true) (rest : Spaced cs ds) :
      Spaced cs (c :: ds)
  | char {c : Char} {cs ds : List Char} (rest : Spaced cs ds) : Spaced (c :: cs) (c :: ds)

theorem inked_of_notBlank {cs : List Char} (solid : ∀ c ∈ cs, isBlank c = false) :
    inked cs = cs := List.filter_eq_self.mpr fun c mem => by rw [solid c mem]; rfl

theorem Spaced.inked_eq {cs ds : List Char} (spaced : Spaced cs ds) : inked ds = inked cs := by
  induction spaced with
  | nil => rfl
  | blank isBlank rest inductionHypothesis =>
    rw [inked, List.filter_cons_of_neg (by simp [isBlank])]
    exact inductionHypothesis
  | @char c cs ds rest inductionHypothesis =>
    simp only [inked] at inductionHypothesis
    rw [inked, inked, List.filter_cons, List.filter_cons, inductionHypothesis]

theorem inked_dropWhile (cs : List Char) : inked (cs.dropWhile isBlank) = inked cs := by
  induction cs with
  | nil => rfl
  | cons c cs inductionHypothesis =>
    by_cases blank : isBlank c = true
    · rw [List.dropWhile_cons_of_pos blank, inductionHypothesis, inked, inked,
        List.filter_cons_of_neg (by simp [blank])]
    · rw [List.dropWhile_cons_of_neg blank]

theorem inked_rdropWhile (cs : List Char) : inked (cs.rdropWhile isBlank) = inked cs := by
  have turned := inked_dropWhile cs.reverse
  rw [inked, inked, List.filter_reverse] at turned
  rw [List.rdropWhile, inked, List.filter_reverse, turned, List.reverse_reverse]
  rfl

theorem inked_trimChars (cs : List Char) : inked (trimChars cs) = inked cs :=
  (inked_rdropWhile _).trans (inked_dropWhile cs)

theorem mem_of_mem_trimChars {cs : List Char} {c : Char} (mem : c ∈ trimChars cs) : c ∈ cs := by
  have inner := (List.dropWhile_sublist isBlank).subset (List.mem_reverse.mp mem)
  exact (List.dropWhile_sublist isBlank).subset (List.mem_reverse.mp inner)

/-- Trimming stops at characters that are not blank. -/
theorem trimChars_of_marks {first mark : Char} (opens : isBlank first = false)
    (closes : isBlank mark = false) (before after : List Char) :
    trimChars (first :: (before ++ mark :: after)) =
      first :: (before ++ mark :: after.rdropWhile isBlank) := by
  have kept : (first :: (before ++ mark :: after)).dropWhile isBlank =
      first :: (before ++ mark :: after) := List.dropWhile_cons_of_neg (by simp [opens])
  have turned : (first :: (before ++ mark :: after)).reverse =
      after.reverse ++ mark :: (first :: before).reverse := by simp
  rw [trimChars, kept, turned, List.dropWhile_append, List.rdropWhile]
  split
  · next none =>
    rw [List.isEmpty_iff.mp none, List.dropWhile_cons_of_neg (by simp [closes])]
    simp
  · simp

end Text

/-! ## The characters of Base64 -/

namespace Base64

/-- Bytes as a Base64 text. -/
def text (bytes : List UInt8) : List Char := (encode bytes).map Text.charOfByte

/-- A byte that Base64 is written with. -/
def IsTextByte (b : UInt8) : Prop := b = padding ∨ ∃ v, v < 64 ∧ symbol v = b

theorem isTextByte_of_mem {bytes : List UInt8} {b : UInt8} (mem : b ∈ encode bytes) :
    IsTextByte b := by
  have sextet : ∀ {v : Nat}, v < 64 → IsTextByte (symbol v) := fun small => .inr ⟨_, small, rfl⟩
  have sign : IsTextByte padding := .inl rfl
  fun_induction encode bytes with
  | case1 => cases mem
  | case2 a =>
    have bound := a.toNat_lt
    simp only [List.mem_cons, List.not_mem_nil, or_false] at mem
    rcases mem with rfl | rfl | rfl | rfl
    · exact sextet (by omega)
    · exact sextet (by omega)
    · exact sign
    · exact sign
  | case3 a b =>
    have bounds := And.intro a.toNat_lt b.toNat_lt
    simp only [List.mem_cons, List.not_mem_nil, or_false] at mem
    rcases mem with rfl | rfl | rfl | rfl
    · exact sextet (by omega)
    · exact sextet (by omega)
    · exact sextet (by omega)
    · exact sign
  | case4 a b c rest inductionHypothesis =>
    have bounds := And.intro a.toNat_lt (And.intro b.toNat_lt c.toNat_lt)
    simp only [List.mem_cons] at mem
    rcases mem with rfl | rfl | rfl | rfl | mem
    · exact sextet (by omega)
    · exact sextet (by omega)
    · exact sextet (by omega)
    · exact sextet (by omega)
    · exact inductionHypothesis mem

theorem IsTextByte.toNat_cases {b : UInt8} (written : IsTextByte b) :
    b.toNat = 43 ∨ 47 ≤ b.toNat ∧ b.toNat ≤ 57 ∨ b.toNat = 61 ∨
      65 ≤ b.toNat ∧ b.toNat ≤ 90 ∨ 97 ≤ b.toNat ∧ b.toNat ≤ 122 := by
  obtain rfl | ⟨v, small, rfl⟩ := written
  · decide
  · rw [toNat_symbol small]
    split
    · omega
    · split
      · omega
      · split
        · omega
        · split <;> omega

theorem isBlank_of_mem_text {bytes : List UInt8} {c : Char} (mem : c ∈ text bytes) :
    Text.isBlank c = false := by
  obtain ⟨b, written, rfl⟩ := List.mem_map.mp mem
  have code := (isTextByte_of_mem written).toNat_cases
  simp only [Text.isBlank, Text.inRanges, Text.blankRanges, Text.toNat_charOfByte, List.any_cons,
    List.any_nil, Bool.or_eq_false_iff, Bool.and_eq_false_iff, decide_eq_false_iff_not, and_true]
  omega

theorem colon_notMem_text (bytes : List UInt8) : ':' ∉ text bytes := by
  intro mem
  obtain ⟨b, written, same⟩ := List.mem_map.mp mem
  have code := (isTextByte_of_mem written).toNat_cases
  have colon : b.toNat = 58 := (Text.toNat_charOfByte b).symm.trans (congrArg Char.toNat same)
  omega

theorem utf8_text (bytes : List UInt8) : Text.utf8 (String.ofList (text bytes)) = encode bytes :=
  Text.utf8_ascii fun _ written => by
    have code := (isTextByte_of_mem written).toNat_cases
    omega

theorem IsStandard.utf8_eq_ok {engine : Engine} (standard : IsStandard engine) {cs : List Char}
    {bytes : List UInt8} :
    engine (Text.utf8 (String.ofList cs)) = .ok bytes ↔ cs = text bytes := by
  rw [standard.eq_ok, ← utf8_text, Text.utf8_injective.eq_iff, String.ofList_inj]

end Base64

/-! ## The digits of percent-encoding -/

namespace Percent

theorem upperHex_facts : ∀ n < 16, String.utf8EncodeChar (Text.upperHex n) =
      [UInt8.ofNat (Text.upperHex n).toNat] ∧
    digit? (UInt8.ofNat (Text.upperHex n).toNat) = some n ∧
    Text.isBlank (Text.upperHex n) = false := by
  decide

theorem decode_cons_of_ne {a : UInt8} (other : a ≠ 0x25) (rest : List UInt8) :
    decode (a :: rest) = a :: decode rest := by
  match rest with
  | [] => rfl
  | [_] => rfl
  | _ :: _ :: _ => rw [decode, if_neg other]

end Percent

namespace Embedded

/-! ## Assets in Base64 -/

variable {engine : Base64.Engine}

theorem bytesOfBase64_eq_ok (standard : Base64.IsStandard engine) {cs : List Char}
    {bytes : List UInt8} :
    bytesOfBase64 engine cs = .ok bytes ↔ Text.inked cs = Base64.text bytes := by
  rw [← standard.utf8_eq_ok, bytesOfBase64]
  change (engine (Text.utf8 (String.ofList (Text.inked cs)))).mapError EmbeddedError.base64 = _ ↔ _
  cases engine (Text.utf8 (String.ofList (Text.inked cs))) <;> simp [Except.mapError]

/-- The media type at the start of the header of a data URI. -/
def mediaType (header : List Char) : String := String.ofList (header.takeWhile (· != ';'))

/-- The text has a payload in Base64, and its file gets the extension. -/
inductive HoldsBase64 : List Char → List Char → String → Prop
  | bare {cs : List Char} (noScheme : ¬ scheme <+: cs) : HoldsBase64 cs cs plainExtension
  | uri {header payload : List Char} (noComma : ',' ∉ header) (marked : base64Mark <:+ header) :
      HoldsBase64 (scheme ++ header ++ ',' :: payload) payload (extension (mediaType header))

/-- The text is a data URI with another payload, and its file gets the extension. -/
inductive HoldsPlain : List Char → List Char → String → Prop
  | uri {header payload : List Char} (noComma : ',' ∉ header) (unmarked : ¬ base64Mark <:+ header) :
      HoldsPlain (scheme ++ header ++ ',' :: payload) payload (extension (mediaType header))

theorem splitAt?_append {mark : Char} {before : List Char} (absent : mark ∉ before)
    (after : List Char) : splitAt? mark (before ++ mark :: after) = some (before, after) := by
  have others : ∀ c ∈ before, (c != mark) = true := by
    intro c mem
    exact bne_iff_ne.mpr fun same => absent (same ▸ mem)
  rw [splitAt?, List.span_eq_takeWhile_dropWhile, List.takeWhile_append_of_pos others,
    List.dropWhile_append_of_pos others, List.takeWhile_cons_of_neg (by simp),
    List.dropWhile_cons_of_neg (by simp), List.append_nil]

theorem eq_append_of_splitAt? {mark : Char} {cs before after : List Char}
    (split : splitAt? mark cs = some (before, after)) :
    cs = before ++ mark :: after ∧ mark ∉ before := by
  rw [splitAt?, List.span_eq_takeWhile_dropWhile] at split
  have whole := (List.takeWhile_append_dropWhile (p := (· != mark)) (l := cs)).symm
  cases rest : cs.dropWhile (· != mark) with
  | nil =>
    rw [rest] at split
    cases split
  | cons c after' =>
    rw [rest] at split whole
    cases split
    -- What stops the search is the mark itself.
    have stops := List.head_dropWhile_not (· != mark) (l := cs) (by simp [rest])
    simp only [rest, List.head_cons, bne_eq_false_iff_eq] at stops
    refine ⟨stops ▸ whole, fun mem => ?_⟩
    have passed := List.mem_takeWhile_imp mem
    simp at passed

theorem decodeWith_uri {data : String} {header payload : List Char}
    (uri : Text.trimChars data.toList = scheme ++ header ++ ',' :: payload)
    (noComma : ',' ∉ header) :
    decodeWith engine data =
      if base64Mark.isSuffixOf header then
        (bytesOfBase64 engine payload).map fun bytes => (bytes, extension (mediaType header))
      else .ok (Text.utf8 (String.ofList payload), extension (mediaType header)) := by
  have starts : scheme.isPrefixOf (scheme ++ header ++ ',' :: payload) = true := by
    rw [List.append_assoc, List.isPrefixOf_iff_prefix]
    exact List.prefix_append _ _
  have rest : (scheme ++ header ++ ',' :: payload).drop scheme.length =
      header ++ ',' :: payload := by
    rw [List.append_assoc, List.drop_left]
  rw [decodeWith, uri]
  dsimp only
  rw [if_pos starts, rest, splitAt?_append noComma]
  rfl

theorem decodeWith_of_holdsBase64 {data ext : String} {payload : List Char}
    (holds : HoldsBase64 (Text.trimChars data.toList) payload ext) :
    decodeWith engine data = (bytesOfBase64 engine payload).map fun bytes => (bytes, ext) := by
  generalize trimmed : Text.trimChars data.toList = cs at holds
  cases holds with
  | bare noScheme =>
    rw [decodeWith, trimmed]
    exact if_neg fun starts => noScheme (List.isPrefixOf_iff_prefix.mp starts)
  | uri noComma marked =>
    rw [decodeWith_uri trimmed noComma, if_pos (List.isSuffixOf_iff_suffix.mpr marked)]

theorem decodeWith_of_holdsPlain {data ext : String} {payload : List Char}
    (holds : HoldsPlain (Text.trimChars data.toList) payload ext) :
    decodeWith engine data = .ok (Text.utf8 (String.ofList payload), ext) := by
  generalize trimmed : Text.trimChars data.toList = cs at holds
  cases holds with
  | uri noComma unmarked =>
    rw [decodeWith_uri trimmed noComma, if_neg (mt List.isSuffixOf_iff_suffix.mp unmarked)]

theorem decodeWith_eq_ok_of_holdsBase64 (standard : Base64.IsStandard engine) {data ext : String}
    {payload : List Char} (holds : HoldsBase64 (Text.trimChars data.toList) payload ext)
    {bytes : List UInt8} {e : String} :
    decodeWith engine data = .ok (bytes, e) ↔
      Text.inked payload = Base64.text bytes ∧ e = ext := by
  rw [decodeWith_of_holdsBase64 holds, ← bytesOfBase64_eq_ok standard]
  cases bytesOfBase64 engine payload <;> simp [Except.map, eq_comm]

/-- What is decoded is in one of the two forms. -/
theorem holds_of_decodeWith (standard : Base64.IsStandard engine) {data : String}
    {bytes : List UInt8} {e : String} (decoded : decodeWith engine data = .ok (bytes, e)) :
    ∃ payload, HoldsBase64 (Text.trimChars data.toList) payload e ∨
      HoldsPlain (Text.trimChars data.toList) payload e := by
  by_cases starts : scheme <+: Text.trimChars data.toList
  · obtain ⟨rest, whole⟩ := starts
    cases split : splitAt? ',' rest with
    | none =>
      rw [decodeWith, ← whole] at decoded
      dsimp only at decoded
      rw [if_pos (List.isPrefixOf_iff_prefix.mpr (List.prefix_append _ _)), List.drop_left,
        split] at decoded
      cases decoded
    | some parts =>
      obtain ⟨header, payload⟩ := parts
      obtain ⟨rfl, noComma⟩ := eq_append_of_splitAt? split
      rw [← List.append_assoc] at whole
      refine ⟨payload, ?_⟩
      by_cases marked : base64Mark <:+ header
      · have holds := @HoldsBase64.uri header payload noComma marked
        rw [whole] at holds
        obtain ⟨-, rfl⟩ := (decodeWith_eq_ok_of_holdsBase64 standard holds).mp decoded
        exact .inl holds
      · have holds := @HoldsPlain.uri header payload noComma marked
        rw [whole] at holds
        rw [decodeWith_of_holdsPlain holds] at decoded
        cases decoded
        exact .inr holds
  · obtain ⟨-, rfl⟩ := (decodeWith_eq_ok_of_holdsBase64 standard (.bare starts)).mp decoded
    exact ⟨_, .inl (.bare starts)⟩

theorem not_scheme_of_spaced {bytes : List UInt8} {cs : List Char}
    (spaced : Text.Spaced (Base64.text bytes) cs) : ¬ scheme <+: Text.trimChars cs := by
  intro starts
  -- The scheme ends in a colon, which is neither blank nor a character of Base64.
  have colon : ':' ∈ cs := Text.mem_of_mem_trimChars (starts.subset (by decide))
  have inked : ':' ∈ Text.inked cs := List.mem_filter.mpr ⟨colon, by decide⟩
  rw [spaced.inked_eq, Text.inked_of_notBlank fun _ => Base64.isBlank_of_mem_text] at inked
  exact Base64.colon_notMem_text bytes inked

/-- The end of a data URI may be trimmed, its header is not. -/
theorem trimChars_uri (header cs : List Char) :
    Text.trimChars (scheme ++ header ++ ',' :: cs) =
      scheme ++ header ++ ',' :: cs.rdropWhile Text.isBlank :=
  @Text.trimChars_of_marks 'd' ',' (by decide) (by decide)
    ("ata:".toList ++ header) cs

/-- A standard engine reads Base64 exactly: bytes are decoded from their Base64 text, with blank
    characters put in anywhere, be it bare or the payload of a data URI; and in these forms nothing
    else is decoded to them. -/
theorem decodeWith_base64 (standard : Base64.IsStandard engine) (bytes : List UInt8) :
    (∀ cs, Text.Spaced (Base64.text bytes) cs →
      decodeWith engine (String.ofList cs) = .ok (bytes, plainExtension)) ∧
    (∀ header cs, ',' ∉ header → base64Mark <:+ header → Text.Spaced (Base64.text bytes) cs →
      decodeWith engine (String.ofList (scheme ++ header ++ ',' :: cs)) =
        .ok (bytes, extension (mediaType header))) ∧
    (∀ data payload ext e, HoldsBase64 (Text.trimChars data.toList) payload ext →
      decodeWith engine data = .ok (bytes, e) →
        Text.inked payload = Base64.text bytes ∧ e = ext) ∧
    ∀ data e, decodeWith engine data = .ok (bytes, e) →
      ∃ payload, HoldsBase64 (Text.trimChars data.toList) payload e ∨
        HoldsPlain (Text.trimChars data.toList) payload e := by
  have solid : Text.inked (Base64.text bytes) = Base64.text bytes :=
    Text.inked_of_notBlank fun _ => Base64.isBlank_of_mem_text
  refine ⟨?_, ?_, fun _ _ _ _ holds => (decodeWith_eq_ok_of_holdsBase64 standard holds).mp,
    fun _ _ => holds_of_decodeWith standard⟩
  · intro cs spaced
    have holds := HoldsBase64.bare (not_scheme_of_spaced spaced)
    rw [← String.toList_ofList (l := cs)] at holds
    refine (decodeWith_eq_ok_of_holdsBase64 standard holds).mpr ⟨?_, rfl⟩
    rw [Text.inked_trimChars, String.toList_ofList, spaced.inked_eq, solid]
  · intro header cs noComma marked spaced
    -- Of the payload only blanks at its end are trimmed away.
    have holds := @HoldsBase64.uri header (cs.rdropWhile Text.isBlank) noComma marked
    rw [← trimChars_uri, ← String.toList_ofList (l := scheme ++ header ++ ',' :: cs)] at holds
    refine (decodeWith_eq_ok_of_holdsBase64 standard holds).mpr ⟨?_, rfl⟩
    rw [Text.inked_rdropWhile, spaced.inked_eq, solid]

/-- Base64 is read exactly: bytes are decoded from their Base64 text, with blank characters put in
    anywhere, be it bare or the payload of a data URI; and in these forms nothing else is decoded
    to them. -/
theorem decode_base64 (bytes : List UInt8) :
    (∀ cs, Text.Spaced (Base64.text bytes) cs →
      decode (String.ofList cs) = .ok (bytes, plainExtension)) ∧
    (∀ header cs, ',' ∉ header → base64Mark <:+ header → Text.Spaced (Base64.text bytes) cs →
      decode (String.ofList (scheme ++ header ++ ',' :: cs)) =
        .ok (bytes, extension (mediaType header))) ∧
    (∀ data payload ext e, HoldsBase64 (Text.trimChars data.toList) payload ext →
      decode data = .ok (bytes, e) → Text.inked payload = Base64.text bytes ∧ e = ext) ∧
    ∀ data e, decode data = .ok (bytes, e) →
      ∃ payload, HoldsBase64 (Text.trimChars data.toList) payload e ∨
        HoldsPlain (Text.trimChars data.toList) payload e :=
  decodeWith_base64 Base64.isStandard_decode bytes

/-- A text broken into two lines, bare and in a data URI, and what is known of it from its bytes. -/
theorem decode_base64_wrapped :
    Text.Spaced (Base64.text [104, 101, 108, 108, 111]) "aGVs\nbG8=".toList ∧
      decode "aGVs\nbG8=" = .ok ([104, 101, 108, 108, 111], "bin") ∧
      decode "data:image/jpeg;base64,aGVs\nbG8=" = .ok ([104, 101, 108, 108, 111], "jpg") ∧
      Text.inked "aGVs\nbG8=".toList = Base64.text [104, 101, 108, 108, 111] := by
  obtain ⟨bare, uri, exactly, -⟩ := decode_base64 [104, 101, 108, 108, 111]
  have text : Base64.text [104, 101, 108, 108, 111] = "aGVsbG8=".toList := by decide
  have spaced : Text.Spaced (Base64.text [104, 101, 108, 108, 111]) "aGVs\nbG8=".toList := by
    rw [text]
    exact .char (.char (.char (.char (.blank (by decide) (.char (.char (.char (.char .nil))))))))
  have decoded := uri "image/jpeg;base64".toList _ (by decide) (by decide) spaced
  have whole : String.ofList (scheme ++ "image/jpeg;base64".toList ++ ',' :: "aGVs\nbG8=".toList) =
      "data:image/jpeg;base64,aGVs\nbG8=" := by decide
  have trimmed : Text.trimChars "data:image/jpeg;base64,aGVs\nbG8=".toList =
      scheme ++ "image/jpeg;base64".toList ++ ',' :: "aGVs\nbG8=".toList := by decide
  have jpg : extension (mediaType "image/jpeg;base64".toList) = "jpg" := by decide
  rw [whole, jpg] at decoded
  have holds : HoldsBase64 (Text.trimChars "data:image/jpeg;base64,aGVs\nbG8=".toList)
      "aGVs\nbG8=".toList (extension (mediaType "image/jpeg;base64".toList)) := by
    rw [trimmed]
    exact .uri (by decide) (by decide)
  exact ⟨spaced, bare _ spaced, decoded, (exactly _ _ _ _ holds decoded).1⟩

/-! ## Assets without Base64 -/

/-- A byte that stands for itself in a URI wherever it occurs. -/
def isUnreserved (b : UInt8) : Bool :=
  let c := Text.charOfByte b
  c.isAlphanum || c == '-' || c == '.' || c == '_' || c == '~'

/-- A byte as it is written in a URI. -/
def percentChars (b : UInt8) : List Char :=
  if isUnreserved b then [Text.charOfByte b] else Percent.encodeByte b

/-- The data URI of bytes that are not put into Base64. -/
def plainUri (mime : List Char) (bytes : List UInt8) : String :=
  String.ofList (scheme ++ mime ++ ',' :: bytes.flatMap percentChars)

theorem toNat_of_isUnreserved {b : UInt8} (unreserved : isUnreserved b = true) :
    b.toNat < 128 ∧ b.toNat ≠ 0x25 ∧ Text.isBlank (Text.charOfByte b) = false := by
  have code := Text.toNat_charOfByte b
  have ascii : b.toNat = 45 ∨ b.toNat = 46 ∨ b.toNat = 95 ∨ b.toNat = 126 ∨
      48 ≤ b.toNat ∧ b.toNat ≤ 57 ∨ 65 ≤ b.toNat ∧ b.toNat ≤ 90 ∨
        97 ≤ b.toNat ∧ b.toNat ≤ 122 := by
    simp only [isUnreserved, Bool.or_eq_true, beq_iff_eq, ← Char.toNat_inj, code,
      Char.reduceToNat] at unreserved
    obtain (((word | dash) | dot) | line) | tilde := unreserved
    · have letter := Text.toNat_of_isAlphanum word
      omega
    all_goals omega
  refine ⟨by omega, by omega, ?_⟩
  simp only [Text.isBlank, Text.inRanges, Text.blankRanges, code, List.any_cons,
    List.any_nil, Bool.or_eq_false_iff, Bool.and_eq_false_iff, decide_eq_false_iff_not, and_true]
  omega

/-- The bytes of what is written for a byte. -/
theorem utf8_percentChars (b : UInt8) :
    ∃ high low, (percentChars b).flatMap String.utf8EncodeChar =
        (if isUnreserved b then [b] else [0x25, high, low]) ∧
      Percent.digit? high = some (b.toNat / 16) ∧ Percent.digit? low = some (b.toNat % 16) := by
  have bound := b.toNat_lt
  obtain ⟨encodedHigh, valueHigh, -⟩ := Percent.upperHex_facts (b.toNat / 16) (by omega)
  obtain ⟨encodedLow, valueLow, -⟩ := Percent.upperHex_facts (b.toNat % 16) (by omega)
  refine ⟨_, _, ?_, valueHigh, valueLow⟩
  rw [percentChars]
  split
  · next unreserved =>
    have ascii := (toNat_of_isUnreserved unreserved).1
    rw [List.flatMap_singleton, Text.utf8EncodeChar_charOfByte ascii]
  · rw [Percent.encodeByte, List.flatMap_cons, List.flatMap_cons, List.flatMap_cons, encodedHigh,
      encodedLow]
    rfl

/-- Percent-encoded bytes are decoded to themselves, and take more room if any of them had to be
    encoded. -/
theorem decode_percentChars (bytes : List UInt8) :
    Percent.decode (bytes.flatMap percentChars |>.flatMap String.utf8EncodeChar) = bytes ∧
      (bytes.flatMap percentChars |>.flatMap String.utf8EncodeChar).length =
        bytes.length + 2 * bytes.countP fun b => !isUnreserved b := by
  induction bytes with
  | nil => exact ⟨rfl, rfl⟩
  | cons b bytes inductionHypothesis =>
    obtain ⟨decoded, size⟩ := inductionHypothesis
    obtain ⟨high, low, written, valueHigh, valueLow⟩ := utf8_percentChars b
    rw [List.flatMap_cons, List.flatMap_append, written]
    by_cases unreserved : isUnreserved b = true
    · have other := (toNat_of_isUnreserved unreserved).2.1
      rw [if_pos unreserved, List.singleton_append,
        Percent.decode_cons_of_ne fun same => other (congrArg UInt8.toNat same), decoded,
        List.countP_cons_of_neg (by simp [unreserved]), List.length_cons, List.length_cons, size]
      exact ⟨rfl, by omega⟩
    · have whole : UInt8.ofNat (b.toNat / 16 * 16 + b.toNat % 16) = b := by
        rw [Nat.div_add_mod']
        exact UInt8.ofNat_toNat
      rw [if_neg unreserved, List.countP_cons_of_pos (by simp [unreserved])]
      simp only [List.cons_append, List.nil_append, List.length_cons]
      rw [Percent.decode, if_pos rfl, valueHigh, valueLow, size]
      simp only [whole, decoded]
      exact ⟨trivial, by omega⟩

theorem isBlank_of_mem_percentChars {b : UInt8} {c : Char} (mem : c ∈ percentChars b) :
    Text.isBlank c = false := by
  have bound := b.toNat_lt
  rw [percentChars] at mem
  split at mem
  · next unreserved =>
    rw [List.mem_singleton.mp mem]
    exact (toNat_of_isUnreserved unreserved).2.2
  · simp only [Percent.encodeByte, List.mem_cons, List.not_mem_nil, or_false] at mem
    rcases mem with rfl | rfl | rfl
    · decide
    · exact (Percent.upperHex_facts (b.toNat / 16) (by omega)).2.2
    · exact (Percent.upperHex_facts (b.toNat % 16) (by omega)).2.2

theorem trimChars_plainUri (mime : List Char) (bytes : List UInt8) :
    Text.trimChars (plainUri mime bytes).toList =
      scheme ++ mime ++ ',' :: bytes.flatMap percentChars := by
  have solid : ∀ c ∈ bytes.flatMap percentChars, Text.isBlank c = false := by
    intro c mem
    obtain ⟨b, -, written⟩ := List.mem_flatMap.mp mem
    exact isBlank_of_mem_percentChars written
  -- A blank byte is encoded, so that there is nothing to trim.
  have kept : (bytes.flatMap percentChars).rdropWhile Text.isBlank =
      bytes.flatMap percentChars := by
    refine List.rdropWhile_eq_self_iff.mpr fun nonempty => ?_
    rw [solid _ (List.getLast_mem nonempty)]
    exact Bool.false_ne_true
  rw [plainUri, String.toList_ofList, trimChars_uri, kept]

/-- Bytes that are not put into Base64 are kept in their percent-encoding, so that they are
    those that were meant exactly if none of them had to be encoded. -/
theorem decode_plainUri {mime : List Char} (noComma : ',' ∉ mime) (noSemicolon : ';' ∉ mime)
    (bytes : List UInt8) :
    ∃ stored, decode (plainUri mime bytes) = .ok (stored, extension (String.ofList mime)) ∧
      Percent.decode stored = bytes ∧ (stored = bytes ↔ ∀ b ∈ bytes, isUnreserved b = true) := by
  obtain ⟨meant, size⟩ := decode_percentChars bytes
  refine ⟨_, ?_, meant, ?_⟩
  · have unmarked : ¬ base64Mark <:+ mime := fun marked =>
      noSemicolon (marked.subset (List.mem_cons_self : ';' ∈ base64Mark))
    have holds := @HoldsPlain.uri mime (bytes.flatMap percentChars) noComma unmarked
    have whole : mediaType mime = String.ofList mime := by
      rw [mediaType, List.takeWhile_eq_self_iff.mpr]
      exact fun c mem => bne_iff_ne.mpr fun same => noSemicolon (same ▸ mem)
    rw [← trimChars_plainUri, whole] at holds
    rw [decode, decodeWith_of_holdsPlain holds, Text.utf8_ofList]
  · constructor
    · intro same
      -- Each byte that is encoded takes two bytes more.
      rw [same] at size
      have none : bytes.countP (fun b => !isUnreserved b) = 0 := by omega
      intro b mem
      simpa using List.countP_eq_zero.mp none b mem
    · intro unreserved
      clear meant size
      induction bytes with
      | nil => rfl
      | cons b bytes inductionHypothesis =>
        obtain ⟨here, others⟩ := List.forall_mem_cons.mp unreserved
        rw [List.flatMap_cons, List.flatMap_append, inductionHypothesis others, percentChars,
          if_pos here, List.flatMap_singleton,
          Text.utf8EncodeChar_charOfByte (toNat_of_isUnreserved here).1]
        rfl

theorem decode_plainUri_letters :
    ',' ∉ "text/plain".toList ∧ ';' ∉ "text/plain".toList ∧
      decode "data:text/plain,hi" = .ok ([104, 105], "txt") ∧
      ∃ stored, decode "data:text/plain,%3Chi" = .ok (stored, "txt") ∧
        Percent.decode stored = [60, 104, 105] ∧ stored ≠ [60, 104, 105] := by
  have noComma : ',' ∉ "text/plain".toList := by decide
  have noSemicolon : ';' ∉ "text/plain".toList := by decide
  obtain ⟨letters, decoded, -, same⟩ := decode_plainUri noComma noSemicolon [104, 105]
  rw [same.mpr (List.all_eq_true.mp rfl)] at decoded
  obtain ⟨stored, kept, meant, same⟩ := decode_plainUri noComma noSemicolon [60, 104, 105]
  have changed : stored ≠ [60, 104, 105] := fun equal =>
    absurd (same.mp equal 60 List.mem_cons_self) (by decide)
  exact ⟨noComma, noSemicolon, decoded, stored, kept, meant, changed⟩

/-- The sign `<` is stored as the three characters that it is encoded as. -/
theorem decode_plainUri_reserved :
    ¬ ∀ (mime : List Char) (bytes : List UInt8), ',' ∉ mime → ';' ∉ mime →
      ∃ ext, decode (plainUri mime bytes) = .ok (bytes, ext) := by
  intro exact
  obtain ⟨ext, decoded⟩ := exact "text/plain".toList [60] (by decide) (by decide)
  have stored : decode (plainUri "text/plain".toList [60]) = .ok ([37, 51, 67], "txt") := by
    decide
  rw [stored] at decoded
  cases decoded

end Embedded

end Compositor
