import Compositor.Encoder.Listing
import Compositor.Proofs.Text.Lines

/-! # What a listing says

A listing says of an encoder that the engine has it in a row of its own, and in no other way.  So
what a listing says is the set of its rows: it does not depend on their order, nor on what else
stands in a row or between the rows.

`EncoderSupport.names_append` carries this: the names of a listing are those of its lines, one line
after another.
-/

namespace Compositor

namespace EncoderSupport

/-- The line is the row of an encoder: its first column has six bytes, its second one is the
    name. -/
def IsRow (line : List Char) (name : String) : Prop :=
  ∃ flags : String, Text.HasColumns line flags.toList name.toList ∧ flags.utf8ByteSize = 6

/-- Has what one of the two has. -/
def or (s t : EncoderSupport) : EncoderSupport where
  nvenc := s.nvenc || t.nvenc
  amf := s.amf || t.amf
  qsv := s.qsv || t.qsv
  videoToolbox := s.videoToolbox || t.videoToolbox
  software := s.software || t.software

/-! ## Rows -/

theorem rowName?_of_columns {line line' flags name : List Char}
    (columns : Text.HasColumns line flags name) (columns' : Text.HasColumns line' flags name) :
    rowName? line' = rowName? line := by
  obtain ⟨others, cut⟩ := Text.columns_eq_cons_cons.mpr columns
  obtain ⟨others', cut'⟩ := Text.columns_eq_cons_cons.mpr columns'
  rw [rowName?, rowName?, cut, cut']

theorem rowName?_eq_some {line : List Char} {name : String} (encoder : name ≠ "=") :
    rowName? line = some name.toList ↔ IsRow line name := by
  have size : ∀ flags : List Char,
      (String.ofList flags).utf8ByteSize = (flags.flatMap String.utf8EncodeChar).length := by
    intro flags
    simp [String.utf8ByteSize, List.utf8Encode]
  have other : name.toList ≠ ['='] := fun equal => encoder (String.toList_inj.mp equal)
  constructor
  · intro row
    rw [rowName?] at row
    split at row
    · next flags second others cut =>
      split at row
      · next found =>
        cases row
        refine ⟨String.ofList flags, ?_, (size flags).trans found.1⟩
        rw [String.toList_ofList]
        exact Text.columns_eq_cons_cons.mp ⟨others, cut⟩
      · cases row
    · cases row
  · rintro ⟨flags, columns, six⟩
    obtain ⟨others, cut⟩ := Text.columns_eq_cons_cons.mpr columns
    have six' : (flags.toList.flatMap String.utf8EncodeChar).length = 6 := by
      rw [← size, String.ofList_toList, six]
    rw [rowName?, cut]
    simp only [six', other, ne_eq, not_false_eq_true, and_self, if_true]

/-- A carriage return at its end does not change what a line is a row for. -/
theorem rowName?_withoutReturn (line : List Char) :
    rowName? (Text.withoutReturn line) = rowName? line := by
  rcases Text.withoutReturn_cases line with ⟨same, -⟩ | returned
  · rw [← same]
  · conv_rhs => rw [returned]
    rw [rowName?, rowName?, Text.columns_concat _ (by decide)]

/-! ## The names of a listing -/

theorem names_of_plain {line : String} (plain : '\n' ∉ line.toList) :
    names line = (rowName? line.toList).toList := by
  rw [names, Text.lines_last plain]
  split
  · next nothing => rw [nothing]; rfl
  · cases row : rowName? line.toList with
    | none => rw [List.filterMap_cons_none row]; rfl
    | some name => rw [List.filterMap_cons_some row]; rfl

/-- Behind a line feed a listing begins anew. -/
theorem names_append (x y : String) : names (x ++ "\n" ++ y) = names x ++ names y := by
  have anew : ∀ front back : List Char,
      (Text.lines (front ++ '\n' :: back)).filterMap rowName? =
        (Text.lines front).filterMap rowName? ++ (Text.lines back).filterMap rowName? := by
    intro front back
    induction front using Text.lines_induction with
    | last cs plain =>
      have plain' : '\n' ∉ (String.ofList cs).toList := by rwa [String.toList_ofList]
      have last := names_of_plain plain'
      rw [names, String.toList_ofList] at last
      rw [Text.lines_more plain, last]
      cases row : rowName? cs with
      | none => rw [List.filterMap_cons_none (rowName?_withoutReturn cs ▸ row)]; rfl
      | some name => rw [List.filterMap_cons_some (rowName?_withoutReturn cs ▸ row)]; rfl
    | more first rest plain ih =>
      rw [List.append_assoc, List.cons_append, Text.lines_more plain, Text.lines_more plain,
        List.filterMap_cons, List.filterMap_cons, ih]
      split <;> rfl
  have split : (x ++ "\n" ++ y).toList = x.toList ++ '\n' :: y.toList := by simp
  rw [names, split, anew, names, names]

theorem names_intercalate (lines : List String) :
    names ("\n".intercalate lines) = lines.flatMap names := by
  induction lines with
  | nil => rfl
  | cons line lines ih =>
    cases lines with
    | nil => rw [String.intercalate_singleton, List.flatMap_singleton]
    | cons next lines =>
      rw [String.intercalate_cons_cons, names_append, ih]
      rfl

theorem encoder_ne (b : Backend) : b.encoder ≠ "=" := by cases b <;> decide

theorem mem_names {listing : String} {b : Backend} :
    b.encoder.toList ∈ names listing ↔
      ∃ line, Text.HasLine listing.toList line ∧ IsRow line b.encoder := by
  simp only [names, List.mem_filterMap, Text.mem_lines, rowName?_eq_some (encoder_ne b)]

/-! ## What is supported -/

theorem supports_ofListing {listing : String} {b : Backend} :
    (ofListing listing).supports b = true ↔ b.encoder.toList ∈ names listing := by
  rw [← List.contains_iff_mem]
  cases b <;> rfl

theorem ofListing_congr {listing listing' : String}
    (same : ∀ b : Backend, b.encoder.toList ∈ names listing ↔ b.encoder.toList ∈ names listing') :
    ofListing listing = ofListing listing' := by
  have has : ∀ b : Backend, (names listing).contains b.encoder.toList =
      (names listing').contains b.encoder.toList := fun b => by
    rw [Bool.eq_iff_iff, List.contains_iff_mem, List.contains_iff_mem]
    exact same b
  simp only [ofListing, has]

theorem ofListing_append (x y : String) :
    ofListing (x ++ "\n" ++ y) = (ofListing x).or (ofListing y) := by
  simp only [ofListing, or, names_append, List.contains_append]

theorem available_sorted (s : EncoderSupport) :
    s.available.Pairwise fun a b => b.priority < a.priority :=
  List.Pairwise.filter _ (by decide)

theorem mem_available {s : EncoderSupport} {b : Backend} :
    b ∈ s.available ↔ s.supports b = true := by
  have mem : b ∈ Backend.preference := by cases b <;> decide
  rw [available, List.mem_filter, and_iff_right mem]

/-- What a listing says is the set of its rows: two parts say together what one of them says; a
    backend is supported exactly if there is a row for its encoder; the order of the lines, what is
    behind the second column of a line, and lines that are no such rows do not matter.  The backends
    that are then available are the supported ones, each once and the most preferred one first. -/
theorem ofListing_rows :
    (∀ x y : String, ofListing (x ++ "\n" ++ y) = (ofListing x).or (ofListing y)) ∧
    (∀ (listing : String) (b : Backend), (ofListing listing).supports b = true ↔
      ∃ line, Text.HasLine listing.toList line ∧ IsRow line b.encoder) ∧
    (∀ lines lines' : List String, lines.Perm lines' →
      ofListing ("\n".intercalate lines) = ofListing ("\n".intercalate lines')) ∧
    (∀ (before after : List String) (line line' : String) (flags name : List Char),
      '\n' ∉ line.toList → '\n' ∉ line'.toList →
      Text.HasColumns line.toList flags name → Text.HasColumns line'.toList flags name →
      ofListing ("\n".intercalate (before ++ line :: after)) =
        ofListing ("\n".intercalate (before ++ line' :: after))) ∧
    (∀ (before after : List String) (line : String), '\n' ∉ line.toList →
      (∀ b : Backend, ¬ IsRow line.toList b.encoder) →
      ofListing ("\n".intercalate (before ++ line :: after)) =
        ofListing ("\n".intercalate (before ++ after))) ∧
    ∀ s : EncoderSupport, s.available.Nodup ∧ (∀ b, b ∈ s.available ↔ s.supports b = true) ∧
      s.available.Pairwise fun a b => b.priority < a.priority := by
  refine ⟨ofListing_append, fun listing b => supports_ofListing.trans mem_names, ?order, ?behind,
    ?others, fun s => ⟨?once, fun b => mem_available, available_sorted s⟩⟩
  case order =>
    intro lines lines' perm
    refine ofListing_congr fun b => ?_
    rw [names_intercalate, names_intercalate]
    exact (perm.flatMap_right names).mem_iff
  case behind =>
    intro before after line line' flags name plain plain' columns columns'
    refine ofListing_congr fun b => ?_
    rw [names_intercalate, names_intercalate, List.flatMap_append, List.flatMap_append,
      List.flatMap_cons, List.flatMap_cons, names_of_plain plain, names_of_plain plain',
      rowName?_of_columns columns columns']
  case others =>
    intro before after line plain noRow
    refine ofListing_congr fun b => ?_
    have absent : b.encoder.toList ∉ names line := by
      rw [names_of_plain plain, Option.mem_toList, rowName?_eq_some (encoder_ne b)]
      exact noRow b
    rw [names_intercalate, names_intercalate, List.flatMap_append, List.flatMap_append,
      List.flatMap_cons, List.mem_append, List.mem_append, List.mem_append, or_iff_right absent]
  case once => exact (available_sorted s).imp fun lower equal => (equal ▸ lower).false

/-- A row with other blanks and without its description, above a row whose first column has four
    characters in six bytes. -/
theorem ofListing_rows_reworded :
    let line := " V....D h264_nvenc  NVIDIA (libx264)"
    let line' := "\tV....D\u3000h264_nvenc\r"
    let name := "h264_nvenc".toList
    let before := ["Encoders:"]
    let after := [" éé.. libx264"]
    '\n' ∉ line.toList ∧ '\n' ∉ line'.toList ∧
      Text.HasColumns line.toList "V....D".toList name ∧
      Text.HasColumns line'.toList "V....D".toList name ∧
      ofListing ("\n".intercalate (before ++ line' :: after)) =
        ofListing ("\n".intercalate (before ++ line :: after)) ∧
      (ofListing ("\n".intercalate (before ++ line :: after))).available = [.nvenc, .software] := by
  intro line line' name before after
  have plain : '\n' ∉ line.toList := by decide
  have plain' : '\n' ∉ line'.toList := by decide
  have blank : ∀ cs : List Char, cs.all Text.isBlank = true → ∀ c ∈ cs, Text.isBlank c = true :=
    fun _ all => List.all_eq_true.mp all
  have word : ∀ cs : List Char, cs ≠ [] → cs.all (fun c => !Text.isBlank c) = true →
      Text.IsWord cs := by
    intro cs some all
    exact ⟨some, fun c mem => by simpa using List.all_eq_true.mp all c mem⟩
  have mark := word "V....D".toList (by decide) (by decide)
  have encoder := word name (by decide) (by decide)
  have columns : Text.HasColumns line.toList "V....D".toList name := by
    refine ⟨[' '], [' '], "  NVIDIA (libx264)".toList, by decide, blank _ (by decide), mark,
      by decide, blank _ (by decide), encoder, ?_⟩
    rintro _ ⟨⟩
    decide
  have columns' : Text.HasColumns line'.toList "V....D".toList name := by
    refine ⟨['\t'], ['\u3000'], ['\r'], by decide, blank _ (by decide), mark,
      by decide, blank _ (by decide), encoder, ?_⟩
    rintro _ ⟨⟩
    decide
  exact ⟨plain, plain', columns, columns',
    ofListing_rows.2.2.2.1 before after line' line _ _ plain' plain columns' columns,
    by decide +kernel⟩

end EncoderSupport

end Compositor
