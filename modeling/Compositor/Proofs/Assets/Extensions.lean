import Compositor.Assets.Download

/-! # File extensions

The extension of a staged file is taken from text that comes from outside: the media type of a data
URI, or the last segment of a URL.  Whatever that text is, the extension is made of letters and
digits and is not empty.
-/

namespace Compositor

/-- An ending of a file name, without the dot. -/
structure IsExtension (ext : String) : Prop where
  ne_empty : ext ≠ ""
  alphanumeric : ∀ c ∈ ext.toList, c.isAlphanum = true

variable {ext : String}

namespace IsExtension

theorem noSlash (extension : IsExtension ext) : '/' ∉ ext.toList := fun mem => by
  cases extension.alphanumeric _ mem

/-- What is looked at before a text is taken for an extension. -/
theorem ofList {cs : List Char} (fit : (!cs.isEmpty && cs.all Char.isAlphanum) = true) :
    IsExtension (String.ofList cs) := by
  simp only [Bool.and_eq_true, Bool.not_eq_true', List.isEmpty_eq_false_iff, List.all_eq_true] at fit
  refine ⟨fun empty => fit.1 ?_, by simpa using fit.2⟩
  simpa using congrArg String.toList empty

theorem plain : IsExtension Embedded.plainExtension := ⟨by decide, List.all_eq_true.mp (by decide)⟩

end IsExtension

/-! ## Embedded assets -/

namespace Embedded

theorem isExtension_extension (mime : String) : IsExtension (extension mime) := by
  rw [extension]
  split
  -- The extensions of the table come first.
  iterate 9 exact ⟨by decide, List.all_eq_true.mp (by decide)⟩
  split
  · split
    · next fit => exact .ofList fit
    · exact .plain
  · exact .plain

theorem isExtension_decode {payload : String} {bytes : List UInt8}
    (decoded : decode payload = .ok (bytes, ext)) : IsExtension ext := by
  have pair {result : Except EmbeddedError (List UInt8)} {ext' : String}
      (mapped : (result.map fun bytes => (bytes, ext')) = .ok (bytes, ext)) : ext = ext' := by
    cases result <;> cases mapped
    rfl
  rw [decode, decodeWith] at decoded
  split at decoded
  · split at decoded
    · cases decoded
    · split at decoded
      · exact pair decoded ▸ isExtension_extension _
      · cases decoded
        exact isExtension_extension _
  · exact pair decoded ▸ .plain

end Embedded

/-! ## Downloads -/

namespace Stager

/-- The extension that a segment of a path has, if there is one. -/
def segmentExtension (segment : Option String) : String :=
  (segment.bind fun name => do
    let (reversed, _) ← Embedded.splitAt? '.' name.toList.reverse
    let ext := reversed.reverse.map Char.toLower
    if !ext.isEmpty && ext.length ≤ extensionLimit && ext.all Char.isAlphanum then
      some (String.ofList ext)
    else none).getD Embedded.plainExtension

theorem urlExtension_eq (raw : String) :
    urlExtension raw = segmentExtension ((Url.parse? raw).bind Url.lastSegment?) := by
  rw [urlExtension, segmentExtension, Option.bind_assoc]
  rfl

/-- Nothing has to be known of how URLs are read. -/
theorem isExtension_segmentExtension (segment : Option String) :
    IsExtension (segmentExtension segment) := by
  rw [segmentExtension]
  cases found : segment.bind _ with
  | none => exact .plain
  | some ext =>
    simp only [Option.bind_eq_bind, Option.bind_eq_some_iff] at found
    obtain ⟨name, -, split, -, taken⟩ := found
    split at taken
    · next fit =>
      cases taken
      simp only [Bool.and_eq_true] at fit
      exact .ofList (Bool.and_eq_true_iff.mpr ⟨fit.1.1, fit.2⟩)
    · cases taken

theorem isExtension_urlExtension (raw : String) : IsExtension (urlExtension raw) :=
  urlExtension_eq raw ▸ isExtension_segmentExtension _

end Stager

end Compositor
