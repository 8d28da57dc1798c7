import Compositor.Proofs.Datum.Records
import Compositor.Scene.Format

/-! # The whole numbers of a scene

The readers of a scene take no whole number that does not fit thirty-two bits, and no default is
greater.  So every scene that is read is in range, in whichever form it was written.
-/

namespace Compositor

def Rect.InRange (r : Rect) : Prop :=
  (-2 ^ 31 ≤ r.x ∧ r.x < 2 ^ 31) ∧ (-2 ^ 31 ≤ r.y ∧ r.y < 2 ^ 31) ∧ r.width < 2 ^ 32 ∧
    r.height < 2 ^ 32

instance (r : Rect) : Decidable r.InRange := inferInstanceAs (Decidable (_ ∧ _))

/-- The whole numbers of a scene have thirty-two bits. -/
structure Scene.InRange (scene : Scene) : Prop where
  width : scene.width < 2 ^ 32
  height : scene.height < 2 ^ 32
  rects : ∀ clip ∈ scene.images, ∀ r ∈ clip.rect, r.InRange
  prescaleWidths : ∀ clip ∈ scene.images, ∀ k ∈ clip.kenBurns, ∀ n ∈ k.prescaleWidth, n < 2 ^ 32
  subtitleSize : ∀ s ∈ scene.subtitles, s.fontSize < 2 ^ 32
  textSizes : ∀ cue ∈ scene.texts, cue.fontSize < 2 ^ 32
  kenBurns : ∀ k ∈ scene.kenBurns, k.prescaleWidth < 2 ^ 32

/-! ## Readers -/

namespace Reader

variable {α : Type} {read : Reader α} {form : Datum}

theorem integer32_inRange {i : Int} (accepted : integer32 form = .ok i) :
    -2 ^ 31 ≤ i ∧ i < 2 ^ 31 := by
  cases form with
  | integer j =>
    rw [integer32, integerBetween] at accepted
    split at accepted
    · next range =>
      cases accepted
      rw [Nat.pow_eq] at range
      omega
    · cases accepted
  | _ => cases accepted

theorem natural32_inRange {n : Nat} (accepted : natural32 form = .ok n) : n < 2 ^ 32 := by
  cases form with
  | integer j =>
    rw [natural32, naturalUpTo, integerBetween] at accepted
    split at accepted
    · next range =>
      cases accepted
      rw [Nat.pow_eq] at range
      omega
    · cases accepted
  | _ => cases accepted

variable {P : Datum → Prop}

theorem exists_of_mem_optional {v : Option α} (property : P form)
    (accepted : optional read form = .ok v) : ∀ x ∈ v, ∃ form, P form ∧ read form = .ok x := by
  rintro x ⟨⟩
  have value : (read form).map some = .ok (some x) := by
    cases form with
    | null => cases accepted
    | _ => exact accepted
  cases taken : read form with
  | error fault =>
    rw [taken] at value
    cases value
  | ok y =>
    rw [taken] at value
    cases value
    exact ⟨form, property, taken⟩

theorem exists_of_mem_items {forms : List Datum} {xs : List α} (property : ∀ form ∈ forms, P form)
    (accepted : items read forms = .ok xs) : ∀ x ∈ xs, ∃ form, P form ∧ read form = .ok x := by
  induction forms generalizing xs with
  | nil =>
    cases accepted
    exact fun x mem => absurd mem List.not_mem_nil
  | cons form forms inductionHypothesis =>
    obtain ⟨here, property⟩ := List.forall_mem_cons.mp property
    obtain ⟨y, head, accepted⟩ := exists_of_bind_eq_ok accepted
    obtain ⟨ys, tail, ⟨⟩⟩ := exists_of_bind_eq_ok accepted
    exact List.forall_mem_cons.mpr ⟨⟨form, here, head⟩, inductionHypothesis property tail⟩

theorem exists_of_mem_list {xs : List α} (property : ∀ part ∈ form.parts, P part)
    (accepted : list read form = .ok xs) : ∀ x ∈ xs, ∃ form, P form ∧ read form = .ok x := by
  cases form with
  | list forms => exact exists_of_mem_items property accepted
  | _ => cases accepted

end Reader

/-! ## Scenes -/

section

variable {α : Type} {read : Reader α} {name : String} {P : Datum → Prop}

/-- What a field that may be absent holds was read. -/
theorem exists_of_mem_absentable {v : Option α}
    (value : (∃ form, P form ∧ (Field.absentable name read).read form = .ok v) ∨
      (Field.absentable name read).fallback = some v) :
    ∀ x ∈ v, ∃ form, P form ∧ read form = .ok x := by
  rcases value with ⟨form, property, accepted⟩ | ⟨⟨⟩⟩
  · exact Reader.exists_of_mem_optional property accepted
  · rintro x ⟨⟩

/-- What a list that may be left out holds was read. -/
theorem exists_of_mem_listed {xs : List α} (parts : ∀ form, P form → ∀ part ∈ form.parts, P part)
    (value : (∃ form, P form ∧ (Field.orElse name (Reader.list read) []).read form = .ok xs) ∨
      (Field.orElse name (Reader.list read) []).fallback = some xs) :
    ∀ x ∈ xs, ∃ form, P form ∧ read form = .ok x := by
  rcases value with ⟨form, property, accepted⟩ | ⟨⟨⟩⟩
  · exact Reader.exists_of_mem_list (parts form property) accepted
  · exact fun x mem => absurd mem List.not_mem_nil

/-- A number with a default in range is in range. -/
theorem lt_of_natural32 {n standard : Nat} (small : standard < 2 ^ 32)
    (value : (∃ form, P form ∧ (Field.orElse name Reader.natural32 standard).read form = .ok n) ∨
      (Field.orElse name Reader.natural32 standard).fallback = some n) : n < 2 ^ 32 := by
  rcases value with ⟨form, -, accepted⟩ | ⟨⟨⟩⟩
  · exact Reader.natural32_inRange accepted
  · exact small

end

variable {form : Datum}

theorem Fields.read_accepted {αs : List Type} {fields : Fields αs} {xs : Values αs}
    (read : fields.read form = .ok xs) : fields.Obtained (fun _ => True) xs :=
  Fields.read_obtained (fun _ _ => trivial) read

theorem Rect.inRange_of_read {r : Rect} (accepted : read form = .ok r) : r.InRange := by
  obtain ⟨xs, fields, made⟩ := exists_of_bind_eq_ok accepted
  cases made
  -- None of the fields may be left out, so each number was accepted by its reader.
  obtain ⟨⟨_, -, x⟩ | ⟨⟨⟩⟩, ⟨_, -, y⟩ | ⟨⟨⟩⟩, ⟨_, -, width⟩ | ⟨⟨⟩⟩, ⟨_, -, height⟩ | ⟨⟨⟩⟩, -⟩ :=
    Fields.read_accepted fields
  exact ⟨Reader.integer32_inRange x, Reader.integer32_inRange y, Reader.natural32_inRange width,
    Reader.natural32_inRange height⟩

theorem KenBurns.inRange_of_read {k : KenBurns} (accepted : read form = .ok k) :
    ∀ n ∈ k.prescaleWidth, n < 2 ^ 32 := by
  obtain ⟨⟨_, _, _, v, _, _⟩, fields, ⟨⟩⟩ := exists_of_bind_eq_ok accepted
  obtain ⟨-, -, -, prescaleWidth, -⟩ := Fields.read_accepted fields
  intro n mem
  obtain ⟨_, -, width⟩ := exists_of_mem_absentable prescaleWidth n mem
  exact Reader.natural32_inRange width

theorem KenBurnsDefaults.inRange_of_read {k : KenBurnsDefaults} (accepted : read form = .ok k) :
    k.prescaleWidth < 2 ^ 32 := by
  obtain ⟨⟨_, _, n, _, _⟩, fields, ⟨⟩⟩ := exists_of_bind_eq_ok accepted
  obtain ⟨-, -, prescaleWidth, -⟩ := Fields.read_accepted fields
  exact lt_of_natural32 (by decide) prescaleWidth

theorem ImageClip.inRange_of_read {clip : ImageClip} (accepted : read form = .ok clip) :
    (∀ r ∈ clip.rect, r.InRange) ∧ ∀ k ∈ clip.kenBurns, ∀ n ∈ k.prescaleWidth, n < 2 ^ 32 := by
  obtain ⟨⟨_, _, _, _, _, _⟩, fields, ⟨⟩⟩ := exists_of_bind_eq_ok accepted
  obtain ⟨-, -, -, rect, kenBurns, -⟩ := Fields.read_accepted fields
  constructor
  · intro r mem
    obtain ⟨_, -, place⟩ := exists_of_mem_absentable rect r mem
    exact Rect.inRange_of_read place
  · intro k mem
    obtain ⟨_, -, zoom⟩ := exists_of_mem_absentable kenBurns k mem
    exact KenBurns.inRange_of_read zoom

theorem Subtitles.inRange_of_read {s : Subtitles} (accepted : read form = .ok s) :
    s.fontSize < 2 ^ 32 := by
  obtain ⟨⟨_, n, _, _, _, _, _⟩, fields, ⟨⟩⟩ := exists_of_bind_eq_ok accepted
  obtain ⟨-, fontSize, -⟩ := Fields.read_accepted fields
  exact lt_of_natural32 (by decide) fontSize

theorem TextCue.inRange_of_read {cue : TextCue} (accepted : read form = .ok cue) :
    cue.fontSize < 2 ^ 32 := by
  obtain ⟨⟨_, _, _, n, _, _, _, _, _, _, _⟩, fields, ⟨⟩⟩ := exists_of_bind_eq_ok accepted
  obtain ⟨-, -, -, fontSize, -⟩ := Fields.read_accepted fields
  exact lt_of_natural32 (by decide) fontSize

theorem Scene.inRange_of_read {scene : Scene} (accepted : read form = .ok scene) :
    scene.InRange := by
  obtain ⟨⟨_, _, _, _, _, _, _, _, _, _, _, _⟩, fields, ⟨⟩⟩ := exists_of_bind_eq_ok accepted
  obtain ⟨-, -, ⟨_, -, width⟩ | ⟨⟨⟩⟩, ⟨_, -, height⟩ | ⟨⟨⟩⟩, -, images, -, subtitles, texts, kenBurns, -⟩ :=
    Fields.read_accepted fields
  constructor
  case width => exact Reader.natural32_inRange width
  case height => exact Reader.natural32_inRange height
  case rects =>
    intro clip mem
    obtain ⟨_, -, read⟩ := exists_of_mem_listed (fun _ _ _ _ => trivial) images clip mem
    exact (ImageClip.inRange_of_read read).1
  case prescaleWidths =>
    intro clip mem
    obtain ⟨_, -, read⟩ := exists_of_mem_listed (fun _ _ _ _ => trivial) images clip mem
    exact (ImageClip.inRange_of_read read).2
  case subtitleSize =>
    intro s mem
    obtain ⟨_, -, read⟩ := exists_of_mem_absentable subtitles s mem
    exact Subtitles.inRange_of_read read
  case textSizes =>
    intro cue mem
    obtain ⟨_, -, read⟩ := exists_of_mem_listed (fun _ _ _ _ => trivial) texts cue mem
    exact TextCue.inRange_of_read read
  case kenBurns =>
    intro k mem
    obtain ⟨_, -, read⟩ := exists_of_mem_absentable kenBurns k mem
    exact KenBurnsDefaults.inRange_of_read read

end Compositor
