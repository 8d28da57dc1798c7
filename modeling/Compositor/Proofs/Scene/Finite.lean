import Compositor.Proofs.Json.Numbers
import Compositor.Proofs.Scene.Ranges
import Compositor.Proofs.Scene.RoundTrip

/-! # The real numbers of a scene

A document has finite numbers only, and the defaults are finite.  So a scene that is read from a
document has finite numbers, whether it is valid or not.
-/

namespace Compositor

variable {form : Datum}

theorem Fields.read_finite {αs : List Type} {fields : Fields αs} {xs : Values αs}
    (finite : form.IsFinite) (read : fields.read form = .ok xs) :
    fields.Obtained Datum.IsFinite xs :=
  Fields.read_obtained finite.parts read

/-- A number with a finite default is finite. -/
theorem isFinite_of_real {f : Field Double} {x : Double} (reads : f.read = Reader.real)
    (standard : ∀ y ∈ f.fallback, y.isFinite = true)
    (value : (∃ form : Datum, form.IsFinite ∧ f.read form = .ok x) ∨ f.fallback = some x) :
    x.isFinite = true := by
  rcases value with ⟨form, finite, accepted⟩ | fallback
  · rw [reads] at accepted
    exact finite.number accepted
  · exact standard x fallback

theorem KenBurns.isFinite_of_read {k : KenBurns} (finite : form.IsFinite)
    (accepted : read form = .ok k) : k.zoomRate.isFinite = true := by
  obtain ⟨⟨x, _, _, _, _, _⟩, fields, ⟨⟩⟩ := exists_of_bind_eq_ok accepted
  obtain ⟨zoomRate, -⟩ := Fields.read_finite finite fields
  exact isFinite_of_real rfl (by decide +kernel) zoomRate

theorem KenBurnsDefaults.isFinite_of_read {k : KenBurnsDefaults} (finite : form.IsFinite)
    (accepted : read form = .ok k) : k.zoomRate.isFinite = true := by
  obtain ⟨⟨_, x, _, _, _⟩, fields, ⟨⟩⟩ := exists_of_bind_eq_ok accepted
  obtain ⟨-, zoomRate, -⟩ := Fields.read_finite finite fields
  exact isFinite_of_real rfl (by decide +kernel) zoomRate

theorem ImageClip.isFinite_of_read {clip : ImageClip} (finite : form.IsFinite)
    (accepted : read form = .ok clip) : ∀ x ∈ clip.numbers, x.isFinite = true := by
  obtain ⟨⟨_, start, length, _, _, _⟩, fields, ⟨⟩⟩ := exists_of_bind_eq_ok accepted
  obtain ⟨-, start, length, -, kenBurns, -⟩ := Fields.read_finite finite fields
  refine ImageClip.forall_mem_numbers.mpr
    ⟨isFinite_of_real rfl (by decide) start, isFinite_of_real rfl (by decide) length, ?_⟩
  intro k mem
  obtain ⟨_, finite, zoom⟩ := exists_of_mem_absentable kenBurns k mem
  exact KenBurns.isFinite_of_read finite zoom

theorem AudioTrack.isFinite_of_read {track : AudioTrack} (finite : form.IsFinite)
    (accepted : read form = .ok track) : ∀ x ∈ track.volume, x.isFinite = true := by
  obtain ⟨⟨_, _, _, _⟩, fields, ⟨⟩⟩ := exists_of_bind_eq_ok accepted
  obtain ⟨-, -, volume, -⟩ := Fields.read_finite finite fields
  intro x mem
  obtain ⟨_, finite, value⟩ := exists_of_mem_absentable volume x mem
  exact finite.number value

theorem Keyframe.isFinite_of_read {k : Keyframe} (finite : form.IsFinite)
    (accepted : read form = .ok k) : ∀ x ∈ k.numbers, x.isFinite = true := by
  obtain ⟨⟨_, _, _, _, _, _⟩, fields, ⟨⟩⟩ := exists_of_bind_eq_ok accepted
  obtain ⟨time, x, y, opacity, scale, -⟩ := Fields.read_finite finite fields
  exact Keyframe.forall_mem_numbers.mpr ⟨isFinite_of_real rfl (by decide) time,
    isFinite_of_real rfl (by decide +kernel) x, isFinite_of_real rfl (by decide +kernel) y,
    isFinite_of_real rfl (by decide +kernel) opacity,
    isFinite_of_real rfl (by decide +kernel) scale⟩

theorem TextCue.isFinite_of_read {cue : TextCue} (finite : form.IsFinite)
    (accepted : read form = .ok cue) : ∀ x ∈ cue.numbers, x.isFinite = true := by
  obtain ⟨⟨_, _, _, _, _, _, _, _, _, _, _⟩, fields, ⟨⟩⟩ := exists_of_bind_eq_ok accepted
  obtain ⟨-, start, finish, -, -, x, y, -, -, keyframes, -⟩ := Fields.read_finite finite fields
  refine TextCue.forall_mem_numbers.mpr ⟨isFinite_of_real rfl (by decide) start,
    isFinite_of_real rfl (by decide) finish, ?_, ?_, ?_⟩
  · intro a mem
    obtain ⟨_, finite, value⟩ := exists_of_mem_absentable x a mem
    exact finite.number value
  · intro b mem
    obtain ⟨_, finite, value⟩ := exists_of_mem_absentable y b mem
    exact finite.number value
  · intro k mem
    obtain ⟨_, finite, read⟩ := exists_of_mem_listed (fun _ => Datum.IsFinite.parts) keyframes k mem
    exact Keyframe.isFinite_of_read finite read

theorem Scene.isFinite_of_read {scene : Scene} (finite : form.IsFinite)
    (accepted : read form = .ok scene) : ∀ x ∈ scene.numbers, x.isFinite = true := by
  obtain ⟨⟨_, _, _, _, _, _, _, _, _, _, _, _⟩, fields, ⟨⟩⟩ := exists_of_bind_eq_ok accepted
  obtain ⟨-, duration, -, -, -, images, audio, -, texts, kenBurns, -⟩ :=
    Fields.read_finite finite fields
  refine Scene.forall_mem_numbers.mpr
    ⟨isFinite_of_real rfl (by decide) duration, ?images, ?audio, ?texts, ?kenBurns⟩
  case images =>
    intro clip mem
    obtain ⟨_, finite, read⟩ := exists_of_mem_listed (fun _ => Datum.IsFinite.parts) images clip mem
    exact ImageClip.isFinite_of_read finite read
  case audio =>
    intro track mem
    obtain ⟨_, finite, read⟩ := exists_of_mem_listed (fun _ => Datum.IsFinite.parts) audio track mem
    exact AudioTrack.isFinite_of_read finite read
  case texts =>
    intro cue mem
    obtain ⟨_, finite, read⟩ := exists_of_mem_listed (fun _ => Datum.IsFinite.parts) texts cue mem
    exact TextCue.isFinite_of_read finite read
  case kenBurns =>
    intro k mem
    obtain ⟨_, finite, read⟩ := exists_of_mem_absentable kenBurns k mem
    exact KenBurnsDefaults.isFinite_of_read finite read

/-- A scene that is read from a text has finite numbers. -/
theorem Scene.isFinite_of_decode {scene : Scene} {text : String}
    (decoded : Json.decode read text = .ok scene) : ∀ x ∈ scene.numbers, x.isFinite = true := by
  obtain ⟨scene', accepted, ended⟩ := exists_of_bind_eq_ok decoded
  split at ended
  · cases ended
  · cases ended
    exact Scene.isFinite_of_read (Json.isFinite_document _ _) accepted

end Compositor
