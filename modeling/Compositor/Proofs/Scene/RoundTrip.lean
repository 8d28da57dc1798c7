import Compositor.Proofs.Scene.Ranges
import Compositor.Rehearsal.Samples

/-! # Scenes survive their JSON text

A scene is written as a JSON text and read back as the same scene.  Nothing is assumed of its
texts, of the length of its lists or of what is absent.  Its whole numbers have to lie in the
ranges that its readers accept, and its real numbers have to be finite and to read back by
themselves.
-/

namespace Compositor

/-! ## Fields that may be absent -/

namespace Fields.Given

variable {α : Type} {αs : List Type} {fs : Fields αs} {ms : List (String × Datum)} {xs : Values αs}
  {read : Reader α} {name : String} {write : α → Datum} {v : Option α}

theorem absentable (recovers : ∀ x ∈ v, read.Recovers (write x) x) (present : ∀ x, write x ≠ .null)
    (others : Given fs ms xs) :
    Given (.cons (.absentable name read) fs) (absentMember name write v ++ ms) (v, xs) := by
  cases v with
  | none => exact .leftOut rfl others
  | some x => exact .given ((recovers x rfl).optional (present x)) others

theorem lastAbsentable (recovers : ∀ x ∈ v, read.Recovers (write x) x)
    (present : ∀ x, write x ≠ .null) :
    Given (.cons (.absentable name read) .nil) (absentMember name write v) (v, ()) := by
  have given : Given (.cons (.absentable name read) .nil) (absentMember name write v ++ []) (v, ()) :=
    absentable recovers present .nil
  rwa [List.append_nil] at given

end Fields.Given

/-! ## Real numbers -/

def ImageClip.numbers (clip : ImageClip) : List Double :=
  [clip.start, clip.length] ++ (clip.kenBurns.map (·.zoomRate)).toList

def Keyframe.numbers (k : Keyframe) : List Double := [k.time, k.x, k.y, k.opacity, k.scale]

def TextCue.numbers (cue : TextCue) : List Double :=
  [cue.start, cue.finish] ++ cue.x.toList ++ cue.y.toList ++ cue.keyframes.flatMap Keyframe.numbers

/-- The real numbers of a scene. -/
def Scene.numbers (scene : Scene) : List Double :=
  [scene.duration] ++ scene.images.flatMap ImageClip.numbers
    ++ scene.audio.flatMap (fun track => track.volume.toList)
    ++ scene.texts.flatMap TextCue.numbers ++ (scene.kenBurns.map (·.zoomRate)).toList

section

variable {P : Double → Prop}

theorem forall_mem_toList {v : Option Double} : (∀ x ∈ v.toList, P x) ↔ ∀ x ∈ v, P x := by
  simp only [Option.mem_toList, Option.mem_def]

theorem ImageClip.forall_mem_numbers {clip : ImageClip} :
    (∀ x ∈ clip.numbers, P x) ↔
      P clip.start ∧ P clip.length ∧ ∀ k ∈ clip.kenBurns, P k.zoomRate := by
  rw [numbers, List.cons_append, List.singleton_append, List.forall_mem_cons, List.forall_mem_cons,
    forall_mem_toList, Option.forall_mem_map]

theorem Keyframe.forall_mem_numbers {k : Keyframe} :
    (∀ x ∈ k.numbers, P x) ↔ P k.time ∧ P k.x ∧ P k.y ∧ P k.opacity ∧ P k.scale := by
  simp [numbers]

theorem TextCue.forall_mem_numbers {cue : TextCue} :
    (∀ x ∈ cue.numbers, P x) ↔
      P cue.start ∧ P cue.finish ∧ (∀ x ∈ cue.x, P x) ∧ (∀ y ∈ cue.y, P y) ∧
        ∀ k ∈ cue.keyframes, ∀ x ∈ k.numbers, P x := by
  simp only [numbers, List.cons_append, List.nil_append, List.append_assoc, List.forall_mem_cons,
    List.forall_mem_append, forall_mem_toList, List.forall_mem_flatMap]

theorem Scene.forall_mem_numbers {scene : Scene} :
    (∀ x ∈ scene.numbers, P x) ↔
      P scene.duration ∧ (∀ clip ∈ scene.images, ∀ x ∈ clip.numbers, P x) ∧
        (∀ track ∈ scene.audio, ∀ x ∈ track.volume, P x) ∧
        (∀ cue ∈ scene.texts, ∀ x ∈ cue.numbers, P x) ∧ ∀ k ∈ scene.kenBurns, P k.zoomRate := by
  simp only [numbers, List.cons_append, List.nil_append, List.append_assoc, List.forall_mem_cons,
    List.forall_mem_append, forall_mem_toList, List.forall_mem_flatMap, Option.forall_mem_map]

end

/-! ## The parts of a scene -/

theorem MediaSource.recovers (source : MediaSource) : read.Recovers source.toDatum source := by
  cases source with
  | path p => exact .alternative rfl ⟨Json.written_text p, rfl⟩
  | url u => exact .alternative rfl ⟨Json.written_text u, rfl⟩
  | data d => exact .alternative rfl ⟨Json.written_text d, rfl⟩

theorem Rect.recovers {r : Rect} (inRange : r.InRange) : read.Recovers r.toDatum r := by
  obtain ⟨x, y, width, height⟩ := inRange
  refine .record rfl
    (.given (.integer32 x.1 x.2) <| .given (.integer32 y.1 y.2) <| .given (.natural32 width) <|
      .given (.natural32 height) .nil) (by decide) rfl

theorem KenBurns.recovers {k : KenBurns} (prescaleWidth : ∀ n ∈ k.prescaleWidth, n < 2 ^ 32)
    (zoomRate : k.zoomRate.ReadsBack) : read.Recovers k.toDatum k := by
  rw [toDatum]
  simp only [List.append_assoc, List.singleton_append]
  exact .record rfl
    (.given (.real zoomRate) <|
      .absentable (fun s _ => .text s) (fun _ => Datum.noConfusion) <|
      .absentable (fun s _ => .text s) (fun _ => Datum.noConfusion) <|
      .absentable (fun n mem => .natural32 (prescaleWidth n mem)) (fun _ => Datum.noConfusion) <|
      .given (.bool k.enabled) .nil) (by decide) rfl

theorem KenBurnsDefaults.recovers {k : KenBurnsDefaults} (prescaleWidth : k.prescaleWidth < 2 ^ 32)
    (zoomRate : k.zoomRate.ReadsBack) : read.Recovers k.toDatum k :=
  .record rfl
    (.given (.bool k.enabled) <| .given (.real zoomRate) <| .given (.natural32 prescaleWidth) <|
      .given (.bool k.randomizePan) .nil) (by decide) rfl

theorem ImageClip.recovers {clip : ImageClip} (rect : ∀ r ∈ clip.rect, r.InRange)
    (prescaleWidth : ∀ k ∈ clip.kenBurns, ∀ n ∈ k.prescaleWidth, n < 2 ^ 32)
    (numbers : ∀ x ∈ clip.numbers, x.ReadsBack) : read.Recovers clip.toDatum clip := by
  obtain ⟨start, length, zoomRate⟩ := forall_mem_numbers.mp numbers
  exact .record rfl
    (.given clip.source.recovers <| .given (.real start) <| .given (.real length) <|
      .absentable (fun r mem => Rect.recovers (rect r mem)) (fun _ => Datum.noConfusion) <|
      .lastAbsentable (fun k mem => KenBurns.recovers (prescaleWidth k mem) (zoomRate k mem))
        (fun _ => Datum.noConfusion)) (by decide) rfl

theorem AudioRole.ofName?_name (role : AudioRole) : ofName? role.name = some role := by
  cases role <;> rfl

theorem AudioTrack.recovers {track : AudioTrack} (volume : ∀ x ∈ track.volume, x.ReadsBack) :
    read.Recovers track.toDatum track :=
  .record rfl
    (.given (.choice track.role.ofName?_name) <| .given track.source.recovers <|
      .lastAbsentable (fun x mem => .real (volume x mem)) (fun _ => Datum.noConfusion))
    (by decide) rfl

theorem SubtitleSource.recovers (source : SubtitleSource) : read.Recovers source.toDatum source := by
  cases source with
  | inline text => exact .alternative rfl ⟨Json.written_text text, rfl⟩
  | file source =>
    obtain ⟨written, reads⟩ := source.recovers
    refine .alternative rfl ⟨written, ?_⟩
    simp only [reads]
    rfl

theorem SubtitlePosition.ofName?_name (position : SubtitlePosition) :
    ofName? position.name = some position := by
  cases position <;> rfl

theorem Subtitles.recovers {s : Subtitles} (fontSize : s.fontSize < 2 ^ 32) :
    read.Recovers s.toDatum s :=
  .record rfl
    (.given s.source.recovers <| .given (.natural32 fontSize) <| .given (.text s.color) <|
      .given (.choice s.position.ofName?_name) <| .given (.bool s.outline) <|
      .given (.text s.background) .nil) (by decide) rfl

theorem Keyframe.recovers {k : Keyframe} (numbers : ∀ x ∈ k.numbers, x.ReadsBack) :
    read.Recovers k.toDatum k := by
  obtain ⟨time, x, y, opacity, scale⟩ := forall_mem_numbers.mp numbers
  exact .record rfl
    (.given (.real time) <| .given (.real x) <| .given (.real y) <| .given (.real opacity) <|
      .given (.real scale) .nil) (by decide) rfl

theorem TextCue.recovers {cue : TextCue} (fontSize : cue.fontSize < 2 ^ 32)
    (numbers : ∀ x ∈ cue.numbers, x.ReadsBack) : read.Recovers cue.toDatum cue := by
  obtain ⟨start, finish, x, y, keyframes⟩ := forall_mem_numbers.mp numbers
  rw [toDatum]
  simp only [List.append_assoc, List.cons_append, List.nil_append]
  exact .record rfl
    (.given (.text cue.text) <| .given (.real start) <| .given (.real finish) <|
      .given (.natural32 fontSize) <| .given (.text cue.color) <|
      .absentable (fun v mem => .real (x v mem)) (fun _ => Datum.noConfusion) <|
      .absentable (fun v mem => .real (y v mem)) (fun _ => Datum.noConfusion) <|
      .absentable (fun s _ => .text s) (fun _ => Datum.noConfusion) <|
      .absentable (fun s _ => .text s) (fun _ => Datum.noConfusion) <|
      .given (.list fun k mem => Keyframe.recovers (keyframes k mem)) .nil) (by decide) rfl

/-- The kind is taken out of the members of a background, whichever it is. -/
theorem Background.recovers (background : Background) :
    read.Recovers background.toDatum background := by
  cases background with
  | color c =>
    refine ⟨Json.written_ofMembers ?_, rfl⟩
    simp only [List.forall_mem_cons, List.not_mem_nil, false_implies, implies_true, and_true]
    exact ⟨Json.written_text _, Json.written_text c⟩
  | image source =>
    obtain ⟨written, reads⟩ := source.recovers
    refine ⟨Json.written_ofMembers ?_, ?_⟩
    · simp only [List.forall_mem_cons, List.not_mem_nil, false_implies, implies_true, and_true]
      exact ⟨Json.written_text _, written⟩
    · -- The one member beside the kind is the source.
      cases source <;> rfl

theorem Backend.ofName?_name (backend : Backend) : ofName? backend.name = some backend := by
  cases backend <;> rfl

/-! ## Scenes -/

theorem Scene.recovers {scene : Scene} (inRange : scene.InRange)
    (numbers : ∀ x ∈ scene.numbers, x.ReadsBack) : read.Recovers scene.toDatum scene := by
  obtain ⟨duration, images, audio, texts, kenBurns⟩ := forall_mem_numbers.mp numbers
  rw [toDatum]
  simp only [List.append_assoc, List.cons_append, List.nil_append]
  exact .record rfl
    (.given (.text scene.title) <| .given (.real duration) <| .given (.natural32 inRange.width) <|
      .given (.natural32 inRange.height) <| .given scene.background.recovers <|
      .given (.list fun clip mem => ImageClip.recovers (inRange.rects clip mem)
        (inRange.prescaleWidths clip mem) (images clip mem)) <|
      .given (.list fun track mem => AudioTrack.recovers (audio track mem)) <|
      .absentable (fun s mem => Subtitles.recovers (inRange.subtitleSize s mem))
        (fun _ => Datum.noConfusion) <|
      .given (.list fun cue mem => TextCue.recovers (inRange.textSizes cue mem) (texts cue mem)) <|
      .absentable (fun k mem => KenBurnsDefaults.recovers (inRange.kenBurns k mem) (kenBurns k mem))
        (fun _ => Datum.noConfusion) <|
      .lastAbsentable (fun backend _ => .choice backend.ofName?_name) (fun _ => Datum.noConfusion))
    (by decide) rfl

/-- A scene that was read, in whichever form, survives being written and read again if its numbers
    do. -/
theorem Scene.decode_encode_of_read {form : Datum} {scene : Scene} (accepted : read form = .ok scene)
    (numbers : ∀ x ∈ scene.numbers, x.ReadsBack) :
    Json.decode read (Json.encode scene.toDatum) = .ok scene :=
  (recovers (inRange_of_read accepted) numbers).decode

/-- A scene survives its JSON text: if its whole numbers are in range, its real numbers are finite
    and their texts read back, then the text of the scene is decoded to the scene. -/
theorem Scene.decode_encode (scene : Scene) (inRange : scene.InRange)
    (finite : ∀ x ∈ scene.numbers, x.isFinite = true)
    (readsBack : ∀ x ∈ scene.numbers, x.isFinite = true → x.ReadsBack) :
    Json.decode read (Json.encode scene.toDatum) = .ok scene := by
  have numbers : ∀ x ∈ scene.numbers, x.ReadsBack := fun x mem => readsBack x mem (finite x mem)
  exact (recovers inRange numbers).decode

/-- A scene with layers of every kind, escapes in its title, a moving text, a negative zero and
    numbers that are written with an exponent. -/
theorem Scene.decode_encode_layered :
    let scene : Scene :=
      { Sample.layeredScene with
        title := "\"quoted\" \\ \t\x01 é"
        texts :=
          [{ TextCue.plain "Hello" (.zero true) 4 with
              x := some (.ofDecimal true 125 (-9))
              keyframes := [⟨0, 1, .ofDecimal false 1 20, .ofDecimal false 5 (-1), 1⟩] }]
        kenBurns := some ⟨true, KenBurns.defaultZoomRate, 1920, true⟩
        backend := some .software }
    scene.InRange ∧ (∀ x ∈ scene.numbers, x.isFinite = true ∧ x.ReadsBack) ∧
      Json.decode read (Json.encode scene.toDatum) = .ok scene := by
  intro scene
  have inRange : scene.InRange := by
    constructor <;> decide
  have numbers : ∀ x ∈ scene.numbers, x.isFinite = true ∧ x.ReadsBack := by
    decide +kernel
  exact ⟨inRange, numbers,
    decode_encode scene inRange (fun x mem => (numbers x mem).1) fun x mem _ => (numbers x mem).2⟩

end Compositor
