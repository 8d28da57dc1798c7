import Compositor.Program.Arguments
import Compositor.Proofs.Curve.Sampling
import Compositor.Proofs.Program.Drafts
import Compositor.Proofs.Scene.Finite
import Compositor.Rehearsal.Samples
import Compositor.Scene.Validation

/-! # The numbers on a command line

A command line is text, and some of this text is written from numbers, in a `Spelling`.
`Spelling.args` is the command line of a scene in any spelling, the engine's one being that in the
standard spelling.  A number that could be spelled in another way without a change is not written.

So no number is written that is not finite if the command line is the same in all spellings that
differ on other numbers only (`Spelling.args_eq`).  It takes finite numbers in the scene, and it
takes finite results where the compiler computes with them: the end of a clip, the differences in
the formula of a curve, and a scaled font size may overflow.

A spelling that is at hand is the one in which things are written, so two of them are told apart by
giving them explicitly.
-/

namespace Compositor

/-! ## Decimal numerals -/

/-- The numeral is a decimal: digits, perhaps a point with digits after it, and in parentheses if
    it is negative. -/
def Double.IsDecimal (x : Double) : Prop :=
  ∃ cs d, Decimal.readFrom cs = some (d, []) ∧
    (x.numeral = cs ∨ x.numeral = '(' :: '-' :: (cs ++ [')']))

theorem Double.isDecimal_of_isFinite {x : Double} (finite : x.isFinite = true) : x.IsDecimal := by
  have ends : Decimal.Ends [] := fun _ none => nomatch none
  by_cases zero : x.isZero = true
  · have digit : ∀ c ∈ ['0'], c.isDigit = true := List.forall_mem_singleton.mpr rfl
    refine ⟨['0'], _, Decimal.readFrom_whole (List.cons_ne_nil _ _) digit ends, .inl ?_⟩
    rw [numeral, if_pos zero]
  · obtain ⟨d, read, -⟩ := readFrom_magnitudeText finite (by simpa using zero) ends
    rw [List.append_nil] at read
    refine ⟨x.magnitudeText, d, read, ?_⟩
    have number := isNaN_of_isFinite finite
    rw [numeral, if_neg zero, text, number]
    cases x.negative with
    | true => exact .inr (by simp)
    | false => exact .inl (by simp)

/-! ## Spellings -/

namespace Spelling

/-- The engine's arguments for a scene, with numbers in this spelling. -/
def args (w : Spelling) (scene : Scene) (render : RenderSettings) (random : Generator)
    (profile : EncoderProfile) (output : String) : List String :=
  @Program.args w (@Scene.compile w scene render random).1 profile render output

/-- The number is written as its numeral. -/
def Keeps (w : Spelling) (x : Double) : Prop := w.numeral x = x.numeral

end Spelling

/-! ## Numbers that are written -/

/-- All numbers of the expression have the property. -/
def Expression.All (P : Double → Prop) : Expression Double → Prop
  | number value => P value
  | .variable => True
  | add a b | sub a b | mul a b | div a b => a.All P ∧ b.All P
  | ifLess a b yes no => a.All P ∧ b.All P ∧ yes.All P ∧ no.All P

/-- All numbers that are written for a cue have the property. -/
structure TextCue.Writes (P : Double → Prop) (cue : TextCue) : Prop where
  start : P cue.start
  finish : P cue.finish
  place : cue.keyframes.isEmpty = true → (∀ x ∈ cue.x, P x) ∧ ∀ y ∈ cue.y, P y
  curves : cue.keyframes.isEmpty = false → ∀ p : TextProperty,
    (p.curve cue.keyframes).expression.All P
  size : cue.keyframes.isEmpty = false → ∀ s, TextProperty.scale.curve cue.keyframes = .constant s →
    P (Double.ofNat cue.fontSize * s).round

/-- All numbers that are written for a scene have the property. -/
structure Scene.Writes (P : Double → Prop) (scene : Scene) (render : RenderSettings) : Prop where
  duration : P scene.duration
  starts : ∀ clip ∈ scene.shownImages render, P clip.start
  ends : ∀ clip ∈ scene.shownImages render, P clip.finish
  rates : ∀ clip ∈ scene.shownImages render, ∀ wish ∈ clip.zoomWish? scene.kenBurns, P wish.rate
  maxZoom : P Filter.maxZoom
  cues : ∀ cue ∈ scene.shownTexts, cue.Writes P
  volumes : ∀ track ∈ scene.heardTracks, P track.1.effectiveVolume

namespace Spelling

variable {w : Spelling} {scene : Scene} {render : RenderSettings}

theorem Keeps.text {x : Double} (keeps : w.Keeps x) :
    @Double.numeralText w x = @Double.numeralText standard x :=
  congrArg String.ofList keeps

theorem render_eq {e : Expression Double} (keeps : e.All w.Keeps) (name : List Char)
    (place : Expression.Binding) :
    e.render w.numeral name place = e.render Double.numeral name place := by
  induction e generalizing place with
  | number value => exact keeps
  | «variable» => rfl
  | add a b iha ihb => rw [Expression.render_add, Expression.render_add, iha keeps.1, ihb keeps.2]
  | sub a b iha ihb => rw [Expression.render_sub, Expression.render_sub, iha keeps.1, ihb keeps.2]
  | mul a b iha ihb => rw [Expression.render_mul, Expression.render_mul, iha keeps.1, ihb keeps.2]
  | div a b iha ihb => rw [Expression.render_div, Expression.render_div, iha keeps.1, ihb keeps.2]
  | ifLess a b yes no iha ihb ihyes ihno =>
    obtain ⟨a, b, yes, no⟩ := keeps
    rw [Expression.render_ifLess, Expression.render_ifLess, iha a, ihb b, ihyes yes, ihno no]

theorem expressionText_eq {curve : Curve Double} (keeps : curve.expression.All w.Keeps)
    (name : String) :
    @Curve.expressionText w curve name = @Curve.expressionText standard curve name :=
  congrArg String.ofList (render_eq keeps _ _)

/-! ### Filters -/

theorem zoom_eq {z : Filter.Zoom} {clip : ImageClip} (rate : w.Keeps z.rate)
    (limit : w.Keeps Filter.maxZoom) (start : w.Keeps clip.start) (width height fps : Nat) :
    @Filter.zoom w z clip width height fps = @Filter.zoom standard z clip width height fps := by
  unfold Filter.zoom
  rw [rate.text, limit.text, start.text]

theorem overlay_eq {clip : ImageClip} (start : w.Keeps clip.start) (finish : w.Keeps clip.finish)
    (x y : Int) : @Filter.overlay w x y clip = @Filter.overlay standard x y clip := by
  unfold Filter.overlay
  rw [start.text, finish.text]

theorem fixedTextOptions_eq {cue : TextCue} (left : ∀ x ∈ cue.x, w.Keeps x)
    (top : ∀ y ∈ cue.y, w.Keeps y) :
    @Filter.fixedTextOptions w cue = @Filter.fixedTextOptions standard cue := by
  have x : cue.x.map (@Double.numeralText w) = cue.x.map (@Double.numeralText standard) :=
    Option.map_congr fun x mem => (left x mem).text
  have y : cue.y.map (@Double.numeralText w) = cue.y.map (@Double.numeralText standard) :=
    Option.map_congr fun y mem => (top y mem).text
  unfold Filter.fixedTextOptions
  rw [x, y]

theorem scaledFontSize_eq {scale : Curve Double} {fontSize : Nat}
    (curve : scale.expression.All w.Keeps)
    (size : ∀ s, scale = .constant s → w.Keeps (Double.ofNat fontSize * s).round)
    (variableText : String) :
    @Filter.scaledFontSize w fontSize variableText scale =
      @Filter.scaledFontSize standard fontSize variableText scale := by
  cases scale with
  | constant s => simp only [Filter.scaledFontSize, (size s rfl).text]
  | pieces before segments after => simp only [Filter.scaledFontSize, expressionText_eq curve]

theorem opacityOptions_eq {opacity : Curve Double} (curve : opacity.expression.All w.Keeps)
    (variableText : String) :
    @Filter.opacityOptions w variableText opacity =
      @Filter.opacityOptions standard variableText opacity := by
  unfold Filter.opacityOptions
  rw [expressionText_eq curve]

theorem drawText_eq {cue : TextCue} (writes : cue.Writes w.Keeps) :
    @Filter.drawText w cue = @Filter.drawText standard cue := by
  have style :
      (if cue.keyframes.isEmpty then @Filter.fixedTextOptions w cue
        else @Filter.movingTextOptions w cue) =
      if cue.keyframes.isEmpty then @Filter.fixedTextOptions standard cue
        else @Filter.movingTextOptions standard cue := by
    cases fixed : cue.keyframes.isEmpty with
    | true => exact fixedTextOptions_eq (writes.place fixed).1 (writes.place fixed).2
    | false =>
      have curves := writes.curves fixed
      simp only [Bool.false_eq_true, if_false]
      unfold Filter.movingTextOptions
      simp only [writes.start.text, scaledFontSize_eq (curves .scale) (writes.size fixed),
        expressionText_eq (curves _), opacityOptions_eq (curves .opacity)]
  unfold Filter.drawText Filter.textOptions
  rw [style, writes.start.text, writes.finish.text]

/-! ### Drafts -/

theorem ofColor_eq (duration : w.Keeps scene.duration) (render : RenderSettings)
    (random : Generator) (color : String) :
    @Draft.ofColor w scene render random color =
      @Draft.ofColor standard scene render random color := by
  unfold Draft.ofColor
  rw [duration.text]

theorem background_eq (duration : w.Keeps scene.duration) (render : RenderSettings)
    (random : Generator) :
    @Draft.background w scene render random = @Draft.background standard scene render random := by
  unfold Draft.background
  simp only [ofColor_eq duration]

theorem addClip_eq {clip : ImageClip} (writes : scene.Writes w.Keeps render)
    (mem : clip ∈ scene.shownImages render) (d : Draft) :
    @Draft.addClip w scene render d clip = @Draft.addClip standard scene render d clip := by
  have scaled : @Draft.scaleClip w scene render d clip =
      @Draft.scaleClip standard scene render d clip := by
    unfold Draft.scaleClip
    cases wish : clip.zoomWish? scene.kenBurns with
    | none => rfl
    | some wish' =>
      dsimp only
      rw [zoom_eq (writes.rates clip mem wish' wish) writes.maxZoom (writes.starts clip mem)]
  simp only [Draft.addClip, scaled, overlay_eq (writes.starts clip mem) (writes.ends clip mem)]

theorem addText_eq {cue : TextCue} (writes : cue.Writes w.Keeps) (d : Draft) :
    @Draft.addText w d cue = @Draft.addText standard d cue := by
  unfold Draft.addText
  rw [drawText_eq writes]

/-- Layers are laid one over the other, and each layer is the same in both spellings. -/
theorem draft_eq (writes : scene.Writes w.Keeps render) (random : Generator) :
    @Scene.draft w scene render random = @Scene.draft standard scene render random := by
  have clips : ∀ d, (scene.shownImages render).foldl (@Draft.addClip w scene render) d =
      (scene.shownImages render).foldl (@Draft.addClip standard scene render) d := fun d =>
    List.foldl_ext _ _ _ fun d clip mem => addClip_eq writes mem d
  have cues : ∀ d, scene.shownTexts.foldl (@Draft.addText w) d =
      scene.shownTexts.foldl (@Draft.addText standard) d := fun d =>
    List.foldl_ext _ _ _ fun d cue mem => addText_eq (writes.cues cue mem) d
  rw [@Scene.draft_eq w, @Scene.draft_eq standard, background_eq writes.duration, clips, cues]

/-! ### Command lines -/

theorem mixNode_eq (writes : scene.Writes w.Keeps render) :
    @Scene.mixNode w scene = @Scene.mixNode standard scene := by
  have weights : (scene.heardTracks.map fun t => @Double.numeralText w t.1.effectiveVolume) =
      scene.heardTracks.map fun t => @Double.numeralText standard t.1.effectiveVolume :=
    List.map_congr_left fun track mem => (writes.volumes track mem).text
  unfold Scene.mixNode
  rw [weights]

theorem compile_eq (writes : scene.Writes w.Keeps render) (random : Generator) :
    (@Scene.compile w scene render random).1 = (@Scene.compile standard scene render random).1 := by
  rw [@Scene.compile_fst w, @Scene.compile_fst standard]
  unfold Scene.unsubtitled
  rw [draft_eq writes, mixNode_eq writes]

theorem inputArgs_eq {input : Input} (writes : scene.Writes w.Keeps render) {random : Generator}
    (mem : input ∈ (@Scene.compile standard scene render random).1.inputs) :
    @Input.args w input = @Input.args standard input := by
  have looped {path : String} {length : Double} (keeps : w.Keeps length) :
      @Input.args w (.loopedImage path length) =
        @Input.args standard (.loopedImage path length) := by
    simp only [Input.args, keeps.text]
  rw [scene.compile_inputs] at mem
  rcases List.mem_cons.mp mem with rfl | mem
  · rw [Scene.backgroundInput]
    split
    · exact looped writes.duration
    · rfl
  rcases List.mem_append.mp mem with mem | mem
  · obtain ⟨clip, shown, rfl⟩ := List.mem_map.mp mem
    rw [ImageClip.input]
    split
    · rfl
    · exact looped (writes.ends clip shown)
  · obtain ⟨track, -, rfl⟩ := List.mem_map.mp mem
    rw [AudioTrack.input]
    cases track.1.role == .music <;> rfl

/-- The engine's command line depends on how the numbers are written that are written, and on no
    others. -/
theorem args_eq (writes : scene.Writes w.Keeps render) (random : Generator)
    (profile : EncoderProfile) (output : String) :
    w.args scene render random profile output =
      standard.args scene render random profile output := by
  have inputs : (@Scene.compile standard scene render random).1.inputs.flatMap (@Input.args w) =
      (@Scene.compile standard scene render random).1.inputs.flatMap (@Input.args standard) :=
    List.flatMap_congr fun input mem => inputArgs_eq writes mem
  have duration : (@Scene.compile standard scene render random).1.duration = scene.duration := rfl
  unfold args Program.args
  rw [compile_eq writes, inputs, duration, writes.duration.text]

end Spelling

/-! ## Finite numbers -/

theorem Expression.IsFinite.all {P : Double → Prop} (property : ∀ x : Double, x.isFinite = true → P x)
    {e : Expression Double} (finite : e.IsFinite) : e.All P := by
  induction e with
  | number value => exact property value finite
  | «variable» => trivial
  | add a b iha ihb | sub a b iha ihb | mul a b iha ihb | div a b iha ihb =>
    exact ⟨iha finite.1, ihb finite.2⟩
  | ifLess a b yes no iha ihb ihyes ihno =>
    exact ⟨iha finite.1, ihb finite.2.1, ihyes finite.2.2.1, ihno finite.2.2.2⟩

/-- What the compiler computes from the numbers of a scene does not overflow. -/
structure Scene.StaysFinite (scene : Scene) (render : RenderSettings) : Prop where
  ends : ∀ clip ∈ scene.shownImages render, clip.finish.isFinite = true
  differences : ∀ cue ∈ scene.shownTexts, ∀ p : TextProperty,
    (p.curve cue.keyframes).HasFiniteDifferences
  sizes : ∀ cue ∈ scene.shownTexts, cue.keyframes.isEmpty = false → ∀ s,
    TextProperty.scale.curve cue.keyframes = .constant s →
      (Double.ofNat cue.fontSize * s).round.isFinite = true

section

variable {P : Double → Prop} {scene : Scene} {render : RenderSettings}

theorem TextCue.writes {cue : TextCue} (property : ∀ x : Double, x.isFinite = true → P x)
    (stays : scene.StaysFinite render) (shown : cue ∈ scene.shownTexts)
    (finite : ∀ x ∈ cue.numbers, x.isFinite = true) : cue.Writes P := by
  obtain ⟨start, finish, x, y, keyframes⟩ := TextCue.forall_mem_numbers.mp finite
  -- A cue with keyframes has curves of all properties, whichever of them change.
  have values (p : TextProperty) : ∀ k ∈ cue.keyframes,
      k.time.isFinite = true ∧ (p.value k).isFinite = true := by
    intro k mem
    obtain ⟨time, x, y, opacity, scale⟩ := Keyframe.forall_mem_numbers.mp (keyframes k mem)
    cases p
    case x => exact ⟨time, x⟩
    case y => exact ⟨time, y⟩
    case opacity => exact ⟨time, opacity⟩
    case scale => exact ⟨time, scale⟩
  refine ⟨property _ start, property _ finish, fun _ => ⟨fun a mem => property a (x a mem),
    fun b mem => property b (y b mem)⟩, fun _ p => ?_, fun moving s constant =>
    property _ (stays.sizes cue shown moving s constant)⟩
  exact (p.isProper_curve (values p) (stays.differences cue shown p)).isFinite_expression.all property

theorem ImageClip.rate_isFinite {clip : ImageClip} {defaults : Option KenBurnsDefaults}
    {wish : ZoomWish} (own : ∀ k ∈ clip.kenBurns, k.zoomRate.isFinite = true)
    (others : ∀ k ∈ defaults, k.zoomRate.isFinite = true)
    (wished : clip.zoomWish? defaults = some wish) : wish.rate.isFinite = true := by
  cases given : clip.kenBurns with
  | some k =>
    simp only [zoomWish?, given] at wished
    split at wished
    · cases wished
      exact own k given
    · cases wished
  | none =>
    cases defaults with
    | none =>
      simp only [zoomWish?, given] at wished
      cases wished
    | some d =>
      simp only [zoomWish?, given] at wished
      split at wished
      · cases wished
        exact others d rfl
      · cases wished

theorem AudioTrack.effectiveVolume_isFinite {track : AudioTrack}
    (finite : ∀ x ∈ track.volume, x.isFinite = true) : track.effectiveVolume.isFinite = true := by
  rw [effectiveVolume]
  cases given : track.volume with
  | none => cases track.role <;> decide +kernel
  | some volume => exact finite volume given

theorem Scene.writes (property : ∀ x : Double, x.isFinite = true → P x)
    (finite : ∀ x ∈ scene.numbers, x.isFinite = true) (stays : scene.StaysFinite render) :
    scene.Writes P render := by
  obtain ⟨duration, images, audio, texts, kenBurns⟩ := Scene.forall_mem_numbers.mp finite
  have clips : ∀ clip ∈ scene.shownImages render, clip ∈ scene.images := fun clip shown =>
    List.mem_of_mem_filter (List.mem_of_mem_take shown)
  constructor
  case duration => exact property _ duration
  case starts =>
    intro clip shown
    exact property _ (ImageClip.forall_mem_numbers.mp (images clip (clips clip shown))).1
  case ends => exact fun clip shown => property _ (stays.ends clip shown)
  case rates =>
    intro clip shown wish wished
    have own := (ImageClip.forall_mem_numbers.mp (images clip (clips clip shown))).2.2
    exact property _ (ImageClip.rate_isFinite own kenBurns wished)
  case maxZoom => exact property _ (by decide +kernel)
  case cues =>
    intro cue shown
    exact TextCue.writes property stays shown (texts cue (List.mem_of_mem_filter shown))
  case volumes =>
    intro track heard
    obtain ⟨track', mem, given⟩ := List.mem_filterMap.mp heard
    obtain ⟨path, -, rfl⟩ := Option.map_eq_some_iff.mp given
    exact property _ (AudioTrack.effectiveVolume_isFinite (audio track' mem))

/-- If the numbers of a scene are finite, as they are if it was read (`isFinite_of_decode`), and none
    of those that the compiler computes overflows, then every number on the engine's command line is
    finite and a decimal: a spelling that differs on other numbers only leads to the same command
    line. -/
theorem Scene.args_spelled (finite : ∀ x ∈ scene.numbers, x.isFinite = true)
    (stays : scene.StaysFinite render) (random : Generator) (profile : EncoderProfile)
    (output : String) :
    let args := (scene.compile render random).1.args profile render output
    ∀ w : Spelling, (∀ x : Double, x.isFinite = true → x.IsDecimal → w.Keeps x) →
      w.args scene render random profile output = args := by
  intro args w keeps
  have writes : scene.Writes w.Keeps render :=
    Scene.writes (fun x finite => keeps x finite (x.isDecimal_of_isFinite finite)) finite stays
  exact Spelling.args_eq writes random profile output

/-- The spelling that shows nothing but finite numbers. -/
abbrev Spelling.masked : Spelling := ⟨fun x => if x.isFinite then x.numeral else ['?']⟩

/-- A scene with a layer of every kind, and a text that moves and keeps its size. -/
theorem Scene.args_spelled_moving :
    let cue := { TextCue.plain "Hello" 1 4 with
      keyframes := [⟨1, -10, 0, 1, 2⟩, ⟨0, 90, 0, 0, 2⟩] }
    let scene : Scene := { Sample.layeredScene with texts := [cue] }
    (∀ x ∈ scene.numbers, x.isFinite = true) ∧
      Spelling.masked.args scene .standard (.ofSeed 7) (.ofBackend .software 23) "out.mp4" =
        (scene.compile .standard (.ofSeed 7)).1.args (.ofBackend .software 23) .standard "out.mp4" := by
  intro cue scene
  have finite : ∀ x ∈ scene.numbers, x.isFinite = true := by decide +kernel
  have stays : scene.StaysFinite .standard := by
    constructor
    case ends => decide +kernel
    case differences =>
      intro shown mem p
      obtain rfl : shown = cue := List.mem_singleton.mp (List.mem_of_mem_filter mem)
      exact p.hasFiniteDifferences_curve (by cases p <;> decide +kernel) (by decide +kernel)
    case sizes =>
      -- Curves are not computed here: a constant one has a value of the keyframes.
      intro shown mem _ s constant
      obtain rfl : shown = cue := List.mem_singleton.mp (List.mem_of_mem_filter mem)
      rcases Curve.eq_value_of_constant constant with rfl | ⟨p, among, rfl⟩
      · decide +kernel
      · clear constant
        revert p
        decide +kernel
  exact ⟨finite, Scene.args_spelled finite stays _ _ _ _ fun x finite _ => if_pos finite⟩

/-- The start and the length of a clip are finite, but not its end. -/
theorem Scene.args_spelled_overflow :
    let clip := Sample.clip "/media/a.png" (.ofDecimal false 15 307) (.ofDecimal false 15 307)
    let scene : Scene := { Sample.emptyScene 6 with images := [clip] }
    let args := (scene.compile .standard (.ofSeed 7)).1.args (.ofBackend .software 23) .standard "out.mp4"
    scene.fault? = none ∧ (∀ x ∈ scene.numbers, x.isFinite = true) ∧ "inf" ∈ args ∧
      Spelling.masked.args scene .standard (.ofSeed 7) (.ofBackend .software 23) "out.mp4" ≠ args := by
  decide +kernel

end

end Compositor
