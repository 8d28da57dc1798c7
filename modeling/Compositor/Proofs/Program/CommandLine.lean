import Compositor.Program.Arguments
import Compositor.Proofs.Program.Streams

/-! # Reading the engine's command line

The engine reads its arguments from left to right: a flag takes the text behind it as its
value, whatever that text is, and what is neither a flag nor a value is a file.  Locations
and graphs are arbitrary texts, which may look like flags; they do not disturb the reader,
because all of them are values.

Read like this, the arguments of a compiled scene declare its inputs in their order, each
with its own options.
-/

namespace Compositor

/-! ## The reader -/

/-- What is read from a command line. -/
inductive Argument where
  /-- A flag that takes no value. -/
  | switch (flag : String)
  | option (flag value : String)
  /-- A flag at the very end, which lacks its value. -/
  | cut (flag : String)
  | file (name : String)
deriving DecidableEq

namespace Argument

def isFlag (text : String) : Bool := text.toList.head? == some '-'

/-- The text is a flag that takes a value. -/
def takesValue (text : String) : Bool := isFlag text && text != "-y"

/-- Reads a command line. -/
def parse : List String → List Argument
  | [] => []
  | [text] =>
    if takesValue text then [.cut text]
    else if isFlag text then [.switch text]
    else [.file text]
  | text :: next :: rest =>
    if takesValue text then .option text next :: parse rest
    else if isFlag text then .switch text :: parse (next :: rest)
    else .file text :: parse (next :: rest)

def file? : Argument → Option String
  | file name => some name
  | switch _ | option _ _ | cut _ => none

/-- The argument is an option with one of the flags. -/
def hasFlag (flags : List String) : Argument → Bool
  | option flag _ => flags.contains flag
  | switch _ | cut _ | file _ => false

/-- The input that the argument declares, if it declares one. -/
def input? : Argument → Option String
  | option flag value => if flag = "-i" then some value else none
  | switch _ | cut _ | file _ => none

/-- The inputs that are declared, each with all that was read since the one before. -/
def inputs (since : List Argument) : List Argument → List (List Argument × String)
  | [] => []
  | argument :: rest =>
    match argument.input? with
    | some location => (since, location) :: inputs [] rest
    | none => inputs (since ++ [argument]) rest

theorem parse_nil : parse [] = [] := rfl

theorem parse_option {flag : String} (takes : takesValue flag = true) (value : String)
    (rest : List String) : parse (flag :: value :: rest) = .option flag value :: parse rest := by
  rw [parse, if_pos takes]

example : parse ["-y", "-i", "-f", "out.mp4"] =
    [.switch "-y", .option "-i" "-f", .file "out.mp4"] := by decide

/-- A single text is a file if it is not a flag, and declares nothing in any case. -/
theorem parse_single (text : String) :
    (parse [text]).filterMap file? = (if isFlag text then [] else [text]) ∧
      (∀ a ∈ parse [text], a.input? = none) ∧ ∀ flags, (parse [text]).filter (hasFlag flags) = [] := by
  rw [parse, takesValue]
  cases isFlag text with
  | true => cases text != "-y" <;> simp [file?, input?, hasFlag]
  | false => simp [file?, input?, hasFlag]

theorem inputs_append {before : List Argument} (quiet : ∀ a ∈ before, a.input? = none)
    (since after : List Argument) :
    inputs since (before ++ after) = inputs (since ++ before) after := by
  induction before generalizing since with
  | nil => rw [List.nil_append, List.append_nil]
  | cons a before inductionHypothesis =>
    have next := inductionHypothesis (fun a mem => quiet a (List.mem_cons_of_mem _ mem)) (since ++ [a])
    rw [List.cons_append, inputs, quiet a List.mem_cons_self]
    rw [List.append_assoc] at next
    exact next

end Argument

open Argument

/-! ## The parts of a command line -/

namespace Input

def location : Input → String
  | generated spec => spec
  | loopedImage path _ | stillImage path | audio path _ => path

def options : Input → List Argument
  | generated _ => [.option "-f" "lavfi"]
  | loopedImage _ duration => [.option "-loop" "1", .option "-t" duration.numeralText]
  | stillImage _ => []
  | audio _ looped => if looped then [.option "-stream_loop" "-1"] else []

def arguments (input : Input) : List Argument := input.options ++ [.option "-i" input.location]

theorem parse_args (input : Input) (rest : List String) :
    parse (input.args ++ rest) = input.arguments ++ parse rest := by
  cases input with
  | generated | loopedImage | stillImage =>
    simp (disch := decide) only [args, arguments, options, location, List.cons_append,
      List.nil_append, parse_option]
  | audio path looped =>
    cases looped <;> simp (disch := decide) [args, arguments, options, location, parse_option]

theorem parse_flatMap_args (inputs : List Input) (rest : List String) :
    parse (inputs.flatMap args ++ rest) = inputs.flatMap arguments ++ parse rest := by
  induction inputs with
  | nil => rfl
  | cons input inputs inductionHypothesis =>
    rw [List.flatMap_cons, List.append_assoc, parse_args, inductionHypothesis, List.flatMap_cons,
      List.append_assoc]

/-- No option of an input declares an input, maps a stream or sets up the audio. -/
theorem options_quiet (input : Input) : ∀ a ∈ input.options,
    ∃ flag value, a = .option flag value ∧ flag ∉ ["-i", "-map", "-c:a", "-b:a"] := by
  cases input with
  | generated | loopedImage | stillImage => simp [options]
  | audio path looped => cases looped <;> simp [options]

theorem filterMap_arguments (inputs : List Input) :
    (inputs.flatMap arguments).filterMap file? = [] := by
  rw [List.filterMap_eq_nil_iff]
  intro a mem
  obtain ⟨input, -, mem⟩ := List.mem_flatMap.mp mem
  rcases List.mem_append.mp mem with own | location
  · obtain ⟨flag, value, rfl, -⟩ := input.options_quiet a own
    rfl
  · rw [List.mem_singleton.mp location]
    rfl

theorem filter_arguments (inputs : List Input) :
    (inputs.flatMap arguments).filter (hasFlag ["-map", "-c:a", "-b:a"]) = [] := by
  rw [List.filter_eq_nil_iff]
  intro a mem chosen
  obtain ⟨input, -, mem⟩ := List.mem_flatMap.mp mem
  rcases List.mem_append.mp mem with own | location
  · obtain ⟨flag, value, rfl, other⟩ := input.options_quiet a own
    exact other (List.mem_cons_of_mem _ (List.contains_iff_mem.mp chosen))
  · rw [List.mem_singleton.mp location] at chosen
    cases chosen

/-- What is read between two locations are the options of the second one. -/
theorem inputs_arguments (since : List Argument) (input : Input) (rest : List Argument) :
    Argument.inputs since (input.arguments ++ rest) =
      (since ++ input.options, input.location) :: Argument.inputs [] rest := by
  have quiet : ∀ a ∈ input.options, a.input? = none := by
    intro a mem
    obtain ⟨flag, value, rfl, other⟩ := input.options_quiet a mem
    rw [input?, if_neg]
    rintro rfl
    exact other List.mem_cons_self
  rw [arguments, List.append_assoc, inputs_append quiet]
  rfl

theorem inputs_flatMap_arguments (inputs : List Input) (rest : List Argument) :
    Argument.inputs [] (inputs.flatMap arguments ++ rest) =
      inputs.map (fun input => (input.options, input.location)) ++ Argument.inputs [] rest := by
  induction inputs with
  | nil => rfl
  | cons input inputs inductionHypothesis =>
    rw [List.flatMap_cons, List.append_assoc, inputs_arguments, inductionHypothesis]
    rfl

end Input

/-- What is said before all inputs: the output is overwritten, and the hardware is set up. -/
def Backend.globalArguments : Backend → List Argument
  | .qsv =>
    [.switch "-y", .option "-init_hw_device" "qsv=hw", .option "-filter_hw_device" "hw"]
  | .nvenc | .amf | .videoToolbox | .software => [.switch "-y"]

theorem Backend.parse_globals (backend : Backend) (rest : List String) :
    parse ("-y" :: (EncoderProfile.hardwareArgsFor backend ++ rest)) =
      backend.globalArguments ++ parse rest := by
  have overwrite : ∀ texts, parse ("-y" :: texts) = .switch "-y" :: parse texts := by
    intro texts
    cases texts <;> rfl
  rw [overwrite]
  cases backend with
  | qsv =>
    simp (disch := decide) only [EncoderProfile.hardwareArgsFor, globalArguments, List.cons_append,
      List.nil_append, parse_option]
  | nvenc | amf | videoToolbox | software => rfl

/-- The options of an encoder are read on their own.  None of them declares an input, maps a
    stream or sets up the audio. -/
theorem Backend.parse_flags (backend : Backend) (quality : Nat) (rest : List String) :
    parse (EncoderProfile.flagsFor quality backend ++ rest) =
        parse (EncoderProfile.flagsFor quality backend) ++ parse rest ∧
      ∀ a ∈ parse (EncoderProfile.flagsFor quality backend),
        ∃ flag value, a = .option flag value ∧ flag ∉ ["-i", "-map", "-c:a", "-b:a"] := by
  constructor
  · cases backend <;>
      simp (disch := decide) [EncoderProfile.flagsFor, parse_option, parse_nil]
  · cases backend <;>
      simp (disch := decide) [EncoderProfile.flagsFor, parse_option, parse_nil]

/-! ## Whole command lines -/

namespace Program

variable (p : Program) (backend : Backend) (quality : Nat) (render : RenderSettings)

def outputArguments : List Argument :=
  [.option "-filter_complex" p.graph.program, .option "-map" p.videoLabel.text]
    ++ (p.audioLabel?.map fun label => Argument.option "-map" label.text).toList
    ++ .option "-c:v" backend.encoder :: parse (EncoderProfile.flagsFor quality backend)
    ++ (if p.audioLabel?.isSome then
          [.option "-c:a" "aac", .option "-b:a" render.audioBitrate] else [])
    ++ [.option "-pix_fmt" ((EncoderProfile.pixelFormatFor backend).getD render.pixelFormat),
        .option "-r" (toString render.fps), .option "-movflags" "+faststart",
        .option "-t" p.duration.numeralText]

theorem parse_args (output : String) :
    parse (p.args (.ofBackend backend quality) render output) =
      backend.globalArguments
        ++ (p.inputs.flatMap Input.arguments
          ++ (p.outputArguments backend quality render ++ parse [output])) := by
  have flags := fun rest => (backend.parse_flags quality rest).1
  -- Grouped to the right, the parts are read one after the other.
  have arguments : p.args (.ofBackend backend quality) render output =
      "-y" :: (EncoderProfile.hardwareArgsFor backend ++ (p.inputs.flatMap Input.args ++
        ("-filter_complex" :: p.graph.program :: (p.mapArgs ++ ("-c:v" :: backend.encoder ::
          (EncoderProfile.flagsFor quality backend ++ (p.audioArgs render ++
            ["-pix_fmt", (EncoderProfile.pixelFormatFor backend).getD render.pixelFormat,
              "-r", toString render.fps, "-movflags", "+faststart",
              "-t", p.duration.numeralText, output]))))))) := by
    simp only [args, EncoderProfile.ofBackend, EncoderProfile.codecArgs, List.append_assoc,
      List.cons_append, List.nil_append]
  rw [arguments, backend.parse_globals, Input.parse_flatMap_args]
  cases heard : p.audioLabel? with
  | none =>
    simp (disch := decide) [mapArgs, audioArgs, heard, parse_option, flags, outputArguments]
  | some label =>
    simp (disch := decide) [mapArgs, audioArgs, heard, parse_option, flags, outputArguments]

theorem outputArguments_options : ∀ a ∈ p.outputArguments backend quality render,
    ∃ flag value, a = .option flag value ∧ flag ≠ "-i" := by
  intro a mem
  simp only [outputArguments, List.mem_append, List.mem_cons, List.not_mem_nil, or_false,
    Option.mem_toList, Option.map_eq_some_iff] at mem
  rcases mem with (((((rfl | rfl) | ⟨_, _, rfl⟩) | rfl | own) | audio) | rfl | rfl | rfl | rfl)
  · exact ⟨_, _, rfl, by decide⟩
  · exact ⟨_, _, rfl, by decide⟩
  · exact ⟨_, _, rfl, by decide⟩
  · exact ⟨_, _, rfl, by decide⟩
  · obtain ⟨flag, value, rfl, other⟩ := (backend.parse_flags quality []).2 a own
    exact ⟨flag, value, rfl, fun same => other (same ▸ List.mem_cons_self)⟩
  · split at audio
    · rcases List.mem_pair.mp audio with rfl | rfl <;> exact ⟨_, _, rfl, by decide⟩
    · cases audio
  all_goals exact ⟨_, _, rfl, by decide⟩

/-- Besides the finished video only the audio is mapped, and nothing else sets up the
    audio. -/
theorem filter_outputArguments :
    (p.outputArguments backend quality render).filter (hasFlag ["-map", "-c:a", "-b:a"]) =
      .option "-map" "[outv]" ::
        if p.audioLabel?.isSome then
          [.option "-map" "[outa]", .option "-c:a" "aac", .option "-b:a" render.audioBitrate]
        else [] := by
  have flags : (parse (EncoderProfile.flagsFor quality backend)).filter
      (hasFlag ["-map", "-c:a", "-b:a"]) = [] := by
    rw [List.filter_eq_nil_iff]
    intro a mem chosen
    obtain ⟨flag, value, rfl, other⟩ := (backend.parse_flags quality []).2 a mem
    exact other (List.mem_cons_of_mem _ (List.contains_iff_mem.mp chosen))
  have label : p.audioLabel? = none ∨ p.audioLabel? = some .audioOut := by
    rw [audioLabel?]
    cases p.graph.producer? .audioOut with
    | none => exact .inl rfl
    | some index => exact .inr rfl
  rcases label with silent | heard
  · simp [outputArguments, silent, flags, hasFlag, videoLabel, Label.text,
      Label.videoOut]
  · simp [outputArguments, heard, flags, hasFlag, videoLabel, Label.text,
      Label.videoOut, Label.audioOut]

/-- The inputs are declared in their order, each behind its own options. -/
theorem inputs_parse_args {first : Input} {others : List Input} (declared : p.inputs = first :: others)
    (output : String) :
    Argument.inputs [] (parse (p.args (.ofBackend backend quality) render output)) =
      (backend.globalArguments ++ first.options, first.location) ::
        others.map fun input => (input.options, input.location) := by
  have global : ∀ a ∈ backend.globalArguments, a.input? = none := by
    cases backend <;> simp [Backend.globalArguments, input?]
  -- Nothing behind the last input declares another one.
  have later : ∀ a ∈ p.outputArguments backend quality render ++ parse [output], a.input? = none := by
    intro a mem
    rcases List.mem_append.mp mem with mem | mem
    · obtain ⟨flag, value, rfl, other⟩ := p.outputArguments_options backend quality render a mem
      exact if_neg other
    · exact (parse_single output).2.1 a mem
  have nothing := inputs_append later [] []
  rw [List.append_nil] at nothing
  rw [parse_args, inputs_append global, declared, List.flatMap_cons, List.append_assoc,
    Input.inputs_arguments, Input.inputs_flatMap_arguments, nothing]
  exact congrArg _ (List.append_nil _)

theorem filterMap_parse_args (output : String) :
    (parse (p.args (.ofBackend backend quality) render output)).filterMap file? =
      if isFlag output then [] else [output] := by
  have global : backend.globalArguments.filterMap file? = [] := by
    cases backend <;> rfl
  have later : (p.outputArguments backend quality render).filterMap file? = [] := by
    rw [List.filterMap_eq_nil_iff]
    intro a mem
    obtain ⟨flag, value, rfl, -⟩ := p.outputArguments_options backend quality render a mem
    rfl
  rw [parse_args, List.filterMap_append, List.filterMap_append, List.filterMap_append, global, later,
    Input.filterMap_arguments, (parse_single output).1]
  rfl

theorem filter_parse_args (output : String) :
    (parse (p.args (.ofBackend backend quality) render output)).filter
        (hasFlag ["-map", "-c:a", "-b:a"]) =
      .option "-map" "[outv]" ::
        if p.audioLabel?.isSome then
          [.option "-map" "[outa]", .option "-c:a" "aac", .option "-b:a" render.audioBitrate]
        else [] := by
  have global : backend.globalArguments.filter (hasFlag ["-map", "-c:a", "-b:a"]) = [] := by
    cases backend <;> rfl
  rw [parse_args, List.filter_append, List.filter_append, List.filter_append, global,
    Input.filter_arguments, filter_outputArguments, (parse_single output).2.2, List.nil_append,
    List.nil_append, List.append_nil]

end Program

theorem Scene.audioLabel?_compile (scene : Scene) (render : RenderSettings) (random : Generator) :
    (scene.compile render random).1.audioLabel?.isSome = true ↔
      .audioMix ∈ (scene.compile render random).1.graph.kinds := by
  rw [Program.audioLabel?, Option.isSome_map, Graph.producer?_isSome, audioOut_mem_compile,
    audioMix_mem_compile]

/-- The streams, the inputs and the arguments of a compiled scene agree.  Every stream is one
    of a declared input, and each input is read once, as what it is.  On the command line the
    inputs follow each other, each behind its own options and no others; the file that is
    written is the only one that stands alone; and the audio is mapped and encoded exactly if
    sounds are mixed. -/
theorem Scene.compile_args (scene : Scene) (render : RenderSettings) (random : Generator)
    (backend : Backend) (quality : Nat) (output : String) :
    let program := (scene.compile render random).1
    let arguments := parse (program.args (.ofBackend backend quality) render output)
    (∀ stream ∈ program.graph.streams, stream.1 < program.inputs.length) ∧
    (∀ k input, program.inputs[k]? = some input →
      program.graph.streams.filter (fun stream => stream.1 == k) = [(k, input.streamKind)]) ∧
    (∃ first others, program.inputs = first :: others ∧
      Argument.inputs [] arguments =
        (backend.globalArguments ++ first.options, first.location) ::
          others.map fun input => (input.options, input.location)) ∧
    arguments.filterMap file? = (if isFlag output then [] else [output]) ∧
    arguments.filter (hasFlag ["-map", "-c:a", "-b:a"]) =
      .option "-map" "[outv]" ::
        if .audioMix ∈ program.graph.kinds then
          [.option "-map" "[outa]", .option "-c:a" "aac", .option "-b:a" render.audioBitrate]
        else [] := by
  intro program arguments
  have streams : program.graph.streams.Perm (Input.streamsFrom 0 program.inputs) :=
    scene.streams_compile render random
  refine ⟨?_, ?_, ⟨_, _, scene.compile_inputs render random, ?_⟩, ?_, ?_⟩
  · intro stream mem
    have bound := (Input.le_of_mem_streamsFrom (streams.mem_iff.mp mem)).2
    rw [Nat.zero_add] at bound
    exact bound
  · intro k input declared
    have once := streams.filter fun stream => stream.1 == k
    have single := Input.filter_streamsFrom declared 0
    rw [Nat.zero_add] at single
    rw [single] at once
    exact List.perm_singleton.mp once
  · have declared := scene.compile_inputs render random
    exact program.inputs_parse_args backend quality render declared output
  · exact program.filterMap_parse_args backend quality render output
  · have heard : program.audioLabel?.isSome = true ↔ .audioMix ∈ program.graph.kinds :=
      scene.audioLabel?_compile render random
    have mapped : arguments.filter (hasFlag ["-map", "-c:a", "-b:a"]) = _ :=
      program.filter_parse_args backend quality render output
    rw [mapped]
    exact congrArg _ (if_congr heard rfl rfl)

end Compositor
