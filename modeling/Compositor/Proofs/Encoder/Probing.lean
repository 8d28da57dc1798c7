import Compositor.Encoder.Engine
import Compositor.Proofs.Encoder.Rows

/-! # What an engine asks of its binary

A binary may do anything: it may be missing or refuse to start, exit with any code, be ended by a
signal, run out of time or write any bytes, and it may behave differently each time.  So an engine
is watched from outside.  `Binary.recorded` is a binary that writes down every attempt to start it
(`Spawn`), and a `Session` is an engine with such a binary, which is asked for listings, test
encodes and runs, one after another.

What an engine remembers is the first listing that succeeded (`Session.Sound`).  Everything that
it does is therefore fixed by the record alone: what it spawns, with which arguments, and what it
answers (`Session.Turn`).  An attempt is known by its arguments: those of a listing are
`Spawn.listing`, and those of a test encode have the encoder, the picture and the output that
`Spawn.Tries` names.
-/

namespace Compositor

/-! ## Records -/

/-- The listing that the binary wrote, if it started and ended with success. -/
def Launch.listing? : Launch → Option String
  | .ended ending => if ending.code = some 0 then some (Text.decodeLossy ending.out) else none
  | _ => none

/-- An attempt to start the binary. -/
structure Spawn where
  args : List String
  /-- How many seconds it may take; nothing if its end is waited for. -/
  limit : Option Nat
  /-- What came of it; nothing if the seconds passed. -/
  launch : Option Launch

namespace Spawn

/-- What is asked for, with the time it may take. -/
def order (s : Spawn) : List String × Option Nat := (s.args, s.limit)

/-- The arguments that have the binary list its encoders. -/
def listing : List String := ["-hide_banner", "-encoders"]

/-- The attempt asks for the listing of encoders. -/
def IsListing (s : Spawn) : Prop := s.args = listing

/-- With these arguments the backend's encoder, and no other, encodes five frames of a generated
    picture, and what it makes of them is thrown away. -/
structure Tries (b : Backend) (args : List String) : Prop where
  input : ["-f", "lavfi", "-i", "testsrc2=size=256x144:rate=25", "-frames:v", "5"] <:+: args
  encoder : ["-c:v", b.encoder] <:+: args
  output : ["-f", "null", "-"] <:+ args
  once : args.count "-i" = 1 ∧ args.count "-c:v" = 1

/-- The binary started, and ended in time with exit code zero. -/
def Succeeds (s : Spawn) : Prop :=
  ∃ ending, s.launch = some (.ended ending) ∧ ending.code = some 0

/-- The listing, if the attempt asked for it and succeeded. -/
def listing? (s : Spawn) : Option String :=
  if s.args = listing then s.launch.bind Launch.listing? else none

/-- The listing that there is after some attempts: the first one that succeeded. -/
def available? (spawns : List Spawn) : Option String := spawns.findSome? listing?

variable {spawns : List Spawn} {s : Spawn}

theorem available?_append_singleton (spawns : List Spawn) (s : Spawn) :
    available? (spawns ++ [s]) = (available? spawns).or s.listing? := by
  rw [available?, List.findSome?_append, List.findSome?_singleton]
  rfl

/-- A listing that succeeded is the one that counts from then on. -/
theorem available?_append_of_some {text : String} (known : available? spawns = some text)
    (later : List Spawn) : available? (spawns ++ later) = some text := by
  rw [available?, List.findSome?_append, ← available?, known, Option.some_or]

theorem available?_append_of_not_isListing (other : ¬ s.IsListing) :
    available? (spawns ++ [s]) = available? spawns := by
  have nothing : s.listing? = none := if_neg other
  rw [available?_append_singleton, nothing, Option.or_none]

end Spawn

variable {σ : Type}

/-- The binary, with a record of all attempts to start it. -/
def Binary.recorded (binary : Binary σ) : Binary (σ × List Spawn) where
  call args world :=
    let (launch, next) := binary.call args world.1
    (launch, next, world.2 ++ [⟨args, none, some launch⟩])
  callWithin limit args world :=
    let (launch, next) := binary.callWithin limit args world.1
    (launch, next, world.2 ++ [⟨args, some limit, launch⟩])

/-! ## Sessions -/

/-- What an engine may be asked. -/
inductive EngineCall where
  | list
  | probe (b : Backend)
  | run (args : List String)

/-- What an engine may answer. -/
def EngineCall.Answer : EngineCall → Type
  | list => Except EngineError EncoderSupport
  | probe _ => Except EngineError Unit
  | run _ => Except EngineError String

/-- An engine, the world of its binary, and the record of all attempts to start it. -/
structure Session (σ : Type) where
  engine : Engine
  world : σ
  spawns : List Spawn

namespace Session

/-- A new engine. -/
def start (settings : EngineSettings) (world : σ) : Session σ := ⟨.ofSettings settings, world, []⟩

/-- Calls the engine. -/
def ask (binary : Binary σ) (s : Session σ) : (call : EngineCall) → call.Answer × Session σ
  | .list =>
    let (answer, engine, world, spawns) := s.engine.list binary.recorded (s.world, s.spawns)
    (answer, ⟨engine, world, spawns⟩)
  | .probe b =>
    let (answer, engine, world, spawns) := s.engine.probe binary.recorded b (s.world, s.spawns)
    (answer, ⟨engine, world, spawns⟩)
  | .run args =>
    let (answer, world, spawns) := s.engine.run binary.recorded args (s.world, s.spawns)
    (answer, ⟨s.engine, world, spawns⟩)

/-- Calls the engine again and again. -/
def follow (binary : Binary σ) (s : Session σ) (calls : List EngineCall) : Session σ :=
  calls.foldl (fun s call => (s.ask binary call).2) s

/-! ## What is due -/

/-- The arguments of a run or a test encode: those of all of them, those of the settings, and its
    own. -/
def encodeArgs (settings : EngineSettings) (args : List String) : List String :=
  ["-hide_banner", "-loglevel", settings.logLevel] ++ settings.extraArgs ++ args

/-- The listing has a row for the backend's encoder. -/
def Lists (b : Backend) (listing : String) : Prop :=
  ∃ line, Text.HasLine listing.toList line ∧ EncoderSupport.IsRow line b.encoder

instance (b : Backend) (listing : String) : Decidable (Lists b listing) :=
  decidable_of_iff _ EncoderSupport.mem_names

/-- The listing is asked for unless there is one. -/
def listingDue (before : List Spawn) : List (List String × Option Nat) :=
  if Spawn.available? before = none then [(Spawn.listing, none)] else []

/-- What a call has to spawn, in order, after some attempts; `now` is the listing that there is
    when the call has asked for it. -/
def due (settings : EngineSettings) (before : List Spawn) (now : Option String) :
    EngineCall → List (List String × Option Nat)
  | .list => listingDue before
  | .probe b =>
    listingDue before ++
      if now.any (Lists b) then
        [(encodeArgs settings (Engine.probeArgs b), some settings.probeTimeout)]
      else []
  | .run args => [(encodeArgs settings args, some settings.runTimeout)]

/-- What a call has to answer, when there is the listing `now` and it has made the attempts
    `during`. -/
def Answers (now : Option String) (during : List Spawn) : (call : EngineCall) → call.Answer → Prop
  | .list, (answer : Except EngineError EncoderSupport) =>
    answer.toOption = now.map EncoderSupport.ofListing
  | .probe b, (answer : Except EngineError Unit) =>
    (answer = .ok () ↔ ∃ s ∈ during, ¬ s.IsListing ∧ s.Succeeds) ∧
      (answer = .error (.encoderUnavailable b.encoder) ↔ ∃ text, now = some text ∧ ¬ Lists b text) ∧
      (answer = .ok () ∨ answer = .error (.encoderUnavailable b.encoder) ∨
        ∃ reason, answer = .error (.probeFailed b reason))
  | .run _, (answer : Except EngineError String) =>
    answer.isOk ↔ ∃ s ∈ during, s.Succeeds

/-- All that a call does. -/
structure Turn (settings : EngineSettings) (before during : List Spawn) (call : EngineCall)
    (answer : call.Answer) : Prop where
  /-- It makes the attempts that are due, and no others. -/
  spawned : during.map Spawn.order =
    due settings before (Spawn.available? (before ++ during)) call
  /-- What it encodes for a probe is a trial of that backend. -/
  tried : ∀ b, call = .probe b → ∀ x ∈ during, ¬ x.IsListing →
    ∃ args, x.args = encodeArgs settings args ∧ Spawn.Tries b args
  /-- It answers as the listing and its own test encode or run have it. -/
  answered : Answers (Spawn.available? (before ++ during)) during call answer

/-! ## What an engine remembers -/

/-- The engine remembers the listing that there is. -/
structure Sound (s : Session σ) (settings : EngineSettings) : Prop where
  settings : s.engine.settings = settings
  listing : s.engine.listing = (Spawn.available? s.spawns).map EncoderSupport.ofListing

variable {binary : Binary σ} {s s' : Session σ} {settings : EngineSettings} {b : Backend}

theorem sound_start (settings : EngineSettings) (world : σ) :
    (start settings world).Sound settings := ⟨rfl, rfl⟩

theorem supports_ofListing (listing : String) (b : Backend) :
    (EncoderSupport.ofListing listing).supports b = true ↔ Lists b listing :=
  EncoderSupport.supports_ofListing.trans EncoderSupport.mem_names

theorem listingArgs_eq : Engine.listingArgs = Spawn.listing := rfl

/-- What the engine encodes for a probe is a trial of that backend. -/
theorem tries_probeArgs (b : Backend) : Spawn.Tries b (Engine.probeArgs b) := by
  cases b <;> exact ⟨by decide, by decide, by decide, by decide⟩

/-- No run and no test encode is taken for a listing, whatever its arguments are. -/
theorem encodeArgs_ne_listing (settings : EngineSettings) (args : List String) :
    encodeArgs settings args ≠ Spawn.listing := by
  intro equal
  have second := congrArg (fun args => args[1]?) equal
  exact absurd (Option.some.inj second) (by decide)

/-- An engine that has no listing asks the binary, and remembers a listing that succeeded. -/
theorem list_of_listing? {e : Engine} {world next : σ} {launch : Launch} {text : String}
    (unknown : e.listing = none) (made : binary.call Engine.listingArgs world = (launch, next))
    (brought : launch.listing? = some text) :
    e.list binary world =
      (.ok (.ofListing text), { e with listing := some (.ofListing text) }, next) := by
  cases launch with
  | notFound => cases brought
  | refused reason => cases brought
  | ended ending =>
    obtain ⟨success, written⟩ := Option.ite_none_right_eq_some.mp brought
    rw [← Option.some.inj written]
    have succeeded : ending.succeeded = true := beq_iff_eq.mpr success
    rw [Engine.list, unknown]
    simp only [made, Engine.started, succeeded, if_true]

theorem list_of_listing?_none {e : Engine} {world next : σ} {launch : Launch}
    (unknown : e.listing = none) (made : binary.call Engine.listingArgs world = (launch, next))
    (nothing : launch.listing? = none) :
    ∃ error, e.list binary world = (.error error, e, next) := by
  rw [Engine.list, unknown]
  simp only [made]
  cases launch with
  | notFound => exact ⟨_, rfl⟩
  | refused reason => exact ⟨_, rfl⟩
  | ended ending =>
    have failed : ¬ ending.succeeded = true := fun succeeded => by
      rw [Launch.listing?, if_pos (beq_iff_eq.mp succeeded)] at nothing
      cases nothing
    exact ⟨ending.failure, if_neg failed⟩

/-- A session before and after the engine has listed its encoders. -/
structure Listed (s s' : Session σ) (settings : EngineSettings) (during : List Spawn)
    (answer : Except EngineError EncoderSupport) : Prop where
  sound : s'.Sound settings
  spawned : s'.spawns = s.spawns ++ during
  orders : during.map Spawn.order = listingDue s.spawns
  listings : ∀ x ∈ during, x.IsListing
  answered : answer.toOption = (Spawn.available? s'.spawns).map EncoderSupport.ofListing

/-- The engine lists its encoders, from memory or by asking the binary. -/
theorem list_eq (binary : Binary σ) (sound : s.Sound settings) :
    ∃ answer s' during, s.engine.list binary.recorded (s.world, s.spawns) =
        (answer, s'.engine, s'.world, s'.spawns) ∧ Listed s s' settings during answer := by
  cases known : Spawn.available? s.spawns with
  | some text =>
    have memory : s.engine.listing = some (.ofListing text) := by rw [sound.listing, known]; rfl
    have nothingDue : listingDue s.spawns = [] := if_neg (by simp [known])
    refine ⟨.ok (.ofListing text), s, [], ?_, sound, (List.append_nil _).symm, nothingDue.symm,
      List.forall_mem_nil _, ?_⟩
    · rw [Engine.list, memory]
    · rw [known]
      rfl
  | none =>
    have memory : s.engine.listing = none := by rw [sound.listing, known]; rfl
    have due : listingDue s.spawns = [(Spawn.listing, none)] := if_pos known
    generalize call : binary.call Engine.listingArgs s.world = made
    obtain ⟨launch, next⟩ := made
    let spawn : Spawn := ⟨Engine.listingArgs, none, some launch⟩
    have recorded : binary.recorded.call Engine.listingArgs (s.world, s.spawns) =
        (launch, next, s.spawns ++ [spawn]) := by
      simp only [Binary.recorded, call, spawn]
    have isListing : ∀ x ∈ [spawn], x.IsListing := 
      List.forall_mem_singleton.mpr listingArgs_eq
    have now : Spawn.available? (s.spawns ++ [spawn]) = launch.listing? := by
      rw [Spawn.available?_append_singleton, known, Option.none_or]
      rfl
    cases brought : launch.listing? with
    | some text =>
      have listed := list_of_listing? memory recorded brought
      refine ⟨_, ⟨_, next, s.spawns ++ [spawn]⟩, [spawn], listed, ⟨sound.settings, ?_⟩, rfl,
        due.symm, isListing, ?_⟩
      all_goals rw [now, brought]; rfl
    | none =>
      obtain ⟨error, failed⟩ := list_of_listing?_none memory recorded brought
      refine ⟨_, ⟨_, next, s.spawns ++ [spawn]⟩, [spawn], failed, ⟨sound.settings, ?_⟩, rfl,
        due.symm, isListing, ?_⟩
      · rw [now, brought]
        exact memory
      · rw [now, brought]
        rfl

/-- A run or a test encode succeeds if the binary ends in time with exit code zero. -/
theorem isOk_execute {e : Engine} {args : List String} {limit : Nat} {world next : σ}
    {launch : Option Launch}
    (made : binary.callWithin limit (e.callArgs args) world = (launch, next)) :
    (e.execute binary args limit world).2 = next ∧
      ((e.execute binary args limit world).1.isOk = true ↔
        ∃ ending, launch = some (.ended ending) ∧ ending.code = some 0) := by
  rw [Engine.execute, made]
  cases launch with
  | none => simp [Except.isOk, Except.toBool]
  | some launch =>
    cases launch with
    | notFound => simp [Engine.started, Except.isOk, Except.toBool]
    | refused reason => simp [Engine.started, Except.isOk, Except.toBool]
    | ended ending =>
      by_cases success : ending.code = some 0
      · have succeeded : ending.succeeded = true := beq_iff_eq.mpr success
        simp [Engine.started, succeeded, success, Except.isOk, Except.toBool]
      · have failed : ending.succeeded = false := beq_eq_false_iff_ne.mpr success
        simp [Engine.started, failed, success, Except.isOk, Except.toBool]

/-- A run or a test encode is one attempt, and its answer says whether that succeeded. -/
theorem execute_eq (binary : Binary σ) (same : s.engine.settings = settings) (args : List String)
    (limit : Nat) :
    ∃ answer next launch, s.engine.execute binary.recorded args limit (s.world, s.spawns) =
        (answer, next, s.spawns ++ [⟨encodeArgs settings args, some limit, launch⟩]) ∧
      (answer.isOk = true ↔ Spawn.Succeeds ⟨encodeArgs settings args, some limit, launch⟩) := by
  subst same
  generalize call : binary.callWithin limit (encodeArgs s.engine.settings args) s.world = made
  obtain ⟨launch, next⟩ := made
  have recorded : binary.recorded.callWithin limit (s.engine.callArgs args) (s.world, s.spawns) =
      (launch, next,
        s.spawns ++ [⟨encodeArgs s.engine.settings args, some limit, launch⟩]) := by
    rw [encodeArgs] at call
    simp only [Binary.recorded, Engine.callArgs, call, encodeArgs]
  obtain ⟨world, answer⟩ := isOk_execute recorded
  exact ⟨_, next, launch, Prod.ext rfl world, answer⟩

/-! ## One call -/

/-- A call makes some more attempts, and does all that it has to do. -/
def TakesTurn (binary : Binary σ) (s : Session σ) (settings : EngineSettings) (call : EngineCall) :
    Prop :=
  ∃ during, (s.ask binary call).2.spawns = s.spawns ++ during ∧
    Turn settings s.spawns during call (s.ask binary call).1

theorem ask_list (binary : Binary σ) (sound : s.Sound settings) :
    (s.ask binary .list).2.Sound settings ∧ s.TakesTurn binary settings .list := by
  obtain ⟨answer, s', during, listed, after⟩ := list_eq binary sound
  have asked : s.ask binary .list = (answer, s') := by
    rw [ask, listed]
    rfl
  rw [TakesTurn, asked]
  refine ⟨after.sound, during, after.spawned, after.orders, nofun, ?_⟩
  rw [← after.spawned]
  exact after.answered

theorem ask_run (binary : Binary σ) (sound : s.Sound settings) (args : List String) :
    (s.ask binary (.run args)).2.Sound settings ∧ s.TakesTurn binary settings (.run args) := by
  obtain ⟨answer, next, launch, executed, outcome⟩ :=
    execute_eq binary sound.settings args s.engine.settings.runTimeout
  rw [sound.settings] at executed outcome
  generalize made : Spawn.mk (encodeArgs settings args) (some settings.runTimeout) launch = spawn
  rw [made] at executed outcome
  have asked : s.ask binary (.run args) = (answer, ⟨s.engine, next, s.spawns ++ [spawn]⟩) := by
    rw [ask, Engine.run, sound.settings, executed]
    rfl
  have other : ¬ spawn.IsListing := made ▸ encodeArgs_ne_listing settings args
  have same : Spawn.available? (s.spawns ++ [spawn]) = Spawn.available? s.spawns :=
    Spawn.available?_append_of_not_isListing other
  rw [TakesTurn, asked]
  refine ⟨⟨sound.settings, ?_⟩, [spawn], rfl, ?_, nofun, ?_⟩
  · rw [same]
    exact sound.listing
  · rw [← made]
    rfl
  · exact outcome.trans (by simp)

/-- Whatever goes wrong with a test encode, the failure names the backend. -/
theorem probeFailure_eq (b : Backend) (error : EngineError) :
    ∃ reason, Engine.probeFailure b error = .probeFailed b reason := by
  cases error <;> exact ⟨_, rfl⟩

/-! ### Probes -/

section Probes

variable {during : List Spawn}

/-- Without a listing nothing is encoded. -/
theorem ask_probe_of_error {error : EngineError}
    (listed : s.engine.list binary.recorded (s.world, s.spawns) =
      (.error error, s'.engine, s'.world, s'.spawns))
    (after : Listed s s' settings during (.error error)) :
    (s.ask binary (.probe b)).2.Sound settings ∧ s.TakesTurn binary settings (.probe b) := by
  have missing : Spawn.available? s'.spawns = none := by
    cases now : Spawn.available? s'.spawns with
    | none => rfl
    | some text =>
      have answered := after.answered
      rw [now] at answered
      cases answered
  have asked : s.ask binary (.probe b) =
      (.error (.probeFailed b ("cannot list encoders: " ++ error.message)), s') := by
    rw [ask, Engine.probe, listed]
  rw [TakesTurn, asked]
  refine ⟨after.sound, during, after.spawned, ?_,
    fun _ _ x mem other => absurd (after.listings x mem) other, ?_⟩
  · rw [← after.spawned, missing, after.orders]
    exact (List.append_nil _).symm
  · rw [← after.spawned, missing]
    refine ⟨iff_of_false nofun ?_, iff_of_false nofun nofun, .inr (.inr ⟨_, rfl⟩)⟩
    exact fun ⟨x, mem, other, _⟩ => other (after.listings x mem)

/-- An encoder that is not listed is not tried. -/
theorem ask_probe_of_not_lists {text : String}
    (listed : s.engine.list binary.recorded (s.world, s.spawns) =
      (.ok (.ofListing text), s'.engine, s'.world, s'.spawns))
    (after : Listed s s' settings during (.ok (.ofListing text)))
    (now : Spawn.available? s'.spawns = some text) (missing : ¬ Lists b text) :
    (s.ask binary (.probe b)).2.Sound settings ∧ s.TakesTurn binary settings (.probe b) := by
  have asked : s.ask binary (.probe b) = (.error (.encoderUnavailable b.encoder), s') := by
    rw [ask, Engine.probe, listed]
    simp only [mt (supports_ofListing text b).mp missing]
    rfl
  rw [TakesTurn, asked]
  refine ⟨after.sound, during, after.spawned, ?_,
    fun _ _ x mem other => absurd (after.listings x mem) other, ?_⟩
  · rw [← after.spawned, now, after.orders, due, Option.any_some, decide_eq_false missing]
    exact (List.append_nil _).symm
  · rw [← after.spawned, now]
    refine ⟨iff_of_false nofun ?_, iff_of_true rfl ⟨text, rfl, missing⟩, .inr (.inl rfl)⟩
    exact fun ⟨x, mem, other, _⟩ => other (after.listings x mem)

/-- An encoder that is listed is tried, and what comes of it decides. -/
theorem ask_probe_of_lists {text : String}
    (listed : s.engine.list binary.recorded (s.world, s.spawns) =
      (.ok (.ofListing text), s'.engine, s'.world, s'.spawns))
    (after : Listed s s' settings during (.ok (.ofListing text)))
    (now : Spawn.available? s'.spawns = some text) (there : Lists b text) :
    (s.ask binary (.probe b)).2.Sound settings ∧ s.TakesTurn binary settings (.probe b) := by
  obtain ⟨answer, next, launch, executed, outcome⟩ :=
    execute_eq binary after.sound.settings (Engine.probeArgs b) s'.engine.settings.probeTimeout
  rw [after.sound.settings] at executed outcome
  generalize made : Spawn.mk (encodeArgs settings (Engine.probeArgs b))
    (some settings.probeTimeout) launch = spawn
  rw [made] at executed outcome
  have other : ¬ spawn.IsListing := made ▸ encodeArgs_ne_listing settings _
  have same : Spawn.available? (s'.spawns ++ [spawn]) = Spawn.available? s'.spawns :=
    Spawn.available?_append_of_not_isListing other
  have whole : s.spawns ++ (during ++ [spawn]) = s'.spawns ++ [spawn] := by
    rw [after.spawned, List.append_assoc]
  -- The test encode is the only attempt that did not ask for a listing.
  have encoded : (∃ x ∈ during ++ [spawn], ¬ x.IsListing ∧ x.Succeeds) ↔ spawn.Succeeds := by
    constructor
    · rintro ⟨x, mem, notListing, succeeds⟩
      obtain early | late := List.mem_append.mp mem
      · exact absurd (after.listings x early) notListing
      · exact List.mem_singleton.mp late ▸ succeeds
    · exact fun succeeds => ⟨spawn, by simp, other, succeeds⟩
  have asked : s.ask binary (.probe b) =
      (answer.mapError (Engine.probeFailure b) |>.map fun _ => (),
        ⟨s'.engine, next, s'.spawns ++ [spawn]⟩) := by
    rw [ask, Engine.probe, listed]
    simp only [(supports_ofListing text b).mpr there, if_true, after.sound.settings, executed]
    cases answer <;> rfl
  rw [TakesTurn, asked]
  refine ⟨⟨after.sound.settings, ?_⟩, during ++ [spawn], whole.symm, ?_, ?_, ?_⟩
  · rw [same]
    exact after.sound.listing
  · rw [whole, same, now, List.map_append, after.orders, due, Option.any_some,
      decide_eq_true there, ← made]
    rfl
  · rintro _ ⟨⟩ x mem notListing
    obtain early | late := List.mem_append.mp mem
    · exact absurd (after.listings x early) notListing
    · rw [List.mem_singleton.mp late, ← made]
      exact ⟨_, rfl, tries_probeArgs b⟩
  · rw [whole, same, now]
    have listed : ¬ ∃ listing, some text = some listing ∧ ¬ Lists b listing := by
      rintro ⟨listing, equal, missing⟩
      exact missing (Option.some.inj equal ▸ there)
    cases answer with
    | ok written =>
      exact ⟨iff_of_true rfl (encoded.mpr (outcome.mp rfl)), iff_of_false nofun listed, .inl rfl⟩
    | error error =>
      have failed : ¬ spawn.Succeeds := fun succeeds => Bool.false_ne_true (outcome.mpr succeeds)
      obtain ⟨reason, names⟩ := probeFailure_eq b error
      have verdict : ((Except.error error : Except EngineError String).mapError
          (Engine.probeFailure b)).map (fun _ => ()) = .error (.probeFailed b reason) := by
        rw [← names]
        rfl
      rw [verdict]
      exact ⟨iff_of_false nofun (mt encoded.mp failed), iff_of_false nofun listed,
        .inr (.inr ⟨reason, rfl⟩)⟩

end Probes

theorem ask_probe (binary : Binary σ) (sound : s.Sound settings) (b : Backend) :
    (s.ask binary (.probe b)).2.Sound settings ∧ s.TakesTurn binary settings (.probe b) := by
  obtain ⟨listing, s', during, listed, after⟩ := list_eq binary sound
  cases listing with
  | error error => exact ask_probe_of_error listed after
  | ok support =>
    obtain ⟨text, now, rfl⟩ := Option.map_eq_some_iff.mp after.answered.symm
    by_cases there : Lists b text
    · exact ask_probe_of_lists listed after now there
    · exact ask_probe_of_not_lists listed after now there

/-! ## Whole sessions -/

theorem ask_sound (binary : Binary σ) (sound : s.Sound settings) (call : EngineCall) :
    (s.ask binary call).2.Sound settings ∧ s.TakesTurn binary settings call := by
  cases call with
  | list => exact ask_list binary sound
  | probe b => exact ask_probe binary sound b
  | run args => exact ask_run binary sound args

theorem Sound.follow (sound : s.Sound settings) (calls : List EngineCall) :
    (s.follow binary calls).Sound settings := by
  induction calls generalizing s with
  | nil => exact sound
  | cons call calls ih => exact ih (ask_sound binary sound call).1

/-- Once there is a listing a call does not ask for another one. -/
theorem Turn.not_isListing {before during : List Spawn} {call : EngineCall} {answer : call.Answer}
    {text : String} (turn : Turn settings before during call answer)
    (known : Spawn.available? before = some text) : ∀ x ∈ during, ¬ x.IsListing := by
  intro x mem (listing : x.order.1 = Spawn.listing)
  have ordered : x.order ∈ due settings before (Spawn.available? (before ++ during)) call :=
    turn.spawned ▸ List.mem_map_of_mem mem
  have nothingDue : listingDue before = [] := if_neg (by rw [known]; nofun)
  cases call with
  | list =>
    rw [due, nothingDue] at ordered
    cases ordered
  | probe b =>
    rw [due, nothingDue, List.nil_append, List.mem_ite_nil_right, List.mem_singleton] at ordered
    rw [ordered.2] at listing
    exact encodeArgs_ne_listing settings _ listing
  | run own =>
    rw [due, List.mem_singleton] at ordered
    rw [ordered] at listing
    exact encodeArgs_ne_listing settings own listing

/-- A listing that succeeded is kept through all later calls, and none of them asks for another. -/
theorem Sound.follow_keeps {text : String} (sound : s.Sound settings)
    (known : Spawn.available? s.spawns = some text) (later : List EngineCall) :
    ∃ more, (s.follow binary later).spawns = s.spawns ++ more ∧ (∀ x ∈ more, ¬ x.IsListing) ∧
      (s.follow binary later).engine.listing = some (.ofListing text) := by
  induction later generalizing s with
  | nil =>
    refine ⟨[], (List.append_nil _).symm, List.forall_mem_nil _, ?_⟩
    rw [Session.follow, List.foldl_nil, sound.listing, known]
    rfl
  | cons call later ih =>
    obtain ⟨sound', during, spawned, turn⟩ := ask_sound binary sound call
    have known' : Spawn.available? (s.ask binary call).2.spawns = some text :=
      spawned ▸ Spawn.available?_append_of_some known during
    obtain ⟨more, spawned', others, kept⟩ := ih sound' known'
    refine ⟨during ++ more, ?_, ?_, kept⟩
    · rw [← List.append_assoc, ← spawned]
      exact spawned'
    · exact List.forall_mem_append.mpr ⟨turn.not_isListing known, others⟩

/-- After any calls, with a binary that may do anything at each of its starts, the engine remembers
    the first listing that succeeded.  The next call asks for one if there is none, and goes by it;
    it encodes what it has to, with the arguments of the engine before its own; and a probe says
    whether its trial of the backend's encoder succeeded, whether the encoder is not listed, or why
    nothing could be found out.  A listing that succeeded is remembered through all later calls, and
    no other one is asked for. -/
theorem turn_follow (settings : EngineSettings) (binary : Binary σ) (world : σ)
    (calls : List EngineCall) (call : EngineCall) :
    let s := (start settings world).follow binary calls
    s.Sound settings ∧
      (∃ during, (s.ask binary call).2.spawns = s.spawns ++ during ∧
        Turn settings s.spawns during call (s.ask binary call).1) ∧
      ∀ text, Spawn.available? s.spawns = some text → ∀ later, ∃ more,
        (s.follow binary later).spawns = s.spawns ++ more ∧ (∀ x ∈ more, ¬ x.IsListing) ∧
          (s.follow binary later).engine.listing = some (.ofListing text) := by
  intro s
  have sound : s.Sound settings := (sound_start settings world).follow calls
  exact ⟨sound, (ask_sound binary sound call).2, fun _ known => sound.follow_keeps known⟩

end Session

end Compositor
