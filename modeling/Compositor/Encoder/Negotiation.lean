import Compositor.Encoder.Backend

/-! # Choosing a backend

The service encodes with the best backend that works.  A backend works if a probe
of it succeeds; outcomes are remembered until they are forgotten all together.  A
backend that a scene asks for is tried first, and the software backend needs no
probe.
-/

namespace Compositor

/-- Remembers which backends work. -/
structure Negotiator where
  /-- The quality of all profiles. -/
  quality : Nat
  /-- The outcome of the probe of each backend that was probed. -/
  outcomes : Backend → Option Bool

namespace Negotiator

/-- Nothing probed yet. -/
def ofQuality (quality : Nat) : Negotiator := ⟨quality, fun _ => none⟩

/-- Forgets all outcomes. -/
def clear (n : Negotiator) : Negotiator := ofQuality n.quality

/-- Remembers an outcome. -/
def remember (n : Negotiator) (b : Backend) (ok : Bool) : Negotiator :=
  { n with outcomes := fun x => if x = b then some ok else n.outcomes x }

/-- The outcomes that are remembered, by preference. -/
def remembered (n : Negotiator) : List (Backend × Bool) :=
  Backend.preference.filterMap fun b => (n.outcomes b).map fun ok => (b, ok)

/-- The backends that need a probe, the most preferred one first. -/
def hardware : List Backend := Backend.preference.filter Backend.isHardware

variable {σ : Type} (probe : Backend → σ → Bool × σ)

/-- Whether a backend works: the remembered outcome, or else that of a probe. -/
def works (n : Negotiator) (b : Backend) (world : σ) : Bool × Negotiator × σ :=
  match n.outcomes b with
  | some ok => (ok, n, world)
  | none =>
    let (ok, world) := probe b world
    (ok, n.remember b ok, world)

/-- The first backend of a list that works. -/
def firstWorking (n : Negotiator) (world : σ) : List Backend → Option Backend × Negotiator × σ
  | [] => (none, n, world)
  | b :: bs =>
    match n.works probe b world with
    | (true, n, world) => (some b, n, world)
    | (false, n, world) => firstWorking n world bs

/-- The order in which backends are tried: the pinned one, then the others. -/
def candidates (pinned : Option Backend) : List Backend :=
  pinned.toList ++ hardware.filter fun b => pinned != some b

/-- Chooses a backend. -/
def choose (n : Negotiator) (pinned : Option Backend) (world : σ) : Backend × Negotiator × σ :=
  -- The software backend always works, so it is not probed.
  if pinned = some .software then (.software, n, world)
  else
    let (found, n, world) := n.firstWorking probe world (candidates pinned)
    (found.getD .software, n, world)

/-- The profile of the chosen backend. -/
def negotiate (n : Negotiator) (pinned : Option Backend) (world : σ) :
    EncoderProfile × Negotiator × σ :=
  let (b, n, world) := n.choose probe pinned world
  (EncoderProfile.ofBackend b n.quality, n, world)

end Negotiator

end Compositor
