import Mathlib.Data.List.Nodup
import Compositor.Rehearsal.Crew

/-! # Choosing over a whole run

A negotiator chooses again and again, while backends come and go under it and its memory is
cleared from time to time.  `Bench` is a negotiator with the engine it probes, and a
`BenchStep` is one such event.

What is remembered of a backend is its first probe since the last clearing
(`Bench.Sound`), so a choice depends on the *effective* outcomes alone: the remembered one
where there is one, and what a probe would say now elsewhere.  Trying a backend changes no
effective outcome (`Bench.Tried.effective`); a choice is therefore the first effective
backend of a list that was fixed beforehand, and the probes it makes are those of the
backends up to that one.
-/

namespace Compositor

/-- What can happen to a negotiator and to the backends it chooses from. -/
inductive BenchStep where
  /-- From now on probes of a backend succeed, or fail. -/
  | set (b : Backend) (ok : Bool)
  | negotiate (pinned : Option Backend)
  | clear

/-- A negotiator and the engine that it probes. -/
structure Bench where
  negotiator : Negotiator
  engine : RehearsalEngine
  /-- How many of the engine's probes were made before the last clearing. -/
  forgotten : Nat

namespace Bench

/-- A negotiator that has probed nothing, on an engine that may have been probed. -/
def ofQuality (quality : Nat) (engine : RehearsalEngine) : Bench :=
  ⟨.ofQuality quality, engine, engine.probes.length⟩

/-- Negotiates once. -/
def negotiate (s : Bench) (pinned : Option Backend) : EncoderProfile × Bench :=
  let (profile, negotiator, engine) :=
    s.negotiator.negotiate RehearsalWorld.probe pinned s.engine
  (profile, { s with negotiator, engine })

/-- Takes a step. -/
def take (s : Bench) : BenchStep → Bench
  | .set b ok => { s with engine := s.engine.setProbe b ok }
  | .negotiate pinned => (s.negotiate pinned).2
  | .clear => { s with negotiator := s.negotiator.clear, forgotten := s.engine.probes.length }

/-- Takes steps one after another. -/
def follow (s : Bench) (steps : List BenchStep) : Bench := steps.foldl take s

/-- The probes since the last clearing. -/
def recent (s : Bench) : List (Backend × Bool) := s.engine.probes.drop s.forgotten

/-- The first outcome of a backend since the last clearing. -/
def outcome? (s : Bench) (b : Backend) : Option Bool := s.recent.lookup b

/-- A backend's effective outcome: its first one since the last clearing, or else what a
    probe would say now. -/
def effective (s : Bench) (b : Backend) : Bool := (s.outcome? b).getD (s.engine.working b)

/-- A backend was asked for and will be taken. -/
def serves (s : Bench) (pinned : Option Backend) : Prop :=
  pinned = some .software ∨ ∃ b, pinned = some b ∧ s.effective b = true

/-- All that a negotiation does: which backend it settles on, and what it probes. -/
structure Negotiated (s s' : Bench) (pinned : Option Backend) (b : Backend) : Prop where
  /-- A backend that was asked for and works is taken. -/
  pin : s.serves pinned → pinned = some b
  /-- Else the most preferred one of the hardware backends that work, or else software. -/
  best : ¬ s.serves pinned →
    (b.isHardware = true ∧ s.effective b = true ∧
      ∀ x, x.isHardware = true → s.effective x = true → x.priority ≤ b.priority) ∨
    (b = .software ∧ ∀ x, x.isHardware = true → s.effective x = false)
  /-- What is probed are the backends without an outcome among the one that was asked for and,
      if that is not taken, all that are preferred to the one that is taken, or are it. -/
  probes : ∃ fresh : List Backend,
    s'.engine.probes = s.engine.probes ++ fresh.map (fun x => (x, s.engine.working x)) ∧
      ∀ x, x ∈ fresh ↔ x.isHardware = true ∧ s.outcome? x = none ∧
        (pinned = some x ∨ ¬ s.serves pinned ∧ b.priority ≤ x.priority)
  /-- No backend was probed twice since the last clearing. -/
  once : (s'.recent.map (·.1)).Nodup

/-! ## What is remembered -/

/-- The memory is that of the recent probes. -/
structure Sound (s : Bench) (quality : Nat) : Prop where
  quality : s.negotiator.quality = quality
  remembered : s.negotiator.outcomes = s.outcome?
  once : (s.recent.map (·.1)).Nodup
  within : s.forgotten ≤ s.engine.probes.length

variable {s s' s'' : Bench} {quality : Nat} {b x : Backend} {bs xs ys : List Backend}

theorem outcome?_eq_none : s.outcome? b = none ↔ b ∉ s.recent.map (·.1) := by
  rw [outcome?, List.lookup_eq_none_iff, List.mem_map]
  exact ⟨fun h ⟨p, hp, hb⟩ => by simpa [hb] using h p hp,
    fun h p hp => bne_iff_ne.mpr fun hb => h ⟨p, hp, hb.symm⟩⟩

theorem sound_ofQuality (engine : RehearsalEngine) : (ofQuality quality engine).Sound quality where
  quality := rfl
  remembered := by funext b; simp [outcome?, recent, ofQuality, Negotiator.ofQuality]
  once := by simp [recent, ofQuality]
  within := Nat.le_refl _

/-! ## Trying backends -/

/-- A bench after the backends of a list were tried: those without an outcome are probed,
    each once, and nothing else changes. -/
structure Tried (s s' : Bench) (xs : List Backend) : Prop where
  working : s'.engine.working = s.engine.working
  forgotten : s'.forgotten = s.forgotten
  probes : ∃ fresh : List Backend,
    s'.engine.probes = s.engine.probes ++ fresh.map (fun x => (x, s.engine.working x)) ∧
      fresh.Nodup ∧ ∀ x, x ∈ fresh ↔ x ∈ xs ∧ s.outcome? x = none

theorem Tried.refl (known : ∀ x ∈ xs, s.outcome? x ≠ none) : Tried s s xs where
  working := rfl
  forgotten := rfl
  probes := ⟨[], by simp, List.nodup_nil, fun x => by
    simpa using known x⟩

/-- The recent probes after backends were tried. -/
theorem Tried.recent (h : Tried s s' xs) (within : s.forgotten ≤ s.engine.probes.length) :
    ∃ fresh : List Backend,
      s'.recent = s.recent ++ fresh.map (fun x => (x, s.engine.working x)) ∧
        fresh.Nodup ∧ ∀ x, x ∈ fresh ↔ x ∈ xs ∧ s.outcome? x = none := by
  obtain ⟨fresh, probes, rest⟩ := h.probes
  refine ⟨fresh, ?_, rest⟩
  rw [Bench.recent, h.forgotten, probes, List.drop_append_of_le_length within, ← Bench.recent]

/-- A backend that was tried has an outcome, the one that it would have had. -/
theorem Tried.outcome? (h : Tried s s' xs) (within : s.forgotten ≤ s.engine.probes.length) :
    s'.outcome? b = if b ∈ xs then some (s.effective b) else s.outcome? b := by
  obtain ⟨fresh, recent, -, mem⟩ := h.recent within
  have outcome : s'.outcome? b =
      (s.outcome? b).or ((fresh.map fun x => (x, s.engine.working x)).lookup b) := by
    rw [Bench.outcome?, recent, List.lookup_append, ← Bench.outcome?]
  rw [outcome, effective]
  cases known : s.outcome? b with
  | some ok => simp
  | none =>
    split
    case isTrue tried => exact List.lookup_graph _ ((mem b).mpr ⟨tried, known⟩)
    case isFalse untried =>
      have : b ∉ fresh := fun hb => untried ((mem b).mp hb).1
      simp only [Option.none_or, List.lookup_eq_none_iff, List.mem_map, bne_iff_ne]
      rintro _ ⟨x, hx, rfl⟩ rfl
      exact this hx

theorem Tried.effective (h : Tried s s' xs) (within : s.forgotten ≤ s.engine.probes.length) :
    s'.effective = s.effective := by
  funext b
  rw [Bench.effective, h.outcome? within, h.working]
  split <;> rfl

theorem Tried.trans (h : Tried s s' xs) (h' : Tried s' s'' ys)
    (within : s.forgotten ≤ s.engine.probes.length) : Tried s s'' (xs ++ ys) where
  working := h'.working.trans h.working
  forgotten := h'.forgotten.trans h.forgotten
  probes := by
    obtain ⟨first, probes, nodup, mem⟩ := h.probes
    obtain ⟨second, probes', nodup', mem'⟩ := h'.probes
    have mem' : ∀ x, x ∈ second ↔ x ∈ ys ∧ x ∉ xs ∧ s.outcome? x = none := fun x => by
      rw [mem', h.outcome? within]
      by_cases tried : x ∈ xs <;> simp [tried]
    refine ⟨first ++ second, ?_, ?_, fun x => ?_⟩
    · rw [probes', probes, h.working, List.map_append, List.append_assoc]
    · exact nodup.append nodup' fun x hx hx' => ((mem' x).mp hx').2.1 ((mem x).mp hx).1
    · rw [List.mem_append, List.mem_append, mem, mem']
      tauto

/-- The memory stays that of the recent probes if what was tried is remembered. -/
theorem Tried.sound (h : Tried s s' xs) (sound : s.Sound quality)
    (kept : s'.negotiator.quality = s.negotiator.quality)
    (remembered : ∀ b, s'.negotiator.outcomes b =
      if b ∈ xs then some (s.effective b) else s.outcome? b) : s'.Sound quality where
  quality := kept.trans sound.quality
  remembered := by funext b; rw [remembered, h.outcome? sound.within]
  once := by
    obtain ⟨fresh, recent, nodup, mem⟩ := h.recent sound.within
    have : s'.recent.map (·.1) = s.recent.map (·.1) ++ fresh := by
      simp [recent, Function.comp_def]
    rw [this]
    exact sound.once.append nodup fun x hx hx' => outcome?_eq_none.mp ((mem x).mp hx').2 hx
  within := by
    obtain ⟨fresh, probes, -⟩ := h.probes
    rw [h.forgotten, probes, List.length_append]
    exact Nat.le_add_right_of_le sound.within

/-- A bench with what a negotiation left. -/
def left (s : Bench) (n : Negotiator) (e : RehearsalEngine) : Bench :=
  { s with negotiator := n, engine := e }

theorem probe_eq (b : Backend) (e : RehearsalEngine) : RehearsalWorld.probe b e =
    (e.working b, { e with probes := e.probes ++ [(b, e.working b)] }) := by
  cases working : e.working b <;>
    simp [RehearsalWorld.probe, RehearsalEngine.probe, working, Except.isOk, Except.toBool]

theorem works_eq (h : s.Sound quality) (b : Backend) :
    ∃ n e, s.negotiator.works RehearsalWorld.probe b s.engine = (s.effective b, n, e) ∧
      (s.left n e).Sound quality ∧ Tried s (s.left n e) [b] := by
  cases known : s.outcome? b with
  | some ok =>
    have remembered : s.negotiator.outcomes b = some ok := by rw [h.remembered, known]
    refine ⟨s.negotiator, s.engine, ?_, h, Tried.refl ?_⟩
    · rw [Negotiator.works, remembered, effective, known]
      rfl
    · simp [known]
  | none =>
    have remembered : s.negotiator.outcomes b = none := by rw [h.remembered, known]
    have unknown : s.effective b = s.engine.working b := by rw [effective, known]; rfl
    have tried : Tried s (s.left (s.negotiator.remember b (s.engine.working b))
        { s.engine with probes := s.engine.probes ++ [(b, s.engine.working b)] }) [b] :=
      { working := rfl
        forgotten := rfl
        probes := ⟨[b], rfl, List.nodup_singleton b, fun x => by
          simp only [List.mem_singleton, iff_self_and]
          rintro rfl
          exact known⟩ }
    refine ⟨_, _, ?_, tried.sound h rfl fun x => ?_, tried⟩
    · rw [Negotiator.works, remembered, probe_eq, unknown]
    · by_cases hx : x = b
      · subst hx
        simp [left, Negotiator.remember, unknown]
      · simp [left, Negotiator.remember, hx, h.remembered]

/-! ## Trying a list until one works -/

/-- The backends of a list up to the first one that works. -/
def upTo (works : Backend → Bool) : List Backend → List Backend
  | [] => []
  | b :: bs => b :: if works b then [] else upTo works bs

theorem firstWorking_eq (h : s.Sound quality) (bs : List Backend) :
    ∃ n e, s.negotiator.firstWorking RehearsalWorld.probe s.engine bs =
        (bs.find? s.effective, n, e) ∧
      (s.left n e).Sound quality ∧ Tried s (s.left n e) (upTo s.effective bs) := by
  induction bs generalizing s with
  | nil => exact ⟨_, _, rfl, h, Tried.refl (by simp [upTo])⟩
  | cons b bs ih =>
    obtain ⟨n, e, works, sound, tried⟩ := works_eq h b
    cases effective : s.effective b with
    | true =>
      refine ⟨n, e, ?_, sound, ?_⟩
      · rw [Negotiator.firstWorking, works, effective, List.find?_cons_of_pos effective]
      · simpa [upTo, effective] using tried
    | false =>
      obtain ⟨n', e', rest, sound', tried'⟩ := ih sound
      rw [tried.effective h.within] at rest tried'
      refine ⟨n', e', ?_, sound', ?_⟩
      · rw [Negotiator.firstWorking, works, effective, List.find?_cons_of_neg (by simp [effective])]
        exact rest
      · rw [upTo, if_neg (by simp [effective])]
        exact tried.trans tried' h.within

/-! ## Order of preference -/

theorem isHardware_iff : b.isHardware = true ↔ b ≠ .software := by
  cases b <;> decide

theorem mem_hardware : b ∈ Negotiator.hardware ↔ b.isHardware = true := by
  cases b <;> decide

theorem hardware_sorted : Negotiator.hardware.Pairwise fun a b => b.priority < a.priority := by
  decide

/-- In a list by preference the first backend that works is the most preferred one. -/
theorem priority_le_of_find? {works : Backend → Bool}
    (sorted : bs.Pairwise fun a b => b.priority < a.priority) (found : bs.find? works = some b)
    (mem : x ∈ bs) (effective : works x = true) : x.priority ≤ b.priority := by
  obtain ⟨-, front, back, rfl, none⟩ := List.find?_eq_some_iff_append.mp found
  obtain hx | rfl | hx := by simpa using mem
  · exact absurd effective (by simpa using none x hx)
  · exact Nat.le_refl _
  · exact Nat.le_of_lt ((List.pairwise_cons.mp (List.pairwise_append.mp sorted).2.1).1 x hx)

/-- In a list by preference, those up to the first backend that works are the ones that are
    preferred to it, and itself. -/
theorem mem_upTo {works : Backend → Bool}
    (sorted : bs.Pairwise fun a b => b.priority < a.priority) :
    x ∈ upTo works bs ↔
      x ∈ bs ∧ ((bs.find? works).getD .software).priority ≤ x.priority := by
  induction bs with
  | nil => simp [upTo]
  | cons b bs ih =>
    obtain ⟨lower, sorted⟩ := List.pairwise_cons.mp sorted
    cases effective : works b with
    | true =>
      have : x ∈ bs → ¬ b.priority ≤ x.priority := fun hx => Nat.not_le.mpr (lower x hx)
      simp only [upTo, effective, if_true, List.mem_cons, List.not_mem_nil, or_false,
        List.find?_cons_of_pos, Option.getD_some]
      constructor
      · rintro rfl
        exact ⟨.inl rfl, Nat.le_refl _⟩
      · rintro ⟨rfl | hx, hle⟩
        · rfl
        · exact absurd hle (this hx)
    | false =>
      have least : ((bs.find? works).getD .software).priority ≤ b.priority := by
        cases found : bs.find? works with
        | none => exact Nat.zero_le _
        | some c => exact Nat.le_of_lt (lower c (List.mem_of_find?_eq_some found))
      simp only [upTo, effective, List.mem_cons, List.find?_cons_of_neg, Bool.false_eq_true,
        not_false_eq_true, if_false, ih sorted]
      constructor
      · rintro (rfl | ⟨hx, hle⟩)
        · exact ⟨.inl rfl, least⟩
        · exact ⟨.inr hx, hle⟩
      · rintro ⟨rfl | hx, hle⟩
        · exact .inl rfl
        · exact .inr ⟨hx, hle⟩

/-! ## One negotiation -/

/-- The profile and the bench that a choice leads to. -/
theorem negotiate_eq {pinned : Option Backend} {n : Negotiator} {e : RehearsalEngine}
    (sound : (s.left n e).Sound quality)
    (chosen : s.negotiator.choose RehearsalWorld.probe pinned s.engine = (b, n, e)) :
    s.negotiate pinned = (EncoderProfile.ofBackend b quality, s.left n e) := by
  rw [negotiate, Negotiator.negotiate, chosen]
  have : n.quality = quality := sound.quality
  simp only [this, left]

/-- The backends that are tried when the one that was asked for is not taken, or none was. -/
def others (pinned : Option Backend) : List Backend :=
  Negotiator.hardware.filter fun b => pinned != some b

theorem mem_others {pinned : Option Backend} :
    x ∈ others pinned ↔ x.isHardware = true ∧ pinned ≠ some x := by
  rw [others, List.mem_filter, mem_hardware, bne_iff_ne]

theorem others_sorted (pinned : Option Backend) :
    (others pinned).Pairwise fun a b => b.priority < a.priority := hardware_sorted.filter _

theorem find?_candidates {pinned : Option Backend} (unserved : ¬ s.serves pinned) :
    (Negotiator.candidates pinned).find? s.effective = (others pinned).find? s.effective := by
  cases pinned with
  | none => rfl
  | some p =>
    have : ¬ s.effective p = true := fun h => unserved (.inr ⟨p, rfl, h⟩)
    exact List.find?_cons_of_neg this

theorem upTo_candidates {pinned : Option Backend} (unserved : ¬ s.serves pinned) :
    upTo s.effective (Negotiator.candidates pinned) =
      pinned.toList ++ upTo s.effective (others pinned) := by
  cases pinned with
  | none => rfl
  | some p =>
    have : ¬ s.effective p = true := fun h => unserved (.inr ⟨p, rfl, h⟩)
    simp [Negotiator.candidates, upTo, this, others]

/-- Taking the backend that was asked for. -/
theorem Tried.negotiated_served {pinned : Option Backend} (h : Tried s s' [b])
    (sound : s'.Sound quality) (hardware : b ≠ .software) (asked : pinned = some b)
    (effective : s.effective b = true) : s.Negotiated s' pinned b := by
  have serves : s.serves pinned := .inr ⟨b, asked, effective⟩
  obtain ⟨fresh, probes, -, mem⟩ := h.probes
  refine ⟨fun _ => asked, absurd serves, ⟨fresh, probes, fun x => ?_⟩, sound.once⟩
  simp only [mem, List.mem_singleton, asked, Option.some.injEq]
  constructor
  · rintro ⟨rfl, unknown⟩
    exact ⟨isHardware_iff.mpr hardware, unknown, .inl rfl⟩
  · rintro ⟨-, unknown, rfl | ⟨unserved, -⟩⟩
    · exact ⟨rfl, unknown⟩
    · exact absurd (asked ▸ serves) unserved

/-- Walking through the hardware backends. -/
theorem Tried.negotiated_unserved {pinned : Option Backend}
    (h : Tried s s' (upTo s.effective (Negotiator.candidates pinned))) (sound : s'.Sound quality)
    (unserved : ¬ s.serves pinned) :
    s.Negotiated s' pinned (((Negotiator.candidates pinned).find? s.effective).getD .software) := by
  rw [upTo_candidates unserved] at h
  rw [find?_candidates unserved]
  -- A hardware backend that works was not asked for, so it is among the others.
  have other : ∀ x, x.isHardware = true → s.effective x = true → x ∈ others pinned :=
    fun x hx working => mem_others.mpr ⟨hx, fun asked => unserved (.inr ⟨x, asked, working⟩)⟩
  obtain ⟨fresh, probes, -, mem⟩ := h.probes
  refine ⟨fun serves => absurd serves unserved, fun _ => ?_, ⟨fresh, probes, fun x => ?_⟩,
    sound.once⟩
  · cases found : (others pinned).find? s.effective with
    | none =>
      refine .inr ⟨rfl, fun x hx => ?_⟩
      by_contra working
      exact List.find?_eq_none.mp found x (other x hx (by simpa using working))
        (by simpa using working)
    | some b =>
      refine .inl ⟨(mem_others.mp (List.mem_of_find?_eq_some found)).1, List.find?_some found,
        fun x hx working => ?_⟩
      exact priority_le_of_find? (others_sorted pinned) found (other x hx working) working
  · rw [mem, List.mem_append, mem_upTo (others_sorted pinned), mem_others, Option.mem_toList]
    constructor
    · rintro ⟨asked | ⟨⟨hardware, -⟩, preferred⟩, unknown⟩
      · refine ⟨isHardware_iff.mpr fun software => unserved (.inl ?_), unknown, .inl asked⟩
        rw [← software]
        exact asked
      · exact ⟨hardware, unknown, .inr ⟨unserved, preferred⟩⟩
    · rintro ⟨hardware, unknown, asked | ⟨-, preferred⟩⟩
      · exact ⟨.inl asked, unknown⟩
      · by_cases asked : pinned = some x
        · exact ⟨.inl asked, unknown⟩
        · exact ⟨.inr ⟨⟨hardware, asked⟩, preferred⟩, unknown⟩

/-- A negotiation keeps the memory sound and settles on the right backend. -/
theorem Sound.negotiate (h : s.Sound quality) (pinned : Option Backend) :
    ∃ b, (s.negotiate pinned).1 = EncoderProfile.ofBackend b quality ∧
      (s.negotiate pinned).2.Sound quality ∧
      s.Negotiated (s.negotiate pinned).2 pinned b := by
  by_cases software : pinned = some .software
  · have chosen : s.negotiator.choose RehearsalWorld.probe pinned s.engine =
        (.software, s.negotiator, s.engine) := if_pos software
    rw [negotiate_eq h chosen]
    have serves : s.serves pinned := .inl software
    refine ⟨_, rfl, h, fun _ => software, absurd serves, ⟨[], by simp [left], fun x => ?_⟩, h.once⟩
    -- Software is no hardware, so nothing is probed.
    refine iff_of_false List.not_mem_nil ?_
    rintro ⟨hardware, -, asked | ⟨unserved, -⟩⟩
    · exact isHardware_iff.mp hardware (Option.some.inj (asked.symm.trans software))
    · exact unserved serves
  · obtain ⟨n, e, walked, sound, tried⟩ := firstWorking_eq h (Negotiator.candidates pinned)
    have chosen : s.negotiator.choose RehearsalWorld.probe pinned s.engine =
        (((Negotiator.candidates pinned).find? s.effective).getD .software, n, e) := by
      rw [Negotiator.choose, if_neg software, walked]
    rw [negotiate_eq sound chosen]
    refine ⟨_, rfl, sound, ?_⟩
    by_cases serves : s.serves pinned
    · obtain software' | ⟨b, rfl, effective⟩ := serves
      · exact absurd software' software
      · have found : (Negotiator.candidates (some b)).find? s.effective = some b :=
          List.find?_cons_of_pos effective
        have walked : upTo s.effective (Negotiator.candidates (some b)) = [b] := by
          simp [Negotiator.candidates, upTo, effective]
        rw [found]
        rw [walked] at tried
        exact tried.negotiated_served sound (by simpa using software) rfl effective
    · exact tried.negotiated_unserved sound serves

/-! ## Whole runs -/

theorem Sound.take (h : s.Sound quality) (step : BenchStep) : (s.take step).Sound quality := by
  cases step with
  | set b ok => exact ⟨h.quality, h.remembered, h.once, h.within⟩
  | negotiate pinned =>
    obtain ⟨-, -, sound, -⟩ := h.negotiate pinned
    exact sound
  | clear =>
    have recent : (s.take .clear).recent = [] := List.drop_length
    refine ⟨h.quality, ?_, by simp [recent], Nat.le_refl _⟩
    funext b
    rw [outcome?, recent]
    rfl

theorem Sound.follow (h : s.Sound quality) (steps : List BenchStep) :
    (s.follow steps).Sound quality := by
  induction steps generalizing s with
  | nil => exact h
  | cons step steps ih => exact ih (h.take step)

/-- After any run, a negotiation returns the profile of the backend that was asked for if its
    effective outcome is a success, else of the most preferred one with such an outcome, and
    probes each backend that it has to know about once. -/
theorem negotiated_follow (quality : Nat) (engine : RehearsalEngine) (steps : List BenchStep)
    (pinned : Option Backend) :
    let s := (ofQuality quality engine).follow steps
    ∃ b, (s.negotiate pinned).1 = EncoderProfile.ofBackend b quality ∧
      s.Negotiated (s.negotiate pinned).2 pinned b := by
  intro s
  obtain ⟨b, profile, -, negotiated⟩ := ((sound_ofQuality engine).follow steps).negotiate pinned
  exact ⟨b, profile, negotiated⟩

end Bench

end Compositor
