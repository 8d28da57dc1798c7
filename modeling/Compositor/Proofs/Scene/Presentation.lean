import Compositor.Proofs.Scene.Backdrops
import Mathlib.Logic.Relation

/-! # Ways to write the same scene

A `Plan` says where the records are in what a reader reads.  From the plan of a reader it can be
told which values say the same (`Plan.Rearranged`) and which have a fault that does not depend on what
they say (`Plan.Faulty`).  The plan of scenes is read off their reader; the backgrounds in them
follow rules of their own.
-/

namespace Compositor

/-! ## Plans -/

mutual
/-- Where the records are in the values that a reader reads. -/
inductive Plan : {α : Type} → Reader α → Type 1 where
  /-- No record type is in them. -/
  | leaf {α : Type} {read : Reader α} : Plan read
  | optional {α : Type} {read : Reader α} (plan : Plan read) : Plan (Reader.optional read)
  | list {α : Type} {read : Reader α} (plan : Plan read) : Plan (Reader.list read)
  /-- They are records with the given fields. -/
  | record {α : Type} {αs : List Type} {read : Reader α} {fields : Fields αs}
      {make : Values αs → Except Fault α} (steps : read = fun d => fields.read d >>= make)
      (distinct : fields.names.Nodup) (plans : Plans fields) : Plan read
  | background : Plan Background.read

/-- A plan for the values of each field. -/
inductive Plans : {αs : List Type} → Fields αs → Type 1 where
  | nil : Plans .nil
  | cons {α : Type} {αs : List Type} {f : Field α} {fs : Fields αs} (plan : Plan f.read)
      (plans : Plans fs) : Plans (.cons f fs)
end

mutual
/-- The second value says what the first one says. -/
def Plan.Rearranged : {α : Type} → {read : Reader α} → Plan read → Datum → Datum → Prop
  | _, _, .leaf => Eq
  | _, _, .optional plan => plan.Rearranged
  | _, _, .list plan => fun d d' =>
    ∃ ds ds', d = .list ds ∧ d' = .list ds' ∧ List.Forall₂ plan.Rearranged ds ds'
  | _, _, @Plan.record _ _ _ fields _ _ _ plans => fields.Rearranged plans.rearranged
  | _, _, .background => Background.Rearranged

/-- The same for the value of the field with a name. -/
def Plans.rearranged : {αs : List Type} → {fields : Fields αs} → Plans fields → String →
    Datum → Datum → Prop
  | _, _, .nil, _ => Eq
  | _, _, @Plans.cons _ _ f _ plan plans, name =>
    if f.name = name then plan.Rearranged else plans.rearranged name
end

mutual
/-- A record in the value has a fault: a known member is given twice, or a background has a member
    that is unreadable. -/
def Plan.Faulty : {α : Type} → {read : Reader α} → Plan read → Datum → Prop
  | _, _, .leaf => fun _ => False
  | _, _, .optional plan => plan.Faulty
  | _, _, .list plan => fun d => ∃ ds, d = .list ds ∧ ∃ d' ∈ ds, plan.Faulty d'
  | _, _, @Plan.record _ _ _ fields _ _ _ plans => fields.Faulty plans.faulty
  | _, _, .background => Background.Faulty

/-- The same for the value of the field with a name. -/
def Plans.faulty : {αs : List Type} → {fields : Fields αs} → Plans fields → String → Datum → Prop
  | _, _, .nil, _ => fun _ => False
  | _, _, @Plans.cons _ _ f _ plan plans, name =>
    if f.name = name then plan.Faulty else plans.faulty name
end

/-! ## Reading what is rearranged -/

section

variable {α : Type} {αs : List Type} {read : Reader α} {fields : Fields αs} {d d' : Datum} {x : α}

theorem Reader.optional_of_ne_null (present : d ≠ .null) :
    Reader.optional read d = (read d).map some := by
  cases d <;> first | rfl | exact absurd rfl present

theorem Reader.optional_eq_ok {v : Option α} (present : d ≠ .null) :
    Reader.optional read d = .ok v ↔ ∃ x, read d = .ok x ∧ v = some x := by
  rw [optional_of_ne_null present]
  cases read d with
  | error fault => simp [Except.map]
  | ok x => simp [Except.map, eq_comm]

/-- What stands for an absent value is not rearranged. -/
theorem Plan.null_iff : {α : Type} → {read : Reader α} → (plan : Plan read) → {d d' : Datum} →
    plan.Rearranged d d' → (d = .null ↔ d' = .null)
  | _, _, .leaf, _, _, same => by
    cases same
    exact Iff.rfl
  | _, _, .optional plan, _, _, same => plan.null_iff same
  | _, _, .list plan, _, _, same => by
    obtain ⟨_, _, rfl, rfl, -⟩ := same
    exact iff_of_false Datum.noConfusion Datum.noConfusion
  | _, _, .record _ _ _, _, _, same => by
    cases same
    · exact Iff.rfl
    all_goals exact iff_of_false Datum.noConfusion Datum.noConfusion
  | _, _, .background, _, _, same => by
    cases same
    · exact Iff.rfl
    · exact iff_of_false Datum.noConfusion Datum.noConfusion

theorem Reader.items_of_forall₂ {R : Datum → Datum → Prop} {ds ds' : List Datum} {xs : List α}
    (respected : ∀ d d' x, R d d' → read d = .ok x → read d' = .ok x) (same : List.Forall₂ R ds ds')
    (done : Reader.items read ds = .ok xs) : Reader.items read ds' = .ok xs := by
  induction same generalizing xs with
  | nil => exact done
  | cons first _ ih =>
    obtain ⟨x, reads, done⟩ := exists_of_bind_eq_ok done
    obtain ⟨xs, values, ⟨⟩⟩ := exists_of_bind_eq_ok done
    rw [Reader.items, respected _ _ _ first reads, ih values]
    rfl

/-- A name that no field has is that of a value which is kept. -/
theorem Plans.rearranged_of_notMem : {αs : List Type} → {fields : Fields αs} →
    (plans : Plans fields) → {name : String} → name ∉ fields.names → plans.rearranged name = Eq
  | _, _, .nil, _, _ => rfl
  | _, _, .cons plan plans, name, unknown => by
    obtain ⟨different, unknown⟩ := not_or.mp (List.mem_cons.not.mp unknown)
    rw [Plans.rearranged, if_neg fun same => different same.symm, plans.rearranged_of_notMem unknown]

mutual
/-- What is rearranged is read as the same. -/
theorem Plan.reads : {α : Type} → {read : Reader α} → (plan : Plan read) → (d d' : Datum) →
    (x : α) → plan.Rearranged d d' → read d = .ok x → read d' = .ok x
  | _, _, .leaf, _, _, _, same, done => by
    cases same
    exact done
  | _, _, .optional plan, d, d', v, same, done => by
    -- An absent value stays absent, and only one that is not is read by the plan inside.
    by_cases absent : d = .null
    · rw [(plan.null_iff same).mp absent, ← absent]
      exact done
    · obtain ⟨x, value, rfl⟩ := (Reader.optional_eq_ok absent).mp done
      exact (Reader.optional_eq_ok ((plan.null_iff same).not.mp absent)).mpr
        ⟨x, plan.reads d d' x same value, rfl⟩
  | _, _, .list plan, _, _, _, same, done => by
    obtain ⟨ds, ds', rfl, rfl, same⟩ := same
    exact Reader.items_of_forall₂ plan.reads same done
  | _, _, .record steps distinct plans, _, _, _, same, done =>
    Reader.reads_of_fields steps
      (fun _ => Fields.Rearranged.reads same distinct (plans.respected distinct)
        fun _ unknown _ _ same => by rwa [plans.rearranged_of_notMem unknown] at same) done
  | _, _, .background, _, _, _, same, done => Background.Rearranged.reads same done

theorem Plans.respected : {αs : List Type} → {fields : Fields αs} → (plans : Plans fields) →
    fields.names.Nodup → fields.RespectedBy plans.rearranged
  | _, _, .nil, _ => trivial
  | _, _, @Plans.cons _ _ f _ plan plans, distinct => by
    obtain ⟨new, distinct⟩ := List.nodup_cons.mp distinct
    -- The names of the other fields are not the first one's, so they have the relations they had.
    refine ⟨?_, (plans.respected distinct).congr fun name known => ?_⟩
    · rw [Plans.rearranged, if_pos rfl]
      exact plan.reads
    · rw [Plans.rearranged, if_neg]
      rintro rfl
      exact new known
end

/-- However often it is rearranged. -/
theorem Plan.reads_all (plan : Plan read) (rearranged : Relation.ReflTransGen plan.Rearranged d d')
    (done : read d = .ok x) : read d' = .ok x := by
  induction rearranged with
  | refl => exact done
  | tail _ step ih => exact plan.reads _ _ _ step ih

/-! ## Refusing what is faulty -/

theorem Reader.items_refused {P : Datum → Prop} {ds : List Datum} {xs : List α}
    (refused : ∀ d x, P d → read d ≠ .ok x) (mem : d ∈ ds) (fault : P d) :
    Reader.items read ds ≠ .ok xs := by
  induction ds generalizing xs with
  | nil => cases mem
  | cons d' ds ih =>
    intro done
    obtain ⟨x, reads, done⟩ := exists_of_bind_eq_ok done
    obtain ⟨xs, values, -⟩ := exists_of_bind_eq_ok done
    obtain rfl | mem := List.mem_cons.mp mem
    · exact refused _ _ fault reads
    · exact ih mem values

/-- What stands for an absent value has no fault. -/
theorem Plan.ne_null : {α : Type} → {read : Reader α} → (plan : Plan read) → {d : Datum} →
    plan.Faulty d → d ≠ .null
  | _, _, .leaf, _, fault => fault.elim
  | _, _, .optional plan, _, fault => plan.ne_null fault
  | _, _, .list _, _, fault => by
    obtain ⟨_, rfl, -⟩ := fault
    exact Datum.noConfusion
  | _, _, .record _ _ _, _, fault => by
    cases fault <;> exact Datum.noConfusion
  | _, _, .background, _, fault => by
    cases fault <;> exact Datum.noConfusion

mutual
/-- What is faulty is not read. -/
theorem Plan.refuses : {α : Type} → {read : Reader α} → (plan : Plan read) → (d : Datum) → (x : α) →
    plan.Faulty d → read d ≠ .ok x
  | _, _, .leaf, _, _, fault => fault.elim
  | _, _, .optional plan, d, _, fault => by
    intro done
    obtain ⟨x, value, -⟩ := (Reader.optional_eq_ok (plan.ne_null fault)).mp done
    exact plan.refuses d x fault value
  | _, _, .list plan, _, _, fault => by
    obtain ⟨ds, rfl, d, mem, fault⟩ := fault
    exact Reader.items_refused plan.refuses mem fault
  | _, _, .record steps distinct plans, _, _, fault =>
    Reader.refused_of_fields steps fun _ =>
      Fields.Faulty.refused fault distinct (plans.refused distinct)
  | _, _, .background, _, _, fault => Background.Faulty.refused fault

theorem Plans.refused : {αs : List Type} → {fields : Fields αs} → (plans : Plans fields) →
    fields.names.Nodup → fields.RefusedBy plans.faulty
  | _, _, .nil, _ => trivial
  | _, _, @Plans.cons _ _ f _ plan plans, distinct => by
    obtain ⟨new, distinct⟩ := List.nodup_cons.mp distinct
    refine ⟨?_, (plans.refused distinct).congr fun name known => ?_⟩
    · rw [Plans.faulty, if_pos rfl]
      exact plan.refuses
    · rw [Plans.faulty, if_neg]
      rintro rfl
      exact new known
end

end

/-! ## The plan of scenes -/

def Rect.plan : Plan Rect.read :=
  .record rfl (by decide) (.cons .leaf <| .cons .leaf <| .cons .leaf <| .cons .leaf .nil)

def KenBurns.plan : Plan KenBurns.read :=
  .record rfl (by decide)
    (.cons .leaf <| .cons .leaf <| .cons .leaf <| .cons .leaf <| .cons .leaf .nil)

def KenBurnsDefaults.plan : Plan KenBurnsDefaults.read :=
  .record rfl (by decide) (.cons .leaf <| .cons .leaf <| .cons .leaf <| .cons .leaf .nil)

def ImageClip.plan : Plan ImageClip.read :=
  .record rfl (by decide)
    (.cons .leaf <| .cons .leaf <| .cons .leaf <| .cons (.optional Rect.plan) <|
      .cons (.optional KenBurns.plan) .nil)

def AudioTrack.plan : Plan AudioTrack.read :=
  .record rfl (by decide) (.cons .leaf <| .cons .leaf <| .cons .leaf .nil)

def Subtitles.plan : Plan Subtitles.read :=
  .record rfl (by decide)
    (.cons .leaf <| .cons .leaf <| .cons .leaf <| .cons .leaf <| .cons .leaf <| .cons .leaf .nil)

def Keyframe.plan : Plan Keyframe.read :=
  .record rfl (by decide)
    (.cons .leaf <| .cons .leaf <| .cons .leaf <| .cons .leaf <| .cons .leaf .nil)

def TextCue.plan : Plan TextCue.read :=
  .record rfl (by decide)
    (.cons .leaf <| .cons .leaf <| .cons .leaf <| .cons .leaf <| .cons .leaf <| .cons .leaf <|
      .cons .leaf <| .cons .leaf <| .cons .leaf <| .cons (.list Keyframe.plan) .nil)

/-- The plan of scenes.  Sources of media and of subtitles, roles, positions and backends are no
    records. -/
def Scene.plan : Plan Scene.read :=
  .record rfl (by decide)
    (.cons .leaf <| .cons .leaf <| .cons .leaf <| .cons .leaf <| .cons .background <|
      .cons (.list ImageClip.plan) <| .cons (.list AudioTrack.plan) <|
      .cons (.optional Subtitles.plan) <| .cons (.list TextCue.plan) <|
      .cons (.optional KenBurnsDefaults.plan) <| .cons .leaf .nil)

/-! ## Documents -/

theorem Json.decode_eq_ok {α : Type} {read : Reader α} {text : String} {x : α} :
    Json.decode read text = .ok x ↔
      (Json.document .stepwise text).trailing = false ∧
        read (Json.document .stepwise text).value = .ok x := by
  rw [Json.decode]
  constructor
  · intro done
    obtain ⟨y, value, done⟩ := exists_of_bind_eq_ok done
    split at done
    · cases done
    · next complete =>
      cases done
      exact ⟨Bool.eq_false_iff.mpr complete, value⟩
  · rintro ⟨complete, value⟩
    simp only [value, complete]
    rfl

namespace Scene

/-- What a document is read as does not depend on how it is written.  If a document is accepted, so
    is each one that says the same, with members in another order, with members of unknown names or
    with lists in the place of records, and it is read as the same scene.  A document in which a
    known member is given twice, or a background has an unreadable member, is refused. -/
theorem decode_rearranged {text : String} {scene : Scene}
    (accepted : Json.decode read text = .ok scene) :
    (∀ text', (Json.document .stepwise text').trailing = false →
      Relation.ReflTransGen plan.Rearranged (Json.document .stepwise text).value
        (Json.document .stepwise text').value →
      Json.decode read text' = .ok scene) ∧
    ∀ text', plan.Faulty (Json.document .stepwise text').value →
      ∀ other, Json.decode read text' ≠ .ok other := by
  constructor
  · intro text' complete rearranged
    exact Json.decode_eq_ok.mpr
      ⟨complete, plan.reads_all rearranged (Json.decode_eq_ok.mp accepted).2⟩
  · intro text' fault other done
    exact plan.refuses _ _ fault (Json.decode_eq_ok.mp done).2

/-- Nothing but a red background. -/
def red : Scene := { Scene.blank 5 6 7 with background := .color "red" }

def redForm : Datum :=
  .ofMembers
    [("duration", .integer 5), ("width", .integer 6), ("height", .integer 7),
     ("background", .ofMembers [("type", .text "color"), ("color", .text "red")])]

/-- The same as a list, with notes among the members of the background. -/
def listedRedForm : Datum :=
  .list
    [.text "", .integer 5, .integer 6, .integer 7,
     .ofMembers
       [("note", .list []), ("note", .null), ("color", .text "red"), ("type", .text "color")],
     .list [], .list [], .null, .list [], .null, .null]

theorem read_redForm : read redForm = .ok red := by
  have same : (read redForm).toOption = some red := by decide +kernel
  cases outcome : read redForm with
  | error fault =>
    rw [outcome] at same
    cases same
  | ok scene =>
    rw [outcome] at same
    exact congrArg Except.ok (Option.some.inj same)

theorem redForm_rearranged : plan.Rearranged redForm listedRedForm := by
  have background : Background.Rearranged
      (.ofMembers [("type", .text "color"), ("color", .text "red")])
      (.ofMembers
        [("note", .list []), ("note", .null), ("color", .text "red"), ("type", .text "color")]) := by
    have names : Background.Names [(some "type", .text "color"), (some "color", .text "red")]
      .color := .value rfl
    have unknown : ∀ m ∈ [(some "note", Datum.null), (some "note", .list [])], ∃ name,
        m.1 = some name ∧ name ≠ "type" ∧ name ≠ Background.Kind.color.member ∧
          m.2.isReadable Background.depthLimit = true :=
      List.forall_mem_cons.mpr ⟨⟨"note", rfl, by decide, by decide, rfl⟩,
        List.forall_mem_singleton.mpr ⟨"note", rfl, by decide, by decide, rfl⟩⟩
    exact .members names unknown (List.reverse_perm _).symm
  exact Fields.Rearranged.positions
    (.leftOut rfl rfl rfl <| .given rfl rfl <| .given rfl rfl <| .given rfl rfl <|
      .given rfl background <| .leftOut rfl rfl rfl <| .leftOut rfl rfl rfl <|
      .leftOut rfl rfl rfl <| .leftOut rfl rfl rfl <| .leftOut rfl rfl rfl <|
      .leftOut rfl rfl rfl .nil)

theorem written_small (n : Nat) (small : n < 8) : Json.Written (.integer n) :=
  Json.written_integer (by omega) (by omega)

theorem written_redForm : Json.Written redForm := by
  refine Json.written_ofMembers ?_
  simp only [List.forall_mem_cons, List.not_mem_nil, false_implies, implies_true, and_true]
  refine ⟨written_small 5 (by decide), written_small 6 (by decide), written_small 7 (by decide),
    Json.written_ofMembers ?_⟩
  simp only [List.forall_mem_cons, List.not_mem_nil, false_implies, implies_true, and_true]
  exact ⟨Json.written_text _, Json.written_text _⟩

theorem written_listedRedForm : Json.Written listedRedForm := by
  have nothing : Json.Written (.list []) :=
    Json.written_list fun _ mem => absurd mem List.not_mem_nil
  have background : Json.Written (.ofMembers
      [("note", .list []), ("note", .null), ("color", .text "red"), ("type", .text "color")]) := by
    refine Json.written_ofMembers ?_
    simp only [List.forall_mem_cons, List.not_mem_nil, false_implies, implies_true, and_true]
    exact ⟨nothing, Json.written_null, Json.written_text _, Json.written_text _⟩
  refine Json.written_list ?_
  simp only [List.forall_mem_cons, List.not_mem_nil, false_implies, implies_true, and_true]
  exact ⟨Json.written_text _, written_small 5 (by decide), written_small 6 (by decide),
    written_small 7 (by decide), background, nothing, nothing, Json.written_null, nothing,
    Json.written_null, Json.written_null⟩

theorem decode_rearranged_red :
    Json.decode read (Json.encode redForm) = .ok red ∧
      Json.decode read (Json.encode listedRedForm) = .ok red := by
  have accepted : Json.decode read (Json.encode redForm) = .ok red := by
    rw [Json.decode_eq_ok, written_redForm.document]
    exact ⟨rfl, read_redForm⟩
  refine ⟨accepted, (decode_rearranged accepted).1 _ ?_ ?_⟩
  · rw [written_listedRedForm.document]
  · rw [written_listedRedForm.document, written_redForm.document]
    exact .single redForm_rearranged

/-- The text of the red scene, with more text behind the last member of its background and behind
    its own last member. -/
def redText (inside outside : String) : String :=
  "\x7b\"duration\":5,\"width\":6,\"height\":7,\"background\":\x7b\"type\":\"color\",\"color\":\"red\""
    ++ inside ++ "\x7d" ++ outside ++ "\x7d"

/-- A number beyond the greatest double does no harm where it is passed over, but a background with
    it is refused; and nowhere is there a member whose name denotes no text. -/
theorem decode_unreadable_note :
    (Json.decode read (redText "" "")).toOption = some red ∧
      (Json.decode read (redText "" ",\"note\":1e400")).toOption = some red ∧
      (Json.decode read (redText ",\"note\":1e400" "")).toOption = none ∧
      (Json.decode read (redText "" ",\"\\ud800\":0")).toOption = none := by
  decide +kernel

end Scene

end Compositor
