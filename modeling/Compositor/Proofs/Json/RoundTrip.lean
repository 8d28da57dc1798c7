import Compositor.Json.Reader
import Compositor.Proofs.Json.Tokens

/-! # Reading what was written

The machine that reads a document takes in a written value as one piece and puts it in its
place.  A value is `Written` faithfully if that is so whatever is open around it and whatever
follows.  Lists and records of such values are such values again.
-/

namespace Compositor

/-- The text of a number, read by itself, denotes the number. -/
def Double.ReadsBack (x : Double) : Prop :=
  Json.document .stepwise (Json.encode (.real x)) = ⟨.real x, false⟩

namespace Json

variable {phase : Phase} {frames : List Frame} {rest : List Char} {d : Datum}

/-- A value may come next. -/
def Phase.TakesValue (phase : Phase) : Prop := phase = .value ∨ phase = .firstItem

/-- Wherever the value is written, it is read as it is. -/
def Written (d : Datum) : Prop :=
  ∀ phase frames rest, Phase.TakesValue phase → Ends rest →
    run ⟨phase, frames⟩ (tokens .stepwise (write d ++ rest)) =
      run (place d frames) (tokens .stepwise rest)

/-- A document that consists of a written value denotes it. -/
theorem Written.document (written : Written d) : document .stepwise (encode d) = ⟨d, false⟩ := by
  have read := written .value [] [] (.inl rfl) ends_nil
  rw [List.append_nil, tokens_nil] at read
  rw [Json.document, encode, String.toList_ofList, read]
  rfl

/-! ## Pieces of text and steps of the machine -/

theorem write_text (s : String) : write (.text s) = writeString s := rfl

theorem write_integer (i : Int) : write (.integer i) = writeInteger i := rfl

theorem write_real (x : Double) : write (.real x) = writeReal x := rfl

theorem write_list (ds : List Datum) : write (.list ds) = '[' :: (writeItems ds ++ [']']) := rfl

theorem write_record (ms : List (Option String × Datum)) :
    write (.record ms) = '{' :: (writeMembers ms ++ ['}']) := rfl

theorem writeItems_singleton (d : Datum) : writeItems [d] = write d := rfl

theorem writeItems_cons_cons (d d' : Datum) (ds : List Datum) :
    writeItems (d :: d' :: ds) = write d ++ ',' :: writeItems (d' :: ds) := rfl

theorem writeMembers_singleton (m : Option String × Datum) : writeMembers [m] = writeMember m := rfl

theorem writeMembers_cons_cons (m m' : Option String × Datum) (ms : List (Option String × Datum)) :
    writeMembers (m :: m' :: ms) = writeMember m ++ ',' :: writeMembers (m' :: ms) := rfl

theorem writeMember_some (name : String) (d : Datum) :
    writeMember (some name, d) = writeString name ++ ':' :: write d := rfl

/-- The first item of a list starts like any other value. -/
theorem step_firstItem {t : Token} (value : t ≠ .closeList) :
    step ⟨.firstItem, frames⟩ t = step.startValue frames t := by
  cases t with
  | closeList => exact absurd rfl value
  | _ =>
    -- Whether the list is empty is looked at before the token.
    rcases frames with _ | ⟨⟨_ | _⟩ | _, _⟩ <;> rfl

theorem run_cons {s s' : State} {t : Token} (stepped : step s t = some s') (ts : List Token) :
    run s (t :: ts) = run s' ts := by
  rw [run, stepped]

theorem run_value (takes : phase.TakesValue) {t : Token} {s : State} (value : t ≠ .closeList)
    (starts : step.startValue frames t = some s) (ts : List Token) :
    run ⟨phase, frames⟩ (t :: ts) = run s ts := by
  rcases takes with rfl | rfl
  · have stepped : step ⟨.value, frames⟩ t = some s := starts
    exact run_cons stepped ts
  · exact run_cons ((step_firstItem value).trans starts) ts

/-! ## Scalars -/

theorem written_null : Written .null := by
  intro phase frames rest takes _
  have text : write .null = "null".toList := rfl
  rw [text, tokens_null, run_value takes Token.noConfusion rfl]

theorem written_bool (b : Bool) : Written (.bool b) := by
  intro phase frames rest takes _
  rw [tokens_bool, run_value takes Token.noConfusion rfl]

theorem written_text (s : String) : Written (.text s) := by
  intro phase frames rest takes _
  rw [write_text, tokens_writeString, run_value takes Token.noConfusion rfl]

theorem written_integer {i : Int} (low : -2 ^ 63 ≤ i) (high : i < 2 ^ 64) : Written (.integer i) := by
  intro phase frames rest takes ends
  rw [write_integer, tokens_writeInteger low high ends, run_value takes Token.noConfusion rfl]

/-! ## Real numbers -/

def BeginsWithDigit (cs : List Char) : Prop := ∃ c ds, cs = c :: ds ∧ c.isDigit = true

theorem BeginsWithDigit.append {cs : List Char} (begins : BeginsWithDigit cs) (rest : List Char) :
    BeginsWithDigit (cs ++ rest) := by
  obtain ⟨c, ds, rfl, digit⟩ := begins
  exact ⟨c, ds ++ rest, rfl, digit⟩

theorem BeginsWithDigit.take {cs : List Char} (begins : BeginsWithDigit cs) {count : Nat}
    (positive : 0 < count) : BeginsWithDigit (cs.take count) := by
  obtain ⟨c, ds, rfl, digit⟩ := begins
  obtain ⟨count, rfl⟩ := Nat.exists_eq_add_of_lt positive
  exact ⟨c, ds.take (0 + count), List.take_succ_cons, digit⟩

theorem BeginsWithDigit.padded {cs : List Char} (begins : BeginsWithDigit cs) (count : Nat) :
    BeginsWithDigit (List.replicate count '0' ++ cs) := by
  cases count with
  | zero => exact begins
  | succ count => exact ⟨'0', List.replicate count '0' ++ cs, rfl, rfl⟩

theorem beginsWithDigit_toDigits (n : Nat) : BeginsWithDigit (Nat.toDigits 10 n) := by
  obtain ⟨c, ds, same⟩ := List.exists_cons_of_ne_nil (toDigits_ne_nil n)
  exact ⟨c, ds, same, toDigits_isDigit n c (by rw [same]; exact .head _)⟩

theorem beginsWithDigit_layout (d : Decimal) : BeginsWithDigit d.layout := by
  have digits := beginsWithDigit_toDigits d.digits
  rw [Decimal.layout]
  split
  · exact digits.append _
  · -- With its padding the number has more digits than places.
    refine BeginsWithDigit.append (.take ?_ ?_) _
    · exact digits.padded _
    · rw [List.length_append, List.length_replicate]
      omega

theorem beginsWithDigit_writeDecimal (d : Decimal) : BeginsWithDigit (writeDecimal d) := by
  rw [writeDecimal]
  split
  · split
    · exact beginsWithDigit_layout d
    · exact (beginsWithDigit_layout d).append _
  · exact (((beginsWithDigit_toDigits d.digits).take Nat.one_pos).append _).append _

theorem writeReal_eq_cons {x : Double} (finite : x.isFinite = true) :
    ∃ c cs, writeReal x = c :: cs ∧ (c = '-' ∨ c.isDigit = true) := by
  have begins : BeginsWithDigit
      (if x.isZero then "0.0".toList else writeDecimal (Double.shortest x.place)) := by
    split
    · exact ⟨'0', ['.', '0'], rfl, rfl⟩
    · exact beginsWithDigit_writeDecimal _
  rw [writeReal, if_pos finite]
  obtain ⟨c, cs, size, digit⟩ := begins
  simp only [size]
  split
  · exact ⟨'-', c :: cs, rfl, .inl rfl⟩
  · exact ⟨c, cs, rfl, .inr digit⟩

/-- A number reads back if it is finite and what is scanned at the start of its text is the number,
    with nothing after it. -/
theorem readsBack_iff {x : Double} :
    x.ReadsBack ↔ x.isFinite = true ∧
      ∃ left, scanNumber .stepwise (writeReal x) = some (.real x, left) ∧
        left.all isBlank = true := by
  rw [Double.ReadsBack, document, encode, String.toList_ofList, write_real]
  by_cases finite : x.isFinite = true
  · obtain ⟨c, cs, text, first⟩ := writeReal_eq_cons finite
    rw [text, and_iff_right finite]
    cases scanned : scanNumber .stepwise (c :: cs) with
    | none =>
      -- A text that is no number is cut off as a bad token, which stops the machine.
      have refused : scanToken .stepwise (c :: cs) = none := by
        rw [scanToken_of_number first, scanned, Option.map_none]
      rw [tokens_bad (isBlank_of_number first) refused]
      constructor
      · rintro ⟨⟩
      · rintro ⟨left, ⟨⟩, -⟩
    | some read =>
      obtain ⟨d, left⟩ := read
      rw [tokens_number first scanned, run_value (.inl rfl) Token.noConfusion rfl]
      constructor
      · intro reads
        -- The machine has stopped, so the text has ended.
        have blank : tokens .stepwise left = [] := by
          cases rest : tokens .stepwise left with
          | nil => rfl
          | cons t ts =>
            rw [rest] at reads
            cases reads
        rw [blank] at reads
        cases reads
        exact ⟨left, rfl, tokens_eq_nil_iff.mp blank⟩
      · rintro ⟨left', same, blank⟩
        cases same
        rw [tokens_eq_nil_iff.mpr blank]
        rfl
  · -- What is not finite is written as a null, which denotes no number.
    have null := tokens_null (r := .stepwise) []
    rw [List.append_nil, tokens_nil] at null
    rw [writeReal, if_neg finite, null]
    constructor
    · rintro ⟨⟩
    · rintro ⟨finite', -⟩
      exact absurd finite' finite

instance (x : Double) : Decidable x.ReadsBack :=
  decidable_of_iff
    (x.isFinite = true ∧
      ((scanNumber .stepwise (writeReal x)).any fun
        | (.real y, left) => y == x && left.all isBlank
        | _ => false) = true)
    (by
      rw [readsBack_iff]
      refine and_congr_right fun _ => ?_
      cases scanNumber .stepwise (writeReal x) with
      | none => simp
      | some read =>
        obtain ⟨d, left⟩ := read
        cases d <;> simp [and_comm])

/-- A number that reads back by itself does so wherever it is written. -/
theorem written_real {x : Double} (reads : x.ReadsBack) : Written (.real x) := by
  intro phase frames rest takes ends
  obtain ⟨finite, left, scanned, blank⟩ := readsBack_iff.mp reads
  obtain ⟨c, cs, text, first⟩ := writeReal_eq_cons finite
  have continued := scanNumber_append ends scanned
  rw [text, List.cons_append] at continued
  rw [write_real, text, List.cons_append, tokens_number first continued,
    tokens_append_of_blank blank, run_value takes Token.noConfusion rfl]

/-! ## Lists -/

/-- Items with the end of their list are added to those that stand before them. -/
theorem run_items (before : List Datum) {ds : List Datum} (takes : phase.TakesValue) (written : Written d)
    (others : ∀ d ∈ ds, Written d) (rest : List Char) :
    run ⟨phase, .list before :: frames⟩ (tokens .stepwise (writeItems (d :: ds) ++ ']' :: rest)) =
      run (place (.list (before.reverse ++ d :: ds)) frames) (tokens .stepwise rest) := by
  -- On the items still to come; the machine holds the others in reverse.
  induction ds generalizing d before phase with
  | nil =>
    rw [writeItems_singleton, written _ _ _ takes (ends_cons (by decide) rest),
      tokens_punctuation rfl (t := .closeList) rfl, ← List.reverse_cons]
    exact run_cons rfl _
  | cons d' ds inductionHypothesis =>
    obtain ⟨written', others⟩ := List.forall_mem_cons.mp others
    rw [writeItems_cons_cons, List.append_assoc, List.cons_append,
      written _ _ _ takes (ends_cons (by decide) _), tokens_punctuation rfl (t := .comma) rfl]
    have next := inductionHypothesis (d :: before) (.inl rfl) written' others
    rw [List.reverse_cons, List.append_assoc, List.singleton_append] at next
    exact (run_cons rfl _).trans next

theorem written_list {ds : List Datum} (written : ∀ d ∈ ds, Written d) : Written (.list ds) := by
  intro phase frames rest takes _
  rw [write_list, List.cons_append, tokens_punctuation rfl (t := .openList) rfl,
    run_value takes Token.noConfusion rfl, List.append_assoc]
  cases ds with
  | nil =>
    have nothing : writeItems [] = [] := rfl
    rw [nothing, List.nil_append, List.singleton_append,
      tokens_punctuation rfl (t := .closeList) rfl]
    rfl
  | cons d ds =>
    obtain ⟨written, others⟩ := List.forall_mem_cons.mp written
    exact run_items [] (.inr rfl) written others rest

/-! ## Records -/

/-- A name may come next, after some members. -/
def Phase.TakesName (phase : Phase) (before : List (Option String × Datum)) : Prop :=
  phase = .firstName ∧ before = [] ∨ phase = .name before

theorem run_name {before : List (Option String × Datum)} (takes : phase.TakesName before)
    (name : Option String) (ts : List Token) :
    run ⟨phase, frames⟩ (.string name :: ts) = run ⟨.colon before name, frames⟩ ts := by
  rcases takes with ⟨rfl, rfl⟩ | rfl <;> rfl

theorem run_member {before : List (Option String × Datum)} (takes : phase.TakesName before)
    (name : String) (written : Written d) (ends : Ends rest) :
    run ⟨phase, frames⟩ (tokens .stepwise (writeMember (some name, d) ++ rest)) =
      run ⟨.inRecord ((some name, d) :: before), frames⟩ (tokens .stepwise rest) := by
  rw [writeMember_some, List.append_assoc, tokens_writeString, run_name takes,
    List.cons_append, tokens_punctuation rfl (t := .colon) rfl]
  exact written .value (.record before (some name) :: frames) rest (.inl rfl) ends

theorem run_members (before : List (Option String × Datum)) {m : String × Datum}
    {ms : List (String × Datum)} (takes : phase.TakesName before) (written : Written m.2)
    (others : ∀ m ∈ ms, Written m.2) (rest : List Char) :
    run ⟨phase, frames⟩ (tokens .stepwise
        (writeMembers ((m :: ms).map fun m => (some m.1, m.2)) ++ '}' :: rest)) =
      run (place (.record (before.reverse ++ (m :: ms).map fun m => (some m.1, m.2))) frames)
        (tokens .stepwise rest) := by
  induction ms generalizing m before phase with
  | nil =>
    rw [List.map_singleton, writeMembers_singleton,
      run_member takes m.1 written (ends_cons (by decide) rest),
      tokens_punctuation rfl (t := .closeRecord) rfl, ← List.reverse_cons]
    exact run_cons rfl _
  | cons m' ms inductionHypothesis =>
    obtain ⟨written', others⟩ := List.forall_mem_cons.mp others
    have next := inductionHypothesis ((some m.1, m.2) :: before) (.inr rfl) written' others
    rw [List.reverse_cons, List.append_assoc, List.singleton_append] at next
    rw [List.map_cons, List.map_cons, writeMembers_cons_cons, List.append_assoc, List.cons_append,
      run_member takes m.1 written (ends_cons (by decide) _),
      tokens_punctuation rfl (t := .comma) rfl]
    exact next

theorem written_ofMembers {ms : List (String × Datum)} (written : ∀ m ∈ ms, Written m.2) :
    Written (.ofMembers ms) := by
  intro phase frames rest takes _
  rw [Datum.ofMembers, write_record, List.cons_append, tokens_punctuation rfl (t := .openRecord) rfl,
    run_value takes Token.noConfusion rfl, List.append_assoc]
  cases ms with
  | nil =>
    have nothing : writeMembers [] = [] := rfl
    rw [List.map_nil, nothing, List.nil_append, List.singleton_append,
      tokens_punctuation rfl (t := .closeRecord) rfl]
    rfl
  | cons m ms =>
    obtain ⟨written, others⟩ := List.forall_mem_cons.mp written
    exact run_members [] (.inl ⟨rfl, rfl⟩) written others rest

end Json

end Compositor
