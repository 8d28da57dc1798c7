import Compositor.Text.Blank
import Mathlib.Data.List.Basic
import Mathlib.Data.List.TakeWhile

/-! # Lines and columns

`Text.lines` and `Text.columns` cut a text by walking through it with what was read so far.  Here
both are tied to what a reader of the text sees: a line is what stands between line feeds, with one
carriage return taken off its end (`Text.HasLine`), and a column is a word between blanks
(`Text.HasColumns`).

A text is taken apart at its first line feed (`Text.lines_induction`), and a line at its first word
(`Text.columns_eq_cons`).
-/

namespace Compositor.Text

/-! ## Lines -/

/-- The line without the carriage return at its end, if it has one there. -/
def withoutReturn (cs : List Char) : List Char :=
  match cs.reverse with
  | '\r' :: before => before.reverse
  | _ => cs

/-- The second text is a line of the first one: all of it if it has no line feed, or what stands
    before the first line feed, without a carriage return right there, or a line of the rest. -/
inductive HasLine : List Char → List Char → Prop where
  | last {line : List Char} (some : line ≠ []) (plain : '\n' ∉ line) : HasLine line line
  | fed {line rest : List Char} (plain : '\n' ∉ line) (bare : line.getLast? ≠ some '\r') :
      HasLine (line ++ '\n' :: rest) line
  | returned {line rest : List Char} (plain : '\n' ∉ line) :
      HasLine (line ++ '\r' :: '\n' :: rest) line
  | later {first rest line : List Char} (plain : '\n' ∉ first) (behind : HasLine rest line) :
      HasLine (first ++ '\n' :: rest) line

/-- A text without a line feed, or a first line and what comes behind it. -/
theorem lines_induction {motive : List Char → Prop}
    (last : ∀ cs, '\n' ∉ cs → motive cs)
    (more : ∀ first rest, '\n' ∉ first → motive rest → motive (first ++ '\n' :: rest))
    (text : List Char) : motive text := by
  by_cases fed : '\n' ∈ text
  · obtain ⟨first, rest, split, plain⟩ := List.eq_append_cons_of_mem fed
    have shorter : rest.length < text.length := by
      rw [split, List.length_append, List.length_cons]
      omega
    rw [split]
    exact more first rest plain (lines_induction last more rest)
  · exact last text fed
termination_by text.length

theorem linesFrom_append {cs : List Char} (plain : '\n' ∉ cs) (line rest : List Char) :
    linesFrom line (cs ++ rest) = linesFrom (cs.reverse ++ line) rest := by
  induction cs generalizing line with
  | nil => rfl
  | cons c cs ih =>
    obtain ⟨other, plain⟩ := not_or.mp (List.mem_cons.not.mp plain)
    rw [List.cons_append, linesFrom, ih plain, List.reverse_cons, List.append_assoc]
    · rfl
    · exact fun equal => other equal.symm

theorem lines_last {cs : List Char} (plain : '\n' ∉ cs) :
    lines cs = if cs = [] then [] else [cs] := by
  have walked := linesFrom_append plain [] []
  rw [List.append_nil, List.append_nil] at walked
  rw [lines, walked, linesFrom, List.reverse_reverse]
  simp only [List.isEmpty_iff, List.reverse_eq_nil_iff]

theorem lines_more {first : List Char} (plain : '\n' ∉ first) (rest : List Char) :
    lines (first ++ '\n' :: rest) = withoutReturn first :: lines rest := by
  have ended : linesFrom first.reverse ('\n' :: rest) =
      (match first.reverse with
        | '\r' :: before => before.reverse
        | _ => first.reverse.reverse) :: lines rest := rfl
  rw [lines, linesFrom_append plain, List.append_nil, ended, List.reverse_reverse]
  rfl

theorem withoutReturn_cases (cs : List Char) :
    (cs = withoutReturn cs ∧ cs.getLast? ≠ some '\r') ∨ cs = withoutReturn cs ++ ['\r'] := by
  rcases List.eq_nil_or_concat' cs with rfl | ⟨before, c, rfl⟩
  · exact .inl ⟨rfl, nofun⟩
  · by_cases returned : c = '\r'
    · subst returned
      exact .inr (by simp [withoutReturn])
    · refine .inl ⟨?_, by simpa using returned⟩
      rw [withoutReturn, List.reverse_concat]
      split
      · next equal => exact absurd (List.cons.inj equal).1 returned
      · rfl

/-- There is one way to take a text apart at its first line feed. -/
theorem lineFeed_inj {xs ys xs' ys' : List Char} (plain : '\n' ∉ xs) (plain' : '\n' ∉ xs')
    (same : xs ++ '\n' :: ys = xs' ++ '\n' :: ys') : xs = xs' ∧ ys = ys' := by
  have front : ∀ zs zs' : List Char, '\n' ∉ zs →
      (zs ++ '\n' :: zs').takeWhile (· ≠ '\n') = zs := by
    intro zs zs' plain
    rw [List.takeWhile_append_of_pos]
    · simp
    · exact fun c mem => by simpa using fun equal : c = '\n' => plain (equal ▸ mem)
  have first : xs = xs' := by rw [← front xs ys plain, same, front xs' ys' plain']
  subst first
  exact ⟨rfl, (List.cons.inj (List.append_cancel_left same)).2⟩

theorem hasLine_more {first rest line : List Char} (plain : '\n' ∉ first) :
    HasLine (first ++ '\n' :: rest) line ↔ line = withoutReturn first ∨ HasLine rest line := by
  constructor
  · generalize whole : first ++ '\n' :: rest = text
    intro has
    cases has with
    | last _ plain' =>
      rw [← whole] at plain'
      exact absurd (List.mem_append_right _ List.mem_cons_self) plain'
    | fed plain' bare =>
      obtain ⟨rfl, rfl⟩ := lineFeed_inj plain plain' whole
      rcases withoutReturn_cases first with ⟨same, -⟩ | returned
      · exact .inl same
      · exact absurd (by rw [returned]; simp) bare
    | @returned line rest' plain' =>
      have split : first ++ '\n' :: rest = (line ++ ['\r']) ++ '\n' :: rest' := by simpa using whole
      obtain ⟨rfl, rfl⟩ := lineFeed_inj plain (by simpa using plain') split
      exact .inl (by simp [withoutReturn])
    | later plain' behind =>
      obtain ⟨rfl, rfl⟩ := lineFeed_inj plain plain' whole
      exact .inr behind
  · rintro (rfl | behind)
    · rcases withoutReturn_cases first with ⟨same, bare⟩ | returned
      · rw [← same]
        exact .fed plain bare
      · have plain' : '\n' ∉ withoutReturn first := fun mem =>
          plain (returned ▸ List.mem_append_left _ mem)
        have has : HasLine (withoutReturn first ++ '\r' :: '\n' :: rest) (withoutReturn first) :=
          .returned plain'
        rwa [List.append_cons, ← returned] at has
    · exact .later plain behind

/-- The cut finds exactly the lines of a text. -/
theorem mem_lines {text line : List Char} : line ∈ lines text ↔ HasLine text line := by
  induction text using lines_induction with
  | last cs plain =>
    rw [lines_last plain]
    constructor
    · split
      · exact fun mem => absurd mem List.not_mem_nil
      · next some =>
        intro mem
        rw [List.mem_singleton.mp mem]
        exact .last some plain
    · intro has
      cases has with
      | last some _ => rw [if_neg some]; exact List.mem_singleton_self _
      | fed => simp at plain
      | returned => simp at plain
      | later => simp at plain
  | more first rest plain ih => rw [lines_more plain, List.mem_cons, hasLine_more plain, ih]

/-! ## Columns -/

/-- A word: some characters, none of them blank. -/
def IsWord (cs : List Char) : Prop := cs ≠ [] ∧ ∀ c ∈ cs, isBlank c = false

/-- The line begins with two columns: two words with blanks between them, maybe with blanks in
    front, and with nothing or a blank behind them. -/
def HasColumns (line first second : List Char) : Prop :=
  ∃ front gap rest, line = front ++ first ++ gap ++ second ++ rest ∧
    (∀ c ∈ front, isBlank c = true) ∧ IsWord first ∧
    gap ≠ [] ∧ (∀ c ∈ gap, isBlank c = true) ∧ IsWord second ∧
    ∀ c ∈ rest.head?, isBlank c = true

theorem columnsFrom_append {cs : List Char} (word : ∀ c ∈ cs, isBlank c = false)
    (piece rest : List Char) :
    columnsFrom piece (cs ++ rest) = columnsFrom (cs.reverse ++ piece) rest := by
  induction cs generalizing piece with
  | nil => rfl
  | cons c cs ih =>
    obtain ⟨here, word⟩ := List.forall_mem_cons.mp word
    rw [List.cons_append, columnsFrom, if_neg (by simp [here]), ih word, List.reverse_cons,
      List.append_assoc]
    rfl

/-- Blanks in front of a line do not matter. -/
theorem columns_append {front : List Char} (blank : ∀ c ∈ front, isBlank c = true)
    (rest : List Char) : columns (front ++ rest) = columns rest := by
  induction front with
  | nil => rfl
  | cons c front ih =>
    obtain ⟨here, blank⟩ := List.forall_mem_cons.mp blank
    rw [← ih blank, columns, columns, List.cons_append, columnsFrom, if_pos here]
    rfl

theorem columns_word {word : List Char} (isWord : IsWord word) {rest : List Char}
    (ends : ∀ c ∈ rest.head?, isBlank c = true) : columns (word ++ rest) = word :: columns rest := by
  have piece : ¬ word.reverse.isEmpty = true := by simpa using isWord.1
  rw [columns, columnsFrom_append isWord.2, List.append_nil]
  cases rest with
  | nil => rw [columnsFrom, if_neg piece, List.reverse_reverse]; rfl
  | cons c rest =>
    have blank : isBlank c = true := ends c rfl
    rw [columnsFrom, if_pos blank, if_neg piece, List.reverse_reverse, columns, columnsFrom,
      if_pos blank]
    rfl

/-- A blank at the end of a line does not matter. -/
theorem columns_concat (cs : List Char) {c : Char} (blank : isBlank c = true) :
    columns (cs ++ [c]) = columns cs := by
  have any : ∀ piece, columnsFrom piece (cs ++ [c]) = columnsFrom piece cs := by
    induction cs with
    | nil =>
      intro piece
      simp only [List.nil_append, columnsFrom, blank, if_true, List.isEmpty_nil]
    | cons d cs ih => intro piece; simp only [List.cons_append, columnsFrom, ih]
  exact any []

/-- The first column of a line is its first word, and the others are those of the rest. -/
theorem columns_eq_cons {line word : List Char} {words : List (List Char)}
    (cut : columns line = word :: words) :
    ∃ front rest, line = front ++ word ++ rest ∧ (∀ c ∈ front, isBlank c = true) ∧ IsWord word ∧
      (∀ c ∈ rest.head?, isBlank c = true) ∧ columns rest = words := by
  let front := line.takeWhile isBlank
  let behind := line.dropWhile isBlank
  let first := behind.takeWhile fun c => !isBlank c
  let rest := behind.dropWhile fun c => !isBlank c
  have split : line = front ++ (first ++ rest) := by
    rw [List.takeWhile_append_dropWhile, List.takeWhile_append_dropWhile]
  have blank : ∀ c ∈ front, isBlank c = true := fun c mem => List.mem_takeWhile_imp mem
  have ends : ∀ c ∈ rest.head?, isBlank c = true := by
    intro c mem
    have stopped := List.head?_dropWhile_not (fun c => !isBlank c) behind
    rw [Option.mem_def.mp mem] at stopped
    simpa using stopped
  rw [split, columns_append blank] at cut
  have isWord : IsWord first := by
    refine ⟨fun nothing => ?_, fun c mem => by simpa using List.mem_takeWhile_imp mem⟩
    -- Behind the blanks there is no blank, so without a word there is nothing at all.
    cases left : behind with
    | nil =>
      simp only [first, rest, left, List.takeWhile_nil, List.dropWhile_nil] at cut
      cases cut
    | cons c others =>
      have stopped := List.head?_dropWhile_not isBlank line
      have here : isBlank c = false := by simpa [behind, left] using stopped
      simp [first, left, here] at nothing
  rw [columns_word isWord ends] at cut
  obtain ⟨rfl, rfl⟩ := List.cons.inj cut
  exact ⟨front, rest, by rw [List.append_assoc]; exact split, blank, isWord, ends, rfl⟩

/-- The cut finds exactly the first two columns of a line. -/
theorem columns_eq_cons_cons {line first second : List Char} :
    (∃ others, columns line = first :: second :: others) ↔ HasColumns line first second := by
  constructor
  · rintro ⟨others, cut⟩
    obtain ⟨front, behind, rfl, blank, isFirst, between, cut⟩ := columns_eq_cons cut
    obtain ⟨gap, rest, rfl, blank', isSecond, ends, -⟩ := columns_eq_cons cut
    refine ⟨front, gap, rest, by simp, blank, isFirst, ?_, blank', isSecond, ends⟩
    -- Without a gap the second word would begin with a blank.
    rintro rfl
    obtain ⟨c, cs, rfl⟩ := List.exists_cons_of_ne_nil isSecond.1
    have here : isBlank c = true := between c rfl
    rw [isSecond.2 c List.mem_cons_self] at here
    cases here
  · rintro ⟨front, gap, rest, rfl, blank, isFirst, some, blank', isSecond, ends⟩
    have between : ∀ c ∈ (gap ++ (second ++ rest)).head?, isBlank c = true := by
      obtain ⟨c, gap, rfl⟩ := List.exists_cons_of_ne_nil some
      rintro _ ⟨⟩
      exact blank' c List.mem_cons_self
    refine ⟨columns rest, ?_⟩
    rw [List.append_assoc, List.append_assoc, List.append_assoc, columns_append blank,
      columns_word isFirst between, columns_append blank', columns_word isSecond ends]

end Compositor.Text
