import Compositor.Filter.Graph

/-! # Reading filter programs

The engine takes a filter program apart at the characters `;`, `[` and `]`, unless they are
protected: between quotes everything is, and elsewhere a backslash protects the character
behind it.  `readProgram` does only this.  It knows nothing of filters and their options, and
gives back what stands before, between and behind the brackets of each filter.

A text is `Calm` if a reader that comes to it in one state leaves it in another and meets no
bare `;`, `[` or `]` on the way.  A graph whose filters are calm is what its program is read
as (`Graph.readProgram_program`), however much of the filters comes from strangers.
-/

namespace Compositor

/-! ## Protected characters -/

/-- Where a reader stands. -/
inductive Quoting where
  | outside
  /-- Behind a backslash outside quotes. -/
  | escaped
  | inside
deriving DecidableEq

namespace Quoting

def next : Quoting → Char → Quoting
  | outside, c => if c = '\'' then inside else if c = '\\' then escaped else outside
  | escaped, _ => outside
  | inside, c => if c = '\'' then outside else inside

/-- Where a reader stands after some characters. -/
def final (q : Quoting) (cs : List Char) : Quoting := cs.foldl next q

end Quoting

/-- A character of a program, which is bare if nothing protects it. -/
structure Glyph where
  char : Char
  bare : Bool
deriving DecidableEq

namespace Glyph

def is (g : Glyph) (c : Char) : Bool := g.bare && g.char == c

/-- The character takes the program apart. -/
def isMark (g : Glyph) : Bool := g.is ';' || g.is '[' || g.is ']'

end Glyph

/-- The characters of a text for a reader that comes to it in the given state. -/
def glyphs (q : Quoting) : List Char → List Glyph
  | [] => []
  | c :: cs => ⟨c, q == .outside⟩ :: glyphs (q.next c) cs

theorem glyphs_append (q : Quoting) (first second : List Char) :
    glyphs q (first ++ second) = glyphs q first ++ glyphs (q.final first) second := by
  induction first generalizing q with
  | nil => rfl
  | cons c first ih => exact congrArg (_ :: ·) (ih (q.next c))

theorem map_char_glyphs (q : Quoting) (cs : List Char) : (glyphs q cs).map Glyph.char = cs := by
  induction cs generalizing q with
  | nil => rfl
  | cons c cs ih => simp only [glyphs, List.map_cons, ih]

/-! ## Calm texts -/

/-- The text leads a reader from one state to another, and has no bare mark. -/
structure Calm (q : Quoting) (cs : List Char) (r : Quoting) : Prop where
  final : q.final cs = r
  unmarked : ∀ g ∈ glyphs q cs, g.isMark = false

instance (q : Quoting) (cs : List Char) (r : Quoting) : Decidable (Calm q cs r) :=
  decidable_of_iff (q.final cs = r ∧ ∀ g ∈ glyphs q cs, g.isMark = false)
    ⟨fun calm => ⟨calm.1, calm.2⟩, fun calm => ⟨calm.final, calm.unmarked⟩⟩

namespace Calm

variable {q r s : Quoting} {cs ds : List Char}

theorem nil (q : Quoting) : Calm q [] q := ⟨rfl, by simp [glyphs]⟩

theorem append (first : Calm q cs r) (second : Calm r ds s) : Calm q (cs ++ ds) s where
  final := by
    rw [Quoting.final, List.foldl_append]
    exact (congrArg (List.foldl Quoting.next · ds) first.final).trans second.final
  unmarked := by
    rw [glyphs_append, first.final]
    intro g mem
    rcases List.mem_append.mp mem with mem | mem
    · exact first.unmarked g mem
    · exact second.unmarked g mem

theorem flatMap {α : Type} {xs : List α} {f : α → List Char} (parts : ∀ x ∈ xs, Calm q (f x) q) :
    Calm q (xs.flatMap f) q := by
  induction xs with
  | nil => exact nil q
  | cons x xs ih =>
    rw [List.flatMap_cons]
    exact (parts x (by simp)).append (ih fun y mem => parts y (by simp [mem]))

theorem intercalate {separator : List Char} {parts : List (List Char)}
    (between : Calm q separator q) (calm : ∀ part ∈ parts, Calm q part q) :
    Calm q (separator.intercalate parts) q := by
  induction parts with
  | nil => exact nil q
  | cons part parts ih =>
    have first := calm part (by simp)
    have rest := ih fun other mem => calm other (by simp [mem])
    cases parts with
    | nil => simpa using first
    | cons next parts =>
      rw [List.intercalate_cons_cons]
      exact (first.append between).append rest

end Calm

/-- The character has no meaning to a reader, in quotes or outside. -/
def isInert (c : Char) : Bool :=
  c != '\'' && c != '\\' && c != ';' && c != '[' && c != ']'

theorem calm_of_inert {q : Quoting} {cs : List Char} (stays : q = .outside ∨ q = .inside)
    (inert : ∀ c ∈ cs, isInert c = true) : Calm q cs q := by
  induction cs with
  | nil => exact .nil q
  | cons c cs ih =>
    have rest := ih fun d mem => inert d (by simp [mem])
    have ordinary := inert c (by simp)
    simp only [isInert, Bool.and_eq_true, bne_iff_ne] at ordinary
    have same : q.next c = q := by rcases stays with rfl | rfl <;> simp [Quoting.next, ordinary]
    constructor
    · rw [Quoting.final, List.foldl_cons, same]
      exact rest.final
    · rw [glyphs, same]
      intro g mem
      rcases List.mem_cons.mp mem with rfl | mem
      · simp [Glyph.isMark, Glyph.is, ordinary]
      · exact rest.unmarked g mem

/-! ## The reader -/

/-- A filter as it is written in a program. -/
structure Clause where
  inputs : List Pad
  filter : String
  output : Label
deriving DecidableEq

/-- What is written between brackets before a filter: the number of an input and the letter of
    a stream, or a label. -/
def Pad.ofChars (cs : List Char) : Pad :=
  let number := cs.takeWhile Char.isDigit
  if number.isEmpty then .label ⟨String.ofList cs⟩
  else if cs.drop number.length = [':', 'v'] then .stream (Nat.ofDigitChars 10 number 0) .video
  else if cs.drop number.length = [':', 'a'] then .stream (Nat.ofDigitChars 10 number 0) .audio
  else .label ⟨String.ofList cs⟩

/-- The groups in brackets at the start of a piece, and what follows them.  The first argument
    is what has been read of a group that is still open. -/
def leadingGroups : Option (List Char) → List Glyph → Option (List (List Char) × List Glyph)
  | none, [] => some ([], [])
  | some _, [] => none
  | none, g :: rest => if g.is '[' then leadingGroups (some []) rest else some ([], g :: rest)
  | some name, g :: rest =>
    if g.is ']' then (leadingGroups none rest).map fun found => (name :: found.1, found.2)
    else leadingGroups (some (name ++ [g.char])) rest

/-- What stands before the group in brackets at the end of a piece, and that group. -/
def trailingGroup (piece : List Glyph) : Option (List Char × List Char) :=
  match piece.reverse with
  | [] => none
  | g :: rest =>
    if g.is ']' then
      match rest.dropWhile fun g => !g.is '[' with
      | [] => none
      | _ :: before =>
        some (before.reverse.map Glyph.char,
          (rest.takeWhile fun g => !g.is '[').reverse.map Glyph.char)
    else none

def readClause (piece : List Glyph) : Option Clause :=
  (leadingGroups none piece).bind fun found =>
    (trailingGroup found.2).map fun body =>
      ⟨found.1.map Pad.ofChars, String.ofList body.1, ⟨String.ofList body.2⟩⟩

/-- The filters of a program, in order. -/
def readProgram (program : String) : Option (List Clause) :=
  ((glyphs .outside program.toList).splitOnP fun g => g.is ';').mapM readClause

def Node.clause (node : Node) : Clause := ⟨node.inputs, node.filter, node.output⟩

/-! ## Pads -/

/-- The label consists of letters and digits and does not begin with a digit. -/
structure Label.IsWord (label : Label) : Prop where
  alphanumeric : ∀ c ∈ label.name.toList, c.isAlphanum = true
  begins : ∀ c ∈ label.name.toList.head?, c.isDigit = false

theorem isInert_of_isAlphanum {c : Char} (word : c.isAlphanum = true) : isInert c = true := by
  simp only [isInert, Bool.and_eq_true, bne_iff_ne]
  refine ⟨⟨⟨⟨?_, ?_⟩, ?_⟩, ?_⟩, ?_⟩ <;> rintro rfl <;> revert word <;> decide

/-- What is written between the brackets of a pad. -/
def Pad.chars : Pad → List Char
  | .stream input .video => Nat.toDigits 10 input ++ [':', 'v']
  | .stream input .audio => Nat.toDigits 10 input ++ [':', 'a']
  | .label l => l.name.toList

def Pad.IsWord : Pad → Prop
  | .stream _ _ => True
  | .label l => l.IsWord

namespace Pad

theorem toList_text (pad : Pad) : pad.text.toList = '[' :: (pad.chars ++ [']']) := by
  cases pad with
  | stream input kind => cases kind <;> simp [text, chars] <;> rfl
  | label l => simp [text, chars, Label.text]

theorem isInert_of_mem_chars {pad : Pad} (word : pad.IsWord) {c : Char} (mem : c ∈ pad.chars) :
    isInert c = true := by
  cases pad with
  | stream input kind =>
    have number : ∀ c ∈ Nat.toDigits 10 input, isInert c = true := by
      intro c mem
      have digit := Nat.isDigit_of_mem_toDigits (by decide) (by decide) mem
      exact isInert_of_isAlphanum (by simp [Char.isAlphanum, digit])
    cases kind <;>
    · simp only [chars, List.mem_append, List.mem_cons, List.not_mem_nil, or_false] at mem
      rcases mem with mem | rfl | rfl
      · exact number c mem
      · decide
      · decide
  | label l => exact isInert_of_isAlphanum (word.alphanumeric c mem)

theorem takeWhile_toDigits (input : Nat) (rest : List Char) :
    (Nat.toDigits 10 input ++ ':' :: rest).takeWhile Char.isDigit = Nat.toDigits 10 input := by
  rw [List.takeWhile_append_of_pos]
  · simp
  · exact fun c mem => Nat.isDigit_of_mem_toDigits (by decide) (by decide) mem

theorem ofChars_chars {pad : Pad} (word : pad.IsWord) : ofChars pad.chars = pad := by
  cases pad with
  | stream input kind =>
    have written : (Nat.toDigits 10 input).isEmpty = false := by
      simp [Nat.toDigits_ne_nil]
    cases kind <;>
      simp [ofChars, chars, takeWhile_toDigits, written, Nat.ofDigitChars_ten_toDigits]
  | label l =>
    have letters : l.name.toList.takeWhile Char.isDigit = [] := by
      cases chars : l.name.toList with
      | nil => rfl
      | cons c cs =>
        have letter := word.begins c (by rw [chars]; rfl)
        rw [List.takeWhile_cons_of_neg (by simp [letter])]
    simp [ofChars, chars, letters]

end Pad

/-! ## Filters -/

/-- The filter of the node is not empty and calm, and all its labels are words. -/
structure Node.IsClear (node : Node) : Prop where
  inputs : ∀ pad ∈ node.inputs, pad.IsWord
  filter : node.filter ≠ ""
  calm : Calm .outside node.filter.toList .outside
  output : node.output.IsWord

/-- A character that nothing protects. -/
def Glyph.ofChar (c : Char) : Glyph := ⟨c, true⟩

theorem glyphs_of_inert {cs : List Char} (inert : ∀ c ∈ cs, isInert c = true) :
    glyphs .outside cs = cs.map Glyph.ofChar := by
  induction cs with
  | nil => rfl
  | cons c cs ih =>
    have ordinary := inert c (by simp)
    simp only [isInert, Bool.and_eq_true, bne_iff_ne] at ordinary
    have same : Quoting.next .outside c = .outside := by simp [Quoting.next, ordinary]
    rw [glyphs, same, ih fun d mem => inert d (by simp [mem]), List.map_cons]
    rfl

/-- The characters of a group in brackets. -/
def group (name : List Char) : List Glyph :=
  Glyph.ofChar '[' :: (name.map Glyph.ofChar ++ [Glyph.ofChar ']'])

/-- Brackets and what stands between them are bare, and the reader is outside quotes behind
    them. -/
theorem glyphs_brackets {name : List Char} (inert : ∀ c ∈ name, isInert c = true)
    (rest : List Char) :
    glyphs .outside ('[' :: (name ++ [']']) ++ rest) = group name ++ glyphs .outside rest := by
  have still : Quoting.final .outside name = .outside := (calm_of_inert (.inl rfl) inert).final
  have opened : Quoting.next .outside '[' = .outside := rfl
  rw [List.cons_append, glyphs, opened, List.append_assoc, glyphs_append, still,
    glyphs_of_inert inert]
  simp [group, glyphs, Glyph.ofChar, Quoting.next]

theorem leadingGroups_some (read : List Char) {name : List Char}
    (inert : ∀ c ∈ name, isInert c = true) (rest : List Glyph) :
    leadingGroups (some read) (name.map Glyph.ofChar ++ Glyph.ofChar ']' :: rest) =
      (leadingGroups none rest).map fun found => ((read ++ name) :: found.1, found.2) := by
  induction name generalizing read with
  | nil => simp [leadingGroups, Glyph.is, Glyph.ofChar]
  | cons c name ih =>
    have ordinary := inert c (by simp)
    simp only [isInert, Bool.and_eq_true, bne_iff_ne] at ordinary
    rw [List.map_cons, List.cons_append, leadingGroups, if_neg (by simp [Glyph.is, Glyph.ofChar, ordinary]),
      ih _ fun d mem => inert d (by simp [mem]), List.append_assoc]
    rfl

theorem leadingGroups_group {name : List Char} (inert : ∀ c ∈ name, isInert c = true)
    (rest : List Glyph) :
    leadingGroups none (group name ++ rest) =
      (leadingGroups none rest).map fun found => (name :: found.1, found.2) := by
  rw [group, List.cons_append, leadingGroups, if_pos (by decide), List.append_assoc,
    List.singleton_append, leadingGroups_some [] inert rest]
  rfl

theorem leadingGroups_flatMap {pads : List Pad} (words : ∀ pad ∈ pads, pad.IsWord)
    {rest : List Glyph} (body : leadingGroups none rest = some ([], rest)) :
    leadingGroups none (pads.flatMap (fun pad => group pad.chars) ++ rest) =
      some (pads.map Pad.chars, rest) := by
  induction pads with
  | nil => exact body
  | cons pad pads ih =>
    rw [List.flatMap_cons, List.append_assoc,
      leadingGroups_group fun c mem => Pad.isInert_of_mem_chars (words pad (by simp)) mem,
      ih fun other mem => words other (by simp [mem])]
    rfl

theorem trailingGroup_group (body : List Glyph) {name : List Char}
    (inert : ∀ c ∈ name, isInert c = true) :
    trailingGroup (body ++ group name) = some (body.map Glyph.char, name) := by
  have unopened : ∀ g ∈ (name.map Glyph.ofChar).reverse, (!g.is '[') = true := by
    intro g mem
    obtain ⟨c, memName, rfl⟩ := List.mem_map.mp (List.mem_reverse.mp mem)
    have ordinary := inert c memName
    simp only [isInert, Bool.and_eq_true, bne_iff_ne] at ordinary
    simp [Glyph.is, Glyph.ofChar, ordinary]
  have reversed : (body ++ group name).reverse =
      Glyph.ofChar ']' :: ((name.map Glyph.ofChar).reverse ++ Glyph.ofChar '[' :: body.reverse) := by
    simp [group]
  have opening : (!(Glyph.ofChar '[').is '[') = false := by decide
  rw [trailingGroup, reversed]
  dsimp only
  rw [if_pos (by decide), List.dropWhile_append_of_pos unopened,
    List.takeWhile_append_of_pos unopened, List.dropWhile_cons_of_neg (by simp [opening]),
    List.takeWhile_cons_of_neg (by simp [opening])]
  simp [Glyph.ofChar, Function.comp_def]

/-- The characters of a filter as they are read. -/
def Node.glyphs (node : Node) : List Glyph :=
  node.inputs.flatMap (fun pad => group pad.chars)
    ++ (Compositor.glyphs .outside node.filter.toList ++ group node.output.name.toList)

namespace Node.IsClear

variable {node : Node}

theorem isInert_of_mem_input (clear : node.IsClear) {pad : Pad} (input : pad ∈ node.inputs) :
    ∀ c ∈ pad.chars, isInert c = true :=
  fun _ mem => Pad.isInert_of_mem_chars (clear.inputs pad input) mem

theorem isInert_of_mem_output (clear : node.IsClear) :
    ∀ c ∈ node.output.name.toList, isInert c = true :=
  fun c mem => isInert_of_isAlphanum (clear.output.alphanumeric c mem)

/-- A reader that comes to a filter outside quotes is outside quotes behind it. -/
theorem glyphs_text (clear : node.IsClear) (rest : List Char) :
    Compositor.glyphs .outside (node.text.toList ++ rest) =
      node.glyphs ++ Compositor.glyphs .outside rest := by
  have pads : ∀ {pads : List Pad}, (∀ pad ∈ pads, pad.IsWord) → ∀ after : List Char,
      Compositor.glyphs .outside (pads.flatMap (fun pad => pad.text.toList) ++ after) =
        pads.flatMap (fun pad => group pad.chars) ++ Compositor.glyphs .outside after := by
    intro pads words after
    induction pads with
    | nil => rfl
    | cons pad pads ih =>
      rw [List.flatMap_cons, List.append_assoc, Pad.toList_text,
        glyphs_brackets fun c mem => Pad.isInert_of_mem_chars (words pad (by simp)) mem,
        ih fun other mem => words other (by simp [mem]), List.flatMap_cons, List.append_assoc]
  have split : node.text.toList ++ rest = node.inputs.flatMap (fun pad => pad.text.toList)
      ++ (node.filter.toList ++ ('[' :: (node.output.name.toList ++ [']']) ++ rest)) := by
    simp [Node.text, Label.text, String.toList_join, List.flatMap_map]
  rw [split, pads clear.inputs, glyphs_append, clear.calm.final,
    glyphs_brackets clear.isInert_of_mem_output, Node.glyphs]
  simp only [List.append_assoc]

theorem readClause_glyphs (clear : node.IsClear) : readClause node.glyphs = some node.clause := by
  -- The filter is not empty and does not begin with a bare bracket, so the pads end before it.
  have body : leadingGroups none
      (Compositor.glyphs .outside node.filter.toList ++ group node.output.name.toList) =
      some ([], Compositor.glyphs .outside node.filter.toList ++ group node.output.name.toList) := by
    cases chars : node.filter.toList with
    | nil => exact absurd (String.toList_eq_nil_iff.mp chars) clear.filter
    | cons c cs =>
      have unmarked := clear.calm.unmarked
      rw [chars] at unmarked
      have plain := unmarked _ List.mem_cons_self
      simp only [Glyph.isMark, Bool.or_eq_false_iff] at plain
      rw [Compositor.glyphs, List.cons_append, leadingGroups, plain.1.2]
      rfl
  have pads : node.inputs.map (Pad.ofChars ∘ Pad.chars) = node.inputs := by
    conv => rhs; rw [← List.map_id node.inputs]
    exact List.map_congr_left fun pad mem => Pad.ofChars_chars (clear.inputs pad mem)
  rw [readClause, Node.glyphs, leadingGroups_flatMap clear.inputs body, Option.bind_some,
    trailingGroup_group _ clear.isInert_of_mem_output, map_char_glyphs]
  simp [Node.clause, pads]

/-- No bare `;` stands in a filter. -/
theorem unsplit (clear : node.IsClear) : ∀ g ∈ node.glyphs, g.is ';' = false := by
  have bracketed : ∀ {name : List Char}, (∀ c ∈ name, isInert c = true) →
      ∀ g ∈ group name, g.is ';' = false := by
    intro name inert g mem
    simp only [group, List.mem_cons, List.mem_append, List.mem_map, List.not_mem_nil,
      or_false] at mem
    rcases mem with rfl | ⟨c, mem, rfl⟩ | rfl
    · decide
    · have ordinary := inert c mem
      simp only [isInert, Bool.and_eq_true, bne_iff_ne] at ordinary
      simp [Glyph.is, Glyph.ofChar, ordinary]
    · decide
  intro g mem
  rw [Node.glyphs] at mem
  rcases List.mem_append.mp mem with mem | mem
  · obtain ⟨pad, input, mem⟩ := List.mem_flatMap.mp mem
    exact bracketed (clear.isInert_of_mem_input input) g mem
  · rcases List.mem_append.mp mem with mem | mem
    · have unmarked := clear.calm.unmarked g mem
      simp only [Glyph.isMark, Bool.or_eq_false_iff] at unmarked
      exact unmarked.1.1
    · exact bracketed clear.isInert_of_mem_output g mem

end Node.IsClear

/-! ## Programs -/

/-- The program of a clear graph is read as its filters, with the same pads, texts and labels,
    in the same order. -/
theorem Graph.readProgram_program {g : Graph} (filled : g.nodes ≠ [])
    (clear : ∀ node ∈ g.nodes, node.IsClear) :
    readProgram g.program = some (g.nodes.map Node.clause) := by
  have pieces : ∀ {nodes : List Node}, nodes ≠ [] → (∀ node ∈ nodes, node.IsClear) →
      (glyphs .outside ([';'].intercalate (nodes.map fun node => node.text.toList))).splitOnP
        (fun g => g.is ';') = nodes.map Node.glyphs := by
    intro nodes filled clear
    induction nodes with
    | nil => exact absurd rfl filled
    | cons node nodes ih =>
      have first := clear node (by simp)
      cases nodes with
      | nil =>
        have text : glyphs .outside node.text.toList = node.glyphs := by
          simpa [glyphs] using first.glyphs_text []
        simp only [List.map_cons, List.map_nil, List.intercalate_singleton, text]
        exact List.splitOnP_eq_singleton first.unsplit
      | cons next nodes =>
        rw [List.map_cons, List.map_cons, List.intercalate_cons_cons, List.append_assoc,
          first.glyphs_text, List.singleton_append, glyphs, List.map_cons]
        rw [show Quoting.next .outside ';' = .outside from rfl,
          List.splitOnP_append_cons_of_forall_mem first.unsplit _ (by decide)]
        rw [← ih (by simp) fun other mem => clear other (by simp [mem]), List.map_cons]
  have clauses : ∀ {nodes : List Node}, (∀ node ∈ nodes, node.IsClear) →
      (nodes.map Node.glyphs).mapM readClause = some (nodes.map Node.clause) := by
    intro nodes clear
    induction nodes with
    | nil => rfl
    | cons node nodes ih =>
      rw [List.map_cons, List.mapM_cons, (clear node (by simp)).readClause_glyphs,
        ih fun other mem => clear other (by simp [mem])]
      rfl
  have text : g.program.toList = [';'].intercalate (g.nodes.map fun node => node.text.toList) := by
    rw [program, String.toList_intercalate, List.map_map]
    rfl
  rw [readProgram, text, pieces filled clear, clauses clear]

end Compositor
