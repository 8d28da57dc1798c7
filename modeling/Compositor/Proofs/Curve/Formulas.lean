import Compositor.Curve.Expression
import Compositor.Proofs.Double.Arithmetic
import Compositor.Proofs.Double.Numerals

/-! # Reading formulas

How the engine reads the text of a formula: sums of products of atoms, both associating to the
left.  The text of an expression is read back as the expression, up to the sign of zero.
-/

namespace Compositor

inductive Formula where
  | number (value : Double)
  | time
  | negate (a : Formula)
  | add (a b : Formula)
  | sub (a b : Formula)
  | mul (a b : Formula)
  | div (a b : Formula)
  /-- One where the first formula is below the second, else zero. -/
  | less (a b : Formula)
  /-- The second formula where the first one is not zero, else the third. -/
  | choose (condition yes no : Formula)

namespace Formula

def eval (t : Double) : Formula → Double
  | number value => value
  | time => t
  | negate a => -a.eval t
  | add a b => a.eval t + b.eval t
  | sub a b => a.eval t - b.eval t
  | mul a b => a.eval t * b.eval t
  | div a b => a.eval t / b.eval t
  | less a b => if (a.eval t).less (b.eval t) then 1 else 0
  | choose condition yes no => if (condition.eval t).isZero then no.eval t else yes.eval t

/-! ## The reader -/

def termOperator? : Char → Option (Formula → Formula → Formula)
  | '+' => some add
  | '-' => some sub
  | _ => none

def factorOperator? : Char → Option (Formula → Formula → Formula)
  | '*' => some mul
  | '/' => some div
  | _ => none

/-- A formula that was read, and what is left of the text. -/
abbrev Reading (P : List Char → Prop) : Type := Option (Formula × { rest : List Char // P rest })

theorem length_lt_name {a b c : Char} {cs rest : List Char} (shorter : rest.length < cs.length) :
    rest.length < (a :: b :: c :: cs).length :=
  Nat.lt_add_right 3 shorter

mutual

def readSum (cs : List Char) : Reading fun rest => rest.length < cs.length := do
  let (a, ⟨rest, shorter⟩) ← readProduct cs
  let (b, ⟨rest', short⟩) ← moreTerms a rest
  return (b, ⟨rest', Nat.lt_of_le_of_lt short shorter⟩)
termination_by (cs.length, 4)

/-- Goes on with a sum that begins with the given formula. -/
def moreTerms (a : Formula) (cs : List Char) : Reading fun rest => rest.length ≤ cs.length :=
  match cs with
  | [] => some (a, ⟨[], Nat.le_refl _⟩)
  | c :: cs =>
    match termOperator? c with
    | none => some (a, ⟨c :: cs, Nat.le_refl _⟩)
    | some op => do
      let (b, ⟨rest, shorter⟩) ← readProduct cs
      let (d, ⟨rest', short⟩) ← moreTerms (op a b) rest
      return (d, ⟨rest', Nat.le_succ_of_le (Nat.le_trans short (Nat.le_of_lt shorter))⟩)
termination_by (cs.length, 0)

def readProduct (cs : List Char) : Reading fun rest => rest.length < cs.length := do
  let (a, ⟨rest, shorter⟩) ← readAtom cs
  let (b, ⟨rest', short⟩) ← moreFactors a rest
  return (b, ⟨rest', Nat.lt_of_le_of_lt short shorter⟩)
termination_by (cs.length, 3)

/-- Goes on with a product that begins with the given formula. -/
def moreFactors (a : Formula) (cs : List Char) : Reading fun rest => rest.length ≤ cs.length :=
  match cs with
  | [] => some (a, ⟨[], Nat.le_refl _⟩)
  | c :: cs =>
    match factorOperator? c with
    | none => some (a, ⟨c :: cs, Nat.le_refl _⟩)
    | some op => do
      let (b, ⟨rest, shorter⟩) ← readAtom cs
      let (d, ⟨rest', short⟩) ← moreFactors (op a b) rest
      return (d, ⟨rest', Nat.le_succ_of_le (Nat.le_trans short (Nat.le_of_lt shorter))⟩)
termination_by (cs.length, 0)

def readAtom (cs : List Char) : Reading fun rest => rest.length < cs.length :=
  match read : Decimal.readFrom cs with
  | some (x, rest) => some (number x.value, ⟨rest, Decimal.length_readFrom read⟩)
  | none => readSymbol cs
termination_by (cs.length, 2)

/-- An atom that begins with a sign, a parenthesis or a name. -/
def readSymbol (cs : List Char) : Reading fun rest => rest.length < cs.length :=
  match cs with
  | 't' :: cs => some (time, ⟨cs, Nat.lt_succ_self _⟩)
  | '-' :: cs => do
    let (a, ⟨rest, shorter⟩) ← readAtom cs
    return (negate a, ⟨rest, Nat.lt_succ_of_lt shorter⟩)
  | '(' :: cs => do
    let (a, ⟨rest, shorter⟩) ← readUpTo ')' cs
    return (a, ⟨rest, Nat.lt_succ_of_lt shorter⟩)
  | 'l' :: 't' :: '(' :: cs => do
    let (a, ⟨rest, shorter⟩) ← readUpTo ',' cs
    let (b, ⟨rest', shorter'⟩) ← readUpTo ')' rest
    return (less a b, ⟨rest', length_lt_name (shorter'.trans shorter)⟩)
  | 'i' :: 'f' :: '(' :: cs => do
    let (condition, ⟨rest, shorter⟩) ← readUpTo ',' cs
    let (yes, ⟨rest', shorter'⟩) ← readUpTo ',' rest
    let (no, ⟨rest'', shorter''⟩) ← readUpTo ')' rest'
    return (choose condition yes no,
      ⟨rest'', length_lt_name (shorter''.trans (shorter'.trans shorter))⟩)
  | _ => none
termination_by (cs.length, 1)

/-- A sum with the given character after it. -/
def readUpTo (stop : Char) (cs : List Char) : Reading fun rest => rest.length < cs.length :=
  match readSum cs with
  | some (a, ⟨c :: rest, shorter⟩) =>
    if c = stop then some (a, ⟨rest, Nat.lt_of_succ_lt shorter⟩) else none
  | _ => none
termination_by (cs.length, 5)

end

/-- The formula that is the whole text. -/
def read? (cs : List Char) : Option Formula :=
  match readSum cs with
  | some (a, ⟨[], _⟩) => some a
  | _ => none

/-! ## Rules -/

section Rules

variable {P : List Char → Prop} {a b d : Formula} {cs rest rest' text text' : List Char}

/-- The answer of the reader, whatever it knows about the rest. -/
def Reads (answer : Reading P) (a : Formula) (rest : List Char) : Prop :=
  ∃ fact, answer = some (a, ⟨rest, fact⟩)

theorem reads_sum (head : Reads (readProduct cs) a rest) (tail : Reads (moreTerms a rest) b rest') :
    Reads (readSum cs) b rest' := by
  obtain ⟨shorter, head⟩ := head
  obtain ⟨short, tail⟩ := tail
  refine ⟨Nat.lt_of_le_of_lt short shorter, ?_⟩
  rw [readSum, head]
  simp [tail]

theorem reads_product (head : Reads (readAtom cs) a rest)
    (tail : Reads (moreFactors a rest) b rest') : Reads (readProduct cs) b rest' := by
  obtain ⟨shorter, head⟩ := head
  obtain ⟨short, tail⟩ := tail
  refine ⟨Nat.lt_of_le_of_lt short shorter, ?_⟩
  rw [readProduct, head]
  simp [tail]

theorem reads_term {c : Char} {op : Formula → Formula → Formula} (operator : termOperator? c = some op)
    (head : Reads (readProduct cs) b rest) (tail : Reads (moreTerms (op a b) rest) d rest') :
    Reads (moreTerms a (c :: cs)) d rest' := by
  obtain ⟨shorter, head⟩ := head
  obtain ⟨short, tail⟩ := tail
  refine ⟨Nat.le_succ_of_le (Nat.le_trans short (Nat.le_of_lt shorter)), ?_⟩
  rw [moreTerms]
  simp [operator, head, tail]

theorem reads_factor {c : Char} {op : Formula → Formula → Formula}
    (operator : factorOperator? c = some op) (head : Reads (readAtom cs) b rest)
    (tail : Reads (moreFactors (op a b) rest) d rest') :
    Reads (moreFactors a (c :: cs)) d rest' := by
  obtain ⟨shorter, head⟩ := head
  obtain ⟨short, tail⟩ := tail
  refine ⟨Nat.le_succ_of_le (Nat.le_trans short (Nat.le_of_lt shorter)), ?_⟩
  rw [moreFactors]
  simp [operator, head, tail]

theorem reads_noTerms (stop : ∀ c ∈ rest.head?, termOperator? c = none) :
    Reads (moreTerms a rest) a rest := by
  cases rest with
  | nil => exact ⟨Nat.le_refl _, by rw [moreTerms]⟩
  | cons c rest => exact ⟨Nat.le_refl _, by simp [moreTerms, stop c rfl]⟩

theorem reads_noFactors (stop : ∀ c ∈ rest.head?, factorOperator? c = none) :
    Reads (moreFactors a rest) a rest := by
  cases rest with
  | nil => exact ⟨Nat.le_refl _, by rw [moreFactors]⟩
  | cons c rest => exact ⟨Nat.le_refl _, by simp [moreFactors, stop c rfl]⟩

theorem reads_upTo {c : Char} (sum : Reads (readSum cs) a (c :: rest)) :
    Reads (readUpTo c cs) a rest := by
  obtain ⟨shorter, sum⟩ := sum
  refine ⟨Nat.lt_of_succ_lt shorter, ?_⟩
  rw [readUpTo, sum]
  simp

theorem reads_number {x : Decimal} (read : Decimal.readFrom cs = some (x, rest)) :
    Reads (readAtom cs) (number x.value) rest := by
  refine ⟨Decimal.length_readFrom read, ?_⟩
  rw [readAtom]
  split
  · next found =>
    rw [read] at found
    cases found
    rfl
  · next failed =>
    rw [read] at failed
    cases failed

theorem reads_symbol (noNumber : Decimal.readFrom cs = none) (symbol : Reads (readSymbol cs) a rest) :
    Reads (readAtom cs) a rest := by
  obtain ⟨shorter, symbol⟩ := symbol
  refine ⟨shorter, ?_⟩
  rw [readAtom]
  split
  · next found =>
    rw [noNumber] at found
    cases found
  · exact symbol

theorem reads_time : Reads (readAtom ('t' :: cs)) time cs := by
  refine reads_symbol rfl ⟨Nat.lt_succ_self _, ?_⟩
  rw [readSymbol]

theorem reads_negate (operand : Reads (readAtom cs) a rest) :
    Reads (readAtom ('-' :: cs)) (negate a) rest := by
  obtain ⟨shorter, operand⟩ := operand
  refine reads_symbol rfl ⟨Nat.lt_succ_of_lt shorter, ?_⟩
  rw [readSymbol, operand]
  rfl

theorem reads_enclosed (inner : Reads (readUpTo ')' cs) a rest) :
    Reads (readAtom ('(' :: cs)) a rest := by
  obtain ⟨shorter, inner⟩ := inner
  refine reads_symbol rfl ⟨Nat.lt_succ_of_lt shorter, ?_⟩
  rw [readSymbol, inner]
  rfl

theorem reads_less (left : Reads (readUpTo ',' cs) a rest) (right : Reads (readUpTo ')' rest) b rest') :
    Reads (readAtom ('l' :: 't' :: '(' :: cs)) (less a b) rest' := by
  obtain ⟨shorter, left⟩ := left
  obtain ⟨shorter', right⟩ := right
  refine reads_symbol rfl ⟨length_lt_name (shorter'.trans shorter), ?_⟩
  rw [readSymbol, left]
  simp [right]

theorem reads_choose {rest'' : List Char} (condition : Reads (readUpTo ',' cs) a rest)
    (yes : Reads (readUpTo ',' rest) b rest') (no : Reads (readUpTo ')' rest') d rest'') :
    Reads (readAtom ('i' :: 'f' :: '(' :: cs)) (choose a b d) rest'' := by
  obtain ⟨shorter, condition⟩ := condition
  obtain ⟨shorter', yes⟩ := yes
  obtain ⟨shorter'', no⟩ := no
  refine reads_symbol rfl ⟨length_lt_name (shorter''.trans (shorter'.trans shorter)), ?_⟩
  rw [readSymbol, condition]
  simp [yes, no]

end Rules

/-! ## Texts of formulas

What a text is read as at a place, with any rest after it that does not go on with a number. -/

def IsAtom (text : List Char) (a : Formula) : Prop :=
  ∀ rest, Decimal.Ends rest → Reads (readAtom (text ++ rest)) a rest

/-- The reader of a product still has `a` as its first factors when it comes to the rest. -/
def IsProduct (text : List Char) (a : Formula) : Prop :=
  ∀ rest b rest', Decimal.Ends rest → Reads (moreFactors a rest) b rest' →
    Reads (readProduct (text ++ rest)) b rest'

/-- The reader of a sum still has `a` as its first terms when it comes to the rest. -/
def IsSum (text : List Char) (a : Formula) : Prop :=
  ∀ rest b rest', Decimal.Ends rest → (∀ c ∈ rest.head?, factorOperator? c = none) →
    Reads (moreTerms a rest) b rest' → Reads (readSum (text ++ rest)) b rest'

section Texts

variable {a b d : Formula} {text text' text'' : List Char}

theorem ends_cons {c : Char} (noDigit : c.isDigit = false ∧ c ≠ '.') (rest : List Char) :
    Decimal.Ends (c :: rest) := by
  intro c' first
  cases first
  exact noDigit

theorem IsAtom.product (atom : IsAtom text a) : IsProduct text a :=
  fun _ _ _ ends factors => reads_product (atom _ ends) factors

theorem IsProduct.sum (product : IsProduct text a) : IsSum text a :=
  fun _ _ _ ends stop terms => reads_sum (product _ _ _ ends (reads_noFactors stop)) terms

/-- A sum ends at a comma or a closing parenthesis. -/
theorem IsSum.upTo (sum : IsSum text a) {c : Char} (stop : c = ',' ∨ c = ')') (rest : List Char) :
    Reads (readUpTo c (text ++ c :: rest)) a rest := by
  refine reads_upTo (sum _ _ _ (ends_cons ?_ rest) ?_ (reads_noTerms ?_))
  · rcases stop with rfl | rfl <;> decide
  · rcases stop with rfl | rfl <;> simp [factorOperator?]
  · rcases stop with rfl | rfl <;> simp [termOperator?]

theorem IsSum.enclosed (sum : IsSum text a) : IsAtom ('(' :: (text ++ [')'])) a := by
  intro rest _
  rw [List.cons_append, List.append_assoc]
  exact reads_enclosed (sum.upTo (.inr rfl) rest)

theorem IsAtom.negate (atom : IsAtom text a) : IsAtom ('-' :: text) (negate a) :=
  fun _ ends => reads_negate (atom _ ends)

theorem IsSum.less (left : IsSum text a) (right : IsSum text' b) :
    IsAtom ('l' :: 't' :: '(' :: (text ++ ',' :: (text' ++ [')']))) (less a b) := by
  intro rest _
  rw [List.cons_append, List.cons_append, List.cons_append, List.append_assoc, List.cons_append,
    List.append_assoc]
  exact reads_less (left.upTo (.inl rfl) _) (right.upTo (.inr rfl) rest)

theorem IsSum.choose (condition : IsSum text a) (yes : IsSum text' b) (no : IsSum text'' d) :
    IsAtom ('i' :: 'f' :: '(' :: (text ++ ',' :: (text' ++ ',' :: (text'' ++ [')']))))
      (choose a b d) := by
  intro rest _
  rw [List.cons_append, List.cons_append, List.cons_append, List.append_assoc, List.cons_append,
    List.append_assoc, List.cons_append, List.append_assoc]
  exact reads_choose (condition.upTo (.inl rfl) _) (yes.upTo (.inl rfl) _) (no.upTo (.inr rfl) rest)

theorem noDigit_of_factorOperator? {c : Char} {op : Formula → Formula → Formula}
    (operator : factorOperator? c = some op) : c.isDigit = false ∧ c ≠ '.' := by
  simp only [factorOperator?] at operator
  split at operator
  · decide
  · decide
  · cases operator

theorem noDigit_of_termOperator? {c : Char} {op : Formula → Formula → Formula}
    (operator : termOperator? c = some op) :
    (c.isDigit = false ∧ c ≠ '.') ∧ factorOperator? c = none := by
  simp only [termOperator?] at operator
  split at operator
  · exact ⟨by decide, rfl⟩
  · exact ⟨by decide, rfl⟩
  · cases operator

theorem IsProduct.extend (product : IsProduct text a) (atom : IsAtom text' b) {c : Char}
    {op : Formula → Formula → Formula} (operator : factorOperator? c = some op) :
    IsProduct (text ++ c :: text') (op a b) := by
  intro rest d rest' ends factors
  rw [List.append_assoc, List.cons_append]
  exact product _ _ _ (ends_cons (noDigit_of_factorOperator? operator) _)
    (reads_factor operator (atom _ ends) factors)

theorem IsSum.extend (sum : IsSum text a) (product : IsProduct text' b) {c : Char}
    {op : Formula → Formula → Formula} (operator : termOperator? c = some op) :
    IsSum (text ++ c :: text') (op a b) := by
  intro rest d rest' ends stop terms
  obtain ⟨noDigit, noFactor⟩ := noDigit_of_termOperator? operator
  rw [List.append_assoc, List.cons_append]
  refine sum _ _ _ (ends_cons noDigit _) ?_
    (reads_term operator (product _ _ _ ends (reads_noFactors stop)) terms)
  intro c' first
  cases first
  exact noFactor

/-- What is a sum as a whole is read as one. -/
theorem IsSum.read (sum : IsSum text a) : read? text = some a := by
  have read := sum [] a [] (fun _ first => nomatch first) (fun _ first => nomatch first)
    (reads_noTerms fun _ first => nomatch first)
  rw [List.append_nil] at read
  obtain ⟨shorter, read⟩ := read
  rw [read?, read]

end Texts

end Formula

/-! ## Texts of expressions -/

namespace Double

/-- What the numeral of a number is read as. -/
def formula (x : Double) : Formula :=
  if x.isZero then .number (zero false)
  else if x.negative then .negate (.number { x with negative := false })
  else .number x

open Formula in
theorem isAtom_numeral {x : Double} (finite : x.isFinite = true) : IsAtom x.numeral x.formula := by
  have number := isNaN_of_isFinite finite
  by_cases zero : x.isZero = true
  · rw [numeral, formula, if_pos zero, if_pos zero]
    intro rest ends
    have digit : ∀ c ∈ ['0'], c.isDigit = true := List.forall_mem_singleton.mpr rfl
    exact reads_number (Decimal.readFrom_whole (List.cons_ne_nil _ _) digit ends)
  · have magnitude : IsAtom x.magnitudeText (.number { x with negative := false }) := by
      intro rest ends
      obtain ⟨d, read, value⟩ := readFrom_magnitudeText finite (by simpa using zero) ends
      exact value ▸ reads_number read
    have text : x.text.toList = if x.negative then '-' :: x.magnitudeText else x.magnitudeText := by
      rw [text, number]
      simp
    by_cases negative : x.negative = true
    · rw [numeral, formula, if_neg zero, if_neg zero, text]
      simp only [negative, number, Bool.not_false, Bool.and_true, if_true]
      exact magnitude.negate.product.sum.enclosed
    · rw [numeral, formula, if_neg zero, if_neg zero, text]
      simp only [negative, Bool.false_and, Bool.false_eq_true, if_false]
      have same : { x with negative := false } = x := by
        cases x
        simp_all
      exact same ▸ magnitude

theorem alike_formula (x t : Double) : Alike (x.formula.eval t) x := by
  rw [formula]
  split
  · next zero => exact .inr ⟨rfl, zero⟩
  · split
    · next negative =>
      left
      cases x
      simp_all [Formula.eval, Neg.neg, neg]
    · exact .refl x

end Double

namespace Expression

open Formula

def formula (name : Formula) : Expression Double → Formula
  | number value => value.formula
  | .variable => name
  | add a b => .add (a.formula name) (b.formula name)
  | sub a b => .sub (a.formula name) (b.formula name)
  | mul a b => .mul (a.formula name) (b.formula name)
  | div a b => .div (a.formula name) (b.formula name)
  | ifLess a b yes no =>
    .choose (.less (a.formula name) (b.formula name)) (yes.formula name) (no.formula name)

/-- Every number of the expression is finite. -/
def IsFinite : Expression Double → Prop
  | number value => value.isFinite = true
  | .variable => True
  | add a b | sub a b | mul a b | div a b => a.IsFinite ∧ b.IsFinite
  | ifLess a b yes no => a.IsFinite ∧ b.IsFinite ∧ yes.IsFinite ∧ no.IsFinite

def IsAt : Binding → List Char → Formula → Prop
  | .sum => IsSum
  | .product => IsProduct
  | .atom => IsAtom

section Places

variable {text : List Char} {a : Formula}

theorem isAt_of_isAtom (atom : IsAtom text a) : ∀ place, IsAt place text a
  | .sum => atom.product.sum
  | .product => atom.product
  | .atom => atom

theorem isAt_of_isProduct (product : IsProduct text a) :
    ∀ place, IsAt place (enclose (place == .atom) text) a
  | .sum => product.sum
  | .product => product
  | .atom => product.sum.enclosed

theorem isAt_of_isSum (sum : IsSum text a) : ∀ place, IsAt place (enclose (place != .sum) text) a
  | .sum => sum
  | .product => sum.enclosed.product
  | .atom => sum.enclosed

end Places

/-- At every place the text of an expression is read as its formula. -/
theorem isAt_render {variableName : List Char} {name : Formula} (named : IsAtom variableName name) :
    ∀ {e : Expression Double}, e.IsFinite →
      ∀ place, IsAt place (e.render Double.numeral variableName place) (e.formula name) := by
  intro e finite
  induction e with
  | number value => exact isAt_of_isAtom (Double.isAtom_numeral finite)
  | «variable» => exact isAt_of_isAtom named
  -- The first operand is not read on its own: the reader goes on from it at the same level.
  | add a b iha ihb =>
    exact isAt_of_isSum ((iha finite.1 .sum).extend (ihb finite.2 .product) rfl)
  | sub a b iha ihb =>
    exact isAt_of_isSum ((iha finite.1 .sum).extend (ihb finite.2 .product) rfl)
  | mul a b iha ihb =>
    exact isAt_of_isProduct ((iha finite.1 .product).extend (ihb finite.2 .atom) rfl)
  | div a b iha ihb =>
    exact isAt_of_isProduct ((iha finite.1 .product).extend (ihb finite.2 .atom) rfl)
  | ifLess a b yes no iha ihb ihyes ihno =>
    obtain ⟨finiteA, finiteB, finiteYes, finiteNo⟩ := finite
    have condition := ((iha finiteA .sum).less (ihb finiteB .sum)).product.sum
    have whole := condition.choose (ihyes finiteYes .sum) (ihno finiteNo .sum)
    intro place
    rw [render_ifLess]
    simpa [formula] using isAt_of_isAtom whole place

/-- Every divisor is a number other than zero. -/
def DividesByNumbers : Expression Double → Prop
  | number _ | .variable => True
  | add a b | sub a b | mul a b => a.DividesByNumbers ∧ b.DividesByNumbers
  | div a b => a.DividesByNumbers ∧ ∃ value, b = number value ∧ value.isZero = false
  | ifLess a b yes no =>
    a.DividesByNumbers ∧ b.DividesByNumbers ∧ yes.DividesByNumbers ∧ no.DividesByNumbers

/-- A formula has the value of its expression, up to the sign of zero. -/
theorem alike_eval {e : Expression Double} (divisors : e.DividesByNumbers) {name : Formula}
    {t x : Double} (alike : Double.Alike (name.eval t) x) :
    Double.Alike ((e.formula name).eval t) (e.eval x) := by
  induction e with
  | number value => exact value.alike_formula t
  | «variable» => exact alike
  | add a b iha ihb => exact (iha divisors.1).add (ihb divisors.2)
  | sub a b iha ihb => exact (iha divisors.1).sub (ihb divisors.2)
  | mul a b iha ihb => exact (iha divisors.1).mul (ihb divisors.2)
  | div a b iha ihb =>
    -- A quotient by a zero would show the sign of the zero.
    obtain ⟨dividend, value, rfl, divisor⟩ := divisors
    exact ((iha dividend).symm.div (value.alike_formula t).symm divisor).symm
  | ifLess a b yes no iha ihb ihyes ihno =>
    obtain ⟨divisorsA, divisorsB, divisorsYes, divisorsNo⟩ := divisors
    have order : ((a.formula name).eval t).less ((b.formula name).eval t) =
        CurveNumber.less (a.eval x) (b.eval x) := (iha divisorsA).less (ihb divisorsB)
    have one : (1 : Double).isZero = false := by decide +kernel
    have zero : (0 : Double).isZero = true := by decide +kernel
    simp only [formula, Formula.eval, eval, order]
    cases CurveNumber.less (a.eval x) (b.eval x) with
    | true => simpa [one] using ihyes divisorsYes
    | false => simpa [zero] using ihno divisorsNo

end Expression

end Compositor
