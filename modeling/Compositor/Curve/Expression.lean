import Compositor.Curve.Basic
import Compositor.Double.Text

/-! # Curves as expressions

The engine evaluates a curve itself, frame by frame, from an expression in its
option language.  An `Expression` is the syntax of such a formula, with a meaning
(`eval`) and a text (`render`); `Curve.expression` is the formula of a curve.

The text needs few parentheses: sums and products associate to the left, and a
part is put in parentheses only if it binds less tightly than its place asks.  A
negative number carries parentheses of its own.
-/

namespace Compositor

/-- A formula over one variable. -/
inductive Expression (α : Type) where
  | number (value : α)
  | variable
  | add (a b : Expression α)
  | sub (a b : Expression α)
  | mul (a b : Expression α)
  | div (a b : Expression α)
  /-- The third formula where the first one is below the second, else the
      fourth. -/
  | ifLess (a b yes no : Expression α)

namespace Expression

/-- The value of a formula where its variable has the value `t`. -/
def eval {α : Type} [CurveNumber α] (t : α) : Expression α → α
  | number value => value
  | .variable => t
  | add a b => a.eval t + b.eval t
  | sub a b => a.eval t - b.eval t
  | mul a b => a.eval t * b.eval t
  | div a b => a.eval t / b.eval t
  | ifLess a b yes no => if CurveNumber.less (a.eval t) (b.eval t) then yes.eval t else no.eval t

/-- How tightly a part of a formula has to bind at its place. -/
inductive Binding where
  | sum
  | product
  | atom
deriving DecidableEq

/-- The text, put in parentheses if asked. -/
def enclose (parentheses : Bool) (cs : List Char) : List Char :=
  if parentheses then '(' :: (cs ++ [')']) else cs

/-- The text of a formula at a place, given the text of numbers and of the
    variable. -/
def render {α : Type} (numeral : α → List Char) (name : List Char) :
    Binding → Expression α → List Char
  | _, number value => numeral value
  | _, .variable => name
  | place, add a b =>
    enclose (place != .sum) (render numeral name .sum a ++ '+' :: render numeral name .product b)
  | place, sub a b =>
    enclose (place != .sum) (render numeral name .sum a ++ '-' :: render numeral name .product b)
  | place, mul a b =>
    enclose (place == .atom)
      (render numeral name .product a ++ '*' :: render numeral name .atom b)
  | place, div a b =>
    enclose (place == .atom)
      (render numeral name .product a ++ '/' :: render numeral name .atom b)
  | _, ifLess a b yes no =>
    "if(lt(".toList ++ render numeral name .sum a ++ ',' :: render numeral name .sum b
      ++ ')' :: ',' :: render numeral name .sum yes ++ ',' :: render numeral name .sum no ++ [')']

section Render

variable {α : Type} (numeral : α → List Char) (name : List Char) (place : Binding)
  (a b yes no : Expression α)

@[simp] theorem render_number (value : α) :
    (number value).render numeral name place = numeral value := rfl

@[simp] theorem render_variable :
    (Expression.variable : Expression α).render numeral name place = name := rfl

@[simp] theorem render_add : (add a b).render numeral name place =
    enclose (place != .sum) (a.render numeral name .sum ++ '+' :: b.render numeral name .product) :=
  rfl

@[simp] theorem render_sub : (sub a b).render numeral name place =
    enclose (place != .sum) (a.render numeral name .sum ++ '-' :: b.render numeral name .product) :=
  rfl

@[simp] theorem render_mul : (mul a b).render numeral name place =
    enclose (place == .atom) (a.render numeral name .product ++ '*' :: b.render numeral name .atom) :=
  rfl

@[simp] theorem render_div : (div a b).render numeral name place =
    enclose (place == .atom) (a.render numeral name .product ++ '/' :: b.render numeral name .atom) :=
  rfl

@[simp] theorem render_ifLess : (ifLess a b yes no).render numeral name place =
    "if(lt(".toList ++ a.render numeral name .sum ++ ',' :: b.render numeral name .sum
      ++ ')' :: ',' :: yes.render numeral name .sum ++ ',' :: no.render numeral name .sum ++ [')'] :=
  rfl

end Render

end Expression

/-- The formula of a line. -/
def Segment.expression {α : Type} [CurveNumber α] (s : Segment α) : Expression α :=
  .add (.number s.source)
    (.div (.mul (.number s.delta) (.sub .variable (.number s.start))) (.number s.span))

/-- The formula of a curve: the lines in order, each where the time is before its
    end, after the value for earlier times and before the one for later times. -/
def Curve.expression {α : Type} [CurveNumber α] : Curve α → Expression α
  | constant value => .number value
  | pieces before segments after =>
    let lines := segments.foldr
      (fun s rest => .ifLess .variable (.number s.finish) s.expression rest) (.number after)
    match segments with
    | [] => lines
    | first :: _ => .ifLess .variable (.number first.start) (.number before) lines

/-- A number in a filter option: zero has no sign, and a negative number stands in
    parentheses. -/
def Double.numeral (x : Double) : List Char :=
  if x.isZero then ['0']
  else if x.negative && !x.isNaN then '(' :: (x.text.toList ++ [')'])
  else x.text.toList

/-- A way of writing numbers for the engine. -/
class Spelling where
  numeral : Double → List Char

/-- The way in which the program writes them. -/
instance Spelling.standard : Spelling := ⟨Double.numeral⟩

@[simp] theorem Spelling.numeral_standard (x : Double) : standard.numeral x = x.numeral := rfl

section

variable [w : Spelling]

/-- The text of a number in a filter option. -/
def Double.numeralText (x : Double) : String := String.ofList (w.numeral x)

/-- The text of a curve's formula over a variable. -/
def Curve.expressionText (curve : Curve Double) (name : String) : String :=
  String.ofList (curve.expression.render w.numeral name.toList .sum)

end

end Compositor
