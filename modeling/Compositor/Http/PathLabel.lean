import Compositor.Text.Hex

/-! # Path labels

Requests are counted by path.  So that not every job has counts of its own,
identifiers in a path are masked first: all parts in the form of a universally
unique identifier, then segments of digits.

A masked segment takes the slash after it along, so of two segments of digits next
to each other only the first one is masked.
-/

namespace Compositor.PathLabel

/-- What stands for an identifier. -/
def placeholder : List Char := ['{', 'i', 'd', '}']

/-- The form of a unique identifier: at each place a hexadecimal digit or a
    hyphen. -/
def uniqueForm : List Bool :=
  [8, 4, 4, 4].flatMap (fun n => List.replicate n true ++ [false]) ++ List.replicate 12 true

/-- A text begins in a form. -/
def fits : List Bool → List Char → Bool
  | [], _ => true
  | _ :: _, [] => false
  | isDigit :: form, c :: cs =>
    (if isDigit then Text.isHexDigit c else c == '-') && fits form cs

/-- Masks all unique identifiers. -/
def maskUnique (cs : List Char) : List Char :=
  match cs with
  | [] => []
  | c :: rest =>
    if fits uniqueForm (c :: rest) then
      placeholder ++ maskUnique (rest.drop (uniqueForm.length - 1))
    else c :: maskUnique rest
termination_by cs.length
decreasing_by all_goals simp; try omega

/-- Masks segments of digits. -/
def maskNumbers (cs : List Char) : List Char :=
  match cs with
  | [] => []
  | c :: rest =>
    if c == '/' && (rest.head?.any Char.isDigit) then
      match _h : rest.dropWhile Char.isDigit with
      | [] => '/' :: placeholder
      | d :: tail =>
        -- The slash after the digits is used up here.
        if d == '/' then '/' :: placeholder ++ '/' :: maskNumbers tail else c :: maskNumbers rest
    else c :: maskNumbers rest
termination_by cs.length
decreasing_by
  · have shorter : (d :: tail).length ≤ rest.length :=
      _h ▸ (List.dropWhile_suffix Char.isDigit).length_le
    simp at shorter ⊢
    omega
  all_goals simp

/-- The label of a path. -/
def ofPath (path : String) : String := String.ofList (maskNumbers (maskUnique path.toList))

end Compositor.PathLabel
