import Compositor.Filter.Graph
import Mathlib.Data.List.Nodup

/-! # Numbered labels are distinct

The name of a numbered label can be taken apart again: no stem of a kind is the
beginning of another, and digits determine the ordinal.  So two numbered labels
are equal only if kind and ordinal agree, and none of them is one of the two
finished outputs, whose names have letters after a stem.
-/

namespace Compositor

namespace Label

theorem toList_numbered (kind : LabelKind) (n : Nat) :
    (numbered kind n).name.toList = kind.stem.toList ++ Nat.toDigits 10 n := by
  rw [numbered, String.toList_append, Nat.toString_eq_ofList_toDigits, String.toList_ofList]

theorem toDigits_ten_inj {m n : Nat} (h : Nat.toDigits 10 m = Nat.toDigits 10 n) : m = n := by
  rw [← Nat.ofDigitChars_ten_toDigits (n := m), h, Nat.ofDigitChars_ten_toDigits]

/-- The first letter of a label tells its kind. -/
theorem head_stem_inj {kind kind' : LabelKind}
    (h : kind.stem.toList.head? = kind'.stem.toList.head?) : kind = kind' := by
  revert h
  cases kind <;> cases kind' <;> decide

/-- A stem is not empty, so the label begins like the stem. -/
theorem head_toList_numbered (kind : LabelKind) (n : Nat) :
    (numbered kind n).name.toList.head? = kind.stem.toList.head? := by
  rw [toList_numbered]
  cases kind <;> rfl

/-- Numbered labels are equal only if kind and ordinal agree. -/
theorem numbered_inj {kind kind' : LabelKind} {m n : Nat} :
    numbered kind m = numbered kind' n ↔ kind = kind' ∧ m = n := by
  constructor
  · intro equal
    have sameKind : kind = kind' := by
      apply head_stem_inj
      rw [← head_toList_numbered kind m, equal, head_toList_numbered]
    subst sameKind
    have sameList : (numbered kind m).name.toList = (numbered kind n).name.toList := by rw [equal]
    rw [toList_numbered, toList_numbered, List.append_cancel_left_eq] at sameList
    exact ⟨rfl, toDigits_ten_inj sameList⟩
  · rintro ⟨rfl, rfl⟩
    rfl

theorem isDigit_of_mem_drop {kind : LabelKind} {n : Nat} {c : Char}
    (mem : c ∈ (numbered kind n).name.toList.drop kind.stem.toList.length) : c.isDigit = true := by
  rw [toList_numbered, List.drop_left] at mem
  exact Nat.isDigit_of_mem_toDigits (by decide) (by decide) mem

/-- A label is not a numbered one if behind every stem that it begins with there
    is something else than a digit. -/
theorem numbered_ne {label : Label}
    (odd : ∀ kind : LabelKind, kind.stem.toList <+: label.name.toList →
      ∃ c ∈ label.name.toList.drop kind.stem.toList.length, c.isDigit = false)
    (kind : LabelKind) (n : Nat) : numbered kind n ≠ label := by
  rintro rfl
  have begins : kind.stem.toList <+: (numbered kind n).name.toList := by
    rw [toList_numbered]
    exact List.prefix_append _ _
  obtain ⟨c, mem, noDigit⟩ := odd kind begins
  rw [isDigit_of_mem_drop mem] at noDigit
  cases noDigit

theorem numbered_ne_videoOut (kind : LabelKind) (n : Nat) : numbered kind n ≠ videoOut :=
  numbered_ne (fun kind => by cases kind <;> decide) kind n

theorem numbered_ne_audioOut (kind : LabelKind) (n : Nat) : numbered kind n ≠ audioOut :=
  numbered_ne (fun kind => by cases kind <;> decide) kind n

theorem audioOut_ne_videoOut : audioOut ≠ videoOut := by decide

end Label

namespace LabelAllocator

/-- As long as the counter does not overflow, it goes up by one. -/
theorem next_take {a : LabelAllocator} {kind : LabelKind}
    (room : a.next kind + 1 < Label.ordinalLimit) (k : LabelKind) :
    (a.take kind).2.next k = if k = kind then a.next kind + 1 else a.next k := by
  simp only [take, Nat.mod_eq_of_lt room]

end LabelAllocator

end Compositor
