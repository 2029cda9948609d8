/-!
# Indentation units

A script is indented by repeating one unit, a run of spaces or a tab. The width of a run is cut
down to `Indent.maxWidth`.

## Main definitions

* `Indent.unit`: the text of one unit
* `Indent.times`: the text in front of a line at a given depth
-/

namespace GradleScript

/-- The unit that a script is indented with. A width may be any number here; those that a caller can
ask for fit in a byte, and from `maxWidth` on all are written alike. -/
inductive Indent where
  | spaces (width : Nat)
  | tab
  deriving DecidableEq, Repr

namespace Indent

/-- The widest run of spaces that is written for one unit. -/
def maxWidth : Nat := 8

/-- Four spaces, the unit of a script unless another one is asked for. -/
def standard : Indent := .spaces 4

instance : Inhabited Indent := ⟨standard⟩

/-- The character that a unit consists of. -/
def char : Indent → Char
  | .spaces _ => ' '
  | .tab => '\t'

/-- How many characters a unit has. -/
def width : Indent → Nat
  | .spaces n => min n maxWidth
  | .tab => 1

/-- The text of one unit. -/
def unit (indent : Indent) : String :=
  String.ofList (List.replicate indent.width indent.char)

/-- The text in front of a line at depth `level`: the unit, `level` times. A unit repeats one
character, so that only the number of characters counts, and at no depth is there anything in front
of a line if the unit is empty. -/
def times (indent : Indent) (level : Nat) : String :=
  String.ofList (List.replicate (level * indent.width) indent.char)

/-- Widths from `maxWidth` on are all written alike. -/
theorem unit_spaces_of_le {n : Nat} (h : maxWidth ≤ n) :
    (spaces n).unit = (spaces maxWidth).unit := by
  simp [unit, width, char, Nat.min_eq_right h]

theorem toList_times (indent : Indent) (level : Nat) :
    (indent.times level).toList = (List.replicate level indent.unit.toList).flatten := by
  simp [times, unit]

@[simp] theorem times_zero (indent : Indent) : indent.times 0 = "" := by
  simp [times]

theorem times_succ (indent : Indent) (level : Nat) :
    indent.times (level + 1) = indent.unit ++ indent.times level := by
  apply String.ext
  simp [toList_times, List.replicate_succ]

end Indent

end GradleScript
