/-!
# Overflow

Most sums and products of a film have a provision for results that do not fit into a word: they
saturate, or they wrap around and are meant to.  Three have none.

* The time of the next tick is a sum (`Simulation.nextTick`).
* The sound of a clip shifts its frames by a quotient, whose divisor is a product
  (`ClipInfo.samplesPerTick`).
* A jump adds an offset to the index of an entry (`NodePointer.advance`).

Where one of these overflows, the program stops: there is no result, no failure is reported, and no
state is left.  Here the operations are those of words and wrap around.  Beside each of the first
two stands a test for its overflow, and a simulated run asks for both (`Simulation.runFrom`): for
the sum before the next tick, and for the product after every tick, which comes to the same as to
stop in the midst of it (`Engine.tickChecked_eq`).  The third needs no test: a run jumps from an
entry that it has looked up, and so from an index far from the end of the range
(`Session.jumps_in_range`).

What is counted, such as entries, steps, handlers and bytes, is a whole number without bound.
-/

namespace BranchingMovie

/-- An overflow that stops the program. -/
inductive Overflow where
  | sum
  | product
  deriving DecidableEq, Repr

namespace Overflow

/-- The last words of the program. -/
def message : Overflow → String
  | sum => "attempt to add with overflow"
  | product => "attempt to multiply with overflow"

/-- The overflow of a sum, if it does not fit into a word. -/
def ofSum? (a b : UInt64) : Option Overflow :=
  if a.toNat + b.toNat < UInt64.size then none else some .sum

/-- The overflow of a product, if it does not fit into a signed word. -/
def ofProduct? (a b : Int64) : Option Overflow :=
  if Int64.minValue.toInt ≤ a.toInt * b.toInt ∧ a.toInt * b.toInt ≤ Int64.maxValue.toInt then none
  else some .product

/-- The value, unless there is an overflow. -/
def guard {α : Type} (overflow? : Option Overflow) (value : α) : Except Overflow α :=
  match overflow? with
  | some overflow => .error overflow
  | none => .ok value

variable {α β : Type}

@[simp] theorem guard_none (value : α) : guard none value = .ok value := rfl

@[simp] theorem guard_some (overflow : Overflow) (value : α) :
    guard (some overflow) value = .error overflow := rfl

theorem guard_eq_ok_iff {overflow? : Option Overflow} {value result : α} :
    guard overflow? value = .ok result ↔ overflow? = none ∧ value = result := by
  cases overflow? <;> simp

theorem map_guard (overflow? : Option Overflow) (value : α) (f : α → β) :
    (guard overflow? value).map f = guard overflow? (f value) := by
  cases overflow? <;> rfl

theorem ofSum?_eq_none_iff {a b : UInt64} :
    ofSum? a b = none ↔ a.toNat + b.toNat < UInt64.size := by
  unfold ofSum?
  split <;> simp_all

/-- A sum without overflow is the sum of the numbers. -/
theorem toNat_add_of_ofSum? {a b : UInt64} (h : ofSum? a b = none) :
    (a + b).toNat = a.toNat + b.toNat := by
  rw [UInt64.toNat_add]
  exact Nat.mod_eq_of_lt (ofSum?_eq_none_iff.1 h)

end Overflow
end BranchingMovie
