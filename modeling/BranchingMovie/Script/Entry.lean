/-!
# Script entries

An entry of a branching script: its position, its name and its 24 numbers, with the meaning of the
numbers.  Eight pairs of them are conditions, each a trigger code and the jump it asks for.
-/

namespace BranchingMovie

/-- The number of whole numbers behind the name of an entry. -/
def fieldCount : Nat := 24

/-- The number of conditions of an entry. -/
def conditionSlots : Nat := 8

/-- A condition: the code of a trigger, and how many entries further it leads. -/
structure Condition where
  code : Int32
  offset : Int32
  deriving DecidableEq, Repr

/-- A condition with code zero is not used. -/
def Condition.isEmpty (condition : Condition) : Bool :=
  condition.code == 0

/-- An entry of a script, at the position `index` of its file. -/
structure Entry where
  index : Nat
  name : String
  fields : Vector Int32 fieldCount
  deriving DecidableEq, Repr

namespace Entry

/-- What the entry does. -/
def opcode (entry : Entry) : Int32 := entry.fields[0]

/-- The first frame to play, the frame to show, or the entry to switch to. -/
def startFrame (entry : Entry) : Int32 := entry.fields[1]

/-- The last frame to play. -/
def endFrame (entry : Entry) : Int32 := entry.fields[2]

/-- The first frame on which buttons count. -/
def actionStart (entry : Entry) : Int32 := entry.fields[3]

/-- The last frame on which buttons count. -/
def actionEnd (entry : Entry) : Int32 := entry.fields[4]

/-- How many entries further the run goes on when nothing else is asked for. -/
def defaultOffset (entry : Entry) : Int32 := entry.fields[5]

/-- The place of a condition's code among the numbers; its offset stands behind it. -/
def codeField (slot : Fin conditionSlots) : Nat :=
  6 + 2 * slot.val

theorem codeField_lt (slot : Fin conditionSlots) : codeField slot + 1 < fieldCount := by
  have := slot.isLt
  simp only [codeField, conditionSlots, fieldCount] at *
  omega

/-- The condition in a slot. -/
def condition (entry : Entry) (slot : Fin conditionSlots) : Condition where
  code := entry.fields.get ⟨codeField slot, Nat.lt_of_succ_lt (codeField_lt slot)⟩
  offset := entry.fields.get ⟨codeField slot + 1, codeField_lt slot⟩

/-- There are eight slots, and no condition beyond them. -/
structure SlotOutOfRange where
  slot : Nat
  deriving DecidableEq, Repr

/-- The wording of the refusal. -/
def SlotOutOfRange.message (fault : SlotOutOfRange) : String :=
  s!"condition slot {fault.slot} out of range"

/-- The condition in a slot that may not exist. -/
def conditionAt (entry : Entry) (slot : Nat) : Except SlotOutOfRange Condition :=
  if h : slot < conditionSlots then .ok (entry.condition ⟨slot, h⟩) else .error ⟨slot⟩

/-- The conditions in use, with their slots, in slot order. -/
def conditions (entry : Entry) : List (Fin conditionSlots × Condition) :=
  ((List.finRange conditionSlots).map fun slot => (slot, entry.condition slot)).filter
    fun used => !used.2.isEmpty

/-- The offset of the condition in a slot, if there is such a slot and it is used. -/
def slotOffset? (entry : Entry) (slot : Nat) : Option Int32 :=
  if h : slot < conditionSlots then
    let condition := entry.condition ⟨slot, h⟩
    if condition.isEmpty then none else some condition.offset
  else none

end Entry
end BranchingMovie
