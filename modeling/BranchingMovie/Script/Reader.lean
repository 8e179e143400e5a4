import BranchingMovie.Numeral
import BranchingMovie.Script.Entry
import BranchingMovie.Text.Fields
import BranchingMovie.Text.Utf8

/-!
# Reading a script

A script is a stream of records, wherever its lines break: the position of the entry, its name and
its 24 numbers, with blanks between them.  The first word that is wrong decides the refusal; a
stream whose words are all right may still end inside a record.
-/

namespace BranchingMovie

/-! ## Refusals -/

/-- The place of a number inside a record. -/
inductive Column where
  /-- The position that opens the record. -/
  | position
  /-- One of the 24 numbers behind the name. -/
  | field (i : Nat)
  deriving DecidableEq, Repr

/-- The name of a column in messages. -/
def Column.name : Column → String
  | .position => "index"
  | .field i => s!"field {i}"

/-- Why a text is not a script. -/
inductive ScriptFault where
  /-- The stream ends inside the record. -/
  | truncated (record found : Nat)
  /-- The word in a column is no number of the column's width. -/
  | notANumber (record : Nat) (column : Column) (word : String)
  /-- The record declares a position other than its own. -/
  | wrongPosition (expected : Nat) (found : Int)
  deriving DecidableEq, Repr

/-- The number of words in a record. -/
def recordLength : Nat := fieldCount + 2

/-- The wording of a refusal. -/
def ScriptFault.message : ScriptFault → String
  | truncated record found =>
    s!"record {record} truncated: expected {recordLength} values, found {found}"
  | notANumber record column word =>
    s!"record {record} {column.name}: '{word}' is not an integer"
  | wrongPosition expected found =>
    s!"entry index in file ({Numeral.writeInt found}) does not match its position ({expected})"

/-! ## Records -/

namespace Script

/-- Reads the numbers of a record from its field `i` on, until one is wrong or the words end. -/
def readFields (record : Nat) (i : Nat) : List (List Char) → Except ScriptFault (List Int32)
  | [] => .ok []
  | word :: words =>
    match Numeral.readInt32 word with
    | .error _ => .error (.notANumber record (.field i) (String.ofList word))
    | .ok value => (readFields record (i + 1) words).map (value :: ·)

/-- Reads one record from its words.  Fewer words than a record has are a truncated record, unless
one of them is wrong by itself. -/
def readRecord (record : Nat) : List (List Char) → Except ScriptFault Entry
  | [] => .error (.truncated record 0)
  | word :: words => do
    let position ←
      match Numeral.readInt64 word with
      | .error _ => .error (.notANumber record .position (String.ofList word))
      | .ok position => .ok position.toInt
    if position ≠ record then throw (.wrongPosition record position)
    match words with
    | [] => .error (.truncated record 1)
    | name :: numbers =>
      let values ← readFields record 0 numbers
      if h : values.toArray.size = fieldCount then
        .ok ⟨record, String.ofList name, ⟨values.toArray, h⟩⟩
      else .error (.truncated record (values.length + 2))

/-- Reads the records of a stream from the record number `record` on. -/
def readRecords (record : Nat) (words : List (List Char)) : Except ScriptFault (List Entry) :=
  if h : words = [] then .ok []
  else do
    let entry ← readRecord record (words.take recordLength)
    let entries ← readRecords (record + 1) (words.drop recordLength)
    return entry :: entries
termination_by words.length
decreasing_by
  have : 0 < words.length := List.length_pos_iff.2 h
  simp only [List.length_drop, recordLength, fieldCount]
  omega

/-- The entries of a script text. -/
def readText (text : List Char) : Except ScriptFault (List Entry) :=
  readRecords 0 (Text.words text)

/-- The entries of a script file.  Bytes that are no text can only stand in names, where they become
replacement characters. -/
def readBytes (bytes : List UInt8) : Except ScriptFault (List Entry) :=
  readText (Text.Utf8.decodeLossy bytes)

end Script
end BranchingMovie
