import BranchingMovie.Text.Blank

/-!
# Cutting a text into pieces

A text is cut at every character of a class (`fields`), at the first occurrence of a character
(`cutFirst`) or at the last one (`cutLast`).  Words, lines and path segments are all fields.
-/

namespace BranchingMovie.Text

/-! ## Cutting everywhere -/

/-- Puts a character in front of the first piece. -/
def prependToFirst (c : Char) : List (List Char) → List (List Char)
  | [] => [[c]]
  | piece :: pieces => (c :: piece) :: pieces

/-- The pieces between the characters of the class `sep`, empty pieces included: there is always one
piece more than there are separators. -/
def fields (sep : Char → Bool) (cs : List Char) : List (List Char) :=
  cs.foldr (fun c pieces => if sep c then [] :: pieces else prependToFirst c pieces) [[]]

@[simp] theorem fields_nil (sep : Char → Bool) : fields sep [] = [[]] := rfl

theorem fields_cons (sep : Char → Bool) (c : Char) (cs : List Char) :
    fields sep (c :: cs) =
      if sep c then [] :: fields sep cs else prependToFirst c (fields sep cs) := rfl

theorem fields_ne_nil (sep : Char → Bool) (cs : List Char) : fields sep cs ≠ [] := by
  cases cs with
  | nil => simp
  | cons c cs =>
    rw [fields_cons]
    split
    · simp
    · cases fields sep cs <;> simp [prependToFirst]

/-- The words of a text: its maximal runs of characters that are not blank. -/
def words (cs : List Char) : List (List Char) :=
  (fields isBlank cs).filter (!·.isEmpty)

/-- The lines of a text, cut at every line feed.  A carriage return in front of a line feed stays
with the line, where it is a blank like any other. -/
def lines (cs : List Char) : List (List Char) :=
  fields (· == '\n') cs

/-! ## Cutting once -/

/-- The text before and after the first occurrence of `sep`. -/
def cutFirst (sep : Char) (cs : List Char) : Option (List Char × List Char) :=
  if sep ∈ cs then some (cs.takeWhile (· != sep), (cs.dropWhile (· != sep)).drop 1) else none

/-- The text before and after the last occurrence of `sep`. -/
def cutLast (sep : Char) (cs : List Char) : Option (List Char × List Char) :=
  (cutFirst sep cs.reverse).map fun (after, before) => (before.reverse, after.reverse)

/-- What follows `start`, when the text begins with it. -/
def afterStart (start cs : List Char) : Option (List Char) :=
  if start.isPrefixOf cs then some (cs.drop start.length) else none

/-! ## Letters and widths -/

/-- The text with the capitals `A` to `Z` made small and everything else kept. -/
def lowerAscii (cs : List Char) : List Char :=
  cs.map Char.toLower

/-- The text filled up with blanks on its right to `width` characters. -/
def padRight (width : Nat) (s : String) : String :=
  s ++ String.ofList (List.replicate (width - s.length) ' ')

/-- The text filled up with blanks on its left to `width` characters. -/
def padLeft (width : Nat) (s : String) : String :=
  String.ofList (List.replicate (width - s.length) ' ') ++ s

end BranchingMovie.Text
