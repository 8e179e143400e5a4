import BranchingMovie.HotZone.Rect
import BranchingMovie.Numeral
import BranchingMovie.Text.Fields
import BranchingMovie.Text.Utf8

/-!
# Reading a click map

A click map has one line per picture: its frame number and up to eight rectangles of two corners
each. A quad of zeros is a place holder and takes no slot.  Blank lines count in line numbers only.
-/

namespace BranchingMovie

/-! ## Refusals -/

/-- What is wrong with a line. -/
inductive HotLineFault where
  /-- A word is no number of 32 bits. -/
  | notANumber (word : String)
  /-- The numbers behind the frame are no multiple of four. -/
  | partialRect (coordinates : Nat)
  /-- There are more rectangles than slots. -/
  | tooManyRects (rects : Nat)
  deriving DecidableEq, Repr

/-- The greatest number of rectangles of one picture. -/
def maxZones : Nat := 8

/-- The wording of what is wrong with a line. -/
def HotLineFault.message : HotLineFault → String
  | notANumber word => s!"'{word}' is not an integer"
  | partialRect coordinates => s!"{coordinates} coordinates do not form whole rectangles"
  | tooManyRects rects => s!"{rects} rectangles exceed the limit of {maxZones}"

/-- The first line of a text that keeps it from being a click map. -/
structure HotFault where
  line : Nat
  reason : HotLineFault
  deriving DecidableEq, Repr

/-- The wording of a refusal. -/
def HotFault.message (fault : HotFault) : String :=
  s!"hot-zone line {fault.line}: {fault.reason.message}"

/-! ## Lines -/

/-- The rectangles of one frame. -/
structure HotRecord where
  frame : Int32
  zones : List HotZone
  deriving DecidableEq, Repr

namespace HotRecord

/-- Two corners as four coordinates. -/
structure Quad where
  x1 : Int32
  y1 : Int32
  x2 : Int32
  y2 : Int32
  deriving DecidableEq, Repr

/-- A quad of zeros holds a place and is no rectangle. -/
def Quad.isBlank (quad : Quad) : Bool :=
  quad.x1 == 0 && quad.y1 == 0 && quad.x2 == 0 && quad.y2 == 0

/-- The coordinates in groups of four; a rest of less than four is left out. -/
def quads : List Int32 → List Quad
  | x1 :: y1 :: x2 :: y2 :: coordinates => ⟨x1, y1, x2, y2⟩ :: quads coordinates
  | _ => []

/-- The zones of a picture: its rectangles without the place holders, numbered from zero. -/
def zonesOf (coordinates : List Int32) : List HotZone :=
  ((quads coordinates).filter (!·.isBlank)).zipIdx.map fun (quad, slot) =>
    ⟨slot, Rect.ofCorners quad.x1 quad.y1 quad.x2 quad.y2⟩

/-- Reads the words of a line as numbers, up to the first that is none. -/
def readNumbers : List (List Char) → Except HotLineFault (List Int32)
  | [] => .ok []
  | word :: words =>
    match Numeral.readInt32 word with
    | .error _ => .error (.notANumber (String.ofList word))
    | .ok value => (readNumbers words).map (value :: ·)

/-- The record in the numbers of a line, `none` if there are none. -/
def ofNumbers : List Int32 → Except HotLineFault (Option HotRecord)
  | [] => .ok none
  | frame :: coordinates =>
    if coordinates.length % 4 ≠ 0 then .error (.partialRect coordinates.length)
    else if coordinates.length / 4 > maxZones then .error (.tooManyRects (coordinates.length / 4))
    else .ok (some ⟨frame, zonesOf coordinates⟩)

/-- Reads one line; a blank one holds no record. -/
def readLine (line : List Char) : Except HotLineFault (Option HotRecord) := do
  ofNumbers (← readNumbers (Text.words line))

/-- Reads lines from the line number `number` on. -/
def readLines (number : Nat) : List (List Char) → Except HotFault (List HotRecord)
  | [] => .ok []
  | line :: lines =>
    match readLine line with
    | .error reason => .error ⟨number, reason⟩
    | .ok record => (readLines (number + 1) lines).map (record.toList ++ ·)

/-- The records of a click-map text, in line order. -/
def readText (text : List Char) : Except HotFault (List HotRecord) :=
  readLines 1 (Text.lines text)

/-- The records of a click-map file. -/
def readBytes (bytes : List UInt8) : Except HotFault (List HotRecord) :=
  readText (Text.Utf8.decodeLossy bytes)

end HotRecord
end BranchingMovie
