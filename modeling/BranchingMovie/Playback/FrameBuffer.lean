/-!
# Frame buffers

The picture on display: three bytes per pixel, row after row.
-/

namespace BranchingMovie

/-- A picture of three bytes per pixel. -/
structure FrameBuffer where
  width : UInt32 := 0
  height : UInt32 := 0
  pixels : Array UInt8 := #[]
  deriving DecidableEq, Repr

namespace FrameBuffer

/-- The number of bytes of a picture. -/
def byteCount (width height : UInt32) : Nat :=
  width.toNat * height.toNat * 3

/-- Gives the picture new dimensions and clears it; a picture that has them already keeps its
content. -/
def resize (buffer : FrameBuffer) (width height : UInt32) : FrameBuffer :=
  if buffer.width = width ∧ buffer.height = height ∧ !buffer.pixels.isEmpty then buffer
  else ⟨width, height, Array.replicate (byteCount width height) 0⟩

/-- A black picture. -/
def ofSize (width height : UInt32) : FrameBuffer :=
  ({} : FrameBuffer).resize width height

/-- The number of bytes in a row. -/
def pitch (buffer : FrameBuffer) : Nat :=
  buffer.width.toNat * 3

/-- The picture with one value in all its bytes. -/
def fill (buffer : FrameBuffer) (value : UInt8) : FrameBuffer :=
  { buffer with pixels := Array.replicate buffer.pixels.size value }

/-- The picture with a value in one of its bytes, unchanged beyond its end. -/
def set (buffer : FrameBuffer) (index : Nat) (value : UInt8) : FrameBuffer :=
  { buffer with pixels := buffer.pixels.setIfInBounds index value }

end FrameBuffer
end BranchingMovie
