import BranchingMovie.Asset.Key
import BranchingMovie.Playback.FrameBuffer

/-!
# Decoders

What the player needs of a decoder, whatever the format of its clips: a description, a position, and
three operations that may fail.  An operation gives the decoder's next state also when it fails.
-/

namespace BranchingMovie

/-- What a clip declares about its tracks.  One frame lasts `frameDuration` units of a clock with
`timeScale` units per second. -/
structure ClipInfo where
  hasVideo : Bool := true
  supportedVideo : Bool := true
  hasAudio : Bool := false
  supportedAudio : Bool := true
  width : UInt32
  height : UInt32
  timeScale : UInt32
  frameDuration : UInt32
  videoPtsOffset : Int64 := 0
  /-- How much later than the pictures the sound begins, in samples. -/
  audioPtsOffset : Int64 := 0
  sampleRate : UInt32 := 0
  channels : UInt16 := 0
  deriving DecidableEq, Repr

/-- How a request for samples ends. -/
inductive AudioOutcome where
  /-- So many samples were written. -/
  | written (count : Nat) (samples : List Int16)
  | failed (cause : String)
  /-- The decoder broke down in the middle of the request. -/
  | panicked (message : String)
  deriving DecidableEq, Repr

/-- A decoder for the clips that a player shows. -/
class Decoder (δ : Type) where
  /-- What the clip declares. -/
  info : δ → ClipInfo
  /-- The frame that the next call of `decode` shows. -/
  position : δ → Int32
  /-- Goes to a frame. -/
  seek : δ → Int32 → Except String Unit × δ
  /-- Puts the frame at the position into the picture and goes one further. -/
  decode : δ → FrameBuffer → Except String Unit × δ × FrameBuffer
  /-- Fills a list of samples. -/
  audio : δ → List Int16 → AudioOutcome × δ

/-- A request to a decoder, as far as it can be watched from outside. -/
inductive DecoderCall where
  | opened (path : String)
  | seek (frame : Int32)
  /-- A decoding of the frame at the position. -/
  | decode (position : Int32)
  | audio (samples : Nat)
  deriving DecidableEq, Repr

/-- Where clips come from. -/
structure ClipLibrary (δ : Type) where
  /-- The path of the clip of a name. -/
  locate : String → Except Asset.NotFound String
  /-- A decoder for the clip at a path. -/
  openClip : String → Except String δ

end BranchingMovie
