import BranchingMovie.Numeral
import BranchingMovie.Playback.Decoder
import BranchingMovie.Saturating

/-!
# Synthetic clips

A decoder that invents its pictures: every byte of a picture is the low byte of its frame number.
It has no sound, never ends, and knows no frames before the first.  With it a film runs without its
clips.
-/

namespace BranchingMovie

/-- The low byte of a frame number. -/
def lowByte (frame : Int32) : UInt8 :=
  frame.toUInt32.toUInt8

/-- The dimensions and timing of synthetic clips: 15 frames per second, unless said otherwise. -/
structure SyntheticProfile where
  width : UInt32 := 320
  height : UInt32 := 240
  timeScale : UInt32 := 600
  frameDuration : UInt32 := 40
  deriving DecidableEq, Repr

/-- A decoder that invents its pictures. -/
structure SyntheticDecoder where
  profile : SyntheticProfile
  position : Int32 := 0
  deriving DecidableEq, Repr

namespace SyntheticDecoder

/-- What a synthetic clip declares. -/
def info (decoder : SyntheticDecoder) : ClipInfo where
  width := decoder.profile.width
  height := decoder.profile.height
  timeScale := decoder.profile.timeScale
  frameDuration := decoder.profile.frameDuration

/-- Goes to a frame, which must not lie before the first. -/
def seek (decoder : SyntheticDecoder) (frame : Int32) : Except String Unit × SyntheticDecoder :=
  if frame < 0 then
    (.error s!"cannot seek to frame {Numeral.writeInt frame.toInt}", decoder)
  else (.ok (), { decoder with position := frame })

/-- Fills the picture with the low byte of the position. -/
def decode (decoder : SyntheticDecoder) (buffer : FrameBuffer) :
    Except String Unit × SyntheticDecoder × FrameBuffer :=
  (.ok (), { decoder with position := saturatingAdd decoder.position 1 },
    (buffer.resize decoder.profile.width decoder.profile.height).fill (lowByte decoder.position))

/-- Writes silence and counts none of it. -/
def audio (decoder : SyntheticDecoder) (samples : List Int16) : AudioOutcome × SyntheticDecoder :=
  (.written 0 (samples.map fun _ => 0), decoder)

instance : Decoder SyntheticDecoder where
  info := info
  position := position
  seek := seek
  decode := decode
  audio := audio

end SyntheticDecoder

/-- Opens every path as a synthetic clip. -/
def SyntheticProfile.library (profile : SyntheticProfile)
    (locate : String → Except Asset.NotFound String) : ClipLibrary SyntheticDecoder where
  locate := locate
  openClip _ := .ok { profile }

end BranchingMovie
