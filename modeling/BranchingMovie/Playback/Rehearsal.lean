import BranchingMovie.Playback.Synthetic

/-!
# Rehearsal clips

A decoder that follows a profile: which frames it cannot seek to or decode, what it declares, and
what becomes of requests for samples.  It brings a player into every situation that a real decoder
might.
-/

namespace BranchingMovie

/-- What a rehearsal clip does with requests for samples. -/
inductive AudioConduct where
  /-- Writes all samples. -/
  | full
  /-- Writes the first half of the samples. -/
  | half
  /-- Fails. -/
  | fail
  /-- Breaks down. -/
  | panic
  deriving DecidableEq, Repr

/-- The conduct of a rehearsal clip. -/
structure RehearsalProfile where
  info : ClipInfo
  /-- The clip cannot be opened. -/
  refusesToOpen : Bool := false
  /-- The frames that cannot be sought. -/
  badSeek : List Int32 := []
  /-- The frames that cannot be decoded. -/
  badDecode : List Int32 := []
  /-- The dimensions of the decoded pictures, where they differ from the picture's own. -/
  decodeSize : Option (UInt32 × UInt32) := none
  audio : AudioConduct := .full
  deriving DecidableEq, Repr

/-- A decoder that follows a profile. -/
structure RehearsalDecoder where
  profile : RehearsalProfile
  position : Int32 := 0
  deriving DecidableEq, Repr

namespace RehearsalDecoder

/-- Goes to a frame, unless the profile refuses it. -/
def seek (decoder : RehearsalDecoder) (frame : Int32) : Except String Unit × RehearsalDecoder :=
  if frame ∈ decoder.profile.badSeek then
    (.error s!"bad seek {Numeral.writeInt frame.toInt}", decoder)
  else (.ok (), { decoder with position := frame })

/-- Fills the picture with the low byte of the position, unless the profile refuses the frame. -/
def decode (decoder : RehearsalDecoder) (buffer : FrameBuffer) :
    Except String Unit × RehearsalDecoder × FrameBuffer :=
  if decoder.position ∈ decoder.profile.badDecode then
    (.error s!"bad decode {Numeral.writeInt decoder.position.toInt}", decoder, buffer)
  else
    let buffer :=
      match decoder.profile.decodeSize with
      | some (width, height) => buffer.resize width height
      | none => buffer
    (.ok (), { decoder with position := saturatingAdd decoder.position 1 },
      buffer.fill (lowByte decoder.position))

/-- Deals with samples as the profile says. -/
def audio (decoder : RehearsalDecoder) (samples : List Int16) : AudioOutcome × RehearsalDecoder :=
  match decoder.profile.audio with
  | .full => (.written samples.length (samples.map fun _ => 7), decoder)
  | .half =>
    let count := samples.length / 2
    (.written count (List.replicate count 9 ++ samples.drop count), decoder)
  | .fail => (.failed "bad audio", decoder)
  | .panic => (.panicked "audio panic", decoder)

instance : Decoder RehearsalDecoder where
  info decoder := decoder.profile.info
  position := position
  seek := seek
  decode := decode
  audio := audio

end RehearsalDecoder

/-- Rehearsal clips by their keys. -/
def rehearsalLibrary (profiles : List (String × RehearsalProfile)) :
    ClipLibrary RehearsalDecoder where
  locate name :=
    match profiles.lookup (Asset.key name) with
    | some _ => .ok (Asset.key name)
    | none => .error ⟨name⟩
  openClip path :=
    match profiles.lookup path with
    | some profile => if profile.refusesToOpen then .error "bad open" else .ok { profile }
    | none => .error "bad open"

end BranchingMovie
