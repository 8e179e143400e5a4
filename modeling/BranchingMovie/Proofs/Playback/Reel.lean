import BranchingMovie.Playback.Rehearsal

/-!
# Reels

A reel is what a clip shows: a picture for every frame, and the frames that cannot be sought or
decoded.  The decoders of a `ReelLibrary` follow reels.  Such a decoder begins at frame zero;
seeking takes it to a frame, or leaves it where it is; decoding shows the frame it is on and takes
it one further, or shows nothing and leaves it where it is.

Rehearsal clips follow reels (`rehearsalReels`), and so do synthetic clips
(`SyntheticProfile.reels`): each of their pictures has the low byte of its frame number in all its
bytes (`FrameBuffer.uniform`).
-/

namespace BranchingMovie

/-! ## Pictures -/

namespace FrameBuffer

/-- The picture has three bytes for each of its pixels. -/
def IsWhole (buffer : FrameBuffer) : Prop :=
  buffer.pixels.size = byteCount buffer.width buffer.height

/-- The picture with one value in all its bytes. -/
def uniform (width height : UInt32) (value : UInt8) : FrameBuffer :=
  ⟨width, height, Array.replicate (byteCount width height) value⟩

theorem isWhole_default : ({} : FrameBuffer).IsWhole := rfl

@[simp] theorem isWhole_uniform (width height : UInt32) (value : UInt8) :
    (uniform width height value).IsWhole :=
  Array.size_replicate

theorem IsWhole.fill {buffer : FrameBuffer} (h : buffer.IsWhole) (value : UInt8) :
    buffer.fill value = uniform buffer.width buffer.height value := by
  have hSize : buffer.pixels.size = byteCount buffer.width buffer.height := h
  rw [FrameBuffer.fill, uniform, hSize]

@[simp] theorem width_resize (buffer : FrameBuffer) (width height : UInt32) :
    (buffer.resize width height).width = width := by
  unfold resize
  split
  · rename_i h
    exact h.1
  · rfl

@[simp] theorem height_resize (buffer : FrameBuffer) (width height : UInt32) :
    (buffer.resize width height).height = height := by
  unfold resize
  split
  · rename_i h
    exact h.2.1
  · rfl

theorem IsWhole.resize {buffer : FrameBuffer} (h : buffer.IsWhole) (width height : UInt32) :
    (buffer.resize width height).IsWhole := by
  unfold FrameBuffer.resize
  split
  · exact h
  · exact Array.size_replicate

/-- Every byte of a uniform picture has its value, and there are three for each pixel. -/
theorem size_uniform (width height : UInt32) (value : UInt8) :
    (uniform width height value).pixels.size = 3 * width.toNat * height.toNat ∧
      ∀ byte ∈ (uniform width height value).pixels, byte = value := by
  constructor
  · rw [uniform, Array.size_replicate, byteCount, Nat.mul_comm, Nat.mul_assoc]
  · intro byte hByte
    exact (Array.mem_replicate.1 hByte).2

end FrameBuffer

/-- The low byte of a frame number is its residue modulo 256. -/
theorem toNat_lowByte (frame : Int32) : ((lowByte frame).toNat : Int) = frame.toInt % 256 := by
  have hInt : frame.toInt = (frame.toUInt32.toNat : Int).bmod 4294967296 := by
    rw [← Int32.toInt_toBitVec, BitVec.toInt_eq_toNat_bmod]
    rfl
  have hNat : (lowByte frame).toNat = frame.toUInt32.toNat % 256 :=
    UInt32.toNat_toUInt8 frame.toUInt32
  rw [hInt, hNat, Int.bmod_def]
  split <;> omega

/-! ## Reels and their decoders -/

/-- What a clip shows. -/
structure Reel where
  info : ClipInfo
  /-- The picture of a frame. -/
  image : Int32 → FrameBuffer
  isWhole_image : ∀ frame, (image frame).IsWhole
  /-- The frames that cannot be sought. -/
  Unreachable : Int32 → Prop
  /-- The frames that cannot be decoded. -/
  Spoiled : Int32 → Prop

namespace Reel

/-- A reel whose pictures have no bytes. -/
def blank : Reel where
  info := { width := 0, height := 0, timeScale := 0, frameDuration := 0 }
  image _ := {}
  isWhole_image _ := FrameBuffer.isWhole_default
  Unreachable _ := False
  Spoiled _ := False

/-- Every frame of the reel can be sought and decoded. -/
structure Flawless (reel : Reel) : Prop where
  reachable : ∀ frame, ¬ reel.Unreachable frame
  sound : ∀ frame, ¬ reel.Spoiled frame

/-- A picture that a decoder of the reel may draw over: one of the declared dimensions, or one that
it has drawn. -/
def IsCanvas (reel : Reel) (buffer : FrameBuffer) : Prop :=
  buffer.IsWhole ∧ (buffer.width = reel.info.width ∧ buffer.height = reel.info.height ∨
    ∃ frame, buffer = reel.image frame)

theorem isCanvas_image (reel : Reel) (frame : Int32) : reel.IsCanvas (reel.image frame) :=
  ⟨reel.isWhole_image frame, .inr ⟨frame, rfl⟩⟩

theorem isCanvas_resize (reel : Reel) {buffer : FrameBuffer} (h : buffer.IsWhole) :
    reel.IsCanvas (buffer.resize reel.info.width reel.info.height) :=
  ⟨h.resize _ _, .inl ⟨buffer.width_resize _ _, buffer.height_resize _ _⟩⟩

end Reel

/-- A clip library whose decoders follow reels. -/
structure ReelLibrary (δ : Type) [Decoder δ] extends ClipLibrary δ where
  /-- The reel of the clip at a path. -/
  reel : String → Reel
  /-- The decoder is somewhere on the reel. -/
  Follows : δ → Reel → Prop
  opens : ∀ {path decoder}, openClip path = .ok decoder →
    Follows decoder (reel path) ∧ Decoder.position decoder = 0 ∧
      Decoder.info decoder = (reel path).info
  seek_unreachable : ∀ {decoder reel frame}, Follows decoder reel → reel.Unreachable frame →
    ∃ cause after, Decoder.seek decoder frame = (.error cause, after) ∧ Follows after reel ∧
      Decoder.position after = Decoder.position decoder
  seek_reachable : ∀ {decoder reel frame}, Follows decoder reel → ¬ reel.Unreachable frame →
    ∃ after, Decoder.seek decoder frame = (.ok (), after) ∧ Follows after reel ∧
      Decoder.position after = frame
  decode_spoiled : ∀ {decoder reel} (buffer), Follows decoder reel →
    reel.Spoiled (Decoder.position decoder) →
    ∃ cause after, Decoder.decode decoder buffer = (.error cause, after, buffer) ∧
      Follows after reel ∧ Decoder.position after = Decoder.position decoder
  decode_sound : ∀ {decoder reel buffer}, Follows decoder reel → reel.IsCanvas buffer →
    ¬ reel.Spoiled (Decoder.position decoder) →
    ∃ after, Decoder.decode decoder buffer =
        (.ok (), after, reel.image (Decoder.position decoder)) ∧
      Follows after reel ∧ Decoder.position after = saturatingAdd (Decoder.position decoder) 1

/-- The decoders of the library never fail: every clip that opens follows a flawless reel. -/
def ReelLibrary.IsFlawless {δ : Type} [Decoder δ] (library : ReelLibrary δ) : Prop :=
  ∀ path decoder, library.openClip path = .ok decoder → (library.reel path).Flawless

/-! ## Rehearsal clips -/

namespace RehearsalProfile

/-- The dimensions of the decoded pictures. -/
def size (profile : RehearsalProfile) : UInt32 × UInt32 :=
  profile.decodeSize.getD (profile.info.width, profile.info.height)

/-- What a rehearsal clip shows. -/
def reel (profile : RehearsalProfile) : Reel where
  info := profile.info
  image frame := .uniform profile.size.1 profile.size.2 (lowByte frame)
  isWhole_image _ := FrameBuffer.isWhole_uniform ..
  Unreachable frame := frame ∈ profile.badSeek
  Spoiled frame := frame ∈ profile.badDecode

end RehearsalProfile

namespace RehearsalDecoder

/-- Decoding fills a picture that may be drawn over with the low byte of the position. -/
theorem decode_of_isCanvas {decoder : RehearsalDecoder} {buffer : FrameBuffer}
    (hCanvas : decoder.profile.reel.IsCanvas buffer)
    (hSound : decoder.position ∉ decoder.profile.badDecode) :
    decoder.decode buffer =
      (.ok (), { decoder with position := saturatingAdd decoder.position 1 },
        decoder.profile.reel.image decoder.position) := by
  obtain ⟨hWhole, hDims⟩ := hCanvas
  rw [decode, if_neg hSound]
  cases hSize : decoder.profile.decodeSize with
  | none =>
    have hProfile : decoder.profile.size =
        (decoder.profile.info.width, decoder.profile.info.height) := by
      rw [RehearsalProfile.size, hSize, Option.getD_none]
    have hKept : buffer.width = decoder.profile.size.1 ∧
        buffer.height = decoder.profile.size.2 := by
      rcases hDims with ⟨hWidth, hHeight⟩ | ⟨frame, rfl⟩
      · rw [hProfile]
        exact ⟨hWidth, hHeight⟩
      · exact ⟨rfl, rfl⟩
    simp only [hWhole.fill, hKept]
    rfl
  | some size =>
    obtain ⟨width, height⟩ := size
    have hProfile : decoder.profile.size = (width, height) := by
      rw [RehearsalProfile.size, hSize, Option.getD_some]
    simp only [(hWhole.resize width height).fill, FrameBuffer.width_resize,
      FrameBuffer.height_resize, RehearsalProfile.reel, hProfile]

end RehearsalDecoder

/-- Rehearsal clips follow the reels of their profiles. -/
def rehearsalReels (profiles : List (String × RehearsalProfile)) :
    ReelLibrary RehearsalDecoder where
  toClipLibrary := rehearsalLibrary profiles
  reel path := (profiles.lookup path).elim .blank RehearsalProfile.reel
  Follows decoder reel := decoder.profile.reel = reel
  opens := by
    intro path decoder hOpen
    simp only [rehearsalLibrary] at hOpen
    split at hOpen
    · rename_i profile hProfile
      split at hOpen
      · cases hOpen
      · cases hOpen
        rw [hProfile]
        exact ⟨rfl, rfl, rfl⟩
    · cases hOpen
  seek_unreachable := by
    rintro decoder _ frame rfl hBad
    exact ⟨_, decoder, if_pos hBad, rfl, rfl⟩
  seek_reachable := by
    rintro decoder _ frame rfl hGood
    exact ⟨_, if_neg hGood, rfl, rfl⟩
  decode_spoiled := by
    rintro decoder _ buffer rfl hBad
    exact ⟨_, decoder, if_pos hBad, rfl, rfl⟩
  decode_sound := by
    rintro decoder _ buffer rfl hCanvas hGood
    exact ⟨_, RehearsalDecoder.decode_of_isCanvas hCanvas hGood, rfl, rfl⟩

/-! ## Synthetic clips -/

namespace SyntheticProfile

/-- What a synthetic clip shows.  It has no frames before the first. -/
def reel (profile : SyntheticProfile) : Reel where
  info := SyntheticDecoder.info { profile }
  image frame := .uniform profile.width profile.height (lowByte frame)
  isWhole_image _ := FrameBuffer.isWhole_uniform ..
  Unreachable frame := frame < 0
  Spoiled _ := False

/-- Synthetic clips follow the reel of their profile. -/
def reels (profile : SyntheticProfile) (locate : String → Except Asset.NotFound String) :
    ReelLibrary SyntheticDecoder where
  toClipLibrary := profile.library locate
  reel _ := profile.reel
  Follows decoder reel := decoder.profile.reel = reel
  opens := by
    intro path decoder hOpen
    cases hOpen
    exact ⟨rfl, rfl, rfl⟩
  seek_unreachable := by
    rintro decoder _ frame rfl hBefore
    exact ⟨_, decoder, if_pos hBefore, rfl, rfl⟩
  seek_reachable := by
    rintro decoder _ frame rfl hBehind
    exact ⟨_, if_neg hBehind, rfl, rfl⟩
  decode_spoiled := by
    rintro decoder _ buffer rfl hBad
    exact hBad.elim
  decode_sound := by
    rintro decoder _ buffer rfl hCanvas -
    have hFill := (hCanvas.1.resize decoder.profile.width decoder.profile.height).fill
      (lowByte decoder.position)
    rw [FrameBuffer.width_resize, FrameBuffer.height_resize] at hFill
    refine ⟨{ decoder with position := saturatingAdd decoder.position 1 }, ?_, rfl, rfl⟩
    show decoder.decode buffer = _
    rw [SyntheticDecoder.decode, hFill]
    rfl

end SyntheticProfile
end BranchingMovie
