import BranchingMovie.Overflow
import BranchingMovie.Playback.Decoder
import BranchingMovie.Saturating

/-!
# Clip time

Which frame of a clip the clock calls for, and by how many frames the sound shifts the range that is
played.
-/

namespace BranchingMovie

/-- The milliseconds from `start` to `now`, none when the clock went back.  A span of 2⁶³
milliseconds or more counts as half the greatest span. -/
def elapsedMs (start now : UInt64) : Int :=
  let span : Nat := now.toNat - start.toNat
  if (span : Int) ≤ Int64.maxValue.toInt then span else Int64.maxValue.toInt / 2

namespace ClipInfo

/-- The whole frames that pass in a span of milliseconds. -/
def framesIn (info : ClipInfo) (ms : Int) : Int :=
  (clampInt64 (ms * info.timeScale.toNat)).tdiv (info.frameDuration.toNat * 1000)

/-- The frame to show `ms` milliseconds after the start of a play from `first` to `last`: never
behind `last`, and never before the first frame of the clip. -/
def frameAfter (info : ClipInfo) (first last : Int32) (ms : Int) : Int32 :=
  Int32.ofInt (max (min (clampInt64 (first.toInt + info.framesIn ms)) last.toInt) 0)

/-- The samples that pass in one unit of the clip's clock and frame: the product of sample rate and
frame duration as a signed word of 64 bits.  A product that does not fit is wrapped around here, and
stops the program (`ClipInfo.overflow?`). -/
def samplesPerTick (info : ClipInfo) : Int64 :=
  info.sampleRate.toUInt64.toInt64 * info.frameDuration.toUInt64.toInt64

/-- The overflow that stops the program when a play of the clip is to be shifted, if there is one.
Without a sound track nothing is multiplied. -/
def overflow? (info : ClipInfo) : Option Overflow :=
  if !info.hasAudio || info.sampleRate == 0 then none
  else Overflow.ofProduct? info.sampleRate.toUInt64.toInt64 info.frameDuration.toUInt64.toInt64

/-- The frames that pass before the sound begins, zero without a sound track. -/
def audioFrameShift (info : ClipInfo) : Int32 :=
  if !info.hasAudio || info.sampleRate == 0 then 0
  else
    nearestInt32 ((clampInt64 (info.audioPtsOffset.toInt * info.timeScale.toNat)).tdiv
      info.samplesPerTick.toInt)

end ClipInfo
end BranchingMovie
