import BranchingMovie.Playback.Rehearsal
import BranchingMovie.Proofs.Playback.Course
import BranchingMovie.Proofs.Playback.Requests
import BranchingMovie.Proofs.Word

/-!
# The declared timing of a clip

A clip declares how long its frames last.  After `t` milliseconds of a play that begins with frame
`S` and ends with frame `E`, the clip has come to the frame `max 0 (min E (S + f))`, where `f` is
the number of whole frames in `t` milliseconds: `ClipInfo.exactFrame`, in whole numbers without
bound.

The player computes its frame in words.  `ClipInfo.frameInWords?` follows that computation step by
step, with no result where a product overflows or a divisor is zero.

* `ClipInfo.frameInWords?_eq` says that it always has a result, the one of `ClipInfo.frameAfter`.
* `ClipInfo.toInt_frameAfter_eq_exactFrame_iff` compares this frame with the declared timing: they
  differ exactly when the count of frames lags, which takes a product of milliseconds and time scale
  beyond the range of a signed word (`ClipInfo.Lags.overflow`).
* `Player.updateFrame_on_time` says it of what an update brings up.
* `Player.not_forall_frame_on_time` is a play that does lag, and goes back as the clock goes on.
-/

namespace BranchingMovie

/-! ## The clock in words -/

/-- The milliseconds from `start` to `now`, none when the clock went back. -/
def spanWord (start now : UInt64) : UInt64 :=
  if start ≤ now then now - start else 0

/-- The milliseconds that count, as a signed word. -/
def elapsedWord (start now : UInt64) : Int64 :=
  if spanWord start now ≤ Int64.maxValue.toUInt64 then (spanWord start now).toInt64
  else Int64.maxValue / 2

theorem toNat_spanWord (start now : UInt64) :
    (spanWord start now).toNat = now.toNat - start.toNat := by
  unfold spanWord
  split
  · rename_i hLe
    exact UInt64.toNat_sub_of_le _ _ hLe
  · rename_i hLess
    rw [UInt64.le_iff_toNat_le] at hLess
    have hZero : (0 : UInt64).toNat = 0 := rfl
    omega

theorem toInt_elapsedWord (start now : UInt64) :
    (elapsedWord start now).toInt = elapsedMs start now := by
  have hMax : Int64.maxValue.toInt = 9223372036854775807 := rfl
  have hWord : Int64.maxValue.toUInt64.toNat = 9223372036854775807 := rfl
  have hSpan := toNat_spanWord start now
  simp only [elapsedWord, elapsedMs, UInt64.le_iff_toNat_le, hWord]
  split
  · rename_i hNear
    rw [if_pos (by omega), toInt_toInt64 (by omega), hSpan]
  · rename_i hFar
    rw [if_neg (by omega)]
    rfl

namespace ClipInfo

/-- The frame to show, computed in words as a machine does it: none when a product overflows, a
divisor is zero, or the frame does not fit into its word. -/
def frameInWords? (info : ClipInfo) (first last : Int32) (start now : UInt64) : Option Int32 := do
  let perFrame ← Word.mul? (Word.widen info.frameDuration) 1000
  let passed ←
    Word.div? (Word.saturatingMul (elapsedWord start now) (Word.widen info.timeScale)) perFrame
  let target := Word.saturatingSum first.toInt64 passed
  Word.narrow? (Word.greatest (Word.least target last.toInt64) 0)

variable (info : ClipInfo)

/-- The words come to the frame to show, without any overflow or division by zero. -/
theorem frameInWords?_eq (h : info.frameDuration ≠ 0) (first last : Int32) (start now : UInt64) :
    info.frameInWords? first last start now =
      some (info.frameAfter first last (elapsedMs start now)) := by
  have hMin : Int64.minValue.toInt = -9223372036854775808 := rfl
  have hMax : Int64.maxValue.toInt = 9223372036854775807 := rfl
  have hThousand : (1000 : Int64).toInt = 1000 := rfl
  have hBound := info.frameDuration.toNat_lt
  have hPos : 0 < info.frameDuration.toNat :=
    Nat.pos_of_ne_zero fun hZero => h (UInt32.toNat_inj.1 hZero)
  obtain ⟨perFrame, hMul, hPerFrame⟩ :=
    Word.mul?_of_fits (a := Word.widen info.frameDuration) (b := 1000)
      (by rw [Word.Fits, Word.toInt_widen, hThousand]; omega)
  rw [Word.toInt_widen, hThousand] at hPerFrame
  obtain ⟨passed, hDiv, hPassed⟩ :=
    Word.div?_of_pos (a := Word.saturatingMul (elapsedWord start now) (Word.widen info.timeScale))
      (b := perFrame) (by omega)
  rw [hPerFrame, Word.toInt_saturatingMul, toInt_elapsedWord, Word.toInt_widen] at hPassed
  have hFrames : passed.toInt = info.framesIn (elapsedMs start now) := hPassed
  simp only [frameInWords?, hMul, hDiv, Option.bind_eq_bind, Option.bind_some]
  refine Word.narrow?_of_toInt ?_
  rw [toInt_frameAfter, ← hFrames, Word.toInt_greatest, Word.toInt_least, Word.toInt_saturatingSum,
    Int32.toInt_toInt64, Int32.toInt_toInt64]
  rfl

end ClipInfo

/-! ## The timing in whole numbers -/

/-- The milliseconds from `start` to `now` as a whole number, none when the clock went back. -/
def exactMs (start now : UInt64) : Int :=
  max ((now.toNat : Int) - start.toNat) 0

theorem exactMs_nonneg (start now : UInt64) : 0 ≤ exactMs start now :=
  Int.le_max_right _ _

/-- No more milliseconds count than pass. -/
theorem elapsedMs_le_exactMs (start now : UInt64) : elapsedMs start now ≤ exactMs start now := by
  have hMax : Int64.maxValue.toInt = 9223372036854775807 := rfl
  simp only [elapsedMs, exactMs]
  split <;> omega

/-- All of them count as long as their number is within the range of a signed word. -/
theorem elapsedMs_eq_exactMs {start now : UInt64} (h : exactMs start now ≤ Int64.maxValue.toInt) :
    elapsedMs start now = exactMs start now := by
  unfold exactMs at h ⊢
  rw [elapsedMs_of_le (by omega)]
  omega

namespace ClipInfo

variable (info : ClipInfo) (first last : Int32) (start now : UInt64)

/-- The whole frames that pass from `start` to `now` by the declared timing. -/
def exactFrames : Int :=
  exactMs start now * info.timeScale.toNat / (info.frameDuration.toNat * 1000)

/-- The frame that the declared timing calls for in a play from `first` to `last`. -/
def exactFrame : Int :=
  max 0 (min last.toInt (first.toInt + info.exactFrames start now))

/-- Fewer frames are counted than pass, and it shows: by its own count the play has not come to its
last frame, and by the declared timing it has left the first frame of the clip behind. -/
structure Lags : Prop where
  counted : info.framesIn (elapsedMs start now) < info.exactFrames start now
  unfinished : first.toInt + info.framesIn (elapsedMs start now) < last.toInt
  begun : 0 < first.toInt + info.exactFrames start now
  lasting : 0 < last.toInt

/-- No more frames are counted than pass. -/
theorem framesIn_le_exactFrames :
    info.framesIn (elapsedMs start now) ≤ info.exactFrames start now := by
  have hScale : (0 : Int) ≤ info.timeScale.toNat := Int.natCast_nonneg _
  have hCounted : 0 ≤ elapsedMs start now * info.timeScale.toNat :=
    Int.mul_nonneg (elapsedMs_nonneg start now) hScale
  have hPassed : 0 ≤ exactMs start now * info.timeScale.toNat :=
    Int.mul_nonneg (exactMs_nonneg start now) hScale
  have hProduct : elapsedMs start now * info.timeScale.toNat ≤
      exactMs start now * info.timeScale.toNat :=
    Int.mul_le_mul_of_nonneg_right (elapsedMs_le_exactMs start now) hScale
  rw [framesIn, exactFrames, ← Int.tdiv_eq_ediv_of_nonneg hPassed]
  exact tdiv_mono (by omega) (Int.le_trans (clampInt64_le hCounted) hProduct)

/-- They are the same as long as the units of the clip's clock that pass can be counted in a signed
word. -/
theorem framesIn_eq_exactFrames (hScale : info.timeScale ≠ 0)
    (h : exactMs start now * info.timeScale.toNat ≤ Int64.maxValue.toInt) :
    info.framesIn (elapsedMs start now) = info.exactFrames start now := by
  have hMin : Int64.minValue.toInt = -9223372036854775808 := rfl
  have hMs := exactMs_nonneg start now
  have hPos : (1 : Int) ≤ info.timeScale.toNat := by
    have hNe : info.timeScale.toNat ≠ 0 := fun hZero => hScale (UInt32.toNat_inj.1 hZero)
    omega
  have hNear : exactMs start now ≤ exactMs start now * info.timeScale.toNat := by
    have hMul := Int.mul_le_mul_of_nonneg_left hPos hMs
    rwa [Int.mul_one] at hMul
  have hFits : Word.Fits (exactMs start now * info.timeScale.toNat) := ⟨by omega, h⟩
  rw [framesIn, exactFrames, elapsedMs_eq_exactMs (Int.le_trans hNear h),
    Word.clampInt64_of_fits hFits, Int.tdiv_eq_ediv_of_nonneg (by omega)]

/-- The frame to show as the frames counted make it. -/
theorem toInt_frameAfter_elapsedMs :
    (info.frameAfter first last (elapsedMs start now)).toInt =
      max 0 (min last.toInt (first.toInt + info.framesIn (elapsedMs start now))) := by
  have hMin : Int64.minValue.toInt = -9223372036854775808 := rfl
  have hMax : Int64.maxValue.toInt = 9223372036854775807 := rfl
  have hLow : Int32.minValue.toInt = -2147483648 := rfl
  have hHigh : Int32.maxValue.toInt = 2147483647 := rfl
  have hFrames := info.framesIn_nonneg (elapsedMs_nonneg start now)
  have hFirst := first.minValue_le_toInt
  have hLast := last.toInt_le
  rw [toInt_frameAfter]
  unfold clampInt64
  omega

/-- The frame to show is never ahead of the declared timing. -/
theorem toInt_frameAfter_le_exactFrame :
    (info.frameAfter first last (elapsedMs start now)).toInt ≤
      info.exactFrame first last start now := by
  have hFrames := info.framesIn_le_exactFrames start now
  rw [toInt_frameAfter_elapsedMs, exactFrame]
  omega

/-- It is the frame of the declared timing, unless the count lags. -/
theorem toInt_frameAfter_eq_exactFrame_iff :
    (info.frameAfter first last (elapsedMs start now)).toInt =
      info.exactFrame first last start now ↔ ¬ info.Lags first last start now := by
  have hFrames := info.framesIn_le_exactFrames start now
  rw [toInt_frameAfter_elapsedMs, exactFrame]
  constructor
  · rintro hSame ⟨hCounted, hUnfinished, hBegun, hLasting⟩
    omega
  · intro hTrue
    refine Decidable.byContradiction fun hDiffers => hTrue ?_
    exact ⟨by omega, by omega, by omega, by omega⟩

variable {info first last start now}

/-- A count that lags has more units of the clip's clock to count than a signed word can hold. -/
theorem Lags.overflow (h : info.Lags first last start now) (hScale : info.timeScale ≠ 0) :
    Int64.maxValue.toInt < exactMs start now * info.timeScale.toNat := by
  refine Int.not_le.1 fun hNear => ?_
  have hSame := info.framesIn_eq_exactFrames start now hScale hNear
  have hCounted := h.counted
  omega

end ClipInfo

/-! ## The frame that an update brings up -/

namespace Player

variable {δ : Type} [Decoder δ]

theorem fault_of_decodeFrame {player after : Player δ} {clip : LoadedClip δ} {decoder : δ}
    {wanted : Int32} {fault : PlaybackError}
    (h : player.decodeFrame clip decoder wanted = (.error fault, after)) :
    ∃ cause, fault = .notDecoded clip.name wanted cause := by
  simp only [decodeFrame] at h
  split at h
  · cases h
    exact ⟨_, rfl⟩
  · cases h

/-- A frame cannot be put on display because of its decoder, or because it cannot be decoded. -/
theorem fault_of_present {player after : Player δ} {clip : LoadedClip δ} {wanted : Int32}
    {fault : PlaybackError} (h : player.present clip wanted = (.error fault, after)) :
    fault = .decoderPoisoned ∨ ∃ cause, fault = .notDecoded clip.name wanted cause := by
  unfold present at h
  split at h
  · cases h
  · split at h
    · cases h
      exact .inl rfl
    · split at h
      · exact .inr (fault_of_decodeFrame h)
      · split at h
        · cases h
          exact .inr ⟨_, rfl⟩
        · exact .inr (fault_of_decodeFrame h)

/-- The frame that cannot be shown is the one that the clock calls for. -/
theorem fault_of_updateFrame {player after : Player δ} {clip : LoadedClip δ} {now : UInt64}
    {wanted : Int32} {fault : PlaybackError} (hClip : player.clip = some clip)
    (hWanted : player.wantedFrame clip.info now = some wanted)
    (h : player.updateFrame now = (.error fault, after)) :
    fault = .decoderPoisoned ∨ ∃ cause, fault = .notDecoded clip.name wanted cause := by
  simp only [updateFrame, hClip, hWanted] at h
  split at h
  · rename_i hPresent
    cases h
    exact fault_of_present hPresent
  · cases h

/-- **The declared timing of a play.**  A clip is playing and declares a time scale and a frame
duration, neither of which is zero.  Then an update calls for a frame that the words of a machine
come to without any overflow and without a division by zero.  This is the frame on display when the
update succeeds, and the frame that cannot be decoded when it fails, unless the decoder has broken
down.  It is never ahead of the declared timing, and it is the frame of the declared timing exactly
when the count of frames does not lag, as it never does while the units of the clip's clock since
the start of the play can be counted in a signed word. -/
theorem updateFrame_on_time {player : Player δ} {clip : LoadedClip δ} (now : UInt64)
    (hClip : player.clip = some clip) (hState : player.state = .playing)
    (hScale : clip.info.timeScale ≠ 0) (hDuration : clip.info.frameDuration ≠ 0) :
    let first := player.startFrame
    let last := player.endFrame
    let start := player.startTime
    ∃ wanted : Int32, clip.info.frameInWords? first last start now = some wanted ∧
      (∀ ended after, player.updateFrame now = (.ok ended, after) →
        after.currentFrame = some wanted) ∧
      (∀ fault after, player.updateFrame now = (.error fault, after) →
        fault = .decoderPoisoned ∨ ∃ cause, fault = .notDecoded clip.name wanted cause) ∧
      wanted.toInt ≤ clip.info.exactFrame first last start now ∧
      (wanted.toInt = clip.info.exactFrame first last start now ↔
        ¬ clip.info.Lags first last start now) ∧
      (exactMs start now * clip.info.timeScale.toNat ≤ Int64.maxValue.toInt →
        ¬ clip.info.Lags first last start now) := by
  intro first last start
  have hWanted : player.wantedFrame clip.info now = some (player.frameAt clip.info now) := by
    rw [wantedFrame, hState, frameAt]
  refine ⟨player.frameAt clip.info now, clip.info.frameInWords?_eq hDuration first last start now,
    ?_, ?_, clip.info.toInt_frameAfter_le_exactFrame first last start now,
    clip.info.toInt_frameAfter_eq_exactFrame_iff first last start now, ?_⟩
  · intro ended after hUpdate
    exact (updateFrame_playing (setting_clip hClip) hState hUpdate).1
  · intro fault after hUpdate
    exact fault_of_updateFrame hClip hWanted hUpdate
  · intro hNear hLags
    have hFar := hLags.overflow hScale
    omega

section Example

/-- A clip of ten frames per second. -/
def tenPerSecond : RehearsalProfile where
  info := { width := 2, height := 1, timeScale := 600, frameDuration := 60 }

/-- The clip plays from frame 10 to frame 50, from the beginning of time on. -/
def tenPerSecondPlaying : Player RehearsalDecoder :=
  (play (rehearsalLibrary [("clip.mov", tenPerSecond)]) {} "clip.mov" 10 50 0).2

/-- A quarter of a second later it shows frame 12. -/
theorem updateFrame_on_time_of_ten_per_second :
    ∃ wanted : Int32, wanted.toInt = 12 ∧
      ∀ ended after, tenPerSecondPlaying.updateFrame 250 = (.ok ended, after) →
        after.currentFrame = some wanted := by
  have hClip : tenPerSecondPlaying.clip =
      some ⟨"clip.mov", { serial := 0, decoder := { profile := tenPerSecond } },
        tenPerSecond.info⟩ := rfl
  obtain ⟨wanted, -, hShown, -, -, hExact, hNear⟩ :=
    updateFrame_on_time 250 hClip rfl (by decide) (by decide)
  have hTwelve : tenPerSecond.info.exactFrame 10 50 0 250 = 12 := by decide
  refine ⟨wanted, ?_, hShown⟩
  rw [← hTwelve]
  exact hExact.2 (hNear (by decide))

/-- A clip whose frames last as long as they can. -/
def slow : RehearsalProfile where
  info := { width := 2, height := 1, timeScale := 1, frameDuration := 4294967295 }

/-- The clip plays all its frames, and the clock is at the last millisecond that a signed word can
count. -/
def slowRequests : List Request :=
  [.play "slow.mov" 0 2147483647 0, .update 9223372036854775807]

/-- One millisecond later the player has gone back to half of the frames, although the declared
timing stays with the frame that is on display. -/
theorem not_forall_frame_on_time :
    ¬ ∀ (profiles : List (String × RehearsalProfile)) (requests : List Request) (now : UInt64)
        (clip : LoadedClip RehearsalDecoder) (ended : Option EndOfClip),
      let player :=
        ({} : Player RehearsalDecoder).serveAll present (rehearsalLibrary profiles) requests
      player.clip = some clip → player.state = .playing →
      (player.updateFrame now).1 = .ok ended →
      (player.updateFrame now).2.currentFrame.map Int32.toInt =
        some (clip.info.exactFrame player.startFrame player.endFrame player.startTime now) := by
  intro hAll
  have hShown := hAll [("slow.mov", slow)] slowRequests 9223372036854775808
    ⟨"slow.mov", { serial := 0, decoder := { profile := slow, position := 2147484 } }, slow.info⟩
    none (by rfl) (by decide +kernel) (by rfl)
  exact absurd hShown (by decide +kernel)

end Example

end Player
end BranchingMovie
