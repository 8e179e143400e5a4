import BranchingMovie.Playback.Timing

/-!
# Clip time runs forwards

The frame that the clock calls for lies between the first frame of the clip and the last one to be
played (`frameAfter_nonneg`, `frameAfter_le`), and not before the first one to be played
(`le_frameAfter`).  It never goes back while the time goes on (`frameAfter_mono`).  The time itself
goes on as long as it stays within the range of a signed word behind the start of the play
(`elapsedMs_mono`).
-/

namespace BranchingMovie

theorem clampInt64_mono {m n : Int} (h : m ≤ n) : clampInt64 m ≤ clampInt64 n := by
  unfold clampInt64
  omega

theorem clampInt64_nonneg {n : Int} (h : 0 ≤ n) : 0 ≤ clampInt64 n := by
  have hMax : Int64.maxValue.toInt = 9223372036854775807 := rfl
  unfold clampInt64
  omega

/-! ## Elapsed time -/

theorem elapsedMs_nonneg (start now : UInt64) : 0 ≤ elapsedMs start now := by
  have hMax : Int64.maxValue.toInt = 9223372036854775807 := rfl
  simp only [elapsedMs]
  split <;> omega

/-- A span within the range of a signed word counts as it is. -/
theorem elapsedMs_of_le {start now : UInt64}
    (h : (now.toNat : Int) ≤ start.toNat + Int64.maxValue.toInt) :
    elapsedMs start now = (now.toNat - start.toNat : Nat) := by
  have hMax : Int64.maxValue.toInt = 9223372036854775807 := rfl
  rw [elapsedMs, if_pos]
  omega

theorem elapsedMs_mono {start now later : UInt64} (hLater : now ≤ later)
    (h : (later.toNat : Int) ≤ start.toNat + Int64.maxValue.toInt) :
    elapsedMs start now ≤ elapsedMs start later := by
  have hNat : now.toNat ≤ later.toNat := UInt64.le_iff_toNat_le.1 hLater
  rw [elapsedMs_of_le h, elapsedMs_of_le (by omega)]
  omega

/-! ## Frames -/

namespace ClipInfo

variable (info : ClipInfo)

theorem framesIn_mono {ms later : Int} (hStart : 0 ≤ ms) (hLater : ms ≤ later) :
    info.framesIn ms ≤ info.framesIn later := by
  have hScale : (0 : Int) ≤ info.timeScale.toNat := Int.natCast_nonneg _
  have hProduct : ms * info.timeScale.toNat ≤ later * info.timeScale.toNat :=
    Int.mul_le_mul_of_nonneg_right hLater hScale
  have hNonneg : 0 ≤ clampInt64 (ms * info.timeScale.toNat) :=
    clampInt64_nonneg (Int.mul_nonneg hStart hScale)
  have hClamp := clampInt64_mono hProduct
  rw [framesIn, framesIn, Int.tdiv_eq_ediv_of_nonneg hNonneg,
    Int.tdiv_eq_ediv_of_nonneg (Int.le_trans hNonneg hClamp)]
  rcases Nat.eq_zero_or_pos info.frameDuration.toNat with hZero | hPos
  · simp [hZero]
  · exact Int.ediv_le_ediv (by omega) hClamp

theorem framesIn_nonneg {ms : Int} (h : 0 ≤ ms) : 0 ≤ info.framesIn ms := by
  have hScale : (0 : Int) ≤ info.timeScale.toNat := Int.natCast_nonneg _
  have hProduct : 0 ≤ clampInt64 (ms * info.timeScale.toNat) :=
    clampInt64_nonneg (Int.mul_nonneg h hScale)
  exact Int.tdiv_nonneg hProduct (by omega)

/-- The frame to show as a whole number: the conversion to 32 bits loses nothing. -/
theorem toInt_frameAfter (first last : Int32) (ms : Int) :
    (info.frameAfter first last ms).toInt =
      max (min (clampInt64 (first.toInt + info.framesIn ms)) last.toInt) 0 := by
  have hMin : Int32.minValue.toInt = -2147483648 := rfl
  have hMax : Int32.maxValue.toInt = 2147483647 := rfl
  have hLast := last.toInt_le
  rw [frameAfter, Int32.toInt_ofInt_of_le] <;> omega

theorem frameAfter_nonneg (first last : Int32) (ms : Int) :
    0 ≤ (info.frameAfter first last ms).toInt := by
  rw [toInt_frameAfter]
  omega

theorem frameAfter_le (first last : Int32) (ms : Int) :
    (info.frameAfter first last ms).toInt ≤ max last.toInt 0 := by
  rw [toInt_frameAfter]
  omega

/-- A play begins with its first frame, or with its last one when that lies before it. -/
theorem le_frameAfter (first last : Int32) {ms : Int} (h : 0 ≤ ms) :
    min first.toInt last.toInt ≤ (info.frameAfter first last ms).toInt := by
  have hMin : Int64.minValue.toInt = -9223372036854775808 := rfl
  have hMax : Int64.maxValue.toInt = 9223372036854775807 := rfl
  have hWord : Int32.maxValue.toInt = 2147483647 := rfl
  have hFrames := info.framesIn_nonneg h
  have hFirst := first.toInt_le
  have hLast := last.toInt_le
  rw [toInt_frameAfter]
  unfold clampInt64
  omega

theorem frameAfter_mono (first last : Int32) {ms later : Int} (hStart : 0 ≤ ms)
    (hLater : ms ≤ later) : info.frameAfter first last ms ≤ info.frameAfter first last later := by
  have hFrames := info.framesIn_mono hStart hLater
  have hClamp : clampInt64 (first.toInt + info.framesIn ms) ≤
      clampInt64 (first.toInt + info.framesIn later) := clampInt64_mono (by omega)
  rw [Int32.le_iff_toInt_le, toInt_frameAfter, toInt_frameAfter]
  omega

end ClipInfo
end BranchingMovie
