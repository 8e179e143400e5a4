import BranchingMovie.Proofs.Playback.ClipTime
import BranchingMovie.Proofs.Word

/-!
# The shift of the sound

A clip may declare that its sound begins later than its pictures, by a number of samples.  In
frames this is `offset * timeScale / (sampleRate * frameDuration)`, rounded toward zero and brought
into the range of a frame number: `ClipInfo.exactShift`, in whole numbers without bound.

The player computes it in words, and `ClipInfo.shiftInWords?` follows that computation step by step,
with no result where a product overflows.

* `ClipInfo.shiftInWords?_eq_none_iff` says when there is a result: unless the divisor overflows.
  When it does, the program stops (`ClipInfo.overflow?_eq_some_iff`).
* `ClipInfo.toInt_audioFrameShift_eq_exactShift_iff` says when it is the exact one: unless the
  shift falls short of it, because the dividend was brought into the range of a word before the
  division.
* `ClipInfo.audioFrameShift_of_declarations` puts them together for all declarations.
* `ClipInfo.not_forall_shift_exact` is a clip whose shift falls short.
-/

namespace BranchingMovie

/-! ## Rounding after saturating -/

/-- A quotient that is taken of the nearest word lies between zero and the exact one. -/
theorem tdiv_clampInt64_between {n d : Int} (hd : 0 ≤ d) :
    (0 ≤ n → 0 ≤ (clampInt64 n).tdiv d ∧ (clampInt64 n).tdiv d ≤ n.tdiv d) ∧
      (n ≤ 0 → n.tdiv d ≤ (clampInt64 n).tdiv d ∧ (clampInt64 n).tdiv d ≤ 0) := by
  constructor
  · intro hSign
    exact ⟨Int.tdiv_nonneg (clampInt64_nonneg hSign) hd, tdiv_mono hd (clampInt64_le hSign)⟩
  · intro hSign
    have hQuotient := tdiv_mono hd (clampInt64_nonpos hSign)
    rw [Int.zero_tdiv] at hQuotient
    exact ⟨tdiv_mono hd (le_clampInt64 hSign), hQuotient⟩

/-- A divisor of at most 2³² brings the ends of the range of a word to or beyond the ends of the
range of a frame number. -/
theorem tdiv_clampInt64_beyond {n d : Int} (hLow : 0 < d) (hHigh : d ≤ 4294967296)
    (h : ¬ Word.Fits n) :
    (clampInt64 n).tdiv d ≤ Int32.minValue.toInt ∨
      Int32.maxValue.toInt ≤ (clampInt64 n).tdiv d := by
  have hMin : Int64.minValue.toInt = -9223372036854775808 := rfl
  have hMax : Int64.maxValue.toInt = 9223372036854775807 := rfl
  have hFirst : Int32.minValue.toInt = -2147483648 := rfl
  have hLast : Int32.maxValue.toInt = 2147483647 := rfl
  by_cases hSign : 0 ≤ n
  · right
    have hClamp : clampInt64 n = Int64.maxValue.toInt := by
      unfold Word.Fits at h
      unfold clampInt64
      omega
    rw [hClamp, hMax, hLast, Int.tdiv_eq_ediv_of_nonneg (by decide)]
    apply (Int.le_ediv_iff_mul_le hLow).2
    omega
  · left
    have hClamp : clampInt64 n = -(9223372036854775808 : Int) := by
      unfold Word.Fits at h
      unfold clampInt64
      omega
    have hQuotient : (2147483648 : Int) ≤ 9223372036854775808 / d := by
      apply (Int.le_ediv_iff_mul_le hLow).2
      omega
    rw [hClamp, Int.neg_tdiv, Int.tdiv_eq_ediv_of_nonneg (by decide)]
    omega

namespace ClipInfo

variable (info : ClipInfo)

/-! ## The shift in words -/

/-- The shift of the sound, computed in words as a machine does it: none when the divisor
overflows. -/
def shiftInWords? : Option Int32 :=
  if !info.hasAudio || info.sampleRate == 0 then some 0
  else do
    let perFrame ← Word.mul? (Word.widen info.sampleRate) (Word.widen info.frameDuration)
    let offset := Word.saturatingMul info.audioPtsOffset (Word.widen info.timeScale)
    some (Word.nearest ((Word.div? offset perFrame).getD 0))

/-! ## The shift in whole numbers -/

/-- The dividend of the shift. -/
def offsetProduct : Int :=
  info.audioPtsOffset.toInt * info.timeScale.toNat

/-- The divisor of the shift. -/
def frameProduct : Int :=
  info.sampleRate.toNat * info.frameDuration.toNat

/-- The clip has a sound track with a sample rate. -/
def HasSound : Prop :=
  info.hasAudio = true ∧ info.sampleRate ≠ 0

instance : Decidable info.HasSound :=
  inferInstanceAs (Decidable (_ ∧ _))

/-- The frames that pass before the sound begins, rounded toward zero and brought into the range of
a frame number; zero without sound. -/
def exactShift : Int :=
  if info.HasSound then
    max Int32.minValue.toInt
      (min (info.offsetProduct.tdiv info.frameProduct) Int32.maxValue.toInt)
  else 0

/-- Frames are lost because the dividend was brought into the range of a word, and it shows: the
quotient is within the range of a frame number. -/
structure FallsShort : Prop where
  sound : info.HasSound
  cut : (clampInt64 info.offsetProduct).tdiv info.frameProduct ≠
    info.offsetProduct.tdiv info.frameProduct
  above : Int32.minValue.toInt < (clampInt64 info.offsetProduct).tdiv info.frameProduct
  below : (clampInt64 info.offsetProduct).tdiv info.frameProduct < Int32.maxValue.toInt

theorem frameProduct_nonneg : 0 ≤ info.frameProduct :=
  Int.mul_nonneg (Int.natCast_nonneg _) (Int.natCast_nonneg _)

/-- The divisor stays below 2⁶⁴ - 2³³. -/
theorem frameProduct_le : info.frameProduct ≤ 18446744065119617025 := by
  have hRate := info.sampleRate.toNat_lt
  have hDuration := info.frameDuration.toNat_lt
  have hProduct : info.sampleRate.toNat * info.frameDuration.toNat ≤ 4294967295 * 4294967295 :=
    Nat.mul_le_mul (by omega) (by omega)
  unfold frameProduct
  omega

theorem toInt_mul_toInt_widen :
    (Word.widen info.sampleRate).toInt * (Word.widen info.frameDuration).toInt =
      info.frameProduct := by
  rw [Word.toInt_widen, Word.toInt_widen, frameProduct]

theorem fits_frameProduct_iff :
    Word.Fits info.frameProduct ↔ info.frameProduct ≤ Int64.maxValue.toInt := by
  have hMin : Int64.minValue.toInt = -9223372036854775808 := rfl
  have hLow := info.frameProduct_nonneg
  unfold Word.Fits
  omega

theorem samplesPerTick_eq :
    info.samplesPerTick = Word.widen info.sampleRate * Word.widen info.frameDuration := rfl

/-- A divisor within the range of a word is the product of the words. -/
theorem toInt_samplesPerTick (h : info.frameProduct ≤ Int64.maxValue.toInt) :
    info.samplesPerTick.toInt = info.frameProduct := by
  rw [samplesPerTick_eq, Word.toInt_mul_of_fits, toInt_mul_toInt_widen]
  rwa [toInt_mul_toInt_widen, fits_frameProduct_iff]

/-- A divisor beyond it is wrapped round and turns its sign. -/
theorem toInt_samplesPerTick_neg (h : Int64.maxValue.toInt < info.frameProduct) :
    info.samplesPerTick.toInt < 0 := by
  have hHigh := info.frameProduct_le
  rw [samplesPerTick_eq]
  apply Word.toInt_mul_neg
  · rwa [toInt_mul_toInt_widen]
  · rw [toInt_mul_toInt_widen]
    omega

/-- The offset as the player takes it: the nearest word. -/
theorem toInt_saturatingMul_offset :
    (Word.saturatingMul info.audioPtsOffset (Word.widen info.timeScale)).toInt =
      clampInt64 info.offsetProduct := by
  rw [Word.toInt_saturatingMul, Word.toInt_widen, offsetProduct]

/-! ## The three ways to a shift -/

theorem silent_iff : (!info.hasAudio || info.sampleRate == 0) = true ↔ ¬ info.HasSound := by
  unfold HasSound
  cases info.hasAudio <;> simp

variable {info}

theorem not_silent (h : info.HasSound) : ¬ (!info.hasAudio || info.sampleRate == 0) = true :=
  fun hSilent => (silent_iff info).1 hSilent h

/-- Without sound there is no shift. -/
theorem shift_of_silent (h : ¬ info.HasSound) :
    info.shiftInWords? = some 0 ∧ info.audioFrameShift = 0 ∧ info.exactShift = 0 := by
  have hSilent := (silent_iff info).2 h
  exact ⟨if_pos hSilent, if_pos hSilent, if_neg h⟩

/-- With sound the shift is the quotient of the words. -/
theorem audioFrameShift_of_sound (h : info.HasSound) :
    info.audioFrameShift =
      nearestInt32 ((clampInt64 info.offsetProduct).tdiv info.samplesPerTick.toInt) :=
  if_neg (not_silent h)

/-- The words come to the shift when the divisor is within the range of a word. -/
theorem shiftInWords?_of_fits (h : info.HasSound)
    (hFits : info.frameProduct ≤ Int64.maxValue.toInt) :
    info.shiftInWords? = some info.audioFrameShift := by
  have hLow := info.frameProduct_nonneg
  obtain ⟨perFrame, hMul, hPerFrame⟩ :=
    Word.mul?_of_fits (a := Word.widen info.sampleRate) (b := Word.widen info.frameDuration)
      (by rwa [toInt_mul_toInt_widen, fits_frameProduct_iff])
  rw [toInt_mul_toInt_widen] at hPerFrame
  rw [shiftInWords?, if_neg (not_silent h), hMul, audioFrameShift_of_sound h,
    toInt_samplesPerTick info hFits]
  simp only [Option.bind_eq_bind, Option.bind_some, Option.some.injEq, Word.nearest_eq]
  refine congrArg nearestInt32 ?_
  by_cases hZero : info.frameProduct = 0
  · -- a frame that lasts no time: the quotient counts as zero
    have hNone : perFrame = 0 := by
      rw [← Int64.toInt_inj, hPerFrame, hZero]
      rfl
    rw [Word.div?, if_pos (.inl hNone), hZero, Int.tdiv_zero]
    rfl
  · obtain ⟨frames, hDiv, hFrames⟩ :=
      Word.div?_of_pos (a := Word.saturatingMul info.audioPtsOffset (Word.widen info.timeScale))
        (b := perFrame) (by omega)
    rw [hDiv, Option.getD_some, hFrames, toInt_saturatingMul_offset, hPerFrame]

/-- They come to nothing when it is not. -/
theorem shiftInWords?_of_overflow (h : info.HasSound)
    (hOverflow : Int64.maxValue.toInt < info.frameProduct) : info.shiftInWords? = none := by
  have hMul : Word.mul? (Word.widen info.sampleRate) (Word.widen info.frameDuration) = none := by
    rw [Word.mul?_eq_none_iff, toInt_mul_toInt_widen, fits_frameProduct_iff]
    omega
  rw [shiftInWords?, if_neg (not_silent h), hMul]
  rfl

theorem shiftInWords?_eq_none_iff :
    info.shiftInWords? = none ↔
      info.HasSound ∧ Int64.maxValue.toInt < info.frameProduct := by
  constructor
  · intro hNone
    by_cases hSound : info.HasSound
    · refine ⟨hSound, Int.not_le.1 fun hFits => ?_⟩
      rw [shiftInWords?_of_fits hSound hFits] at hNone
      cases hNone
    · rw [(shift_of_silent hSound).1] at hNone
      cases hNone
  · rintro ⟨hSound, hOverflow⟩
    exact shiftInWords?_of_overflow hSound hOverflow

/-- Where the words come to nothing, the program stops. -/
theorem overflow?_eq_some_iff {overflow : Overflow} :
    info.overflow? = some overflow ↔ overflow = .product ∧ info.shiftInWords? = none := by
  by_cases hSound : info.HasSound
  · have hTest : info.overflow? = if Word.Fits info.frameProduct then none else some .product := by
      simp only [← toInt_mul_toInt_widen]
      exact if_neg (not_silent hSound)
    rw [hTest, shiftInWords?_eq_none_iff, and_iff_right hSound]
    by_cases hFits : info.frameProduct ≤ Int64.maxValue.toInt
    · rw [if_pos ((fits_frameProduct_iff info).2 hFits)]
      exact iff_of_false (Option.some_ne_none _).symm fun h => Int.not_le.2 h.2 hFits
    · rw [if_neg (mt (fits_frameProduct_iff info).1 hFits), Option.some.injEq, eq_comm]
      exact (and_iff_left (Int.not_le.1 hFits)).symm
  · have hTest : info.overflow? = none := if_pos ((silent_iff info).2 hSound)
    rw [hTest, (shift_of_silent hSound).1]
    exact iff_of_false (Option.some_ne_none _).symm fun h => Option.some_ne_none _ h.2

/-- Words that come to a shift have a divisor within the range of a word. -/
theorem frameProduct_le_of_shiftInWords? {shift : Int32} (hSound : info.HasSound)
    (h : info.shiftInWords? = some shift) : info.frameProduct ≤ Int64.maxValue.toInt := by
  refine Int.not_lt.1 fun hOverflow => ?_
  rw [shiftInWords?_of_overflow hSound hOverflow] at h
  cases h

/-- Where the words come to a shift, it is the one that is played with. -/
theorem eq_of_shiftInWords? {shift : Int32} (h : info.shiftInWords? = some shift) :
    info.audioFrameShift = shift := by
  by_cases hSound : info.HasSound
  · rw [shiftInWords?_of_fits hSound (frameProduct_le_of_shiftInWords? hSound h)] at h
    exact Option.some.inj h
  · obtain ⟨hZero, hNone, -⟩ := shift_of_silent hSound
    rw [hZero] at h
    rw [hNone]
    exact Option.some.inj h

/-! ## The shift against the exact one -/

/-- The shift and the exact shift as quotients, brought into the range of a frame number. -/
theorem toInt_audioFrameShift (h : info.HasSound)
    (hFits : info.frameProduct ≤ Int64.maxValue.toInt) :
    info.audioFrameShift.toInt =
      max Int32.minValue.toInt
        (min ((clampInt64 info.offsetProduct).tdiv info.frameProduct) Int32.maxValue.toInt) := by
  rw [audioFrameShift_of_sound h, toInt_samplesPerTick info hFits, toInt_nearestInt32]

theorem exactShift_of_sound (h : info.HasSound) :
    info.exactShift =
      max Int32.minValue.toInt
        (min (info.offsetProduct.tdiv info.frameProduct) Int32.maxValue.toInt) :=
  if_pos h

theorem offsetProduct_nonneg (h : 0 ≤ info.audioPtsOffset.toInt) : 0 ≤ info.offsetProduct :=
  Int.mul_nonneg h (Int.natCast_nonneg _)

theorem offsetProduct_nonpos (h : info.audioPtsOffset.toInt ≤ 0) : info.offsetProduct ≤ 0 :=
  Int.mul_nonpos_of_nonpos_of_nonneg h (Int.natCast_nonneg _)

/-- The shift lies between zero and the exact one. -/
theorem audioFrameShift_between (h : info.HasSound)
    (hFits : info.frameProduct ≤ Int64.maxValue.toInt) :
    (0 ≤ info.audioPtsOffset.toInt →
        0 ≤ info.audioFrameShift.toInt ∧ info.audioFrameShift.toInt ≤ info.exactShift) ∧
      (info.audioPtsOffset.toInt ≤ 0 →
        info.exactShift ≤ info.audioFrameShift.toInt ∧ info.audioFrameShift.toInt ≤ 0) := by
  have hFirst : Int32.minValue.toInt = -2147483648 := rfl
  have hLast : Int32.maxValue.toInt = 2147483647 := rfl
  obtain ⟨hLate, hEarly⟩ := tdiv_clampInt64_between (n := info.offsetProduct)
    info.frameProduct_nonneg
  rw [toInt_audioFrameShift h hFits, exactShift_of_sound h]
  constructor
  · intro hSign
    obtain ⟨hLow, hHigh⟩ := hLate (offsetProduct_nonneg hSign)
    omega
  · intro hSign
    obtain ⟨hLow, hHigh⟩ := hEarly (offsetProduct_nonpos hSign)
    omega

/-- It is the exact one unless it falls short. -/
theorem toInt_audioFrameShift_eq_exactShift_iff (h : info.HasSound)
    (hFits : info.frameProduct ≤ Int64.maxValue.toInt) :
    info.audioFrameShift.toInt = info.exactShift ↔ ¬ info.FallsShort := by
  have hFirst : Int32.minValue.toInt = -2147483648 := rfl
  have hLast : Int32.maxValue.toInt = 2147483647 := rfl
  obtain ⟨hLate, hEarly⟩ := tdiv_clampInt64_between (n := info.offsetProduct)
    info.frameProduct_nonneg
  have hSign : 0 ≤ info.offsetProduct ∨ info.offsetProduct ≤ 0 := by omega
  rw [toInt_audioFrameShift h hFits, exactShift_of_sound h]
  constructor
  · rintro hSame ⟨-, hCut, hAbove, hBelow⟩
    omega
  · intro hTrue
    refine Decidable.byContradiction fun hDiffers => hTrue ⟨h, ?_, ?_, ?_⟩
    · intro hSame
      rw [hSame] at hDiffers
      exact hDiffers rfl
    · omega
    · omega

/-- It does not fall short when the dividend is within the range of a word, or the divisor is at
most 2³². -/
theorem not_fallsShort
    (h : Word.Fits info.offsetProduct ∨ info.frameProduct ≤ 4294967296) : ¬ info.FallsShort := by
  rintro ⟨-, hCut, hAbove, hBelow⟩
  by_cases hFits : Word.Fits info.offsetProduct
  · rw [Word.clampInt64_of_fits hFits] at hCut
    exact hCut rfl
  · have hSmall := h.resolve_left hFits
    have hLow := info.frameProduct_nonneg
    by_cases hZero : info.frameProduct = 0
    · simp [hZero] at hCut
    · have hBeyond := tdiv_clampInt64_beyond (by omega) hSmall hFits
      omega

/-- A divisor that overflows turns the sign of the shift. -/
theorem audioFrameShift_of_overflow (h : info.HasSound)
    (hOverflow : Int64.maxValue.toInt < info.frameProduct) :
    (0 ≤ info.audioPtsOffset.toInt → info.audioFrameShift.toInt ≤ 0) ∧
      (info.audioPtsOffset.toInt ≤ 0 → 0 ≤ info.audioFrameShift.toInt) := by
  have hFirst : Int32.minValue.toInt = -2147483648 := rfl
  have hLast : Int32.maxValue.toInt = 2147483647 := rfl
  have hNegative := info.toInt_samplesPerTick_neg hOverflow
  rw [audioFrameShift_of_sound h, toInt_nearestInt32]
  constructor
  · intro hSign
    have hClamp := clampInt64_nonneg (offsetProduct_nonneg hSign)
    have hQuotient := Int.tdiv_nonpos_of_nonneg_of_nonpos hClamp (Int.le_of_lt hNegative)
    omega
  · intro hSign
    have hClamp := clampInt64_nonpos (offsetProduct_nonpos hSign)
    have hQuotient := Int.tdiv_nonneg_of_nonpos_of_nonpos hClamp (Int.le_of_lt hNegative)
    omega

/-- **The shift of the sound for all declarations.**  Without a sound track, or with a sample rate
of zero, the shift is zero.  With sound the words overflow exactly when the product of sample rate
and frame duration is beyond the range of a signed word; wrapped round, the shift then has the wrong
sign.  Otherwise the words come to a shift, which the player plays with.  It lies between zero and
the exact shift, and it is the exact one exactly when it does not fall short of it, as it never does
when the product of offset and time scale is within the range of a signed word, or the product of
sample rate and frame duration is at most 2³². -/
theorem audioFrameShift_of_declarations (info : ClipInfo) :
    (¬ info.HasSound → info.shiftInWords? = some 0) ∧
    (info.shiftInWords? = none ↔
      info.HasSound ∧ Int64.maxValue.toInt < info.frameProduct) ∧
    (info.shiftInWords? = none →
      (0 ≤ info.audioPtsOffset.toInt → info.audioFrameShift.toInt ≤ 0) ∧
      (info.audioPtsOffset.toInt ≤ 0 → 0 ≤ info.audioFrameShift.toInt)) ∧
    (∀ shift, info.shiftInWords? = some shift → info.audioFrameShift = shift ∧
      (0 ≤ info.audioPtsOffset.toInt → 0 ≤ shift.toInt ∧ shift.toInt ≤ info.exactShift) ∧
      (info.audioPtsOffset.toInt ≤ 0 → info.exactShift ≤ shift.toInt ∧ shift.toInt ≤ 0) ∧
      (shift.toInt = info.exactShift ↔ ¬ info.FallsShort) ∧
      (Word.Fits info.offsetProduct ∨ info.frameProduct ≤ 4294967296 → ¬ info.FallsShort)) := by
  refine ⟨fun hSilent => (shift_of_silent hSilent).1, shiftInWords?_eq_none_iff, ?_, ?_⟩
  · intro hNone
    obtain ⟨hSound, hOverflow⟩ := shiftInWords?_eq_none_iff.1 hNone
    exact audioFrameShift_of_overflow hSound hOverflow
  · intro shift hShift
    obtain rfl := eq_of_shiftInWords? hShift
    by_cases hSound : info.HasSound
    · have hFits := frameProduct_le_of_shiftInWords? hSound hShift
      obtain ⟨hLate, hEarly⟩ := audioFrameShift_between hSound hFits
      exact ⟨rfl, hLate, hEarly, toInt_audioFrameShift_eq_exactShift_iff hSound hFits,
        not_fallsShort⟩
    · obtain ⟨-, hShift, hExact⟩ := shift_of_silent hSound
      have hTrue : ¬ info.FallsShort := fun hShort => hSound hShort.sound
      rw [hShift, hExact]
      exact ⟨rfl, fun _ => ⟨by decide, by decide⟩, fun _ => ⟨by decide, by decide⟩,
        ⟨fun _ => hTrue, fun _ => rfl⟩, fun _ => hTrue⟩

section Example

/-- A clip of ten frames per second whose sound begins two frames late. -/
def twoFramesLate : ClipInfo where
  width := 2
  height := 1
  timeScale := 600
  frameDuration := 60
  hasAudio := true
  audioPtsOffset := 4410
  sampleRate := 22050

/-- The words come to the two frames. -/
theorem audioFrameShift_of_declarations_of_two_frames :
    twoFramesLate.HasSound ∧ twoFramesLate.frameProduct ≤ 4294967296 ∧
      ∃ shift, twoFramesLate.shiftInWords? = some shift ∧ shift.toInt = 2 := by
  obtain ⟨-, hNone, -, hExact⟩ := audioFrameShift_of_declarations twoFramesLate
  have hSmall : twoFramesLate.frameProduct ≤ 4294967296 := by decide
  refine ⟨by decide, hSmall, ?_⟩
  cases hShift : twoFramesLate.shiftInWords? with
  | none =>
    obtain ⟨-, hOverflow⟩ := hNone.1 hShift
    exact absurd hOverflow (by decide)
  | some shift =>
    obtain ⟨-, -, -, hSame, hTrue⟩ := hExact shift hShift
    have hTwo : twoFramesLate.exactShift = 2 := by decide
    refine ⟨shift, rfl, ?_⟩
    rw [← hTwo]
    exact hSame.2 (hTrue (.inr hSmall))

/-- A clip whose sound begins as late as can be declared, by a dividend and a divisor that are both
close to the ends of their ranges. -/
def latest : ClipInfo where
  width := 2
  height := 1
  timeScale := 4294967295
  frameDuration := 2147483648
  hasAudio := true
  audioPtsOffset := 9223372036854775807
  sampleRate := 4294967295

/-- The player shifts it by one frame, although its sound begins after all frames that have a
number. -/
theorem not_forall_shift_exact :
    ¬ ∀ info : ClipInfo, info.HasSound → info.timeScale ≠ 0 → info.frameDuration ≠ 0 →
      info.audioFrameShift.toInt = info.exactShift := by
  intro hAll
  exact absurd (hAll latest (by decide) (by decide) (by decide)) (by decide)

end Example

end ClipInfo
end BranchingMovie
