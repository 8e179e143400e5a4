import BranchingMovie.Playback.Synthetic
import BranchingMovie.Proofs.Playback.ClipTime
import BranchingMovie.Proofs.Playback.Setting

/-!
# The course of a play

A play that is left to the clock shows frames in their order, ends once, and then stands still.

* `updateFrame_playing` says what one update of a play does: it shows the frame of its time, and it
  ends the play exactly when that frame is the last one or lies behind it.
* `course_of_stopped` says that nothing happens to a stopped player.
* `course_of_play` puts them together over any row of times.
-/

namespace BranchingMovie
namespace Player

variable {δ : Type} [Decoder δ]

/-- What becomes of a player at one time after the other: each outcome with the player after it. -/
def course (player : Player δ) :
    List UInt64 → List (Except PlaybackError (Option EndOfClip) × Player δ)
  | [] => []
  | now :: times => player.updateFrame now :: (player.updateFrame now).2.course times

/-- The frame that a play of a clip calls for at a time. -/
def frameAt (player : Player δ) (info : ClipInfo) (now : UInt64) : Int32 :=
  info.frameAfter player.startFrame player.endFrame (elapsedMs player.startTime now)

variable {player after : Player δ} {key : String} {info : ClipInfo} {now : UInt64}
  {times : List UInt64}

omit [Decoder δ] in
theorem frameAt_congr (h : after.setting = player.setting) :
    after.frameAt info now = player.frameAt info now := by
  have hStart : after.startFrame = player.startFrame := congrArg Setting.startFrame h
  have hEnd : after.endFrame = player.endFrame := congrArg Setting.endFrame h
  have hTime : after.startTime = player.startTime := congrArg Setting.startTime h
  rw [frameAt, frameAt, hStart, hEnd, hTime]

/-- One update of a play goes on before the last frame and ends the play from there on. -/
theorem updateFrame_playing {ended : Option EndOfClip}
    (hClip : player.setting.clip = some (key, info)) (hState : player.state = .playing)
    (h : player.updateFrame now = (.ok ended, after)) :
    after.currentFrame = some (player.frameAt info now) ∧
      (¬ player.endFrame ≤ player.frameAt info now ∧ ended = none ∧
          after.setting = player.setting ∨
        player.endFrame ≤ player.frameAt info now ∧ ended = some ⟨key, player.endFrame⟩ ∧
          after.state = .stopped) := by
  obtain ⟨clip, hLoaded, hPair⟩ := Option.map_eq_some_iff.1 hClip
  obtain ⟨rfl, rfl⟩ := Prod.mk.inj hPair
  have hWanted : player.wantedFrame clip.info now = some (player.frameAt clip.info now) := by
    rw [wantedFrame, hState, frameAt]
  obtain ⟨shown, hSetting, hShown, hSettle⟩ := updateFrame_ok hLoaded hWanted h
  have hEnd : shown.endFrame = player.endFrame := congrArg Setting.endFrame hSetting
  by_cases hLast : player.endFrame ≤ player.frameAt clip.info now
  · have hPlaying : shown.state = .playing := by
      rw [← hState]
      exact congrArg Setting.state hSetting
    rw [settle_of_le hShown hPlaying (by rwa [hEnd]), hEnd] at hSettle
    obtain ⟨rfl, rfl⟩ := Prod.mk.inj hSettle
    exact ⟨hShown, .inr ⟨hLast, rfl, rfl⟩⟩
  · rw [settle_of_lt hShown (by rwa [hEnd])] at hSettle
    obtain ⟨rfl, rfl⟩ := Prod.mk.inj hSettle
    exact ⟨hShown, .inl ⟨hLast, rfl, hSetting⟩⟩

/-- A stopped player stands still. -/
theorem course_of_stopped (h : player.state = .stopped) (times : List UInt64) :
    player.course times = times.map fun _ => (.ok none, player) := by
  induction times with
  | nil => rfl
  | cons now times ih => rw [course, updateFrame_of_stopped h, ih, List.map_cons]

/-- A course without a fault begins with an update without a fault, and goes on without one. -/
theorem course_cons (hOk : ∀ step ∈ player.course (now :: times), ∃ ended, step.1 = .ok ended) :
    ∃ ended after, player.updateFrame now = (.ok ended, after) ∧
      player.course (now :: times) = (.ok ended, after) :: after.course times ∧
      ∀ step ∈ after.course times, ∃ ended, step.1 = .ok ended := by
  obtain ⟨ended, hEnded⟩ := hOk _ (List.mem_cons_self ..)
  have hUpdate : player.updateFrame now = (.ok ended, (player.updateFrame now).2) :=
    Prod.ext hEnded rfl
  refine ⟨ended, _, hUpdate, ?_, fun step hStep => hOk step (List.mem_cons_of_mem _ hStep)⟩
  rw [course, ← hUpdate]

/-- The frames of a play are those of some of its times, in order. -/
theorem exists_frames (hClip : player.setting.clip = some (key, info))
    (hState : player.state = .playing) (hSorted : times.Pairwise (· ≤ ·))
    (hNear : ∀ now ∈ times, (now.toNat : Int) ≤ player.startTime.toNat + Int64.maxValue.toInt)
    (hOk : ∀ step ∈ player.course times, ∃ ended, step.1 = .ok ended) :
    ∃ frames : List Int32, (player.course times).map (·.2.currentFrame) = frames.map some ∧
      frames.Pairwise (· ≤ ·) ∧
      ∀ frame ∈ frames, ∃ now ∈ times, frame = player.frameAt info now := by
  induction times generalizing player with
  | nil => exact ⟨[], rfl, .nil, by simp⟩
  | cons now times ih =>
    obtain ⟨hFirst, hSorted⟩ := List.pairwise_cons.1 hSorted
    have hForward : ∀ later ∈ times, player.frameAt info now ≤ player.frameAt info later := by
      intro later hLater
      exact info.frameAfter_mono _ _ (elapsedMs_nonneg _ _)
        (elapsedMs_mono (hFirst later hLater) (hNear later (List.mem_cons_of_mem _ hLater)))
    obtain ⟨ended, after, hUpdate, hRest, hOk⟩ := course_cons hOk
    obtain ⟨hShown, hStep⟩ := updateFrame_playing hClip hState hUpdate
    rw [hRest, List.map_cons, hShown]
    rcases hStep with ⟨-, -, hSetting⟩ | ⟨-, -, hStopped⟩
    · -- the play goes on from the same setting
      have hClip' : after.setting.clip = some (key, info) := by rw [hSetting, hClip]
      have hStart : after.startTime = player.startTime := congrArg Setting.startTime hSetting
      obtain ⟨frames, hFrames, hOrder, hTimes⟩ := ih hClip'
        ((congrArg Setting.state hSetting).trans hState) hSorted
        (fun later hLater => by
          rw [hStart]
          exact hNear later (List.mem_cons_of_mem _ hLater)) hOk
      have hTimes : ∀ frame ∈ frames, ∃ now ∈ times, frame = player.frameAt info now := by
        simpa only [frameAt_congr hSetting] using hTimes
      refine ⟨player.frameAt info now :: frames, by rw [hFrames, List.map_cons], ?_, ?_⟩
      · refine List.pairwise_cons.2 ⟨fun frame hFrame => ?_, hOrder⟩
        obtain ⟨later, hLater, rfl⟩ := hTimes frame hFrame
        exact hForward later hLater
      · intro frame hFrame
        rcases List.mem_cons.1 hFrame with rfl | hFrame
        · exact ⟨now, List.mem_cons_self .., rfl⟩
        · obtain ⟨later, hLater, rfl⟩ := hTimes frame hFrame
          exact ⟨later, List.mem_cons_of_mem _ hLater, rfl⟩
    · -- the play has ended, and its last frame stays
      refine ⟨List.replicate (times.length + 1) (player.frameAt info now), ?_, ?_, ?_⟩
      · rw [course_of_stopped hStopped, List.map_map, List.replicate_succ, List.map_cons,
          List.map_replicate, ← List.map_const', ← hShown]
        rfl
      · exact List.pairwise_replicate.2 (.inr Int32.le_rfl)
      · intro frame hFrame
        exact ⟨now, List.mem_cons_self .., List.eq_of_mem_replicate hFrame⟩

/-- A play reports its end at the first frame that is not in front of its last one, and stands still
from then on. -/
theorem exists_early_late (hClip : player.setting.clip = some (key, info))
    (hState : player.state = .playing)
    (hOk : ∀ step ∈ player.course times, ∃ ended, step.1 = .ok ended) :
    ∃ early late, player.course times = early ++ late ∧
      (∀ step ∈ early, step.1 = .ok none ∧
        ∃ frame, step.2.currentFrame = some frame ∧ frame < player.endFrame) ∧
      (late = [] ∨ ∃ final rest, late = final :: rest ∧
        final.1 = .ok (some ⟨key, player.endFrame⟩) ∧
        (∃ frame, final.2.currentFrame = some frame ∧ player.endFrame ≤ frame) ∧
        final.2.state = .stopped ∧ ∀ step ∈ rest, step = (.ok none, final.2)) := by
  induction times generalizing player with
  | nil => exact ⟨[], [], rfl, by simp, .inl rfl⟩
  | cons now times ih =>
    obtain ⟨ended, after, hUpdate, hRest, hOk⟩ := course_cons hOk
    obtain ⟨hShown, hStep⟩ := updateFrame_playing hClip hState hUpdate
    rcases hStep with ⟨hBefore, rfl, hSetting⟩ | ⟨hLast, rfl, hStopped⟩
    · have hClip' : after.setting.clip = some (key, info) := by rw [hSetting, hClip]
      obtain ⟨early, late, hSplit, hEarly, hLate⟩ :=
        ih hClip' ((congrArg Setting.state hSetting).trans hState) hOk
      rw [show after.endFrame = player.endFrame from congrArg Setting.endFrame hSetting]
        at hEarly hLate
      refine ⟨(.ok none, after) :: early, late, by rw [hRest, hSplit, List.cons_append], ?_, hLate⟩
      intro step hStep
      rcases List.mem_cons.1 hStep with rfl | hStep
      · exact ⟨rfl, _, hShown, Int32.not_le.1 hBefore⟩
      · exact hEarly step hStep
    · refine ⟨[], _, hRest, by simp, .inr ⟨_, _, rfl, rfl, ⟨_, hShown, hLast⟩, hStopped, ?_⟩⟩
      intro step hStep
      rw [course_of_stopped hStopped, List.mem_map] at hStep
      obtain ⟨_, -, rfl⟩ := hStep
      rfl

/-- **The course of a play.**  A clip plays from `t0` on and is left to the clock, at times that do
not go back and stay in the range of a signed word behind `t0`, and no frame fails.  The play has
the range that was asked for, shifted by the sound.  The frames on display never go back and lie
between the first frame of the clip and the last frame of the play.  Up to the first frame that is
not in front of that last frame nothing is reported; with it the end is reported, under the key of
the clip; and from then on the player stands still: it stays stopped, shows the same frame, asks
nothing of its decoder and reports no end. -/
theorem course_of_play {library : ClipLibrary δ} {started : Player δ} {name : String}
    {first last : Int32} {t0 : UInt64}
    (hPlay : player.play library name first last t0 = (.ok (), started))
    (hSorted : times.Pairwise (· ≤ ·))
    (hNear : ∀ now ∈ times, (now.toNat : Int) ≤ t0.toNat + Int64.maxValue.toInt)
    (hOk : ∀ step ∈ started.course times, ∃ ended, step.1 = .ok ended) :
    started.range = (saturatingAdd first started.shift, saturatingAdd last started.shift) ∧
    (∃ frames : List Int32, (started.course times).map (·.2.currentFrame) = frames.map some ∧
      frames.Pairwise (· ≤ ·) ∧
      ∀ frame ∈ frames, 0 ≤ frame.toInt ∧ frame.toInt ≤ max started.endFrame.toInt 0) ∧
    (∃ early late, started.course times = early ++ late ∧
      (∀ step ∈ early, step.1 = .ok none ∧
        ∃ frame, step.2.currentFrame = some frame ∧ frame < started.endFrame) ∧
      (late = [] ∨ ∃ final rest, late = final :: rest ∧
        final.1 = .ok (some ⟨Asset.key name, started.endFrame⟩) ∧
        (∃ frame, final.2.currentFrame = some frame ∧ started.endFrame ≤ frame) ∧
        final.2.state = .stopped ∧ ∀ step ∈ rest, step = (.ok none, final.2))) := by
  obtain ⟨info, hSetting⟩ := play_ok hPlay
  have hClip : started.setting.clip = some (Asset.key name, info) := by rw [hSetting]
  have hState : started.state = .playing := congrArg Setting.state hSetting
  have hStart : started.startTime = t0 := congrArg Setting.startTime hSetting
  have hShift : started.shift = info.audioFrameShift := by
    rw [← shift_setting, hSetting]
    rfl
  have hRange : started.range =
      (saturatingAdd first started.shift, saturatingAdd last started.shift) := by
    rw [hShift]
    exact congrArg (fun setting => (setting.startFrame, setting.endFrame)) hSetting
  refine ⟨hRange, ?_, exists_early_late hClip hState hOk⟩
  obtain ⟨frames, hFrames, hOrder, hTimes⟩ :=
    exists_frames hClip hState hSorted (by rwa [hStart]) hOk
  refine ⟨frames, hFrames, hOrder, fun frame hFrame => ?_⟩
  obtain ⟨now, -, rfl⟩ := hTimes frame hFrame
  exact ⟨info.frameAfter_nonneg _ _ _, info.frameAfter_le _ _ _⟩

/-- Two frames of a synthetic clip at fifteen frames per second: both are shown, in order. -/
theorem course_of_synthetic_play :
    let library := ({ width := 1, height := 1 } : SyntheticProfile).library .ok
    let started := (play library {} "intro.mov" 0 1 0).2
    ∃ frames : List Int32, (started.course [0, 40, 100]).map (·.2.currentFrame) = frames.map some ∧
      frames.Pairwise (· ≤ ·) ∧
      ∀ frame ∈ frames, 0 ≤ frame.toInt ∧ frame.toInt ≤ max started.endFrame.toInt 0 := by
  intro library started
  have hPlay : play library {} "intro.mov" 0 1 0 = (.ok (), started) := rfl
  have hSmall : ([0, 40, 100] : List UInt64).all (·.toNat ≤ 100) = true := by decide
  have hNear : ∀ now ∈ ([0, 40, 100] : List UInt64),
      (now.toNat : Int) ≤ (0 : UInt64).toNat + Int64.maxValue.toInt := by
    intro now hNow
    have hMax : Int64.maxValue.toInt = 9223372036854775807 := rfl
    have hLow := of_decide_eq_true (List.all_eq_true.1 hSmall now hNow)
    omega
  refine (course_of_play hPlay (by decide) hNear ?_).2.1
  have hAll : (started.course [0, 40, 100]).all (·.1.isOk) = true := by decide +kernel
  intro step hStep
  have hIsOk := List.all_eq_true.1 hAll step hStep
  cases hOutcome : step.1 with
  | error fault =>
    rw [hOutcome] at hIsOk
    cases hIsOk
  | ok ended => exact ⟨ended, rfl⟩

end Player
end BranchingMovie
