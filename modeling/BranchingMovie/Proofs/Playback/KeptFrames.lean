import BranchingMovie.Proofs.Playback.ClipTime
import BranchingMovie.Proofs.Playback.Setting

/-!
# Frames that stay on display

The frame on display comes from the clock, and it may outlive what asked for it.

* `canShow_of_updateFrame` says that an update without a fault leaves a frame on display which the
  player is set to show, and `currentFrame_of_error` that a fault leaves the frame as it was.
* Commands show nothing.  A frame on display after a command was there before it, and it is of the
  same clip (`Keeps`).
-/

namespace BranchingMovie

/-- A player with the setting may show the frame: the one frame it was asked for, or a frame of the
play. -/
def Setting.CanShow (setting : Setting) (frame : Int32) : Prop :=
  match setting.state with
  | .stopped => False
  | .singleFrame wanted => frame = wanted
  | .playing =>
    max 0 (min setting.startFrame.toInt setting.endFrame.toInt) ≤ frame.toInt ∧
      frame.toInt ≤ max 0 setting.endFrame.toInt

namespace Player

variable {δ : Type} {player after : Player δ} {now : UInt64} {frame : Int32}

/-! ## The clock -/

/-- The clock calls for a frame that the player is set to show. -/
theorem canShow_of_wantedFrame {info : ClipInfo} (h : player.wantedFrame info now = some frame) :
    player.setting.CanShow frame := by
  cases hState : player.state with
  | stopped =>
    rw [wantedFrame, hState] at h
    cases h
  | singleFrame wanted =>
    rw [wantedFrame, hState] at h
    rw [Setting.CanShow, setting_state, hState]
    exact (Option.some.inj h).symm
  | playing =>
    rw [wantedFrame, hState] at h
    obtain rfl := Option.some.inj h
    have hNonneg := info.frameAfter_nonneg player.startFrame player.endFrame
      (elapsedMs player.startTime now)
    have hFirst := info.le_frameAfter player.startFrame player.endFrame
      (elapsedMs_nonneg player.startTime now)
    have hLast := info.frameAfter_le player.startFrame player.endFrame
      (elapsedMs player.startTime now)
    rw [Setting.CanShow, setting_state, hState]
    show max 0 (min player.startFrame.toInt player.endFrame.toInt) ≤ Int32.toInt _ ∧
      Int32.toInt _ ≤ max 0 player.endFrame.toInt
    omega

theorem exists_wantedFrame (h : player.state ≠ .stopped) (info : ClipInfo) (now : UInt64) :
    ∃ frame, player.wantedFrame info now = some frame := by
  unfold wantedFrame
  split
  · rename_i hState
    exact absurd hState h
  · exact ⟨_, rfl⟩
  · exact ⟨_, rfl⟩

variable [Decoder δ]

/-- An update without a fault leaves a frame on display that the player was set to show. -/
theorem canShow_of_updateFrame {ended : Option EndOfClip} (hClip : player.clip ≠ none)
    (hState : player.state ≠ .stopped) (h : player.updateFrame now = (.ok ended, after)) :
    ∃ frame, after.currentFrame = some frame ∧ player.setting.CanShow frame := by
  obtain ⟨clip, hLoaded⟩ := Option.ne_none_iff_exists'.1 hClip
  obtain ⟨wanted, hWanted⟩ := exists_wantedFrame hState clip.info now
  obtain ⟨shown, -, hShown, hSettle⟩ := updateFrame_ok hLoaded hWanted h
  refine ⟨wanted, ?_, canShow_of_wantedFrame hWanted⟩
  rcases settle_cases shown clip with hStill | ⟨-, hStopped⟩
  · rw [hStill] at hSettle
    rw [← (Prod.mk.inj hSettle).2]
    exact hShown
  · rw [hStopped] at hSettle
    rw [← (Prod.mk.inj hSettle).2]
    exact hShown

theorem decodeFrame_error {clip : LoadedClip δ} {decoder : δ} {wanted : Int32}
    {fault : PlaybackError}
    (h : player.decodeFrame clip decoder wanted = (.error fault, after)) :
    ∃ decoder picture calls, after = { player.withDecoder clip decoder with picture, calls } := by
  simp only [decodeFrame] at h
  split at h
  · cases h
    exact ⟨_, _, _, rfl⟩
  · cases h

/-- A frame that cannot be put on display changes the decoder of the clip, the picture and the list
of calls at most. -/
theorem present_error {clip : LoadedClip δ} {wanted : Int32} {fault : PlaybackError}
    (hClip : player.clip = some clip)
    (h : player.present clip wanted = (.error fault, after)) :
    ∃ decoder picture calls, after = { player.withDecoder clip decoder with picture, calls } := by
  unfold present at h
  split at h
  · cases h
  · split at h
    · cases h
      refine ⟨clip.deck.decoder, player.picture, player.calls, ?_⟩
      rw [withDecoder, ← hClip]
    · split at h
      · exact decodeFrame_error h
      · split at h
        · cases h
          exact ⟨_, player.picture, _, rfl⟩
        · obtain ⟨decoder, picture, calls, hAfter⟩ := decodeFrame_error h
          exact ⟨decoder, picture, calls, hAfter⟩

/-- A fault of the clock changes no more than that. -/
theorem updateFrame_error {fault : PlaybackError}
    (h : player.updateFrame now = (.error fault, after)) :
    ∃ clip decoder picture calls, player.clip = some clip ∧
      after = { player.withDecoder clip decoder with picture, calls } := by
  unfold updateFrame at h
  split at h
  · cases h
  · rename_i clip hClip
    split at h
    · cases h
    · split at h
      · rename_i hPresent
        cases h
        obtain ⟨decoder, picture, calls, hAfter⟩ := present_error hClip hPresent
        exact ⟨clip, decoder, picture, calls, hClip, hAfter⟩
      · cases h

/-- A frame that cannot be shown leaves the one on display where it is. -/
theorem currentFrame_of_error {fault : PlaybackError}
    (h : player.updateFrame now = (.error fault, after)) :
    after.currentFrame = player.currentFrame := by
  obtain ⟨_, _, _, _, -, rfl⟩ := updateFrame_error h
  rfl

/-- The decoder is taken to be where it was taken to be. -/
theorem nextFrame_of_error {fault : PlaybackError}
    (h : player.updateFrame now = (.error fault, after)) :
    after.nextFrame = player.nextFrame := by
  obtain ⟨_, _, _, _, -, rfl⟩ := updateFrame_error h
  rfl

/-- A fault of the clock changes no setting. -/
theorem setting_of_error {fault : PlaybackError}
    (h : player.updateFrame now = (.error fault, after)) : after.setting = player.setting := by
  obtain ⟨_, _, hUpdate, hSetting⟩ | ⟨_, hUpdate, -⟩ | ⟨_, _, hUpdate, -, -⟩ :=
    player.updateFrame_cases now
  · rw [hUpdate] at h
    cases h
    exact hSetting
  · rw [hUpdate] at h
    cases h
  · rw [hUpdate] at h
    cases h

/-- Neither does an update that ends nothing. -/
theorem setting_of_ok (h : player.updateFrame now = (.ok none, after)) :
    after.setting = player.setting := by
  obtain ⟨_, _, hUpdate, -⟩ | ⟨_, hUpdate, hSetting⟩ | ⟨_, _, hUpdate, -, -⟩ :=
    player.updateFrame_cases now
  · rw [hUpdate] at h
    cases h
  · rw [hUpdate] at h
    cases h
    exact hSetting
  · rw [hUpdate] at h
    cases h

/-! ## Commands -/

omit [Decoder δ] in
/-- A frame on display was there before, and it is of the same clip. -/
def Keeps (player after : Player δ) : Prop :=
  ∀ frame, after.currentFrame = some frame →
    player.currentFrame = some frame ∧ player.clipName = after.clipName

omit [Decoder δ] in
theorem Keeps.refl (player : Player δ) : player.Keeps player :=
  fun _ hFrame => ⟨hFrame, rfl⟩

omit [Decoder δ] in
theorem Keeps.trans {between : Player δ} (h : player.Keeps between) (h' : between.Keeps after) :
    player.Keeps after := by
  intro frame hFrame
  obtain ⟨hBetween, hName⟩ := h' frame hFrame
  obtain ⟨hBefore, hSame⟩ := h frame hBetween
  exact ⟨hBefore, hSame.trans hName⟩

/-- Loading a clip keeps the frame on display or clears it. -/
theorem keeps_load (library : ClipLibrary δ) (player : Player δ) (name : String) :
    player.Keeps (player.load library name).2 := by
  obtain ⟨-, hLoad⟩ | ⟨_, calls, hLoad⟩ | ⟨path, decoder, -, -, -, hLoad⟩ :=
    load_cases library player name
  · rw [hLoad]
    exact .refl player
  · rw [hLoad]
    exact fun _ hFrame => ⟨hFrame, rfl⟩
  · rw [hLoad]
    intro frame hFrame
    cases hFrame

omit [Decoder δ] in
theorem Keeps.congr {same : Player δ} (h : player.Keeps after) (hClip : same.clip = after.clip)
    (hFrame : same.currentFrame = after.currentFrame) : player.Keeps same := by
  have hName : same.clipName = after.clipName := by rw [clipName, clipName, hClip]
  rw [Keeps, hFrame, hName]
  exact h

theorem keeps_play (library : ClipLibrary δ) (player : Player δ) (name : String)
    (first last : Int32) (now : UInt64) :
    player.Keeps (player.play library name first last now).2 := by
  obtain ⟨hClip, hFrame, -⟩ := play_eq_load library player name first last now
  exact (keeps_load library player name).congr hClip hFrame

theorem keeps_playSingleFrame (library : ClipLibrary δ) (player : Player δ) (name : String)
    (frame : Int32) : player.Keeps (player.playSingleFrame library name frame).2 := by
  obtain ⟨hClip, hFrame, -⟩ := playSingleFrame_eq_load library player name frame
  exact (keeps_load library player name).congr hClip hFrame

/-! ## Sound -/

theorem currentFrame_fill (player : Player δ) (feed : AudioFeed) (samples : List Int16) :
    (player.fill feed samples).2.currentFrame = player.currentFrame := by
  unfold fill
  split
  · rfl
  · simp only
    split <;> rfl

end Player
end BranchingMovie
