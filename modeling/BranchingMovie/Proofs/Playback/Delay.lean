import BranchingMovie.Proofs.Playback.Setting

/-!
# Players whose play began later

The time means nothing to a player but the span since its play began (`elapsedMs_add`).  So a player
that is told every time later by the same delay stays the same player, apart from the start of the
play that it is in (`Player.Delayed`), whatever it is asked for: `Delayed.play`,
`Delayed.playSingleFrame`, `Delayed.stop`, `Delayed.updateFrame` and `Delayed.fill`.
-/

namespace BranchingMovie

/-- A span does not depend on when it lies. -/
theorem elapsedMs_add {start other now delay : UInt64}
    (hStart : other.toNat = start.toNat + delay.toNat)
    (hNow : now.toNat + delay.toNat < UInt64.size) :
    elapsedMs other (now + delay) = elapsedMs start now := by
  have hSum : (now + delay).toNat = now.toNat + delay.toNat := by
    rw [UInt64.toNat_add, Nat.mod_eq_of_lt hNow]
  have hSpan : (now + delay).toNat - other.toNat = now.toNat - start.toNat := by omega
  simp only [elapsedMs, hSpan]

namespace Player

variable {δ : Type}

/-! ## Another start of the play -/

/-- The player with another time for the start of its play. -/
def startedAt (player : Player δ) (time : UInt64) : Player δ :=
  { player with startTime := time }

section StartedAt

variable (player : Player δ) (time : UInt64)

@[simp] theorem clip_startedAt : (player.startedAt time).clip = player.clip := rfl

@[simp] theorem state_startedAt : (player.startedAt time).state = player.state := rfl

@[simp] theorem startFrame_startedAt : (player.startedAt time).startFrame = player.startFrame := rfl

@[simp] theorem endFrame_startedAt : (player.startedAt time).endFrame = player.endFrame := rfl

@[simp] theorem startTime_startedAt : (player.startedAt time).startTime = time := rfl

@[simp] theorem currentFrame_startedAt :
    (player.startedAt time).currentFrame = player.currentFrame := rfl

@[simp] theorem nextFrame_startedAt : (player.startedAt time).nextFrame = player.nextFrame := rfl

@[simp] theorem hasLoaded_startedAt (name : String) :
    (player.startedAt time).hasLoaded name = player.hasLoaded name := rfl

theorem settle_startedAt (clip : LoadedClip δ) :
    (player.startedAt time).settle clip =
      (player.settle clip).map id fun after => after.startedAt time := by
  rw [settle, settle, currentFrame_startedAt, state_startedAt, endFrame_startedAt]
  cases player.currentFrame with
  | none => rfl
  | some frame =>
    simp only
    split <;> rfl

variable [Decoder δ]

theorem load_startedAt (library : ClipLibrary δ) (name : String) :
    (player.startedAt time).load library name =
      (player.load library name).map id fun after => after.startedAt time := by
  rw [load, load, hasLoaded_startedAt]
  split
  · rfl
  · split
    · rfl
    · simp only
      split
      · rfl
      · split <;> rfl

theorem decodeFrame_startedAt (clip : LoadedClip δ) (decoder : δ) (wanted : Int32) :
    (player.startedAt time).decodeFrame clip decoder wanted =
      (player.decodeFrame clip decoder wanted).map id fun after => after.startedAt time := by
  have hPicture : ((player.startedAt time).record (.decode (Decoder.position decoder))).picture =
      (player.record (.decode (Decoder.position decoder))).picture := rfl
  simp only [decodeFrame, hPicture]
  split <;> rfl

/-- The start of a play has no part in putting a frame on display. -/
theorem present_startedAt (clip : LoadedClip δ) (wanted : Int32) :
    (player.startedAt time).present clip wanted =
      (player.present clip wanted).map id fun after => after.startedAt time := by
  rw [present, present, currentFrame_startedAt, nextFrame_startedAt]
  split
  · rfl
  · split
    · rfl
    · split
      · exact player.decodeFrame_startedAt time clip _ wanted
      · simp only
        split
        · rfl
        · exact (player.record (.seek wanted)).decodeFrame_startedAt time clip _ wanted

/-- Nor has it in taking sound. -/
theorem fill_startedAt (feed : AudioFeed) (samples : List Int16) :
    (player.startedAt time).fill feed samples =
      (player.fill feed samples).map id fun after => after.startedAt time := by
  have hDeck : (player.startedAt time).deck? feed.serial = player.deck? feed.serial := rfl
  rw [fill, fill, hDeck]
  split
  · rfl
  · simp only
    split <;> rfl

end StartedAt

/-! ## Delayed players -/

/-- The other player is the same, except that the play it is in began later by a delay.  A player
that plays nothing may have any start of a play. -/
def Delayed (delay : UInt64) (player other : Player δ) : Prop :=
  ∃ time, other = player.startedAt time ∧
    (player.state = .playing → time.toNat = player.startTime.toNat + delay.toNat)

variable {delay now : UInt64} {player other : Player δ}

/-- A player that plays nothing is delayed by any delay. -/
theorem Delayed.of_not_playing (h : player.state ≠ .playing) (delay : UInt64) :
    player.Delayed delay player :=
  ⟨player.startTime, rfl, fun hPlaying => absurd hPlaying h⟩

theorem Delayed.stop (h : player.Delayed delay other) : player.stop.Delayed delay other.stop := by
  obtain ⟨time, rfl, -⟩ := h
  exact ⟨time, rfl, PlaybackState.noConfusion⟩

theorem Delayed.wantedFrame (h : player.Delayed delay other)
    (hNow : now.toNat + delay.toNat < UInt64.size) (info : ClipInfo) :
    other.wantedFrame info (now + delay) = player.wantedFrame info now := by
  obtain ⟨time, rfl, hTime⟩ := h
  simp only [Player.wantedFrame, state_startedAt, startFrame_startedAt, endFrame_startedAt,
    startTime_startedAt]
  cases hState : player.state with
  | stopped => rfl
  | singleFrame frame => rfl
  | playing => simp only [elapsedMs_add (hTime hState) hNow]

/-- The end of a play comes to both. -/
theorem Delayed.settle (h : player.Delayed delay other) (clip : LoadedClip δ) :
    (other.settle clip).1 = (player.settle clip).1 ∧
      (player.settle clip).2.Delayed delay (other.settle clip).2 := by
  obtain ⟨time, rfl, hTime⟩ := h
  rw [settle_startedAt]
  obtain hSettle | ⟨-, hSettle⟩ := settle_cases player clip
  · rw [hSettle]
    exact ⟨rfl, time, rfl, hTime⟩
  · rw [hSettle]
    exact ⟨rfl, time, rfl, PlaybackState.noConfusion⟩

variable [Decoder δ]

/-- Players of one delay begin to play in the same way, each at its own time. -/
theorem Delayed.play (h : player.Delayed delay other)
    (hNow : now.toNat + delay.toNat < UInt64.size) (library : ClipLibrary δ) (name : String)
    (first last : Int32) :
    (other.play library name first last (now + delay)).1 =
        (player.play library name first last now).1 ∧
      (player.play library name first last now).2.Delayed delay
        (other.play library name first last (now + delay)).2 := by
  obtain ⟨time, rfl, hTime⟩ := h
  have hSum : (now + delay).toNat = now.toNat + delay.toNat := by
    rw [UInt64.toNat_add, Nat.mod_eq_of_lt hNow]
  rw [Player.play, Player.play, load_startedAt]
  cases hLoad : player.load library name with
  | mk outcome loaded =>
    cases outcome with
    | error fault =>
      obtain ⟨calls, rfl⟩ := load_error hLoad
      exact ⟨rfl, time, rfl, hTime⟩
    | ok _ => exact ⟨rfl, now + delay, rfl, fun _ => hSum⟩

/-- They show one frame in the same way. -/
theorem Delayed.playSingleFrame (h : player.Delayed delay other) (library : ClipLibrary δ)
    (name : String) (frame : Int32) :
    (other.playSingleFrame library name frame).1 = (player.playSingleFrame library name frame).1 ∧
      (player.playSingleFrame library name frame).2.Delayed delay
        (other.playSingleFrame library name frame).2 := by
  obtain ⟨time, rfl, hTime⟩ := h
  rw [Player.playSingleFrame, Player.playSingleFrame, load_startedAt]
  cases hLoad : player.load library name with
  | mk outcome loaded =>
    cases outcome with
    | error fault =>
      obtain ⟨calls, rfl⟩ := load_error hLoad
      exact ⟨rfl, time, rfl, hTime⟩
    | ok _ => exact ⟨rfl, time, rfl, PlaybackState.noConfusion⟩

/-- The clock means the same to them, each at its own time. -/
theorem Delayed.updateFrame (h : player.Delayed delay other)
    (hNow : now.toNat + delay.toNat < UInt64.size) :
    (other.updateFrame (now + delay)).1 = (player.updateFrame now).1 ∧
      (player.updateFrame now).2.Delayed delay (other.updateFrame (now + delay)).2 := by
  have hWanted := fun info => h.wantedFrame hNow info
  obtain ⟨time, rfl, hTime⟩ := h
  rw [Player.updateFrame, Player.updateFrame, clip_startedAt]
  cases hClip : player.clip with
  | none => exact ⟨rfl, time, rfl, hTime⟩
  | some clip =>
    simp only [hWanted]
    cases player.wantedFrame clip.info now with
    | none => exact ⟨rfl, time, rfl, hTime⟩
    | some wanted =>
      have hSetting := setting_present hClip wanted
      simp only [present_startedAt]
      cases hPresent : player.present clip wanted with
      | mk outcome shown =>
        rw [hPresent] at hSetting
        have hState : shown.state = player.state := congrArg Setting.state hSetting
        have hStart : shown.startTime = player.startTime := congrArg Setting.startTime hSetting
        rw [← hState, ← hStart] at hTime
        cases outcome with
        | error fault => exact ⟨rfl, time, rfl, hTime⟩
        | ok _ =>
          have hShown : shown.Delayed delay (shown.startedAt time) := ⟨time, rfl, hTime⟩
          exact ⟨congrArg Except.ok (hShown.settle clip).1, (hShown.settle clip).2⟩

/-- Sound is taken from them in the same way. -/
theorem Delayed.fill (h : player.Delayed delay other) (feed : AudioFeed) (samples : List Int16) :
    (other.fill feed samples).1 = (player.fill feed samples).1 ∧
      (player.fill feed samples).2.Delayed delay (other.fill feed samples).2 := by
  have hSetting := player.setting_fill feed samples
  have hState : (player.fill feed samples).2.state = player.state :=
    congrArg Setting.state hSetting
  have hStart : (player.fill feed samples).2.startTime = player.startTime :=
    congrArg Setting.startTime hSetting
  obtain ⟨time, rfl, hTime⟩ := h
  rw [fill_startedAt]
  refine ⟨rfl, time, rfl, ?_⟩
  rw [hState, hStart]
  exact hTime

end Player
end BranchingMovie
