import BranchingMovie.Playback.AudioFeed

/-!
# What a player is set to

The setting of a player is what was asked of it: the loaded clip by its key and its declarations,
what the player does, and the range and start of the last play.  Decoders, the picture and the list
of calls are left out.

* `load_cases` says everything that loading a clip can do; `load_error` and `load_ok` are its two
  halves.
* `play_error`, `play_ok`, `playSingleFrame_error` and `playSingleFrame_ok` say what a command sets.
* `updateFrame_cases` says that the clock sets nothing but the end of a play, and `setting_fill`
  that taking sound sets nothing at all.
-/

namespace BranchingMovie

/-- What was asked of a player. -/
structure Setting where
  /-- The loaded clip: its key and what it declares. -/
  clip : Option (String × ClipInfo)
  state : PlaybackState
  startFrame : Int32
  endFrame : Int32
  startTime : UInt64
  deriving DecidableEq, Repr

namespace Setting

/-- The key of the loaded clip. -/
def clipName (setting : Setting) : Option String :=
  setting.clip.map (·.1)

/-- The frames that the sound of the loaded clip shifts a play by. -/
def shift (setting : Setting) : Int32 :=
  match setting.clip with
  | some (_, info) => info.audioFrameShift
  | none => 0

/-- The overflow that stops the program at the start of the play that is on, if there is one. -/
def overflow? (setting : Setting) : Option Overflow :=
  match setting.state, setting.clip with
  | .playing, some (_, info) => info.overflow?
  | _, _ => none

end Setting

namespace Player

variable {δ : Type}

/-- What the player is set to. -/
def setting (player : Player δ) : Setting where
  clip := player.clip.map fun clip => (clip.name, clip.info)
  state := player.state
  startFrame := player.startFrame
  endFrame := player.endFrame
  startTime := player.startTime

@[simp] theorem setting_state (player : Player δ) : player.setting.state = player.state := rfl

@[simp] theorem clipName_setting (player : Player δ) :
    player.setting.clipName = player.clipName := by
  rw [Setting.clipName, setting, clipName, Option.map_map]
  rfl

@[simp] theorem shift_setting (player : Player δ) : player.setting.shift = player.shift := by
  rw [Setting.shift, setting, shift]
  cases player.clip <;> rfl

@[simp] theorem overflow?_setting (player : Player δ) :
    player.setting.overflow? = player.overflow? := by
  rw [Setting.overflow?, setting, overflow?]
  cases player.state <;> cases player.clip <;> rfl

/-- A player with a clip is set to that clip. -/
theorem setting_clip {player : Player δ} {clip : LoadedClip δ} (h : player.clip = some clip) :
    player.setting.clip = some (clip.name, clip.info) := by
  rw [setting, h]
  rfl

@[simp] theorem setting_record (player : Player δ) (call : DecoderCall) :
    (player.record call).setting = player.setting := rfl

/-- Another decoder in the deck of the loaded clip changes no setting. -/
theorem setting_withDecoder {player : Player δ} {clip : LoadedClip δ}
    (h : player.clip = some clip) (decoder : δ) :
    (player.withDecoder clip decoder).setting = player.setting := by
  rw [setting, setting, h]
  rfl

/-! ## Loading -/

section Library

variable [Decoder δ] {library : ClipLibrary δ} {player after : Player δ} {name : String}
  {fault : PlaybackError}

/-- Loading finds the clip in the player, is refused with nothing changed but the list of calls, or
puts a fresh decoder into the player. -/
theorem load_cases (library : ClipLibrary δ) (player : Player δ) (name : String) :
    (player.hasLoaded name = true ∧ player.load library name = (.ok (), player)) ∨
    (∃ fault calls, player.load library name = (.error fault, { player with calls })) ∨
    (∃ path decoder, library.locate name = .ok path ∧ library.openClip path = .ok decoder ∧
      checkInfo name (Decoder.info decoder) = .ok () ∧
      player.load library name =
        (.ok (), (player.record (.opened path)).install (Asset.key name) decoder)) := by
  rw [load]
  split
  · rename_i hLoaded
    exact .inl ⟨hLoaded, rfl⟩
  · split
    · exact .inr (.inl ⟨_, player.calls, rfl⟩)
    · rename_i path hPath
      split
      · exact .inr (.inl ⟨_, _, rfl⟩)
      · rename_i decoder hOpen
        split
        · exact .inr (.inl ⟨_, _, rfl⟩)
        · rename_i hInfo
          exact .inr (.inr ⟨path, decoder, hPath, hOpen, hInfo, rfl⟩)

/-- A clip that cannot be loaded leaves the player as it was, apart from the list of calls. -/
theorem load_error (h : player.load library name = (.error fault, after)) :
    ∃ calls, after = { player with calls } := by
  rcases load_cases library player name with ⟨-, hLoad⟩ | ⟨_, calls, hLoad⟩ | ⟨_, _, -, -, -, hLoad⟩
  · rw [hLoad] at h
    cases h
  · rw [hLoad] at h
    cases h
    exact ⟨calls, rfl⟩
  · rw [hLoad] at h
    cases h

/-- The clip that was loaded is in the player, and nothing else is set. -/
theorem load_ok (h : player.load library name = (.ok (), after)) :
    ∃ info, after.setting = { player.setting with clip := some (Asset.key name, info) } := by
  obtain ⟨hLoaded, hLoad⟩ | ⟨_, _, hLoad⟩ | ⟨path, decoder, -, -, -, hLoad⟩ :=
    load_cases library player name
  · rw [hLoad] at h
    cases h
    unfold hasLoaded at hLoaded
    split at hLoaded
    · rename_i clip hClip
      refine ⟨clip.info, ?_⟩
      rw [← beq_iff_eq.1 hLoaded, ← setting_clip hClip]
    · cases hLoaded
  · rw [hLoad] at h
    cases h
  · rw [hLoad] at h
    cases h
    exact ⟨Decoder.info decoder, rfl⟩

/-! ## Commands -/

theorem play_error {first last : Int32} {now : UInt64}
    (h : player.play library name first last now = (.error fault, after)) :
    ∃ calls, after = { player with calls } := by
  unfold play at h
  split at h
  · rename_i hLoad
    cases h
    exact load_error hLoad
  · cases h

/-- A play sets everything: the clip, the shifted range and the time. -/
theorem play_ok {first last : Int32} {now : UInt64}
    (h : player.play library name first last now = (.ok (), after)) :
    ∃ info : ClipInfo, after.setting =
      { clip := some (Asset.key name, info)
        state := .playing
        startFrame := saturatingAdd first info.audioFrameShift
        endFrame := saturatingAdd last info.audioFrameShift
        startTime := now } := by
  unfold play at h
  split at h
  · cases h
  · rename_i loaded hLoad
    obtain ⟨info, hSetting⟩ := load_ok hLoad
    have hShift : loaded.shift = info.audioFrameShift := by
      rw [← shift_setting, hSetting]
      rfl
    cases h
    refine ⟨info, ?_⟩
    have hClip : loaded.setting.clip = some (Asset.key name, info) := by rw [hSetting]
    rw [← hClip, ← hShift]
    rfl

theorem playSingleFrame_error {frame : Int32}
    (h : player.playSingleFrame library name frame = (.error fault, after)) :
    ∃ calls, after = { player with calls } := by
  unfold playSingleFrame at h
  split at h
  · rename_i hLoad
    cases h
    exact load_error hLoad
  · cases h

/-- Showing one frame sets the clip and the frame. -/
theorem playSingleFrame_ok {frame : Int32}
    (h : player.playSingleFrame library name frame = (.ok (), after)) :
    ∃ info, after.setting =
      { player.setting with clip := some (Asset.key name, info), state := .singleFrame frame } := by
  unfold playSingleFrame at h
  split at h
  · cases h
  · rename_i loaded hLoad
    obtain ⟨info, hSetting⟩ := load_ok hLoad
    cases h
    refine ⟨info, ?_⟩
    calc ({ loaded with state := .singleFrame frame } : Player δ).setting
        = { loaded.setting with state := .singleFrame frame } := rfl
      _ = _ := by rw [hSetting]

/-- Apart from what it sets, a player that is asked to play is as after loading the clip. -/
theorem play_eq_load (library : ClipLibrary δ) (player : Player δ) (name : String)
    (first last : Int32) (now : UInt64) :
    let loaded := (player.load library name).2
    let after := (player.play library name first last now).2
    after.clip = loaded.clip ∧ after.currentFrame = loaded.currentFrame ∧
      after.calls = loaded.calls := by
  unfold play
  split
  · rename_i hLoad
    rw [hLoad]
    exact ⟨rfl, rfl, rfl⟩
  · rename_i hLoad
    rw [hLoad]
    exact ⟨rfl, rfl, rfl⟩

/-- So is a player that is asked to show one frame. -/
theorem playSingleFrame_eq_load (library : ClipLibrary δ) (player : Player δ) (name : String)
    (frame : Int32) :
    let loaded := (player.load library name).2
    let after := (player.playSingleFrame library name frame).2
    after.clip = loaded.clip ∧ after.currentFrame = loaded.currentFrame ∧
      after.calls = loaded.calls := by
  unfold playSingleFrame
  split
  · rename_i hLoad
    rw [hLoad]
    exact ⟨rfl, rfl, rfl⟩
  · rename_i hLoad
    rw [hLoad]
    exact ⟨rfl, rfl, rfl⟩

end Library

@[simp] theorem setting_stop (player : Player δ) :
    player.stop.setting = { player.setting with state := .stopped } := rfl

/-! ## The clock -/

/-- A play whose last frame is on display ends and says so. -/
theorem settle_of_le {player : Player δ} {clip : LoadedClip δ} {frame : Int32}
    (hFrame : player.currentFrame = some frame)
    (hState : player.state = .playing) (hEnd : player.endFrame ≤ frame) :
    player.settle clip = (some ⟨clip.name, player.endFrame⟩, player.stop) := by
  rw [settle, hFrame]
  exact if_pos ⟨hState, hEnd⟩

/-- Nothing ends before the last frame is on display. -/
theorem settle_of_lt {player : Player δ} {clip : LoadedClip δ} {frame : Int32}
    (hFrame : player.currentFrame = some frame)
    (hEnd : ¬ player.endFrame ≤ frame) : player.settle clip = (none, player) := by
  rw [settle, hFrame]
  exact if_neg fun h => hEnd h.2

/-- Settling ends a play or changes nothing. -/
theorem settle_cases (player : Player δ) (clip : LoadedClip δ) :
    player.settle clip = (none, player) ∨
      player.state = .playing ∧
        player.settle clip = (some ⟨clip.name, player.endFrame⟩, player.stop) := by
  unfold settle
  split
  · split
    · rename_i h
      exact .inr ⟨h.1, rfl⟩
    · exact .inl rfl
  · exact .inl rfl

section Clock

variable [Decoder δ] {player after : Player δ} {clip : LoadedClip δ} {now : UInt64}

theorem setting_decodeFrame (h : player.clip = some clip) (decoder : δ) (wanted : Int32) :
    (player.decodeFrame clip decoder wanted).2.setting = player.setting := by
  have hRecord : (player.record (.decode (Decoder.position decoder))).clip = some clip := h
  simp only [decodeFrame]
  split
  · exact setting_withDecoder hRecord _
  · exact setting_withDecoder hRecord _

/-- Whether a frame can be shown or not, showing it changes no setting. -/
theorem setting_present (h : player.clip = some clip) (wanted : Int32) :
    (player.present clip wanted).2.setting = player.setting := by
  have hRecord : (player.record (.seek wanted)).clip = some clip := h
  unfold present
  split
  · rfl
  · split
    · rfl
    · split
      · exact setting_decodeFrame h _ _
      · split
        · exact setting_withDecoder hRecord _
        · exact setting_decodeFrame hRecord _ _

theorem currentFrame_decodeFrame {decoder : δ} {wanted : Int32}
    (h : player.decodeFrame clip decoder wanted = (.ok (), after)) :
    after.currentFrame = some wanted := by
  simp only [decodeFrame] at h
  split at h
  · cases h
  · cases h
    rfl

/-- A frame that was shown without a fault is on display. -/
theorem currentFrame_present {wanted : Int32} (h : player.present clip wanted = (.ok (), after)) :
    after.currentFrame = some wanted := by
  unfold present at h
  split at h
  · rename_i hShown
    cases h
    exact hShown
  · split at h
    · cases h
    · split at h
      · exact currentFrame_decodeFrame h
      · split at h
        · cases h
        · exact currentFrame_decodeFrame h

/-- The clock means nothing to a stopped player. -/
theorem updateFrame_of_stopped (h : player.state = .stopped) (now : UInt64) :
    player.updateFrame now = (.ok none, player) := by
  unfold updateFrame
  split
  · rfl
  · rw [wantedFrame, h]

/-- Without a fault, the clock brings the wanted frame of the loaded clip on display and settles the
play. -/
theorem updateFrame_ok {ended : Option EndOfClip}
    (hClip : player.clip = some clip) {wanted : Int32}
    (hWanted : player.wantedFrame clip.info now = some wanted)
    (h : player.updateFrame now = (.ok ended, after)) :
    ∃ shown : Player δ, shown.setting = player.setting ∧ shown.currentFrame = some wanted ∧
      shown.settle clip = (ended, after) := by
  simp only [updateFrame, hClip, hWanted] at h
  have hSetting := setting_present hClip wanted
  split at h
  · cases h
  · rename_i shown hPresent
    rw [hPresent] at hSetting
    cases h
    exact ⟨shown, hSetting, currentFrame_present hPresent, rfl⟩

/-- Everything that the clock can do: fail without a change of setting, show a frame, or end a
play. -/
theorem updateFrame_cases (player : Player δ) (now : UInt64) :
    (∃ fault after, player.updateFrame now = (.error fault, after) ∧
      after.setting = player.setting) ∨
    (∃ after, player.updateFrame now = (.ok none, after) ∧ after.setting = player.setting) ∨
    (∃ ended after, player.updateFrame now = (.ok (some ended), after) ∧ player.state = .playing ∧
      after.setting = { player.setting with state := .stopped }) := by
  unfold updateFrame
  split
  · exact .inr (.inl ⟨_, rfl, rfl⟩)
  · rename_i clip hClip
    split
    · exact .inr (.inl ⟨_, rfl, rfl⟩)
    · rename_i wanted _
      have hSetting := setting_present hClip wanted
      split
      · rename_i hPresent
        rw [hPresent] at hSetting
        exact .inl ⟨_, _, rfl, hSetting⟩
      · rename_i shown hPresent
        rw [hPresent] at hSetting
        rcases settle_cases shown clip with hSettle | ⟨hState, hSettle⟩
        · rw [hSettle]
          exact .inr (.inl ⟨_, rfl, hSetting⟩)
        · rw [hSettle]
          refine .inr (.inr ⟨_, _, rfl, ?_, ?_⟩)
          · rw [← setting_state, ← hSetting]
            exact hState
          · rw [setting_stop, hSetting]

end Clock

/-! ## Sound -/

@[simp] theorem setting_withDeck (player : Player δ) (deck : Deck δ) :
    (player.withDeck deck).setting = player.setting := by
  rw [setting, setting, withDeck]
  cases player.clip with
  | none => rfl
  | some clip =>
    simp only [Option.map_some]
    split <;> rfl

/-- Taking sound through a feed changes no setting. -/
@[simp] theorem setting_fill [Decoder δ] (player : Player δ) (feed : AudioFeed)
    (samples : List Int16) : (player.fill feed samples).2.setting = player.setting := by
  unfold fill
  split
  · rfl
  · simp only
    split
    · rw [setting_record, setting_withDeck]
    · rw [setting_withDeck]

end Player
end BranchingMovie
