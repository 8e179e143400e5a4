import BranchingMovie.Proofs.Playback.Display
import BranchingMovie.Proofs.Playback.KeptFrames

/-!
# Players that look the same

Two players resemble each other when they look the same and take their decoders to be on the same
frame; their decoders, their earlier decks and their lists of calls may differ.  Such players obey a
command in the same way, whatever library their clips are from, and resemble each other afterwards.

Neither a command that is refused nor taking sound can be seen: the player still resembles the one
it was.
-/

namespace BranchingMovie.Player

variable {δ : Type}

/-- The players look the same and take their decoders to be on the same frame. -/
structure Resembles (player other : Player δ) : Prop where
  view : other.view = player.view
  nextFrame : other.nextFrame = player.nextFrame

variable {player other : Player δ}

theorem Resembles.refl (player : Player δ) : player.Resembles player :=
  ⟨rfl, rfl⟩

theorem Resembles.symm (h : player.Resembles other) : other.Resembles player :=
  ⟨h.view.symm, h.nextFrame.symm⟩

theorem Resembles.trans {third : Player δ} (h : player.Resembles other)
    (h' : other.Resembles third) : player.Resembles third :=
  ⟨h'.view.trans h.view, h'.nextFrame.trans h.nextFrame⟩

theorem Resembles.setting (h : player.Resembles other) : other.setting = player.setting :=
  congrArg View.setting h.view

theorem Resembles.state (h : player.Resembles other) : other.state = player.state :=
  congrArg Setting.state h.setting

/-- Sound cannot be seen. -/
theorem resembles_fill [Decoder δ] (player : Player δ) (feed : AudioFeed) (samples : List Int16) :
    player.Resembles (player.fill feed samples).2 := by
  have hSetting := player.setting_fill feed samples
  have hFrame := player.currentFrame_fill feed samples
  have hRest : (player.fill feed samples).2.picture = player.picture ∧
      (player.fill feed samples).2.nextFrame = player.nextFrame := by
    unfold fill
    split
    · exact ⟨rfl, rfl⟩
    · simp only
      split <;> exact ⟨rfl, rfl⟩
  refine ⟨?_, hRest.2⟩
  rw [Player.view, Player.view, hSetting, hFrame, hRest.1]

variable [Decoder δ]

/-- Players that resemble each other load a clip in the same way. -/
theorem Resembles.load (h : player.Resembles other) (library : ClipLibrary δ) (name : String) :
    ∃ outcome loaded others, player.load library name = (outcome, loaded) ∧
      other.load library name = (outcome, others) ∧ loaded.Resembles others := by
  rw [Player.load, Player.load, hasLoaded_eq, hasLoaded_eq, h.setting]
  split
  · exact ⟨_, _, _, rfl, rfl, h⟩
  · split
    · exact ⟨_, _, _, rfl, rfl, h⟩
    · rename_i path _
      have hRecord : (player.record (.opened path)).Resembles (other.record (.opened path)) :=
        ⟨h.view, h.nextFrame⟩
      split
      · exact ⟨_, _, _, rfl, rfl, hRecord⟩
      · split
        · exact ⟨_, _, _, rfl, rfl, hRecord⟩
        · refine ⟨_, _, _, rfl, rfl, ?_, rfl⟩
          rw [view_install, view_install, hRecord.view]

/-- They play a clip in the same way. -/
theorem Resembles.play (h : player.Resembles other) (library : ClipLibrary δ) (name : String)
    (first last : Int32) (now : UInt64) :
    (other.play library name first last now).1 = (player.play library name first last now).1 ∧
      (player.play library name first last now).2.Resembles
        (other.play library name first last now).2 := by
  obtain ⟨outcome, loaded, others, hLoad, hOther, hLoaded⟩ := h.load library name
  rw [Player.play, Player.play, hLoad, hOther]
  cases outcome with
  | error fault => exact ⟨rfl, hLoaded⟩
  | ok _ =>
    refine ⟨rfl, ?_, hLoaded.nextFrame⟩
    rw [view_start, view_start, hLoaded.view]

/-- They show one frame in the same way. -/
theorem Resembles.playSingleFrame (h : player.Resembles other) (library : ClipLibrary δ)
    (name : String) (frame : Int32) :
    (other.playSingleFrame library name frame).1 = (player.playSingleFrame library name frame).1 ∧
      (player.playSingleFrame library name frame).2.Resembles
        (other.playSingleFrame library name frame).2 := by
  obtain ⟨outcome, loaded, others, hLoad, hOther, hLoaded⟩ := h.load library name
  rw [Player.playSingleFrame, Player.playSingleFrame, hLoad, hOther]
  cases outcome with
  | error fault => exact ⟨rfl, hLoaded⟩
  | ok _ => exact ⟨rfl, view_withState hLoaded.view (.singleFrame frame), hLoaded.nextFrame⟩

end BranchingMovie.Player
