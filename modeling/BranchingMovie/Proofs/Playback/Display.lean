import BranchingMovie.Proofs.Playback.Reel
import BranchingMovie.Proofs.Playback.Requests

/-!
# The picture on display

A player with clips from a `ReelLibrary` tracks the reel of its clip (`Player.Tracks`): the decoder
follows the reel, the frame on display is in the picture, and the decoder is where the player takes
it to be, or on a frame that cannot be decoded.

`Attempt` lists every way in which putting a frame on display can end, and `Tracks.ends_present`
says that there are no others and that the player tracks its reel after each of them.  So it does
after any list of requests (`stands_serveAll`).
-/

namespace BranchingMovie

/-- The clip with another decoder in its deck. -/
def LoadedClip.withDecoder {δ : Type} (clip : LoadedClip δ) (decoder : δ) : LoadedClip δ :=
  { clip with deck := { clip.deck with decoder } }

namespace Player

variable {δ : Type} [Decoder δ]

/-! ## Tracking a reel -/

/-- The player has the clip at a path, knows what it shows, and knows where its decoder is, unless
the decoder is stuck at a frame that cannot be decoded. -/
structure Tracks (library : ReelLibrary δ) (path : String) (clip : LoadedClip δ)
    (player : Player δ) : Prop where
  loaded : player.clip = some clip
  located : ∃ name, library.locate name = .ok path ∧ clip.name = Asset.key name
  opened : ∃ decoder, library.openClip path = .ok decoder
  follows : library.Follows clip.deck.decoder (library.reel path)
  info : clip.info = (library.reel path).info
  sound : clip.deck.poisoned = false
  canvas : (library.reel path).IsCanvas player.picture
  image : ∀ frame, player.currentFrame = some frame →
    player.picture = (library.reel path).image frame
  primed : Decoder.position clip.deck.decoder = player.nextFrame ∨
    (library.reel path).Spoiled (Decoder.position clip.deck.decoder)

/-- Where the clip of a player comes from: from nowhere, when it has none and shows nothing, or from
the path whose reel it tracks. -/
inductive Stands (library : ReelLibrary δ) (player : Player δ) : Option String → Prop
  | empty (hClip : player.clip = none) (hFrame : player.currentFrame = none)
      (hWhole : player.picture.IsWhole) : Stands library player none
  | loaded {path : String} {clip : LoadedClip δ} (h : player.Tracks library path clip) :
      Stands library player (some path)

/-- What can be seen of a player. -/
structure View where
  setting : Setting
  currentFrame : Option Int32
  picture : FrameBuffer
  deriving DecidableEq, Repr

/-- What can be seen of the player. -/
def view (player : Player δ) : View :=
  ⟨player.setting, player.currentFrame, player.picture⟩

omit [Decoder δ] in
theorem view_record (player : Player δ) (call : DecoderCall) :
    (player.record call).view = player.view := rfl

theorem view_install (player : Player δ) (name : String) (decoder : δ) :
    (player.install name decoder).view =
      ⟨{ player.view.setting with clip := some (name, Decoder.info decoder) }, none,
        player.view.picture.resize (Decoder.info decoder).width (Decoder.info decoder).height⟩ :=
  rfl

omit [Decoder δ] in
theorem view_withState {player other : Player δ} (h : other.view = player.view)
    (state : PlaybackState) :
    ({ other with state } : Player δ).view = ({ player with state } : Player δ).view :=
  congrArg (fun view : View => { view with setting := { view.setting with state } }) h

omit [Decoder δ] in
theorem view_start (player : Player δ) (first last : Int32) (now : UInt64) :
    ({ player with
        startFrame := saturatingAdd first player.shift
        endFrame := saturatingAdd last player.shift
        startTime := now
        state := .playing } : Player δ).view =
      { player.view with setting := { player.view.setting with
        startFrame := saturatingAdd first player.view.setting.shift
        endFrame := saturatingAdd last player.view.setting.shift
        startTime := now
        state := .playing } } := by
  rw [← shift_setting]
  rfl

/-- Two players with clips from the same path look the same. -/
def Alike (library : ReelLibrary δ) (player other : Player δ) : Prop :=
  other.view = player.view ∧
    ∃ path?, player.Stands library path? ∧ other.Stands library path?

/-- How the attempt to put a frame on display ends, for a player whose decoder is at a position:
whether the frame is shown, and what the decoder is asked for. -/
inductive Attempt (reel : Reel) (player : Player δ) (position wanted : Int32) :
    Bool → List DecoderCall → Prop
  /-- The frame is there. -/
  | there (hFrame : player.currentFrame = some wanted) : Attempt reel player position wanted true []
  /-- The decoder is on the frame. -/
  | next (hFrame : player.currentFrame ≠ some wanted) (hNext : player.nextFrame = wanted)
      (hPosition : position = wanted) (hSound : ¬ reel.Spoiled wanted) :
      Attempt reel player position wanted true [.decode wanted]
  /-- The frame is sought. -/
  | sought (hFrame : player.currentFrame ≠ some wanted) (hNext : player.nextFrame ≠ wanted)
      (hReach : ¬ reel.Unreachable wanted) (hSound : ¬ reel.Spoiled wanted) :
      Attempt reel player position wanted true [.seek wanted, .decode wanted]
  /-- The frame that the decoder is on cannot be decoded, whether it is the wanted one or not. -/
  | stuck (hFrame : player.currentFrame ≠ some wanted) (hNext : player.nextFrame = wanted)
      (hSpoiled : reel.Spoiled position) :
      Attempt reel player position wanted false [.decode position]
  | unreachable (hFrame : player.currentFrame ≠ some wanted) (hNext : player.nextFrame ≠ wanted)
      (hUnreachable : reel.Unreachable wanted) :
      Attempt reel player position wanted false [.seek wanted]
  | spoiled (hFrame : player.currentFrame ≠ some wanted) (hNext : player.nextFrame ≠ wanted)
      (hReach : ¬ reel.Unreachable wanted) (hSpoiled : reel.Spoiled wanted) :
      Attempt reel player position wanted false [.seek wanted, .decode wanted]

variable {library : ReelLibrary δ} {path : String} {clip : LoadedClip δ}
  {player after : Player δ} {decoder : δ} {wanted : Int32}

theorem Tracks.congr (h : player.Tracks library path clip) (hClip : after.clip = player.clip)
    (hFrame : after.currentFrame = player.currentFrame) (hNext : after.nextFrame = player.nextFrame)
    (hPicture : after.picture = player.picture) : after.Tracks library path clip where
  loaded := hClip.trans h.loaded
  located := h.located
  opened := h.opened
  follows := h.follows
  info := h.info
  sound := h.sound
  canvas := by
    rw [hPicture]
    exact h.canvas
  image := by
    rw [hFrame, hPicture]
    exact h.image
  primed := by
    rw [hNext]
    exact h.primed

theorem Tracks.not_poisoned (h : player.Tracks library path clip) :
    ¬ clip.deck.poisoned = true := by
  rw [h.sound]
  exact Bool.false_ne_true

/-- The decoder may move along the reel while the picture stays. -/
theorem Tracks.moved (h : player.Tracks library path clip)
    (hFollows : library.Follows decoder (library.reel path))
    (hPrimed : Decoder.position decoder = player.nextFrame ∨
      (library.reel path).Spoiled (Decoder.position decoder)) :
    (player.withDecoder clip decoder).Tracks library path (clip.withDecoder decoder) where
  loaded := rfl
  located := h.located
  opened := h.opened
  follows := hFollows
  info := h.info
  sound := h.sound
  canvas := h.canvas
  image := h.image
  primed := hPrimed

/-! ## Decoding -/

/-- Decoding a sound frame shows it. -/
theorem Tracks.decode_of_sound (h : player.Tracks library path clip)
    (hFollows : library.Follows decoder (library.reel path))
    (hThere : Decoder.position decoder = wanted) (hSound : ¬ (library.reel path).Spoiled wanted) :
    ∃ after moved, player.decodeFrame clip decoder wanted = (.ok (), after) ∧
      after.Tracks library path moved ∧ after.currentFrame = some wanted ∧
      after.calls = player.calls.push (.decode wanted) := by
  subst hThere
  obtain ⟨decoder', hDecode, hMoved, hPosition⟩ := library.decode_sound hFollows h.canvas hSound
  refine ⟨{ player.withDecoder clip decoder' with
      calls := player.calls.push (.decode (Decoder.position decoder))
      picture := (library.reel path).image (Decoder.position decoder)
      currentFrame := some (Decoder.position decoder)
      nextFrame := saturatingAdd (Decoder.position decoder) 1 },
    clip.withDecoder decoder', ?_, ?_, rfl, rfl⟩
  · have hPicture : (player.record (.decode (Decoder.position decoder))).picture = player.picture :=
      rfl
    simp only [decodeFrame, hPicture, hDecode]
    rfl
  · refine ⟨rfl, h.located, h.opened, hMoved, h.info, h.sound,
      (library.reel path).isCanvas_image _, ?_, .inl hPosition⟩
    intro frame hFrame
    obtain rfl := Option.some.inj hFrame
    rfl

/-- Decoding a spoiled frame leaves the picture and the bookkeeping as they are. -/
theorem Tracks.decode_of_spoiled (h : player.Tracks library path clip)
    (hFollows : library.Follows decoder (library.reel path))
    (hSpoiled : (library.reel path).Spoiled (Decoder.position decoder)) (wanted : Int32) :
    ∃ cause after moved, player.decodeFrame clip decoder wanted =
        (.error (.notDecoded clip.name wanted cause), after) ∧
      after.Tracks library path moved ∧ after.currentFrame = player.currentFrame ∧
      after.calls = player.calls.push (.decode (Decoder.position decoder)) := by
  obtain ⟨cause, decoder', hDecode, hMoved, hPosition⟩ :=
    library.decode_spoiled player.picture hFollows hSpoiled
  rw [← hPosition] at hSpoiled
  refine ⟨cause, (player.record (.decode (Decoder.position decoder))).withDecoder clip decoder',
    clip.withDecoder decoder', ?_, ?_, rfl, rfl⟩
  · have hPicture : (player.record (.decode (Decoder.position decoder))).picture = player.picture :=
      rfl
    simp only [decodeFrame, hPicture, hDecode]
    rfl
  · exact (h.congr rfl rfl rfl rfl : (player.record _).Tracks library path clip).moved hMoved
      (.inr hSpoiled)

/-! ## Putting a frame on display -/

/-- The attempt to put a frame on display ended in a result, which shows the frame or leaves the one
on display where it is, with a player that tracks its reel. -/
def Ends {α : Type} (library : ReelLibrary δ) (path : String) (clip : LoadedClip δ)
    (player : Player δ) (wanted : Int32) (result : Except PlaybackError α × Player δ) : Prop :=
  ∃ shown calls moved,
    Attempt (library.reel path) player (Decoder.position clip.deck.decoder) wanted shown calls ∧
    result.2.Tracks library path moved ∧
    result.2.calls.toList = player.calls.toList ++ calls ∧
    (shown = true ∧ (∃ answer, result.1 = .ok answer) ∧ result.2.currentFrame = some wanted ∨
      shown = false ∧ (∃ cause, result.1 = .error (.notDecoded clip.name wanted cause)) ∧
        result.2.currentFrame = player.currentFrame)

/-- A decoder that is taken to be on the wanted frame is asked to decode. -/
theorem Tracks.ends_next (h : player.Tracks library path clip)
    (hFrame : player.currentFrame ≠ some wanted) (hNext : player.nextFrame = wanted) :
    player.Ends library path clip wanted (player.decodeFrame clip clip.deck.decoder wanted) := by
  by_cases hSpoiled : (library.reel path).Spoiled (Decoder.position clip.deck.decoder)
  · obtain ⟨cause, after, moved, hDecode, hAfter, hKept, hCalls⟩ :=
      h.decode_of_spoiled h.follows hSpoiled wanted
    rw [hDecode]
    refine ⟨false, _, moved, .stuck hFrame hNext hSpoiled, hAfter, ?_,
      .inr ⟨rfl, ⟨cause, rfl⟩, hKept⟩⟩
    rw [hCalls, Array.toList_push]
  · have hThere : Decoder.position clip.deck.decoder = wanted :=
      (h.primed.resolve_right hSpoiled).trans hNext
    rw [hThere] at hSpoiled
    obtain ⟨after, moved, hDecode, hAfter, hShown, hCalls⟩ :=
      h.decode_of_sound h.follows hThere hSpoiled
    rw [hDecode]
    refine ⟨true, _, moved, .next hFrame hNext hThere hSpoiled, hAfter, ?_,
      .inl ⟨rfl, ⟨(), rfl⟩, hShown⟩⟩
    rw [hCalls, Array.toList_push]

/-- A decoder that has sought the wanted frame is on it when it is asked to decode. -/
theorem Tracks.ends_sought (h : player.Tracks library path clip)
    (hFrame : player.currentFrame ≠ some wanted) (hNext : player.nextFrame ≠ wanted)
    (hReach : ¬ (library.reel path).Unreachable wanted)
    (hFollows : library.Follows decoder (library.reel path))
    (hThere : Decoder.position decoder = wanted) :
    player.Ends library path clip wanted
      ((player.record (.seek wanted)).decodeFrame clip decoder wanted) := by
  have hRecord : (player.record (.seek wanted)).Tracks library path clip := h.congr rfl rfl rfl rfl
  by_cases hSpoiled : (library.reel path).Spoiled wanted
  · obtain ⟨cause, after, moved, hDecode, hAfter, hKept, hCalls⟩ :=
      hRecord.decode_of_spoiled hFollows (by rwa [hThere]) wanted
    rw [hDecode]
    refine ⟨false, _, moved, .spoiled hFrame hNext hReach hSpoiled, hAfter, ?_,
      .inr ⟨rfl, ⟨cause, rfl⟩, hKept⟩⟩
    simp [hCalls, hThere, record]
  · obtain ⟨after, moved, hDecode, hAfter, hShown, hCalls⟩ :=
      hRecord.decode_of_sound hFollows hThere hSpoiled
    rw [hDecode]
    refine ⟨true, _, moved, .sought hFrame hNext hReach hSpoiled, hAfter, ?_,
      .inl ⟨rfl, ⟨(), rfl⟩, hShown⟩⟩
    simp [hCalls, record]

/-- **What a player does to put a frame on display, and how it ends.** -/
theorem Tracks.ends_present (h : player.Tracks library path clip) (wanted : Int32) :
    player.Ends library path clip wanted (player.present clip wanted) := by
  by_cases hFrame : player.currentFrame = some wanted
  · have hPresent : player.present clip wanted = (.ok (), player) := if_pos hFrame
    rw [hPresent]
    exact ⟨true, [], clip, .there hFrame, h, (List.append_nil _).symm,
      .inl ⟨rfl, ⟨(), rfl⟩, hFrame⟩⟩
  rw [present, if_neg hFrame, if_neg h.not_poisoned]
  by_cases hNext : player.nextFrame = wanted
  · rw [if_pos hNext]
    exact h.ends_next hFrame hNext
  · rw [if_neg hNext]
    by_cases hReach : (library.reel path).Unreachable wanted
    · obtain ⟨cause, decoder, hSeek, hFollows, hPosition⟩ :=
        library.seek_unreachable h.follows hReach
      have hRecord : (player.record (.seek wanted)).Tracks library path clip :=
        h.congr rfl rfl rfl rfl
      simp only [hSeek]
      refine ⟨false, _, _, .unreachable hFrame hNext hReach, hRecord.moved hFollows ?_,
        Array.toList_push, .inr ⟨rfl, ⟨cause, rfl⟩, rfl⟩⟩
      rw [hPosition]
      exact h.primed
    · obtain ⟨decoder, hSeek, hFollows, hThere⟩ := library.seek_reachable h.follows hReach
      simp only [hSeek]
      exact h.ends_sought hFrame hNext hReach hFollows hThere

/-- **How an update ends that calls for a frame.** -/
theorem Tracks.ends_updateFrame (h : player.Tracks library path clip) {now : UInt64}
    (hWanted : player.wantedFrame clip.info now = some wanted) :
    player.Ends library path clip wanted (player.updateFrame now) := by
  obtain ⟨shown, calls, moved, hAttempt, hAfter, hCalls, hEnd⟩ := h.ends_present wanted
  refine ⟨shown, calls, moved, hAttempt, ?_⟩
  rw [← updateWith_present]
  rcases hEnd with ⟨hShown, ⟨_, hOk⟩, hCurrent⟩ | ⟨hShown, ⟨cause, hError⟩, hCurrent⟩
  · rw [updateWith_ok h.loaded hWanted (Prod.ext hOk rfl)]
    rcases settle_cases (player.present clip wanted).2 clip with hSettle | ⟨-, hSettle⟩
    · rw [hSettle]
      exact ⟨hAfter, hCalls, .inl ⟨hShown, ⟨none, rfl⟩, hCurrent⟩⟩
    · rw [hSettle]
      exact ⟨hAfter.congr rfl rfl rfl rfl, hCalls, .inl ⟨hShown, ⟨_, rfl⟩, hCurrent⟩⟩
  · rw [updateWith_error h.loaded hWanted (Prod.ext hError rfl)]
    exact ⟨hAfter, hCalls, .inr ⟨hShown, ⟨cause, rfl⟩, hCurrent⟩⟩

/-! ## Loading and commands -/

section Commands

variable {path? : Option String} {other : Player δ} {name : String}

theorem Stands.congr (h : player.Stands library path?) (hClip : after.clip = player.clip)
    (hFrame : after.currentFrame = player.currentFrame) (hNext : after.nextFrame = player.nextFrame)
    (hPicture : after.picture = player.picture) : after.Stands library path? := by
  cases h with
  | empty hNone hNothing hWhole =>
    refine .empty (hClip.trans hNone) (hFrame.trans hNothing) ?_
    rwa [hPicture]
  | loaded h => exact .loaded (h.congr hClip hFrame hNext hPicture)

theorem Stands.isWhole (h : player.Stands library path?) : player.picture.IsWhole := by
  cases h with
  | empty _ _ hWhole => exact hWhole
  | loaded h => exact h.canvas.1

/-- A player with a frame on display tracks a reel. -/
theorem Stands.exists_tracks {frame : Int32} (h : player.Stands library path?)
    (hFrame : player.currentFrame = some frame) :
    ∃ path clip, player.Tracks library path clip := by
  cases h with
  | empty _ hNothing =>
    rw [hNothing] at hFrame
    cases hFrame
  | @loaded path clip h => exact ⟨path, clip, h⟩

/-- A freshly opened decoder is tracked from its first frame on. -/
theorem tracks_install (hWhole : player.picture.IsWhole) (hLocate : library.locate name = .ok path)
    (hOpen : library.openClip path = .ok decoder) :
    (player.install (Asset.key name) decoder).Tracks library path
      ⟨Asset.key name, { serial := player.deckCount, decoder }, Decoder.info decoder⟩ := by
  obtain ⟨hFollows, hPosition, hInfo⟩ := library.opens hOpen
  refine ⟨rfl, ⟨name, hLocate, rfl⟩, ⟨decoder, hOpen⟩, hFollows, hInfo, rfl, ?_, ?_,
    .inl hPosition⟩
  · show (library.reel path).IsCanvas
      (player.picture.resize (Decoder.info decoder).width (Decoder.info decoder).height)
    rw [hInfo]
    exact (library.reel path).isCanvas_resize hWhole
  · intro frame hFrame
    cases hFrame

omit [Decoder δ] in
theorem hasLoaded_eq (player : Player δ) (name : String) :
    player.hasLoaded name = (player.setting.clipName == some (Asset.key name)) := by
  rw [clipName_setting, clipName, hasLoaded]
  cases player.clip with
  | none => rfl
  | some clip => simp

theorem Alike.refl (h : player.Stands library path?) : player.Alike library player :=
  ⟨rfl, path?, h, h⟩

/-- Players that look the same load a clip in the same way. -/
theorem Alike.load (h : player.Alike library other) (name : String) :
    ∃ outcome loaded others, player.load library.toClipLibrary name = (outcome, loaded) ∧
      other.load library.toClipLibrary name = (outcome, others) ∧ loaded.Alike library others := by
  obtain ⟨hView, path?, hPlayer, hOther⟩ := h
  have hSetting : other.setting = player.setting := congrArg View.setting hView
  rw [Player.load, Player.load, hasLoaded_eq, hasLoaded_eq, hSetting]
  split
  · exact ⟨_, _, _, rfl, rfl, hView, path?, hPlayer, hOther⟩
  · split
    · exact ⟨_, _, _, rfl, rfl, hView, path?, hPlayer, hOther⟩
    · rename_i path hLocate
      have hPlayer' : (player.record (.opened path)).Stands library path? :=
        hPlayer.congr rfl rfl rfl rfl
      have hOther' : (other.record (.opened path)).Stands library path? :=
        hOther.congr rfl rfl rfl rfl
      split
      · exact ⟨_, _, _, rfl, rfl, hView, path?, hPlayer', hOther'⟩
      · rename_i decoder hOpen
        split
        · exact ⟨_, _, _, rfl, rfl, hView, path?, hPlayer', hOther'⟩
        · refine ⟨_, _, _, rfl, rfl, ?_, some path,
            .loaded (tracks_install hPlayer'.isWhole hLocate hOpen),
            .loaded (tracks_install hOther'.isWhole hLocate hOpen)⟩
          rw [view_install, view_install, view_record, view_record, hView]

/-- Players that look the same play a clip in the same way. -/
theorem Alike.play (h : player.Alike library other) (name : String) (first last : Int32)
    (now : UInt64) :
    (other.play library.toClipLibrary name first last now).1 =
        (player.play library.toClipLibrary name first last now).1 ∧
      (player.play library.toClipLibrary name first last now).2.Alike library
        (other.play library.toClipLibrary name first last now).2 := by
  obtain ⟨outcome, loaded, others, hLoad, hLoadOther, hAlike⟩ := h.load name
  rw [Player.play, Player.play, hLoad, hLoadOther]
  cases outcome with
  | error fault => exact ⟨rfl, hAlike⟩
  | ok _ =>
    obtain ⟨hView, path?, hLoaded, hOthers⟩ := hAlike
    refine ⟨rfl, ?_, path?, hLoaded.congr rfl rfl rfl rfl, hOthers.congr rfl rfl rfl rfl⟩
    rw [view_start, view_start, hView]

/-- Players that look the same show one frame in the same way. -/
theorem Alike.playSingleFrame (h : player.Alike library other) (name : String) (frame : Int32) :
    (other.playSingleFrame library.toClipLibrary name frame).1 =
        (player.playSingleFrame library.toClipLibrary name frame).1 ∧
      (player.playSingleFrame library.toClipLibrary name frame).2.Alike library
        (other.playSingleFrame library.toClipLibrary name frame).2 := by
  obtain ⟨outcome, loaded, others, hLoad, hLoadOther, hAlike⟩ := h.load name
  rw [Player.playSingleFrame, Player.playSingleFrame, hLoad, hLoadOther]
  cases outcome with
  | error fault => exact ⟨rfl, hAlike⟩
  | ok _ =>
    obtain ⟨hView, path?, hLoaded, hOthers⟩ := hAlike
    refine ⟨rfl, ?_, path?, hLoaded.congr rfl rfl rfl rfl, hOthers.congr rfl rfl rfl rfl⟩
    exact view_withState hView (.singleFrame frame)

/-- Players that look the same answer every request in the same way and look the same afterwards,
if only they bring the picture up to the time in the same way. -/
theorem Alike.serve {presenter different : Presenter δ} (h : player.Alike library other)
    (hUpdate : ∀ now, (other.updateWith different now).1 = (player.updateWith presenter now).1 ∧
      (player.updateWith presenter now).2.Alike library (other.updateWith different now).2)
    (request : Request) :
    (other.serve different library.toClipLibrary request).1 =
        (player.serve presenter library.toClipLibrary request).1 ∧
      (player.serve presenter library.toClipLibrary request).2.Alike library
        (other.serve different library.toClipLibrary request).2 := by
  cases request with
  | play name first last now =>
    obtain ⟨hOutcome, hAlike⟩ := h.play name first last now
    exact ⟨congrArg (Except.map fun _ => none) hOutcome, hAlike⟩
  | playSingleFrame name frame =>
    obtain ⟨hOutcome, hAlike⟩ := h.playSingleFrame name frame
    exact ⟨congrArg (Except.map fun _ => none) hOutcome, hAlike⟩
  | stop =>
    obtain ⟨hView, path?, hPlayer, hOther⟩ := h
    exact ⟨rfl, view_withState hView .stopped, path?, hPlayer.congr rfl rfl rfl rfl,
      hOther.congr rfl rfl rfl rfl⟩
  | update now => exact hUpdate now

end Commands

/-! ## Runs -/

variable {path? : Option String}

/-- An update leaves the player with a clip that it tracks, if it had one. -/
theorem Stands.updateFrame (h : player.Stands library path?) (now : UInt64) :
    (player.updateFrame now).2.Stands library path? := by
  rw [← updateWith_present]
  cases h with
  | empty hClip hFrame hWhole =>
    rw [updateWith_of_no_clip hClip]
    exact .empty hClip hFrame hWhole
  | @loaded path clip h =>
    cases hWanted : player.wantedFrame clip.info now with
    | none =>
      rw [updateWith_of_no_wanted h.loaded hWanted]
      exact .loaded h
    | some wanted =>
      obtain ⟨_, _, moved, -, hAfter, -⟩ := h.ends_updateFrame hWanted
      exact .loaded hAfter

/-- **After any requests, whether they succeeded or failed, the player tracks the reel of its
clip.** -/
theorem stands_serveAll (library : ReelLibrary δ) (requests : List Request) :
    ∃ path?, (({} : Player δ).serveAll present library.toClipLibrary requests).Stands library
      path? := by
  refine serveAll_induction (motive := fun player => ∃ path?, player.Stands library path?) ?_ ?_
    requests
  · exact ⟨none, .empty rfl rfl FrameBuffer.isWhole_default⟩
  · rintro player request ⟨path?, h⟩
    have hUpdate : ∀ now, (player.updateWith present now).1 = (player.updateWith present now).1 ∧
        (player.updateWith present now).2.Alike library (player.updateWith present now).2 :=
      fun now => ⟨rfl, .refl (h.updateFrame now)⟩
    obtain ⟨-, -, path?, hAfter, -⟩ := (Alike.refl h).serve hUpdate request
    exact ⟨path?, hAfter⟩


end Player
end BranchingMovie
