import BranchingMovie.Playback.Synthetic
import BranchingMovie.Proofs.Playback.Display

/-!
# Seeking when it is needed

A player seeks only when its decoder is not on the wanted frame.  With decoders that never fail, no
one can tell it from a player that seeks before every decoding
(`present_indistinguishable_from_presentAfresh`): both put the wanted frame on display
(`Tracks.shows_present`, `Tracks.shows_presentAfresh`), so they look the same after an update when
they looked the same before it (`Alike.updateWith`).
-/

namespace BranchingMovie

/-- The decoders of rehearsal clips without bad frames never fail. -/
theorem isFlawless_rehearsalReels {profiles : List (String × RehearsalProfile)}
    (h : ∀ entry ∈ profiles, entry.2.badSeek = [] ∧ entry.2.badDecode = []) :
    (rehearsalReels profiles).IsFlawless := by
  intro path _ _
  show ((profiles.lookup path).elim .blank RehearsalProfile.reel).Flawless
  cases hLookup : profiles.lookup path with
  | none => exact ⟨fun _ => id, fun _ => id⟩
  | some profile =>
    obtain ⟨before, after, rfl, -⟩ := List.lookup_eq_some_iff.1 hLookup
    have hSeek : profile.badSeek = [] := (h (path, profile) (by simp)).1
    have hDecode : profile.badDecode = [] := (h (path, profile) (by simp)).2
    constructor
    · show ∀ frame, frame ∉ profile.badSeek
      simp [hSeek]
    · show ∀ frame, frame ∉ profile.badDecode
      simp [hDecode]

namespace Player

variable {δ : Type} [Decoder δ] {library : ReelLibrary δ} {path : String} {clip : LoadedClip δ}
  {player other : Player δ} {wanted : Int32}

/-! ## Both ways show the wanted frame -/

/-- A result has the wanted frame on display, with nothing else set. -/
def Shows (library : ReelLibrary δ) (path : String) (player : Player δ) (wanted : Int32)
    (result : Except PlaybackError Unit × Player δ) : Prop :=
  ∃ after moved, result = (.ok (), after) ∧ after.Tracks library path moved ∧
    after.view = ⟨player.setting, some wanted, (library.reel path).image wanted⟩

theorem Tracks.view_eq (h : player.Tracks library path clip)
    (hFrame : player.currentFrame = some wanted) :
    player.view = ⟨player.setting, some wanted, (library.reel path).image wanted⟩ := by
  rw [view, hFrame, h.image wanted hFrame]

/-- A player that seeks when it needs to shows the wanted frame of a flawless reel. -/
theorem Tracks.shows_present (h : player.Tracks library path clip)
    (hFlawless : (library.reel path).Flawless) (wanted : Int32) :
    player.Shows library path wanted (player.present clip wanted) := by
  obtain ⟨shown, calls, moved, hAttempt, hAfter, -, hEnd⟩ := h.ends_present wanted
  have hShown : shown = true := by
    cases hAttempt with
    | there | next | sought => rfl
    | stuck _ _ hSpoiled => exact absurd hSpoiled (hFlawless.sound _)
    | unreachable _ _ hUnreachable => exact absurd hUnreachable (hFlawless.reachable _)
    | spoiled _ _ _ hSpoiled => exact absurd hSpoiled (hFlawless.sound _)
  rcases hEnd with ⟨-, ⟨_, hOk⟩, hFrame⟩ | ⟨hHidden, -⟩
  · refine ⟨_, moved, Prod.ext hOk rfl, hAfter, ?_⟩
    rw [hAfter.view_eq hFrame, setting_present h.loaded]
  · rw [hShown] at hHidden
    cases hHidden

/-- A player that always seeks shows the wanted frame of a flawless reel. -/
theorem Tracks.shows_presentAfresh (h : player.Tracks library path clip)
    (hFlawless : (library.reel path).Flawless) (wanted : Int32) :
    player.Shows library path wanted (player.presentAfresh clip wanted) := by
  by_cases hFrame : player.currentFrame = some wanted
  · exact ⟨player, clip, if_pos hFrame, h, h.view_eq hFrame⟩
  have hRecord : (player.record (.seek wanted)).Tracks library path clip := h.congr rfl rfl rfl rfl
  obtain ⟨decoder, hSeek, hFollows, hThere⟩ :=
    library.seek_reachable h.follows (hFlawless.reachable wanted)
  obtain ⟨after, moved, hDecode, hAfter, hShown, -⟩ :=
    hRecord.decode_of_sound hFollows hThere (hFlawless.sound wanted)
  have hSetting : after.setting = player.setting := by
    rw [← setting_record player (.seek wanted), ← setting_decodeFrame hRecord.loaded decoder wanted,
      hDecode]
  refine ⟨after, moved, ?_, hAfter, ?_⟩
  · rw [presentAfresh, if_neg hFrame, if_neg h.not_poisoned]
    simp only [hSeek]
    exact hDecode
  · rw [hAfter.view_eq hShown, hSetting]

/-! ## Both ways look the same -/

omit [Decoder δ] in
/-- The frame that the clock calls for is a matter of the setting. -/
theorem wantedFrame_congr (h : other.setting = player.setting) (info : ClipInfo) (now : UInt64) :
    other.wantedFrame info now = player.wantedFrame info now := by
  have hState : other.state = player.state := congrArg Setting.state h
  have hStart : other.startFrame = player.startFrame := congrArg Setting.startFrame h
  have hEnd : other.endFrame = player.endFrame := congrArg Setting.endFrame h
  have hTime : other.startTime = player.startTime := congrArg Setting.startTime h
  rw [wantedFrame, wantedFrame, hState, hStart, hEnd, hTime]

omit [Decoder δ] in
/-- Players that look the same end a play in the same way. -/
theorem settle_congr {same : LoadedClip δ} (h : other.view = player.view)
    (hName : same.name = clip.name) :
    (other.settle same).1 = (player.settle clip).1 ∧
      (other.settle same).2.view = (player.settle clip).2.view := by
  have hFrame : other.currentFrame = player.currentFrame := congrArg View.currentFrame h
  have hSetting : other.setting = player.setting := congrArg View.setting h
  have hState : other.state = player.state := congrArg Setting.state hSetting
  have hEnd : other.endFrame = player.endFrame := congrArg Setting.endFrame hSetting
  rw [settle, settle, hFrame, hState, hEnd, hName]
  split
  · split
    · exact ⟨rfl, view_withState h .stopped⟩
    · exact ⟨rfl, h⟩
  · exact ⟨rfl, h⟩

/-- Settling a play leaves the player with the reel that it tracks. -/
theorem Tracks.settle (h : player.Tracks library path clip) (same : LoadedClip δ) :
    (player.settle same).2.Tracks library path clip := by
  rcases settle_cases player same with hSettle | ⟨-, hSettle⟩
  · rw [hSettle]
    exact h
  · rw [hSettle]
    exact h.congr rfl rfl rfl rfl

/-- Whether a player seeks when it needs to or always, an update ends in the same way. -/
theorem Alike.updateWith (h : player.Alike library other)
    (hFlawless : library.IsFlawless) (now : UInt64) :
    (other.updateWith presentAfresh now).1 = (player.updateWith present now).1 ∧
      (player.updateWith present now).2.Alike library (other.updateWith presentAfresh now).2 := by
  obtain ⟨hView, path?, hPlayer, hOther⟩ := h
  cases hPlayer with
  | empty hClip hFrame hWhole =>
    cases hOther with
    | empty hClip' hFrame' hWhole' =>
      rw [updateWith_of_no_clip hClip, updateWith_of_no_clip hClip']
      exact ⟨rfl, hView, none, .empty hClip hFrame hWhole, .empty hClip' hFrame' hWhole'⟩
  | @loaded path clip h =>
    cases hOther with
    | @loaded _ same h' =>
      have hSetting : other.setting = player.setting := congrArg View.setting hView
      have hClip := congrArg Setting.clip hSetting
      rw [setting_clip h.loaded, setting_clip h'.loaded] at hClip
      obtain ⟨hName, hInfo⟩ := Prod.mk.inj (Option.some.inj hClip)
      have hCalled : other.wantedFrame same.info now = player.wantedFrame clip.info now := by
        rw [wantedFrame_congr hSetting, hInfo]
      cases hWanted : player.wantedFrame clip.info now with
      | none =>
        rw [updateWith_of_no_wanted h.loaded hWanted,
          updateWith_of_no_wanted h'.loaded (hCalled.trans hWanted)]
        exact ⟨rfl, hView, some path, .loaded h, .loaded h'⟩
      | some wanted =>
        obtain ⟨decoder, hOpen⟩ := h.opened
        obtain ⟨after, moved, hPresent, hAfter, hShown⟩ :=
          h.shows_present (hFlawless path decoder hOpen) wanted
        obtain ⟨after', moved', hPresent', hAfter', hShown'⟩ :=
          h'.shows_presentAfresh (hFlawless path decoder hOpen) wanted
        have hAlike : after'.view = after.view := by rw [hShown, hShown', hSetting]
        obtain ⟨hEnded, hSettled⟩ := settle_congr hAlike hName
        rw [updateWith_ok h.loaded hWanted hPresent,
          updateWith_ok h'.loaded (hCalled.trans hWanted) hPresent']
        exact ⟨congrArg Except.ok hEnded, hSettled, some path, .loaded (hAfter.settle clip),
          .loaded (hAfter'.settle same)⟩

/-- Players that look the same have histories that look the same. -/
theorem Alike.history (h : player.Alike library other)
    (hFlawless : library.IsFlawless) (requests : List Request) :
    (other.history presentAfresh library.toClipLibrary requests).map (Prod.map id view) =
      (player.history present library.toClipLibrary requests).map (Prod.map id view) := by
  induction requests generalizing player other with
  | nil => rfl
  | cons request requests ih =>
    obtain ⟨hAnswer, hAfter⟩ := h.serve (fun now => h.updateWith hFlawless now) request
    rw [Player.history, Player.history, List.map_cons, List.map_cons, ih hAfter]
    exact congrArg (· :: _) (Prod.ext hAnswer hAfter.1)

/-! ## What the decoder is asked for -/

omit [Decoder δ] in
/-- What the decoder is asked to decode for a frame that is not on display is that frame, or one
that cannot be decoded. -/
theorem Attempt.decode_mem {reel : Reel} {position frame : Int32} {shown : Bool}
    {calls : List DecoderCall} (h : Attempt reel player position wanted shown calls)
    (hMem : .decode frame ∈ calls) :
    player.currentFrame ≠ some wanted ∧ (frame = wanted ∨ reel.Spoiled frame) := by
  cases h with
  | there => simp at hMem
  | next hFrame => exact ⟨hFrame, .inl (by simpa using hMem)⟩
  | sought hFrame => exact ⟨hFrame, .inl (by simpa using hMem)⟩
  | stuck hFrame _ hSpoiled =>
    obtain rfl : frame = position := by simpa using hMem
    exact ⟨hFrame, .inr hSpoiled⟩
  | unreachable => simp at hMem
  | spoiled hFrame => exact ⟨hFrame, .inl (by simpa using hMem)⟩

/-- A request that decodes frames is an update, and the frames are those that the clock calls for
when they are not on display. -/
def DecodesToShow (library : ClipLibrary δ) (player : Player δ) (request : Request) : Prop :=
  ∃ calls, (player.serve present library request).2.calls.toList = player.calls.toList ++ calls ∧
    ∀ frame, .decode frame ∈ calls → ∃ now clip, request = .update now ∧
      player.clip = some clip ∧ player.wantedFrame clip.info now = some frame ∧
      player.currentFrame ≠ some frame

/-- Loading decodes nothing. -/
theorem exists_calls_load (library : ClipLibrary δ) (player : Player δ) (name : String) :
    ∃ calls, (player.load library name).2.calls.toList = player.calls.toList ++ calls ∧
      ∀ frame, .decode frame ∉ calls := by
  have hNone : ∃ calls, player.calls.toList = player.calls.toList ++ calls ∧
      ∀ frame, .decode frame ∉ calls := ⟨[], by simp⟩
  have hOpened (path : String) : ∃ calls,
      (player.record (.opened path)).calls.toList = player.calls.toList ++ calls ∧
        ∀ frame, .decode frame ∉ calls := ⟨[.opened path], by simp [record]⟩
  unfold load
  split
  · exact hNone
  · split
    · exact hNone
    · split
      · exact hOpened _
      · split <;> exact hOpened _

/-- A player that tracks a flawless reel decodes only what it has to show. -/
theorem Stands.decodesToShow {path? : Option String} (h : player.Stands library path?)
    (hFlawless : library.IsFlawless) (request : Request) :
    player.DecodesToShow library.toClipLibrary request := by
  have hLoad (name : String) := exists_calls_load library.toClipLibrary player name
  cases request with
  | play name first last now =>
    obtain ⟨calls, hCalls, hMem⟩ := hLoad name
    rw [← (play_eq_load _ player name first last now).2.2] at hCalls
    exact ⟨calls, hCalls, fun frame hFrame => absurd hFrame (hMem frame)⟩
  | playSingleFrame name frame =>
    obtain ⟨calls, hCalls, hMem⟩ := hLoad name
    rw [← (playSingleFrame_eq_load _ player name frame).2.2] at hCalls
    exact ⟨calls, hCalls, fun frame hFrame => absurd hFrame (hMem frame)⟩
  | stop => exact ⟨[], (List.append_nil _).symm, by simp⟩
  | update now =>
    show ∃ calls, (player.updateWith present now).2.calls.toList = _ ∧ _
    cases h with
    | empty hClip =>
      rw [updateWith_of_no_clip hClip]
      exact ⟨[], (List.append_nil _).symm, by simp⟩
    | @loaded path clip h =>
      cases hWanted : player.wantedFrame clip.info now with
      | none =>
        rw [updateWith_of_no_wanted h.loaded hWanted]
        exact ⟨[], (List.append_nil _).symm, by simp⟩
      | some wanted =>
        obtain ⟨decoder, hOpen⟩ := h.opened
        obtain ⟨_, calls, _, hAttempt, -, hCalls, -⟩ := h.ends_updateFrame hWanted
        refine ⟨calls, hCalls, ?_⟩
        intro frame hFrame
        obtain ⟨hHidden, rfl | hSpoiled⟩ := hAttempt.decode_mem hFrame
        · exact ⟨now, clip, rfl, h.loaded, hWanted, hHidden⟩
        · exact absurd hSpoiled ((hFlawless path decoder hOpen).sound frame)

/-! ## The whole -/

/-- The picture is the frame on display of the loaded clip. -/
def ShowsItsFrame (library : ReelLibrary δ) (player : Player δ) : Prop :=
  ∀ frame, player.currentFrame = some frame → ∃ clip name path,
    player.clip = some clip ∧ clip.name = Asset.key name ∧ library.locate name = .ok path ∧
      player.picture = (library.reel path).image frame

theorem Stands.showsItsFrame {path? : Option String} (h : player.Stands library path?) :
    player.ShowsItsFrame library := by
  intro frame hFrame
  obtain ⟨path, clip, h⟩ := h.exists_tracks hFrame
  obtain ⟨name, hLocate, hName⟩ := h.located
  exact ⟨clip, name, path, h.loaded, hName, hLocate, h.image frame hFrame⟩

end Player

/-- The picture has three bytes for each pixel of the dimensions, and each of them is the frame
number modulo 256. -/
def FrameBuffer.Repeats (buffer : FrameBuffer) (size : UInt32 × UInt32) (frame : Int32) : Prop :=
  buffer.width = size.1 ∧ buffer.height = size.2 ∧
    buffer.pixels.size = 3 * size.1.toNat * size.2.toNat ∧
    ∀ byte ∈ buffer.pixels, (byte.toNat : Int) = frame.toInt % 256

theorem FrameBuffer.repeats_uniform (width height : UInt32) (frame : Int32) :
    (FrameBuffer.uniform width height (lowByte frame)).Repeats (width, height) frame := by
  obtain ⟨hSize, hBytes⟩ := FrameBuffer.size_uniform width height (lowByte frame)
  refine ⟨rfl, rfl, hSize, ?_⟩
  intro byte hByte
  rw [hBytes byte hByte, toNat_lowByte]

namespace Player

variable {path? : Option String} {frame : Int32}

/-- The picture of a rehearsal clip repeats the number of the frame on display. -/
theorem Stands.repeats_rehearsal {profiles : List (String × RehearsalProfile)}
    {player : Player RehearsalDecoder} (h : player.Stands (rehearsalReels profiles) path?)
    (hFrame : player.currentFrame = some frame) :
    ∃ clip, player.clip = some clip ∧
      player.picture.Repeats clip.deck.decoder.profile.size frame := by
  obtain ⟨path, clip, h⟩ := h.exists_tracks hFrame
  have hReel : clip.deck.decoder.profile.reel = (rehearsalReels profiles).reel path := h.follows
  refine ⟨clip, h.loaded, ?_⟩
  rw [h.image frame hFrame, ← hReel]
  exact FrameBuffer.repeats_uniform _ _ frame

/-- The picture of a synthetic clip repeats the number of the frame on display. -/
theorem Stands.repeats_synthetic {profile : SyntheticProfile}
    {locate : String → Except Asset.NotFound String} {player : Player SyntheticDecoder}
    (h : player.Stands (profile.reels locate) path?) (hFrame : player.currentFrame = some frame) :
    player.picture.Repeats (profile.width, profile.height) frame := by
  obtain ⟨path, clip, h⟩ := h.exists_tracks hFrame
  rw [h.image frame hFrame]
  exact FrameBuffer.repeats_uniform _ _ frame

/-- **With decoders that never fail, no one can tell whether a player seeks only when its decoder is
elsewhere or before every decoding.**  Every request has the same answer, and the player looks the
same after it.  So whatever was asked of the player,

* the picture is the frame on display of the loaded clip,
* a frame is decoded only by an update that calls for it when it is not on display, and
* the picture of a rehearsal clip or a synthetic clip repeats the number of its frame. -/
theorem present_indistinguishable_from_presentAfresh {δ : Type} [Decoder δ]
    (library : ReelLibrary δ) (hFlawless : library.IsFlawless) (requests : List Request) :
    (({} : Player δ).history presentAfresh library.toClipLibrary requests).map (Prod.map id view) =
        (({} : Player δ).history present library.toClipLibrary requests).map (Prod.map id view) ∧
      (({} : Player δ).serveAll present library.toClipLibrary requests).ShowsItsFrame library ∧
      (∀ request, (({} : Player δ).serveAll present library.toClipLibrary requests).DecodesToShow
        library.toClipLibrary request) ∧
      (∀ profiles frame,
        let player :=
          ({} : Player RehearsalDecoder).serveAll present (rehearsalLibrary profiles) requests
        player.currentFrame = some frame →
        ∃ clip, player.clip = some clip ∧
          player.picture.Repeats clip.deck.decoder.profile.size frame) ∧
      ∀ (profile : SyntheticProfile) locate frame,
        let player :=
          ({} : Player SyntheticDecoder).serveAll present (profile.library locate) requests
        player.currentFrame = some frame →
        player.picture.Repeats (profile.width, profile.height) frame := by
  have hStart : ({} : Player δ).Alike library {} :=
    .refl (.empty rfl rfl FrameBuffer.isWhole_default)
  obtain ⟨path?, h⟩ := stands_serveAll library requests
  refine ⟨hStart.history hFlawless requests, h.showsItsFrame, h.decodesToShow hFlawless, ?_, ?_⟩
  · intro profiles frame player hFrame
    obtain ⟨_, hRehearsal⟩ := stands_serveAll (rehearsalReels profiles) requests
    exact hRehearsal.repeats_rehearsal hFrame
  · intro profile locate frame player hFrame
    obtain ⟨_, hSynthetic⟩ := stands_serveAll (profile.reels locate) requests
    exact hSynthetic.repeats_synthetic hFrame

/-- A jump back from the last frame that there is: the picture is the frame that was jumped to. -/
theorem present_indistinguishable_from_presentAfresh_of_jump :
    let library := rehearsalReels
      [("a", { info := { width := 2, height := 1, timeScale := 600, frameDuration := 40 } })]
    let requests : List Request :=
      [.playSingleFrame "a" 2147483647, .update 0, .playSingleFrame "a" 3, .update 40]
    (({} : Player RehearsalDecoder).history presentAfresh library.toClipLibrary requests).map
          (Prod.map id view) =
        (({} : Player RehearsalDecoder).history present library.toClipLibrary requests).map
          (Prod.map id view) ∧
      (({} : Player RehearsalDecoder).serveAll present library.toClipLibrary requests).picture =
        ⟨2, 1, #[3, 3, 3, 3, 3, 3]⟩ := by
  intro library requests
  have hFlawless : library.IsFlawless := isFlawless_rehearsalReels (by simp)
  exact ⟨(present_indistinguishable_from_presentAfresh library hFlawless requests).1,
    by decide +kernel⟩

end Player
end BranchingMovie
