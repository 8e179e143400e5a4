import BranchingMovie.Proofs.Playback.Display

/-!
# Frames after a failure

What a frame that cannot be shown does to the frames after it.  A seek that fails does nothing to
them.  A decoding that fails after a seek leaves the decoder on the spoiled frame, while the player
takes it to be where it was before.  The player is then misled about one frame (`Misled`): the next
request for that frame decodes the spoiled one again, and fails.  Every other frame is sought first,
and shown.
-/

namespace BranchingMovie
namespace Player

variable {δ : Type} [Decoder δ]

/-- The player takes its decoder to be on the wanted frame, which is not on display, and the decoder
is on another. -/
structure Misled (player : Player δ) (clip : LoadedClip δ) (wanted : Int32) : Prop where
  hidden : player.currentFrame ≠ some wanted
  next : player.nextFrame = wanted
  elsewhere : Decoder.position clip.deck.decoder ≠ wanted

variable {library : ReelLibrary δ} {path : String} {clip : LoadedClip δ} {player : Player δ}
  {wanted frame : Int32} {now : UInt64}

/-- An update that calls for a sound frame shows it or, when the player is misled, decodes the
spoiled frame that the decoder is on. -/
theorem Tracks.updateFrame_of_sound (h : player.Tracks library path clip)
    (hWanted : player.wantedFrame clip.info now = some wanted)
    (hReach : ¬ (library.reel path).Unreachable wanted)
    (hSound : ¬ (library.reel path).Spoiled wanted) :
    ∃ calls, (player.updateFrame now).2.calls.toList = player.calls.toList ++ calls ∧
      (¬ player.Misled clip wanted ∧ (∃ ended, (player.updateFrame now).1 = .ok ended) ∧
          (player.updateFrame now).2.currentFrame = some wanted ∧
          (∀ frame, .decode frame ∈ calls → frame = wanted) ∨
        player.Misled clip wanted ∧
          (library.reel path).Spoiled (Decoder.position clip.deck.decoder) ∧
          (∃ cause, (player.updateFrame now).1 = .error (.notDecoded clip.name wanted cause)) ∧
          (player.updateFrame now).2.currentFrame = player.currentFrame ∧
          calls = [.decode (Decoder.position clip.deck.decoder)]) := by
  obtain ⟨shown, calls, moved, hAttempt, -, hCalls, hEnd⟩ := h.ends_updateFrame hWanted
  refine ⟨calls, hCalls, ?_⟩
  rcases hEnd with ⟨rfl, hOk, hShown⟩ | ⟨rfl, hError, hKept⟩
  · refine .inl ⟨?_, hOk, hShown, ?_⟩
    · -- a misled player would have decoded the frame that its decoder is on
      rintro ⟨hHidden, hNext, hElsewhere⟩
      cases hAttempt with
      | there hFrame => exact hHidden hFrame
      | next _ _ hPosition => exact hElsewhere hPosition
      | sought _ hAway => exact hAway hNext
    · intro frame hFrame
      cases hAttempt with
      | there => simp at hFrame
      | next | sought => simpa using hFrame
  · cases hAttempt with
    | stuck hHidden hNext hSpoiled =>
      refine .inr ⟨⟨hHidden, hNext, ?_⟩, hSpoiled, hError, hKept, rfl⟩
      rintro rfl
      exact hSound hSpoiled
    | unreachable _ _ hUnreachable => exact absurd hUnreachable hReach
    | spoiled _ _ _ hSpoiled => exact absurd hSpoiled hSound

/-- **A frame that cannot be shown damages at most one other.**  After any requests to rehearsal
clips, an update that calls for a frame that can be sought and decoded

* shows it exactly when the player is not misled about it, and then decodes no other frame;
* otherwise decodes the bad frame that the decoder is stuck on, reports the wanted frame as the one
  that cannot be decoded, and leaves the frame on display where it is. -/
theorem updateFrame_of_good_frame (profiles : List (String × RehearsalProfile))
    (requests : List Request) (now : UInt64) (clip : LoadedClip RehearsalDecoder) (wanted : Int32) :
    let player :=
      ({} : Player RehearsalDecoder).serveAll present (rehearsalLibrary profiles) requests
    let result := player.updateFrame now
    player.clip = some clip → player.wantedFrame clip.info now = some wanted →
    wanted ∉ clip.deck.decoder.profile.badSeek → wanted ∉ clip.deck.decoder.profile.badDecode →
    ((∃ ended, result.1 = .ok ended) ↔ ¬ player.Misled clip wanted) ∧
    ∃ calls, result.2.calls.toList = player.calls.toList ++ calls ∧
      (¬ player.Misled clip wanted →
        result.2.currentFrame = some wanted ∧ ∀ frame, .decode frame ∈ calls → frame = wanted) ∧
      (player.Misled clip wanted →
        clip.deck.decoder.position ∈ clip.deck.decoder.profile.badDecode ∧
        (∃ cause, result.1 = .error (.notDecoded clip.name wanted cause)) ∧
        result.2.currentFrame = player.currentFrame ∧
        calls = [.decode clip.deck.decoder.position]) := by
  intro player result hClip hWanted hReach hSound
  obtain ⟨path?, hStands⟩ := stands_serveAll (rehearsalReels profiles) requests
  cases hStands with
  | empty hNone => exact absurd (hNone.symm.trans hClip) (by simp)
  | @loaded path same h =>
    obtain rfl : same = clip := Option.some.inj (h.loaded.symm.trans hClip)
    have hReel : same.deck.decoder.profile.reel = (rehearsalReels profiles).reel path := h.follows
    have hEnds := h.updateFrame_of_sound hWanted (by rw [← hReel]; exact hReach)
      (by rw [← hReel]; exact hSound)
    rw [← hReel] at hEnds
    obtain ⟨calls, hCalls,
      ⟨hTrue, hOk, hShown, hDecodes⟩ | ⟨hMisled, hBad, hError, hKept, hStuck⟩⟩ := hEnds
    · exact ⟨⟨fun _ => hTrue, fun _ => hOk⟩, calls, hCalls, fun _ => ⟨hShown, hDecodes⟩,
        fun hMisled => absurd hMisled hTrue⟩
    · refine ⟨⟨?_, fun hTrue => absurd hMisled hTrue⟩, calls, hCalls,
        fun hTrue => absurd hMisled hTrue, fun _ => ⟨hBad, hError, hKept, hStuck⟩⟩
      rintro ⟨ended, hOk⟩
      obtain ⟨cause, hError⟩ := hError
      have hBoth : (.ok ended : Except PlaybackError (Option EndOfClip)) = .error _ :=
        hOk.symm.trans hError
      cases hBoth

section Example

/-- What a clip does whose frame 5 cannot be decoded. -/
def spoiledAtFive : RehearsalProfile where
  info := { width := 2, height := 1, timeScale := 600, frameDuration := 60 }
  badDecode := [5]

/-- Frame 0 is shown, frame 5 is called for in vain, and another frame is asked for. -/
def requestsAfterFailure (frame : Int32) : List Request :=
  [.playSingleFrame "a.mov" 0, .update 0, .playSingleFrame "a.mov" 5, .update 0,
    .playSingleFrame "a.mov" frame]

/-- The clip after the failure, with its decoder on frame 5. -/
def stuckAtFive : LoadedClip RehearsalDecoder where
  name := "a.mov"
  deck := { serial := 0, decoder := { profile := spoiledAtFive, position := 5 } }
  info := spoiledAtFive.info

/-- After the failure the player is not misled about frame 2, and shows it. -/
theorem updateFrame_of_good_frame_after_failure :
    let player := ({} : Player RehearsalDecoder).serveAll present
      (rehearsalLibrary [("a.mov", spoiledAtFive)]) (requestsAfterFailure 2)
    ∃ ended, (player.updateFrame 0).1 = .ok ended := by
  intro player
  have hClip : player.clip = some stuckAtFive := by rfl
  have hTrue : ¬ player.Misled stuckAtFive 2 := by
    intro hMisled
    exact absurd hMisled.next (by decide +kernel)
  obtain ⟨hIff, -⟩ := updateFrame_of_good_frame [("a.mov", spoiledAtFive)] (requestsAfterFailure 2)
    0 stuckAtFive 2 hClip (by decide +kernel) (by decide) (by decide)
  exact hIff.2 hTrue

/-- After the failure frame 1 cannot be shown: not every update that calls for a good frame
succeeds. -/
theorem not_forall_good_frame_shown :
    ¬ ∀ (profiles : List (String × RehearsalProfile)) (requests : List Request) (now : UInt64)
        (clip : LoadedClip RehearsalDecoder) (wanted : Int32),
      let player :=
        ({} : Player RehearsalDecoder).serveAll present (rehearsalLibrary profiles) requests
      player.clip = some clip → player.wantedFrame clip.info now = some wanted →
      wanted ∉ clip.deck.decoder.profile.badSeek → wanted ∉ clip.deck.decoder.profile.badDecode →
      (∃ ended, (player.updateFrame now).1 = .ok ended) ∧
        (player.updateFrame now).2.currentFrame = some wanted := by
  intro hAll
  obtain ⟨-, hShown⟩ := hAll [("a.mov", spoiledAtFive)] (requestsAfterFailure 1) 0 stuckAtFive 1
    (by rfl) (by decide +kernel) (by decide) (by decide)
  exact absurd hShown (by decide +kernel)

end Example

end Player
end BranchingMovie
