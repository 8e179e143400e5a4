import BranchingMovie.Proofs.Playback.Setting

/-!
# Requests to a player

A player is asked to play, to show one frame, to stop, and to bring the picture up to the time.
`serve` answers one request, `serveAll` and `history` answer a list of them, whether they succeed or
fail.

How a frame is put on display is a parameter, a `Presenter`: `Player.present` seeks only when it has
to, and `Player.presentAfresh` seeks before every decoding.
-/

namespace BranchingMovie

/-- What can be asked of a player. -/
inductive Request where
  | play (name : String) (first last : Int32) (now : UInt64)
  | playSingleFrame (name : String) (frame : Int32)
  | stop
  | update (now : UInt64)
  deriving DecidableEq, Repr

/-- A way to put a frame of the loaded clip on display. -/
abbrev Presenter (δ : Type) : Type :=
  Player δ → LoadedClip δ → Int32 → Except PlaybackError Unit × Player δ

namespace Player

variable {δ : Type} [Decoder δ]

/-- Puts a frame of the clip on display, unless it is there, and seeks before it decodes. -/
def presentAfresh : Presenter δ := fun player clip wanted =>
  if player.currentFrame = some wanted then (.ok (), player)
  else if clip.deck.poisoned then (.error .decoderPoisoned, player)
  else
    let player := player.record (.seek wanted)
    match Decoder.seek clip.deck.decoder wanted with
    | (.error cause, decoder) =>
      (.error (.notDecoded clip.name wanted cause), player.withDecoder clip decoder)
    | (.ok (), decoder) => player.decodeFrame clip decoder wanted

/-- Brings the frame that the clock calls for on display, in the way of a presenter, and tells of
the end of a play. -/
def updateWith (presenter : Presenter δ) (player : Player δ) (now : UInt64) :
    Except PlaybackError (Option EndOfClip) × Player δ :=
  match player.clip with
  | none => (.ok none, player)
  | some clip =>
    match player.wantedFrame clip.info now with
    | none => (.ok none, player)
    | some wanted =>
      match presenter player clip wanted with
      | (.error fault, player) => (.error fault, player)
      | (.ok (), player) =>
        let (ended, player) := player.settle clip
        (.ok ended, player)

theorem updateWith_present (player : Player δ) (now : UInt64) :
    player.updateWith present now = player.updateFrame now := rfl

section Update

variable {presenter : Presenter δ} {player after : Player δ} {clip : LoadedClip δ} {now : UInt64}
  {wanted : Int32}

omit [Decoder δ] in
/-- An update ends in the frame on display and settles the play. -/
theorem updateWith_ok (hClip : player.clip = some clip)
    (hWanted : player.wantedFrame clip.info now = some wanted)
    (h : presenter player clip wanted = (.ok (), after)) :
    player.updateWith presenter now = (.ok (after.settle clip).1, (after.settle clip).2) := by
  simp only [updateWith, hClip, hWanted, h]

omit [Decoder δ] in
theorem updateWith_error {fault : PlaybackError} (hClip : player.clip = some clip)
    (hWanted : player.wantedFrame clip.info now = some wanted)
    (h : presenter player clip wanted = (.error fault, after)) :
    player.updateWith presenter now = (.error fault, after) := by
  simp only [updateWith, hClip, hWanted, h]

omit [Decoder δ] in
theorem updateWith_of_no_clip (hClip : player.clip = none) :
    player.updateWith presenter now = (.ok none, player) := by
  simp only [updateWith, hClip]

omit [Decoder δ] in
theorem updateWith_of_no_wanted (hClip : player.clip = some clip)
    (hWanted : player.wantedFrame clip.info now = none) :
    player.updateWith presenter now = (.ok none, player) := by
  simp only [updateWith, hClip, hWanted]

end Update

/-- Answers a request. -/
def serve (presenter : Presenter δ) (library : ClipLibrary δ) (player : Player δ) :
    Request → Except PlaybackError (Option EndOfClip) × Player δ
  | .play name first last now =>
    (player.play library name first last now).map (Except.map fun _ => none) id
  | .playSingleFrame name frame =>
    (player.playSingleFrame library name frame).map (Except.map fun _ => none) id
  | .stop => (.ok none, player.stop)
  | .update now => player.updateWith presenter now

/-- A player after a list of requests. -/
def serveAll (presenter : Presenter δ) (library : ClipLibrary δ) (player : Player δ)
    (requests : List Request) : Player δ :=
  requests.foldl (fun player request => (player.serve presenter library request).2) player

/-- The answers to a list of requests, each with the player after it. -/
def history (presenter : Presenter δ) (library : ClipLibrary δ) (player : Player δ) :
    List Request → List (Except PlaybackError (Option EndOfClip) × Player δ)
  | [] => []
  | request :: requests =>
    player.serve presenter library request ::
      (player.serve presenter library request).2.history presenter library requests

/-- A property that each answer keeps holds after all of them. -/
theorem serveAll_induction {presenter : Presenter δ} {library : ClipLibrary δ}
    {motive : Player δ → Prop} {player : Player δ} (hStart : motive player)
    (hStep : ∀ player request, motive player → motive (player.serve presenter library request).2)
    (requests : List Request) : motive (player.serveAll presenter library requests) := by
  induction requests generalizing player with
  | nil => exact hStart
  | cons request requests ih => exact ih (hStep player request hStart)

end Player
end BranchingMovie
