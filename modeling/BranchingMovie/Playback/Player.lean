import BranchingMovie.Numeral
import BranchingMovie.Playback.Timing

/-!
# The player

The player keeps a decoder on the frame that the clock calls for.  It loads a clip when the clip's
key differs from the loaded one, seeks only when the decoder is not on the wanted frame already,
decodes only when the wanted frame is not on display, and reports the end of a play once.

Every operation gives the player's next state also when it fails.  A clip that cannot be loaded
leaves the player as it was, apart from the list of calls; so does a frame that cannot be decoded,
apart from the decoder and the picture.
-/

namespace BranchingMovie

/-! ## Faults -/

/-- Why the player cannot do what it is asked for. -/
inductive PlaybackError where
  | missing (clip : String) (cause : Asset.NotFound)
  | notOpened (clip cause : String)
  | noVideoTrack (clip : String)
  | unsupportedVideo (clip : String)
  | unsupportedAudio (clip : String)
  | invalidTiming (clip : String) (timeScale frameDuration : UInt32)
  | notDecoded (clip : String) (frame : Int32) (cause : String)
  | noSamples (cause : String)
  /-- A request for samples broke down and took the decoder with it. -/
  | decoderPoisoned
  deriving DecidableEq, Repr

namespace PlaybackError

/-- The wording of a fault. -/
def message : PlaybackError → String
  | missing clip _ => s!"clip '{clip}' could not be located"
  | notOpened clip _ => s!"failed to open clip '{clip}'"
  | noVideoTrack clip => s!"clip '{clip}' has no video track"
  | unsupportedVideo clip => s!"clip '{clip}' uses an unsupported video codec"
  | unsupportedAudio clip => s!"clip '{clip}' uses an unsupported audio codec"
  | invalidTiming clip timeScale frameDuration =>
    s!"clip '{clip}' declares unusable timing ({timeScale.toNat}/{frameDuration.toNat})"
  | notDecoded clip frame _ =>
    s!"failed to decode frame {Numeral.writeInt frame.toInt} of '{clip}'"
  | noSamples _ => "failed to decode audio samples"
  | decoderPoisoned => "decoder lock poisoned by a panicking audio callback"

/-- The wordings of the causes of a fault, the nearest first. -/
def causes : PlaybackError → List String
  | missing _ cause => [cause.message]
  | notOpened _ cause => [cause]
  | notDecoded _ _ cause => [cause]
  | noSamples cause => [cause]
  | _ => []

end PlaybackError

/-! ## The state -/

/-- What the player is doing. -/
inductive PlaybackState where
  | stopped
  | playing
  | singleFrame (frame : Int32)
  deriving DecidableEq, Repr

/-- The news that a play has reached its last frame. -/
structure EndOfClip where
  clip : String
  frame : Int32
  deriving DecidableEq, Repr

/-- A decoder that was opened, by the order of opening, with the mark that a request for samples
broke it down. -/
structure Deck (δ : Type) where
  serial : Nat
  decoder : δ
  poisoned : Bool := false

/-- The clip in the player. -/
structure LoadedClip (δ : Type) where
  /-- The key of the clip. -/
  name : String
  deck : Deck δ
  info : ClipInfo

/-- The state of the player. -/
structure Player (δ : Type) where
  clip : Option (LoadedClip δ) := none
  /-- The decks of earlier clips, which sound may still be taken from. -/
  retired : List (Deck δ) := []
  /-- The number of decks so far. -/
  deckCount : Nat := 0
  state : PlaybackState := .stopped
  startFrame : Int32 := 0
  endFrame : Int32 := 0
  startTime : UInt64 := 0
  /-- The frame on display. -/
  currentFrame : Option Int32 := none
  /-- The frame that the decoder shows next without seeking. -/
  nextFrame : Int32 := 0
  picture : FrameBuffer := {}
  /-- The requests to decoders so far. -/
  calls : Array DecoderCall := #[]

namespace Player

variable {δ : Type}

/-! ## Loading -/

/-- Adds a request to the list of calls. -/
def record (player : Player δ) (call : DecoderCall) : Player δ :=
  { player with calls := player.calls.push call }

/-- Refuses a clip that cannot be shown. -/
def checkInfo (clip : String) (info : ClipInfo) : Except PlaybackError Unit :=
  if !info.hasVideo then .error (.noVideoTrack clip)
  else if !info.supportedVideo then .error (.unsupportedVideo clip)
  else if info.hasAudio && !info.supportedAudio then .error (.unsupportedAudio clip)
  else if info.timeScale = 0 ∨ info.frameDuration = 0 then
    .error (.invalidTiming clip info.timeScale info.frameDuration)
  else .ok ()

/-- Puts a freshly opened decoder into the place of the loaded one. -/
def install [Decoder δ] (player : Player δ) (name : String) (decoder : δ) : Player δ :=
  let info := Decoder.info decoder
  { player with
    clip := some ⟨name, { serial := player.deckCount, decoder }, info⟩
    retired := (player.clip.map (·.deck)).toList ++ player.retired
    deckCount := player.deckCount + 1
    currentFrame := none
    nextFrame := 0
    picture := player.picture.resize info.width info.height }

/-- The clip of a name is in the player. -/
def hasLoaded (player : Player δ) (name : String) : Bool :=
  match player.clip with
  | some clip => clip.name == Asset.key name
  | none => false

/-- Loads the clip of a name, unless it is in the player. -/
def load [Decoder δ] (library : ClipLibrary δ) (player : Player δ) (name : String) :
    Except PlaybackError Unit × Player δ :=
  if player.hasLoaded name then (.ok (), player)
  else
    match library.locate name with
    | .error cause => (.error (.missing name cause), player)
    | .ok path =>
      let player := player.record (.opened path)
      match library.openClip path with
      | .error cause => (.error (.notOpened name cause), player)
      | .ok decoder =>
        match checkInfo name (Decoder.info decoder) with
        | .error fault => (.error fault, player)
        | .ok () => (.ok (), player.install (Asset.key name) decoder)

/-! ## Commands -/

/-- The frames that the sound of the loaded clip shifts a play by. -/
def shift (player : Player δ) : Int32 :=
  match player.clip with
  | some clip => clip.info.audioFrameShift
  | none => 0

/-- Plays a clip from a first to a last frame, from the time `now` on. -/
def play [Decoder δ] (library : ClipLibrary δ) (player : Player δ) (name : String)
    (first last : Int32) (now : UInt64) : Except PlaybackError Unit × Player δ :=
  match player.load library name with
  | (.error fault, player) => (.error fault, player)
  | (.ok (), player) =>
    (.ok (), { player with
      startFrame := saturatingAdd first player.shift
      endFrame := saturatingAdd last player.shift
      startTime := now
      state := .playing })

/-- The overflow that stops the program at the start of the play that is on, if there is one. -/
def overflow? (player : Player δ) : Option Overflow :=
  match player.state, player.clip with
  | .playing, some clip => clip.info.overflow?
  | _, _ => none

/-- Shows one frame of a clip. -/
def playSingleFrame [Decoder δ] (library : ClipLibrary δ) (player : Player δ) (name : String)
    (frame : Int32) : Except PlaybackError Unit × Player δ :=
  match player.load library name with
  | (.error fault, player) => (.error fault, player)
  | (.ok (), player) => (.ok (), { player with state := .singleFrame frame })

/-- Holds the clip where it is. -/
def stop (player : Player δ) : Player δ :=
  { player with state := .stopped }

/-! ## The clock -/

/-- The frame that should be on display, none when the player is stopped. -/
def wantedFrame (player : Player δ) (info : ClipInfo) (now : UInt64) : Option Int32 :=
  match player.state with
  | .stopped => none
  | .singleFrame frame => some frame
  | .playing =>
    some (info.frameAfter player.startFrame player.endFrame (elapsedMs player.startTime now))

/-- The player with another decoder in the deck of its clip. -/
def withDecoder (player : Player δ) (clip : LoadedClip δ) (decoder : δ) : Player δ :=
  { player with clip := some { clip with deck := { clip.deck with decoder } } }

/-- Decodes the frame that the decoder of the clip is on, which is the frame `wanted`. -/
def decodeFrame [Decoder δ] (player : Player δ) (clip : LoadedClip δ) (decoder : δ)
    (wanted : Int32) : Except PlaybackError Unit × Player δ :=
  let player := player.record (.decode (Decoder.position decoder))
  match Decoder.decode decoder player.picture with
  | (.error cause, decoder, picture) =>
    (.error (.notDecoded clip.name wanted cause),
      { player.withDecoder clip decoder with picture })
  | (.ok (), decoder, picture) =>
    (.ok (),
      { player.withDecoder clip decoder with
        picture
        currentFrame := some wanted
        nextFrame := saturatingAdd wanted 1 })

/-- Puts a frame of the clip on display, unless it is there. -/
def present [Decoder δ] (player : Player δ) (clip : LoadedClip δ) (wanted : Int32) :
    Except PlaybackError Unit × Player δ :=
  if player.currentFrame = some wanted then (.ok (), player)
  else if clip.deck.poisoned then (.error .decoderPoisoned, player)
  else if player.nextFrame = wanted then player.decodeFrame clip clip.deck.decoder wanted
  else
    let player := player.record (.seek wanted)
    match Decoder.seek clip.deck.decoder wanted with
    | (.error cause, decoder) =>
      (.error (.notDecoded clip.name wanted cause), player.withDecoder clip decoder)
    | (.ok (), decoder) => player.decodeFrame clip decoder wanted

/-- Ends a play whose last frame is on display. -/
def settle (player : Player δ) (clip : LoadedClip δ) : Option EndOfClip × Player δ :=
  match player.currentFrame with
  | some frame =>
    if player.state = .playing ∧ player.endFrame ≤ frame then
      (some ⟨clip.name, player.endFrame⟩, player.stop)
    else (none, player)
  | none => (none, player)

/-- Brings the frame that the clock calls for on display, and tells of the end of a play. -/
def updateFrame [Decoder δ] (player : Player δ) (now : UInt64) :
    Except PlaybackError (Option EndOfClip) × Player δ :=
  match player.clip with
  | none => (.ok none, player)
  | some clip =>
    match player.wantedFrame clip.info now with
    | none => (.ok none, player)
    | some wanted =>
      match player.present clip wanted with
      | (.error fault, player) => (.error fault, player)
      | (.ok (), player) =>
        let (ended, player) := player.settle clip
        (.ok ended, player)

/-- The frames of the last play, sound shift included. -/
def range (player : Player δ) : Int32 × Int32 :=
  (player.startFrame, player.endFrame)

/-- The key of the loaded clip. -/
def clipName (player : Player δ) : Option String :=
  player.clip.map (·.name)

end Player
end BranchingMovie
