import BranchingMovie.Playback.Player

/-!
# Audio feeds

Sound is taken from the deck of a clip through a feed, which goes on working when another clip is in
the player.  A request that breaks the decoder down poisons its deck for good, and no other deck.
-/

namespace BranchingMovie

/-- Access to the sound of a deck. -/
structure AudioFeed where
  serial : Nat
  sampleRate : UInt32
  channels : UInt16
  deriving DecidableEq, Repr

/-- Why a request for samples gives none. -/
inductive FillFault where
  | playback (fault : PlaybackError)
  | panicked (message : String)
  deriving DecidableEq, Repr

namespace Deck

variable {δ : Type}

/-- Fills a list of samples from a deck.  The flag says whether the decoder was asked. -/
def fill [Decoder δ] (deck : Deck δ) (samples : List Int16) :
    Except FillFault (Nat × List Int16) × Deck δ × Bool :=
  if deck.poisoned then (.error (.playback .decoderPoisoned), deck, false)
  else
    match Decoder.audio deck.decoder samples with
    | (.written count samples, decoder) => (.ok (count, samples), { deck with decoder }, true)
    | (.failed cause, decoder) =>
      (.error (.playback (.noSamples cause)), { deck with decoder }, true)
    | (.panicked message, decoder) =>
      (.error (.panicked message), { deck with decoder, poisoned := true }, true)

end Deck

namespace Player

variable {δ : Type}

/-- The feed of the loaded clip, if it has a sound track. -/
def audioFeed (player : Player δ) : Option AudioFeed :=
  match player.clip with
  | some clip =>
    if clip.info.hasAudio then some ⟨clip.deck.serial, clip.info.sampleRate, clip.info.channels⟩
    else none
  | none => none

/-- The deck of a number, in the player or retired. -/
def deck? (player : Player δ) (serial : Nat) : Option (Deck δ) :=
  ((player.clip.map (·.deck)).toList ++ player.retired).find? (·.serial == serial)

/-- The player with another state of the deck that has its number. -/
def withDeck (player : Player δ) (deck : Deck δ) : Player δ :=
  { player with
    clip := player.clip.map fun clip =>
      if clip.deck.serial == deck.serial then { clip with deck } else clip
    retired := player.retired.map fun old => if old.serial == deck.serial then deck else old }

/-- Fills a list of samples through a feed. -/
def fill [Decoder δ] (player : Player δ) (feed : AudioFeed) (samples : List Int16) :
    Except FillFault (Nat × List Int16) × Player δ :=
  match player.deck? feed.serial with
  | none => (.error (.playback .decoderPoisoned), player)
  | some deck =>
    let (outcome, deck, isAsked) := deck.fill samples
    let player := player.withDeck deck
    (outcome, if isAsked then player.record (.audio samples.length) else player)

end Player
end BranchingMovie
