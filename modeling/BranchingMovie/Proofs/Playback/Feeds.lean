import BranchingMovie.Proofs.Playback.Screening

/-!
# Feeds

A booth is a player with the feeds that were taken from it.  It is asked for pictures and for sound,
in any order (`Booth.run`), and its feeds work on after their clips have left the player.

What the player has to know of the sound is in its cues (`Booth.cues`): nothing, when samples were
taken, and the number of the deck, when that broke a decoder down.  A player that follows the cues
says and shows the same as the one in the booth (`breakdown_costs_one_deck`).
-/

namespace BranchingMovie

/-- What can be demanded of a booth. -/
inductive Demand where
  | request (request : Request)
  | takeFeed
  /-- Samples through a feed, by the order in which the feeds were taken. -/
  | fill (number : Nat) (samples : List Int16)
  deriving DecidableEq, Repr

/-- What a player says to a demand. -/
inductive Report where
  | served (outcome : Except PlaybackError (Option EndOfClip))
  | taken (feed : Option AudioFeed)

/-- What a player has to know of a demand. -/
inductive Cue where
  | request (request : Request)
  | takeFeed
  | rest
  /-- The deck of a number has become useless. -/
  | breakDown (serial : Nat)
  deriving DecidableEq, Repr

/-- The numbers of the decks that have become useless. -/
def breakdowns (cues : List Cue) : List Nat :=
  cues.filterMap fun
    | .breakDown serial => some serial
    | _ => none

theorem breakdowns_append (cues more : List Cue) :
    breakdowns (cues ++ more) = breakdowns cues ++ breakdowns more :=
  List.filterMap_append

/-- The name of the clip that a request asks for. -/
def Request.clip? : Request → Option String
  | .play name .. => some name
  | .playSingleFrame name _ => some name
  | _ => none

/-- A player with the feeds that were taken from it. -/
structure Booth (δ : Type) where
  player : Player δ := {}
  feeds : List AudioFeed := []

variable {δ : Type} [Decoder δ]

/-! ## Runs -/

namespace Booth

/-- A booth after a demand.  A feed that was not taken yet gives nothing. -/
def step (library : ClipLibrary δ) (booth : Booth δ) : Demand → Booth δ
  | .request request =>
    { booth with player := (booth.player.serve Player.present library request).2 }
  | .takeFeed => { booth with feeds := booth.feeds ++ booth.player.audioFeed.toList }
  | .fill number samples =>
    match booth.feeds[number]? with
    | some feed => { booth with player := (booth.player.fill feed samples).2 }
    | none => booth

/-- A booth after a list of demands. -/
def run (library : ClipLibrary δ) (booth : Booth δ) (demands : List Demand) : Booth δ :=
  demands.foldl (step library) booth

/-- What the player says to a demand. -/
def report (library : ClipLibrary δ) (booth : Booth δ) : Demand → Option Report
  | .request request => some (.served (booth.player.serve Player.present library request).1)
  | .takeFeed => some (.taken booth.player.audioFeed)
  | .fill .. => none

/-- What the player has to know of a demand. -/
def cue (booth : Booth δ) : Demand → Cue
  | .request request => .request request
  | .takeFeed => .takeFeed
  | .fill number samples =>
    match booth.feeds[number]? with
    | some feed =>
      if isBreakdown (booth.player.fill feed samples).1 then .breakDown feed.serial else .rest
    | none => .rest

/-- What the player has to know of a list of demands. -/
def cues (library : ClipLibrary δ) (booth : Booth δ) : List Demand → List Cue
  | [] => []
  | demand :: demands => booth.cue demand :: (booth.step library demand).cues library demands

/-- What the player says to a list of demands, each time with the player after it. -/
def history (library : ClipLibrary δ) (booth : Booth δ) :
    List Demand → List (Option Report × Player δ)
  | [] => []
  | demand :: demands =>
    (booth.report library demand, (booth.step library demand).player) ::
      (booth.step library demand).history library demands

end Booth

namespace Player

/-- A player after a cue. -/
def follow (library : ClipLibrary δ) (player : Player δ) : Cue → Player δ
  | .request request => (player.serve present library request).2
  | .takeFeed => player
  | .rest => player
  | .breakDown serial => player.breakDown serial

/-- What a player says to a cue. -/
def report (library : ClipLibrary δ) (player : Player δ) : Cue → Option Report
  | .request request => some (.served (player.serve present library request).1)
  | .takeFeed => some (.taken player.audioFeed)
  | .rest => none
  | .breakDown _ => none

/-- What a player says to a list of cues, each time with the player after it. -/
def program (library : ClipLibrary δ) (player : Player δ) :
    List Cue → List (Option Report × Player δ)
  | [] => []
  | cue :: cues =>
    (player.report library cue, player.follow library cue) ::
      (player.follow library cue).program library cues

/-- All that can be read off a player. -/
def appearance (player : Player δ) : View × Int32 :=
  (player.view, player.nextFrame)

end Player

/-! ## The accounts of a booth -/

namespace Booth

/-- The booth has so many decks, those with the numbers are poisoned, and its feeds have decks. -/
structure Accounts (booth : Booth δ) (count : Nat) (broken : List Nat) : Prop where
  register : booth.player.register = Player.ledger count broken
  broken_lt : ∀ serial ∈ broken, serial < count
  feeds_lt : ∀ feed ∈ booth.feeds, feed.serial < count

variable {booth : Booth δ} {count : Nat} {broken : List Nat}

omit [Decoder δ] in
theorem accounts_empty : ({} : Booth δ).Accounts 0 [] where
  register := rfl
  broken_lt _ h := by cases h
  feeds_lt _ h := by cases h

/-- What was known of earlier demands stays known. -/
theorem cues_append (library : ClipLibrary δ) (booth : Booth δ) (demands more : List Demand) :
    booth.cues library (demands ++ more) =
      booth.cues library demands ++ (booth.run library demands).cues library more := by
  induction demands generalizing booth with
  | nil => rfl
  | cons demand demands ih =>
    rw [List.cons_append, cues, cues, ih, List.cons_append]
    rfl

omit [Decoder δ] in
/-- The feed of the loaded clip belongs to one of the decks. -/
theorem Accounts.audioFeed_lt (h : booth.Accounts count broken) {feed : AudioFeed}
    (hFeed : booth.player.audioFeed = some feed) : feed.serial < count := by
  unfold Player.audioFeed at hFeed
  split at hFeed
  · rename_i clip hClip
    split at hFeed
    · cases hFeed
      have hDeck : clip.deck ∈ booth.player.decks := by simp [Player.decks, hClip]
      exact (Player.poisoned_of_register h.register hDeck).1
    · cases hFeed
  · cases hFeed

/-- Everything that a demand for samples can do: nothing, take samples, or break a decoder down. -/
theorem Accounts.fill_cases (h : booth.Accounts count broken) (library : ClipLibrary δ)
    (number : Nat) (samples : List Int16) :
    (booth.step library (.fill number samples) = booth ∧
      booth.cue (.fill number samples) = .rest) ∨
    ∃ feed ∈ booth.feeds,
      booth.step library (.fill number samples) =
        { booth with player := (booth.player.fill feed samples).2 } ∧
      (booth.cue (.fill number samples) = .rest ∧
          (booth.player.fill feed samples).2.register = booth.player.register ∨
        booth.cue (.fill number samples) = .breakDown feed.serial ∧
          (booth.player.fill feed samples).2.register =
            Player.remark feed.serial true booth.player.register) := by
  cases hFeed : booth.feeds[number]? with
  | none => exact .inl ⟨by simp only [Booth.step, hFeed], by simp only [cue, hFeed]⟩
  | some feed =>
    have hMem : feed ∈ booth.feeds := List.mem_of_getElem? hFeed
    obtain ⟨hRegister, -⟩ :=
      Player.register_fill h.register feed (h.feeds_lt feed hMem) samples
    refine .inr ⟨feed, hMem, by simp only [Booth.step, hFeed], ?_⟩
    cases hBreaks : isBreakdown (booth.player.fill feed samples).1 with
    | true =>
      rw [hBreaks, if_pos rfl, ← Player.remark_ledger_broken, ← h.register] at hRegister
      exact .inr ⟨by simp only [cue, hFeed, hBreaks, if_true], hRegister⟩
    | false =>
      rw [hBreaks, if_neg Bool.false_ne_true, ← h.register] at hRegister
      exact .inl ⟨by simp [cue, hFeed, hBreaks], hRegister⟩

/-- A demand opens decks, and poisons the one that its cue names. -/
theorem Accounts.step (h : booth.Accounts count broken) (library : ClipLibrary δ)
    (demand : Demand) :
    ∃ count, (booth.step library demand).Accounts count
      (broken ++ breakdowns [booth.cue demand]) := by
  cases demand with
  | request request =>
    show ∃ count, Accounts _ count (broken ++ [])
    rw [List.append_nil]
    rcases Player.register_serve library booth.player request with hServe | hServe
    · exact ⟨count, hServe.trans h.register, h.broken_lt, h.feeds_lt⟩
    · refine ⟨count + 1, ?_, fun serial hMem => Nat.lt_succ_of_lt (h.broken_lt serial hMem),
        fun feed hMem => Nat.lt_succ_of_lt (h.feeds_lt feed hMem)⟩
      rw [← Player.enrol_ledger h.broken_lt, ← h.register]
      exact hServe
  | takeFeed =>
    show ∃ count, Accounts _ count (broken ++ [])
    rw [List.append_nil]
    refine ⟨count, h.register, h.broken_lt, ?_⟩
    intro feed hMem
    rcases List.mem_append.1 hMem with hMem | hMem
    · exact h.feeds_lt feed hMem
    · exact h.audioFeed_lt (Option.mem_toList.1 hMem)
  | fill number samples =>
    refine ⟨count, ?_⟩
    obtain ⟨hStep, hCue⟩ | ⟨feed, hMem, hStep, ⟨hCue, hRegister⟩ | ⟨hCue, hRegister⟩⟩ :=
      h.fill_cases library number samples
    · rw [hStep, hCue]
      show Accounts _ count (broken ++ [])
      rwa [List.append_nil]
    · rw [hStep, hCue]
      show Accounts _ count (broken ++ [])
      rw [List.append_nil]
      exact ⟨hRegister.trans h.register, h.broken_lt, h.feeds_lt⟩
    · rw [hStep, hCue]
      refine ⟨?_, ?_, h.feeds_lt⟩
      · rw [hRegister, h.register, Player.remark_ledger_broken]
        rfl
      · intro serial hBroken
        rcases List.mem_append.1 hBroken with hBroken | hBroken
        · exact h.broken_lt serial hBroken
        · obtain rfl : serial = feed.serial := List.mem_singleton.1 hBroken
          exact h.feeds_lt feed hMem

theorem Accounts.run (h : booth.Accounts count broken) (library : ClipLibrary δ)
    (demands : List Demand) :
    ∃ count, (booth.run library demands).Accounts count
      (broken ++ breakdowns (booth.cues library demands)) := by
  induction demands generalizing booth count broken with
  | nil =>
    refine ⟨count, ?_⟩
    show booth.Accounts count (broken ++ [])
    rwa [List.append_nil]
  | cons demand demands ih =>
    obtain ⟨count, hStep⟩ := h.step library demand
    obtain ⟨count, hRun⟩ := ih hStep
    refine ⟨count, ?_⟩
    rw [List.append_assoc, ← breakdowns_append] at hRun
    exact hRun

/-! ## The cues are enough -/

/-- A player that follows the cue of a demand stays in step with the player in the booth. -/
theorem Accounts.follow (h : booth.Accounts count broken) (hApart : SoundApart δ)
    {other : Player δ} (hStep : booth.player.InStep other) (library : ClipLibrary δ)
    (demand : Demand) :
    other.report library (booth.cue demand) = booth.report library demand ∧
      (booth.step library demand).player.InStep (other.follow library (booth.cue demand)) := by
  cases demand with
  | request request =>
    obtain ⟨hOutcome, hAfter⟩ := hStep.serve library request
    exact ⟨congrArg (fun outcome => some (Report.served outcome)) hOutcome, hAfter⟩
  | takeFeed => exact ⟨congrArg (fun feed => some (Report.taken feed)) hStep.audioFeed, hStep⟩
  | fill number samples =>
    obtain ⟨hDone, hCue⟩ | ⟨feed, -, hDone, ⟨hCue, hRegister⟩ | ⟨hCue, hRegister⟩⟩ :=
      h.fill_cases library number samples
    · rw [hDone, hCue]
      exact ⟨rfl, hStep⟩
    · rw [hDone, hCue]
      exact ⟨rfl, hStep.fill hApart hRegister⟩
    · rw [hDone, hCue]
      exact ⟨rfl, hStep.fill_of_breakdown hApart hRegister⟩

/-- A player that follows the cues says and shows the same as the one in the booth. -/
theorem Accounts.history (h : booth.Accounts count broken) (hApart : SoundApart δ)
    {other : Player δ} (hStep : booth.player.InStep other) (library : ClipLibrary δ)
    (demands : List Demand) :
    (booth.history library demands).map (Prod.map id Player.appearance) =
      (other.program library (booth.cues library demands)).map
        (Prod.map id Player.appearance) := by
  induction demands generalizing booth other count broken with
  | nil => rfl
  | cons demand demands ih =>
    obtain ⟨count, hAfter⟩ := h.step library demand
    obtain ⟨hReport, hFollow⟩ := h.follow hApart hStep library demand
    rw [Booth.history, cues, Player.program, List.map_cons, List.map_cons, ih hAfter hFollow]
    refine congrArg (· :: _) (Prod.ext hReport.symm ?_)
    exact Prod.ext hFollow.looks.view.symm hFollow.looks.nextFrame.symm

end Booth

/-! ## Poisoned decks -/

namespace Player

variable {player : Player δ} {clip : LoadedClip δ} {wanted : Int32}

theorem decodeFrame_not_poisoned (player : Player δ) (clip : LoadedClip δ) (decoder : δ)
    (wanted : Int32) :
    (player.decodeFrame clip decoder wanted).1 ≠ .error .decoderPoisoned := by
  simp only [decodeFrame]
  split <;> simp

/-- A poisoned deck is of consequence when its frame is not on display. -/
theorem present_poisoned (hFrame : player.currentFrame ≠ some wanted)
    (hPoisoned : clip.deck.poisoned = true) :
    player.present clip wanted = (.error .decoderPoisoned, player) := by
  rw [present, if_neg hFrame, if_pos hPoisoned]

/-- It is of no consequence otherwise. -/
theorem present_not_poisoned
    (h : player.currentFrame = some wanted ∨ clip.deck.poisoned = false) :
    (player.present clip wanted).1 ≠ .error .decoderPoisoned := by
  unfold present
  split
  · simp
  · rename_i hFrame
    rw [h.resolve_left hFrame, if_neg Bool.false_ne_true]
    split
    · exact decodeFrame_not_poisoned _ _ _ _
    · simp only
      split
      · simp
      · exact decodeFrame_not_poisoned _ _ _ _

omit [Decoder δ] in
theorem not_stopped_of_wantedFrame {info : ClipInfo} {now : UInt64}
    (h : player.wantedFrame info now = some wanted) : player.state ≠ .stopped := by
  intro hStopped
  rw [wantedFrame, hStopped] at h
  cases h

/-- An update of a poisoned deck that calls for a frame that is not on display changes nothing. -/
theorem updateFrame_poisoned {now : UInt64} (hClip : player.clip = some clip)
    (hPoisoned : clip.deck.poisoned = true)
    (hWanted : player.wantedFrame clip.info now = some wanted)
    (hFrame : player.currentFrame ≠ some wanted) :
    player.updateFrame now = (.error .decoderPoisoned, player) :=
  updateWith_error hClip hWanted (present_poisoned hFrame hPoisoned)

/-- **An update fails because of a poisoned deck when it calls for a frame that is not on
display.** -/
theorem updateFrame_poisoned_iff {now : UInt64} :
    (player.updateFrame now).1 = .error .decoderPoisoned ↔
      ∃ clip wanted, player.clip = some clip ∧ clip.deck.poisoned = true ∧
        player.wantedFrame clip.info now = some wanted ∧ player.currentFrame ≠ some wanted := by
  constructor
  · intro h
    rw [← updateWith_present] at h
    cases hClip : player.clip with
    | none =>
      rw [updateWith_of_no_clip hClip] at h
      cases h
    | some clip =>
      cases hWanted : player.wantedFrame clip.info now with
      | none =>
        rw [updateWith_of_no_wanted hClip hWanted] at h
        cases h
      | some wanted =>
        by_cases hFine : player.currentFrame = some wanted ∨ clip.deck.poisoned = false
        · have hPresent := present_not_poisoned hFine
          cases hOutcome : player.present clip wanted with
          | mk outcome after =>
            rw [hOutcome] at hPresent
            cases outcome with
            | error fault =>
              rw [updateWith_error hClip hWanted hOutcome] at h
              cases h
              exact absurd rfl hPresent
            | ok _ =>
              rw [updateWith_ok hClip hWanted hOutcome] at h
              cases h
        · obtain ⟨hFrame, hSound⟩ := not_or.1 hFine
          exact ⟨clip, wanted, rfl, by simpa using hSound, hWanted, hFrame⟩
  · rintro ⟨clip, wanted, hClip, hPoisoned, hWanted, hFrame⟩
    rw [updateFrame_poisoned hClip hPoisoned hWanted hFrame]

/-- Such an update changes nothing. -/
theorem updateFrame_poisoned_eq {now : UInt64}
    (h : (player.updateFrame now).1 = .error .decoderPoisoned) :
    (player.updateFrame now).2 = player := by
  obtain ⟨clip, wanted, hClip, hPoisoned, hWanted, hFrame⟩ := updateFrame_poisoned_iff.1 h
  rw [updateFrame_poisoned hClip hPoisoned hWanted hFrame]

/-! ## The deck of a clip that is asked for -/

/-- A request for a clip ends as loading the clip does. -/
theorem serve_eq_load (library : ClipLibrary δ) (player : Player δ) {request : Request}
    {name : String} (hName : request.clip? = some name) :
    (player.serve present library request).1 =
        (player.load library name).1.map (fun _ => none) ∧
      (player.serve present library request).2.clip = (player.load library name).2.clip := by
  cases request with
  | play clip first last now =>
    obtain rfl : clip = name := Option.some.inj hName
    refine ⟨?_, (play_eq_load library player clip first last now).1⟩
    show (player.play library clip first last now).1.map (fun _ => none) = _
    unfold play
    split
    · rename_i hLoad
      rw [hLoad]
    · rename_i hLoad
      rw [hLoad]
  | playSingleFrame clip frame =>
    obtain rfl : clip = name := Option.some.inj hName
    refine ⟨?_, (playSingleFrame_eq_load library player clip frame).1⟩
    show (player.playSingleFrame library clip frame).1.map (fun _ => none) = _
    unfold playSingleFrame
    split
    · rename_i hLoad
      rw [hLoad]
    · rename_i hLoad
      rw [hLoad]
  | stop => cases hName
  | update now => cases hName

/-- The clip that is in the player keeps its deck. -/
theorem serve_same_clip (library : ClipLibrary δ) {request : Request} {name : String}
    (hName : request.clip? = some name) (hSame : player.clipName = some (Asset.key name)) :
    (player.serve present library request).1 = .ok none ∧
      (player.serve present library request).2.clip = player.clip := by
  have hLoaded : player.hasLoaded name = true := by
    rw [hasLoaded_eq, clipName_setting, hSame]
    exact beq_self_eq_true _
  have hLoad : player.load library name = (.ok (), player) := by rw [load, if_pos hLoaded]
  obtain ⟨hOutcome, hClip⟩ := player.serve_eq_load library hName
  rw [hLoad] at hOutcome hClip
  exact ⟨hOutcome, hClip⟩

/-- Another clip gets a new deck, or the player keeps the one it has. -/
theorem serve_other_clip (library : ClipLibrary δ) {request : Request} {name : String}
    (hName : request.clip? = some name) (hOther : player.clipName ≠ some (Asset.key name)) :
    (∃ fault, (player.serve present library request).1 = .error fault ∧
      (player.serve present library request).2.clip = player.clip) ∨
    ∃ clip, (player.serve present library request).1 = .ok none ∧
      (player.serve present library request).2.clip = some clip ∧
      clip.name = Asset.key name ∧ clip.deck.serial = player.deckCount ∧
      clip.deck.poisoned = false := by
  obtain ⟨hOutcome, hClip⟩ := player.serve_eq_load library hName
  obtain ⟨hLoaded, -⟩ | ⟨fault, calls, hLoad⟩ | ⟨path, decoder, -, -, -, hLoad⟩ :=
    load_cases library player name
  · rw [hasLoaded_eq, clipName_setting] at hLoaded
    exact absurd (beq_iff_eq.1 hLoaded) hOther
  · rw [hLoad] at hOutcome hClip
    exact .inl ⟨fault, hOutcome, hClip⟩
  · rw [hLoad] at hOutcome hClip
    exact .inr ⟨_, hOutcome, hClip, rfl, rfl, rfl⟩

end Player

/-! ## The whole -/

/-- **Sound does nothing to the pictures until it breaks a decoder down, and then it costs that
decoder and no other.**  After any demands on a booth,

* the player has said and shown what a player does that knew nothing of the sound but the numbers
  of the decks that broke down, if sound stands apart from the pictures;
* the decks that broke down stay among the ones that have, a deck is poisoned exactly when it is one
  of them, and no two decks share a number;
* every feed that was taken has its deck, and finds it poisoned exactly when it broke down;
* an update finds the deck of the loaded clip poisoned exactly when that broke down, the player is
  not stopped, and the frame that is called for is not on display; and it leaves the player as it
  was;
* a request for the loaded clip leaves it on its deck, and a request for another one puts it on a
  new deck that is sound or, when it fails, leaves the clip in the player where it is. -/
theorem Booth.breakdown_costs_one_deck (library : ClipLibrary δ) (demands : List Demand) :
    let cues := ({} : Booth δ).cues library demands
    let broken := breakdowns cues
    let booth := ({} : Booth δ).run library demands
    let player := booth.player
    (SoundApart δ →
      (({} : Booth δ).history library demands).map (Prod.map id Player.appearance) =
        (({} : Player δ).program library cues).map (Prod.map id Player.appearance)) ∧
    (∀ more, broken <+: breakdowns (({} : Booth δ).cues library (demands ++ more))) ∧
    (∀ deck ∈ player.decks, deck.poisoned = true ↔ deck.serial ∈ broken) ∧
    (player.decks.map (·.serial)).Nodup ∧
    (∀ feed ∈ booth.feeds, (∃ deck ∈ player.decks, deck.serial = feed.serial) ∧
      ∀ samples, (player.fill feed samples).1 = .error (.playback .decoderPoisoned) ↔
        feed.serial ∈ broken) ∧
    (∀ now, ((player.updateFrame now).1 = .error .decoderPoisoned ↔
        ∃ clip wanted, player.clip = some clip ∧ clip.deck.serial ∈ broken ∧
          player.state ≠ .stopped ∧ player.wantedFrame clip.info now = some wanted ∧
          player.currentFrame ≠ some wanted) ∧
      ((player.updateFrame now).1 = .error .decoderPoisoned →
        (player.updateFrame now).2 = player)) ∧
    ∀ request name, request.clip? = some name →
      let result := player.serve Player.present library request
      (player.clipName = some (Asset.key name) →
        result.1 = .ok none ∧ result.2.clip = player.clip) ∧
      (player.clipName ≠ some (Asset.key name) →
        (∃ fault, result.1 = .error fault ∧ result.2.clip = player.clip) ∨
        ∃ clip, result.1 = .ok none ∧ result.2.clip = some clip ∧
          clip.name = Asset.key name ∧ clip.deck.poisoned = false ∧
          ∀ deck ∈ player.decks, deck.serial ≠ clip.deck.serial) := by
  intro cues broken booth player
  obtain ⟨count, h⟩ : ∃ count, booth.Accounts count broken := accounts_empty.run library demands
  have hPoisoned : ∀ deck ∈ player.decks, deck.poisoned = true ↔ deck.serial ∈ broken := by
    intro deck hDeck
    rw [(Player.poisoned_of_register h.register hDeck).2, decide_eq_true_iff]
  have hLoaded : ∀ clip, player.clip = some clip → clip.deck ∈ player.decks := by
    intro clip hClip
    simp [Player.decks, hClip]
  refine ⟨fun hApart => accounts_empty.history hApart (.refl _) library demands, ?_, hPoisoned,
    ?_, ?_, ?_, ?_⟩
  · intro more
    rw [cues_append, breakdowns_append]
    exact List.prefix_append _ _
  · rw [Player.serials_of_register h.register]
    exact List.pairwise_reverse.2 (List.nodup_range.imp Ne.symm)
  · intro feed hFeed
    have hSerial := h.feeds_lt feed hFeed
    obtain ⟨deck, hDeck⟩ := Player.exists_deck? h.register hSerial
    exact ⟨⟨deck, Player.mem_of_deck? hDeck⟩,
      fun samples => (Player.register_fill h.register feed hSerial samples).2⟩
  · intro now
    refine ⟨Player.updateFrame_poisoned_iff.trans ⟨?_, ?_⟩, Player.updateFrame_poisoned_eq⟩
    · rintro ⟨clip, wanted, hClip, hMark, hWanted, hFrame⟩
      exact ⟨clip, wanted, hClip, (hPoisoned clip.deck (hLoaded clip hClip)).1 hMark,
        Player.not_stopped_of_wantedFrame hWanted, hWanted, hFrame⟩
    · rintro ⟨clip, wanted, hClip, hBroken, -, hWanted, hFrame⟩
      exact ⟨clip, wanted, hClip, (hPoisoned clip.deck (hLoaded clip hClip)).2 hBroken, hWanted,
        hFrame⟩
  · intro request name hName result
    refine ⟨Player.serve_same_clip library hName, fun hOther => ?_⟩
    obtain hFault | ⟨clip, hOk, hClip, hKey, hSerial, hSound⟩ :=
      Player.serve_other_clip library hName hOther
    · exact .inl hFault
    · refine .inr ⟨clip, hOk, hClip, hKey, hSound, ?_⟩
      intro deck hDeck hSame
      have hCount : player.deckCount = count := congrArg Prod.fst h.register
      have hOld := (Player.poisoned_of_register h.register hDeck).1
      omega

/-- A clip whose sound breaks down, and one whose sound does not. -/
def brokenSoundLibrary : ClipLibrary RehearsalDecoder :=
  rehearsalLibrary
    [("broken", { info := soundInfo, audio := .panic }), ("sound", { info := soundInfo })]
where
  soundInfo : ClipInfo :=
    { hasAudio := true, width := 1, height := 1, timeScale := 600, frameDuration := 40 }

/-- Samples of both clips are taken, and the broken one is asked for again on its old deck, for a
second time when the other clip has been in the player. -/
def brokenSoundDemands : List Demand :=
  [.request (.playSingleFrame "broken" 0), .request (.update 0), .takeFeed, .fill 0 [0],
    .request (.playSingleFrame "broken" 1), .request (.update 40),
    .request (.playSingleFrame "sound" 1), .takeFeed, .fill 1 [0], .request (.update 80),
    .request (.playSingleFrame "broken" 1), .request (.update 120)]

/-- The first deck breaks down, the pictures are those of the cues, and the broken clip is shown
again from a new deck. -/
theorem Booth.breakdown_costs_one_deck_of_rehearsal :
    let cues := ({} : Booth RehearsalDecoder).cues brokenSoundLibrary brokenSoundDemands
    let booth := ({} : Booth RehearsalDecoder).run brokenSoundLibrary brokenSoundDemands
    breakdowns cues = [0] ∧ booth.player.currentFrame = some 1 ∧
      (({} : Booth RehearsalDecoder).history brokenSoundLibrary brokenSoundDemands).map
          (Prod.map id Player.appearance) =
        (({} : Player RehearsalDecoder).program brokenSoundLibrary cues).map
          (Prod.map id Player.appearance) ∧
      ∀ feed ∈ booth.feeds, ∀ samples,
        (booth.player.fill feed samples).1 = .error (.playback .decoderPoisoned) ↔
          feed.serial = 0 := by
  intro cues booth
  have hBroken : breakdowns cues = [0] := by decide +kernel
  obtain ⟨hPictures, -, -, -, hFeeds, -⟩ :=
    breakdown_costs_one_deck brokenSoundLibrary brokenSoundDemands
  refine ⟨hBroken, by decide +kernel, hPictures soundApart_rehearsal, ?_⟩
  intro feed hFeed samples
  rw [(hFeeds feed hFeed).2 samples]
  show feed.serial ∈ breakdowns cues ↔ _
  rw [hBroken, List.mem_singleton]

end BranchingMovie
