import BranchingMovie.Proofs.Playback.Requests

/-!
# The decks of a player

Every clip that is opened gets a deck with a number of its own, and keeps it when it leaves the
player.  The register of a player says how many decks there are, and which of them are poisoned
(`Player.register`).  Requests poison no deck: they leave the register as it is or enrol a new deck
that is sound (`register_serve`).  Taking sound through a feed poisons the deck of the feed when it
breaks down, and changes nothing in the register otherwise (`register_fill`).

Decks are numbered in the order of opening, so the register is known from the number of decks and
the numbers of the poisoned ones (`ledger`).
-/

namespace BranchingMovie

/-- The request for samples broke the decoder down. -/
def isBreakdown : Except FillFault (Nat × List Int16) → Bool
  | .error (.panicked _) => true
  | _ => false

variable {δ : Type}

/-- A poisoned deck gives nothing.  The decoder of a sound one is asked, and the deck is poisoned
when that breaks it down. -/
theorem Deck.fill_cases [Decoder δ] (deck : Deck δ) (samples : List Int16) :
    (deck.poisoned = true ∧
      deck.fill samples = (.error (.playback .decoderPoisoned), deck, false)) ∨
    (deck.poisoned = false ∧ ∃ outcome, outcome ≠ .error (.playback .decoderPoisoned) ∧
      (isBreakdown outcome = false →
        ∀ message, (Decoder.audio deck.decoder samples).1 ≠ .panicked message) ∧
      deck.fill samples = (outcome,
        { deck with
          decoder := (Decoder.audio deck.decoder samples).2
          poisoned := isBreakdown outcome },
        true)) := by
  obtain ⟨serial, decoder, poisoned⟩ := deck
  cases poisoned with
  | true => exact .inl ⟨rfl, rfl⟩
  | false =>
    refine .inr ⟨rfl, ?_⟩
    simp only [fill, Bool.false_eq_true, if_false]
    cases hAudio : Decoder.audio decoder samples with
    | mk outcome after =>
      cases outcome with
      | written count samples => exact ⟨_, by simp, by simp, rfl⟩
      | failed cause => exact ⟨_, by simp, by simp, rfl⟩
      | panicked message => exact ⟨_, by simp, by simp [isBreakdown], rfl⟩

theorem Deck.serial_fill [Decoder δ] (deck : Deck δ) (samples : List Int16) :
    (deck.fill samples).2.1.serial = deck.serial := by
  rcases deck.fill_cases samples with ⟨-, hFill⟩ | ⟨-, _, -, -, hFill⟩
  · rw [hFill]
  · rw [hFill]

/-- The deck, poisoned if it has the number. -/
def Deck.breakDown (serial : Nat) (deck : Deck δ) : Deck δ :=
  if deck.serial = serial then { deck with poisoned := true } else deck

theorem Deck.decoder_breakDown (deck : Deck δ) (serial : Nat) :
    (deck.breakDown serial).decoder = deck.decoder := by
  unfold breakDown
  split <;> rfl

namespace Player

/-- The player with the deck of a number poisoned, and nothing else changed. -/
def breakDown (player : Player δ) (serial : Nat) : Player δ :=
  { player with
    clip := player.clip.map fun clip => { clip with deck := clip.deck.breakDown serial }
    retired := player.retired.map (Deck.breakDown serial) }

/-! ## The register -/

/-- All decks, the loaded one first, and newer ones before older ones. -/
def decks (player : Player δ) : List (Deck δ) :=
  (player.clip.map (·.deck)).toList ++ player.retired

/-- The number of decks so far, and the number and the mark of each. -/
def register (player : Player δ) : Nat × List (Nat × Bool) :=
  (player.deckCount, player.decks.map fun deck => (deck.serial, deck.poisoned))

/-- The register with another mark for the deck of a number. -/
def remark (serial : Nat) (poisoned : Bool) (register : Nat × List (Nat × Bool)) :
    Nat × List (Nat × Bool) :=
  (register.1, register.2.map fun entry => if entry.1 = serial then (serial, poisoned) else entry)

/-- The register with one more deck, which is sound. -/
def enrol (register : Nat × List (Nat × Bool)) : Nat × List (Nat × Bool) :=
  (register.1 + 1, (register.1, false) :: register.2)

@[simp] theorem register_record (player : Player δ) (call : DecoderCall) :
    (player.record call).register = player.register := rfl

/-- What changes the decks of a player one by one changes its register entry by entry. -/
theorem register_congr {player after : Player δ} (change : Deck δ → Deck δ)
    (entry : Nat × Bool → Nat × Bool) (hCount : after.deckCount = player.deckCount)
    (hDecks : after.decks = player.decks.map change)
    (h : ∀ deck ∈ player.decks, ((change deck).serial, (change deck).poisoned) =
      entry (deck.serial, deck.poisoned)) :
    after.register = (player.register.1, player.register.2.map entry) := by
  rw [register, hCount, hDecks, register, List.map_map, List.map_map]
  exact Prod.ext rfl (List.map_congr_left h)

theorem register_withDecoder {player : Player δ} {clip : LoadedClip δ}
    (h : player.clip = some clip) (decoder : δ) :
    (player.withDecoder clip decoder).register = player.register := by
  rw [register, register, decks, decks, h]
  rfl

theorem decks_withDeck (player : Player δ) (deck : Deck δ) :
    (player.withDeck deck).decks =
      player.decks.map fun old => if old.serial = deck.serial then deck else old := by
  rw [decks, decks, withDeck, List.map_append]
  cases player.clip with
  | none => simp
  | some clip =>
    simp only [Option.map_some, Option.toList_some, List.map_cons, List.map_nil, beq_iff_eq]
    split <;> rfl

theorem register_withDeck (player : Player δ) (deck : Deck δ) :
    (player.withDeck deck).register = remark deck.serial deck.poisoned player.register := by
  refine register_congr _ _ rfl (player.decks_withDeck deck) fun old _ => ?_
  simp only
  split <;> rfl

theorem register_breakDown (player : Player δ) (serial : Nat) :
    (player.breakDown serial).register = remark serial true player.register := by
  have hDecks : (player.breakDown serial).decks = player.decks.map (Deck.breakDown serial) := by
    rw [decks, decks, breakDown, List.map_append]
    cases player.clip <;> rfl
  refine register_congr _ _ rfl hDecks fun deck _ => ?_
  simp only [Deck.breakDown]
  split
  · rename_i hSerial
    rw [hSerial]
  · rfl

/-- A deck that is found by its number is one of the decks and has the number. -/
theorem mem_of_deck? {player : Player δ} {serial : Nat} {deck : Deck δ}
    (h : player.deck? serial = some deck) : deck ∈ player.decks ∧ deck.serial = serial :=
  ⟨List.mem_of_find?_eq_some h, by simpa using List.find?_some h⟩

/-! ## Requests -/

section Requests

variable [Decoder δ]

/-- A new deck is entered when a clip is opened, and only then. -/
theorem register_load (library : ClipLibrary δ) (player : Player δ) (name : String) :
    (player.load library name).2.register = player.register ∨
      (player.load library name).2.register = enrol player.register := by
  obtain ⟨-, hLoad⟩ | ⟨_, calls, hLoad⟩ | ⟨path, decoder, -, -, -, hLoad⟩ :=
    load_cases library player name
  · rw [hLoad]
    exact .inl rfl
  · rw [hLoad]
    exact .inl rfl
  · rw [hLoad]
    exact .inr rfl

theorem register_play (library : ClipLibrary δ) (player : Player δ) (name : String)
    (first last : Int32) (now : UInt64) :
    (player.play library name first last now).2.register =
      (player.load library name).2.register := by
  unfold play
  split
  · rename_i hLoad
    rw [hLoad]
  · rename_i hLoad
    rw [hLoad]
    rfl

theorem register_playSingleFrame (library : ClipLibrary δ) (player : Player δ) (name : String)
    (frame : Int32) :
    (player.playSingleFrame library name frame).2.register =
      (player.load library name).2.register := by
  unfold playSingleFrame
  split
  · rename_i hLoad
    rw [hLoad]
  · rename_i hLoad
    rw [hLoad]
    rfl

theorem register_decodeFrame {player : Player δ} {clip : LoadedClip δ}
    (h : player.clip = some clip) (decoder : δ) (wanted : Int32) :
    (player.decodeFrame clip decoder wanted).2.register = player.register := by
  have hRecord : (player.record (.decode (Decoder.position decoder))).clip = some clip := h
  simp only [decodeFrame]
  split
  · exact register_withDecoder hRecord _
  · exact register_withDecoder hRecord _

theorem register_present {player : Player δ} {clip : LoadedClip δ} (h : player.clip = some clip)
    (wanted : Int32) : (player.present clip wanted).2.register = player.register := by
  have hRecord : (player.record (.seek wanted)).clip = some clip := h
  unfold present
  split
  · rfl
  · split
    · rfl
    · split
      · exact register_decodeFrame h _ _
      · split
        · exact register_withDecoder hRecord _
        · exact register_decodeFrame hRecord _ _

theorem register_updateFrame (player : Player δ) (now : UInt64) :
    (player.updateFrame now).2.register = player.register := by
  unfold updateFrame
  split
  · rfl
  · rename_i clip hClip
    split
    · rfl
    · rename_i wanted _
      have hPresent := register_present hClip wanted
      split
      · rename_i hOutcome
        rw [hOutcome] at hPresent
        exact hPresent
      · rename_i shown hOutcome
        rw [hOutcome] at hPresent
        rcases settle_cases shown clip with hSettle | ⟨-, hSettle⟩
        · rw [hSettle]
          exact hPresent
        · rw [hSettle]
          exact hPresent

/-- **No request poisons a deck.** -/
theorem register_serve (library : ClipLibrary δ) (player : Player δ) (request : Request) :
    (player.serve present library request).2.register = player.register ∨
      (player.serve present library request).2.register = enrol player.register := by
  cases request with
  | play name first last now =>
    have hPlay := register_play library player name first last now
    rcases register_load library player name with hLoad | hLoad
    · exact .inl (hPlay.trans hLoad)
    · exact .inr (hPlay.trans hLoad)
  | playSingleFrame name frame =>
    have hPlay := register_playSingleFrame library player name frame
    rcases register_load library player name with hLoad | hLoad
    · exact .inl (hPlay.trans hLoad)
    · exact .inr (hPlay.trans hLoad)
  | stop => exact .inl rfl
  | update now => exact .inl (register_updateFrame player now)

end Requests

/-! ## The ledger -/

/-- The register of a player with so many decks, of which those with the numbers are poisoned. -/
def ledger (count : Nat) (broken : List Nat) : Nat × List (Nat × Bool) :=
  (count, (List.range count).reverse.map fun serial => (serial, decide (serial ∈ broken)))

section Ledger

variable {player : Player δ} {count serial : Nat} {broken : List Nat}

theorem enrol_ledger (h : ∀ serial ∈ broken, serial < count) :
    enrol (ledger count broken) = ledger (count + 1) broken := by
  have hSound : decide (count ∈ broken) = false :=
    decide_eq_false fun hMem => Nat.lt_irrefl count (h count hMem)
  rw [ledger, ledger, List.range_succ, List.reverse_append, List.reverse_singleton,
    List.singleton_append, List.map_cons, hSound]
  rfl

/-- A mark for the deck of a number makes no difference to the others. -/
theorem remark_ledger {poisoned : Bool} {others : List Nat}
    (hSelf : decide (serial ∈ others) = poisoned)
    (hOthers : ∀ other, other ≠ serial → (other ∈ others ↔ other ∈ broken)) :
    remark serial poisoned (ledger count broken) = ledger count others := by
  refine Prod.ext rfl ?_
  simp only [remark, ledger, List.map_map]
  refine List.map_congr_left fun other _ => ?_
  simp only [Function.comp_apply]
  split
  · rename_i hSame
    rw [hSame, hSelf]
  · rename_i hOther
    rw [decide_eq_decide.2 (hOthers other hOther)]

theorem remark_ledger_self :
    remark serial (decide (serial ∈ broken)) (ledger count broken) = ledger count broken :=
  remark_ledger rfl fun _ _ => .rfl

theorem remark_ledger_broken :
    remark serial true (ledger count broken) = ledger count (broken ++ [serial]) :=
  remark_ledger (by simp) fun other hOther => by simp [hOther]

theorem serials_of_register (h : player.register = ledger count broken) :
    player.decks.map (·.serial) = (List.range count).reverse := by
  have hEntries := congrArg (fun register => register.2.map Prod.fst) h
  simpa only [register, ledger, List.map_map, Function.comp_def, List.map_id'] using hEntries

/-- A deck is poisoned when its number says so. -/
theorem poisoned_of_register (h : player.register = ledger count broken) {deck : Deck δ}
    (hDeck : deck ∈ player.decks) :
    deck.serial < count ∧ deck.poisoned = decide (deck.serial ∈ broken) := by
  have hMem : (deck.serial, deck.poisoned) ∈ player.register.2 :=
    List.mem_map_of_mem (f := fun deck : Deck δ => (deck.serial, deck.poisoned)) hDeck
  rw [h] at hMem
  obtain ⟨serial, hRange, hEntry⟩ := List.mem_map.1 hMem
  obtain ⟨rfl, hMark⟩ := Prod.mk.inj hEntry
  exact ⟨by simpa using hRange, hMark.symm⟩

/-- Every number below the number of decks belongs to a deck. -/
theorem exists_deck? (h : player.register = ledger count broken) (hSerial : serial < count) :
    ∃ deck, player.deck? serial = some deck := by
  have hMem : serial ∈ player.decks.map (·.serial) := by
    rw [serials_of_register h]
    simpa using hSerial
  obtain ⟨deck, hDeck, hNumber⟩ := List.mem_map.1 hMem
  exact Option.isSome_iff_exists.1 (List.find?_isSome.2 ⟨deck, hDeck, by simpa using hNumber⟩)

/-- **Taking sound poisons the deck of the feed, or no deck.**  A feed gives nothing exactly when
its deck is poisoned. -/
theorem register_fill [Decoder δ] (h : player.register = ledger count broken) (feed : AudioFeed)
    (hFeed : feed.serial < count) (samples : List Int16) :
    (player.fill feed samples).2.register =
        ledger count
          (if isBreakdown (player.fill feed samples).1 then broken ++ [feed.serial] else broken) ∧
      ((player.fill feed samples).1 = .error (.playback .decoderPoisoned) ↔
        feed.serial ∈ broken) := by
  obtain ⟨deck, hDeck⟩ := exists_deck? h hFeed
  obtain ⟨hMem, hNumber⟩ := mem_of_deck? hDeck
  obtain ⟨-, hMark⟩ := poisoned_of_register h hMem
  rw [hNumber] at hMark
  rcases deck.fill_cases samples with ⟨hPoisoned, hFill⟩ | ⟨hSound, outcome, hGives, -, hFill⟩
  · have hBroken : feed.serial ∈ broken := of_decide_eq_true (hMark.symm.trans hPoisoned)
    have hResult : player.fill feed samples =
        (.error (.playback .decoderPoisoned), player.withDeck deck) := by
      simp [fill, hDeck, hFill]
    rw [hResult]
    refine ⟨?_, fun _ => hBroken, fun _ => rfl⟩
    rw [register_withDeck, h, hNumber, hMark, remark_ledger_self]
    rfl
  · have hBroken : ¬ feed.serial ∈ broken := of_decide_eq_false (hMark.symm.trans hSound)
    have hResult : (player.fill feed samples).1 = outcome ∧
        (player.fill feed samples).2.register =
          remark feed.serial (isBreakdown outcome) player.register := by
      simp [fill, hDeck, hFill, register_withDeck, hNumber]
    rw [hResult.1, hResult.2, h]
    refine ⟨?_, fun hPoisoned => absurd hPoisoned hGives, fun hMem => absurd hMem hBroken⟩
    cases isBreakdown outcome with
    | true => exact remark_ledger_broken
    | false => exact remark_ledger (decide_eq_false hBroken) fun _ _ => .rfl

end Ledger
end Player
end BranchingMovie
