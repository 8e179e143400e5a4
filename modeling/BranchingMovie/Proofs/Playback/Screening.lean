import BranchingMovie.Playback.Rehearsal
import BranchingMovie.Proofs.Playback.Decks
import BranchingMovie.Proofs.Playback.Lookalikes
import BranchingMovie.Proofs.Playback.Seeking

/-!
# Pictures without the sound

Two decoders give the same pictures when no course of seeks and decodings tells one from the other
(`SameVideo`).  Sound stands apart from the pictures when taking samples never makes such a
difference (`SoundApart`).

Two players are in step when they look the same, have the same decks, and have decoders that give
the same pictures (`Player.InStep`).  They answer every request in the same way and stay in step
(`InStep.serve`), whatever sound is taken from one of them (`InStep.fill`), as long as it breaks no
decoder down; what that does is to poison a deck (`InStep.fill_of_breakdown`).
-/

namespace BranchingMovie

variable {δ : Type} [Decoder δ]

/-! ## Decoders with the same pictures -/

/-- A request to a decoder that concerns the pictures. -/
inductive VideoCall where
  | seek (frame : Int32)
  /-- A decoding into a picture. -/
  | decode (picture : FrameBuffer)

/-- What requests that concern the pictures give to see: each time the position, the outcome, and
the picture. -/
def screening (decoder : δ) :
    List VideoCall → List (Int32 × Except String Unit × Option FrameBuffer)
  | [] => []
  | .seek frame :: calls =>
    (Decoder.position decoder, (Decoder.seek decoder frame).1, none) ::
      screening (Decoder.seek decoder frame).2 calls
  | .decode picture :: calls =>
    (Decoder.position decoder, (Decoder.decode decoder picture).1,
        some (Decoder.decode decoder picture).2.2) ::
      screening (Decoder.decode decoder picture).2.1 calls

/-- The decoders give the same pictures from now on. -/
def SameVideo (decoder other : δ) : Prop :=
  ∀ calls, screening other calls = screening decoder calls

/-- Taking samples from a decoder does not move its pictures, unless the decoder breaks down. -/
def SoundApart (δ : Type) [Decoder δ] : Prop :=
  ∀ (decoder : δ) samples,
    (∀ message, (Decoder.audio decoder samples).1 ≠ .panicked message) →
      SameVideo decoder (Decoder.audio decoder samples).2

namespace SameVideo

variable {decoder other : δ}

theorem refl (decoder : δ) : SameVideo decoder decoder := fun _ => rfl

theorem symm (h : SameVideo decoder other) : SameVideo other decoder := fun calls => (h calls).symm

theorem trans {third : δ} (h : SameVideo decoder other) (h' : SameVideo other third) :
    SameVideo decoder third := fun calls => (h' calls).trans (h calls)

theorem seek (h : SameVideo decoder other) (frame : Int32) :
    (Decoder.seek other frame).1 = (Decoder.seek decoder frame).1 ∧
      SameVideo (Decoder.seek decoder frame).2 (Decoder.seek other frame).2 := by
  have hFirst := (List.cons.inj (h [.seek frame])).1
  exact ⟨congrArg (·.2.1) hFirst, fun calls => (List.cons.inj (h (.seek frame :: calls))).2⟩

theorem decode (h : SameVideo decoder other) (picture : FrameBuffer) :
    (Decoder.decode other picture).1 = (Decoder.decode decoder picture).1 ∧
      (Decoder.decode other picture).2.2 = (Decoder.decode decoder picture).2.2 ∧
      SameVideo (Decoder.decode decoder picture).2.1 (Decoder.decode other picture).2.1 := by
  have hFirst := (List.cons.inj (h [.decode picture])).1
  exact ⟨congrArg (·.2.1) hFirst, Option.some.inj (congrArg (·.2.2) hFirst),
    fun calls => (List.cons.inj (h (.decode picture :: calls))).2⟩

end SameVideo

/-- The decoders of rehearsal clips are not changed by taking samples. -/
theorem soundApart_rehearsal : SoundApart RehearsalDecoder := by
  intro decoder samples _
  have hSame : (Decoder.audio decoder samples).2 = decoder := by
    show (decoder.audio samples).2 = decoder
    unfold RehearsalDecoder.audio
    split <;> rfl
  rw [hSame]
  exact .refl decoder

namespace Player

/-! ## Players in step -/

/-- The players look the same, have the same decks, and have the same pictures to come. -/
structure InStep (player other : Player δ) : Prop where
  looks : player.Resembles other
  register : other.register = player.register
  video : ∀ clip same, player.clip = some clip → other.clip = some same →
    clip.deck.poisoned = false → SameVideo clip.deck.decoder same.deck.decoder

variable {player other : Player δ} {clip same : LoadedClip δ}

theorem InStep.refl (player : Player δ) : player.InStep player where
  looks := .refl player
  register := rfl
  video clip same hClip hSame _ := by
    obtain rfl : clip = same := Option.some.inj (hClip.symm.trans hSame)
    exact .refl clip.deck.decoder

omit [Decoder δ] in
theorem resembles_breakDown (player : Player δ) (serial : Nat) :
    player.Resembles (player.breakDown serial) := by
  refine ⟨?_, rfl⟩
  have hClip : (player.breakDown serial).setting = player.setting := by
    rw [setting, setting, breakDown, Option.map_map]
    rfl
  rw [view, view, hClip]
  rfl

/-- Players in step have the same clip loaded, on the same deck. -/
theorem InStep.exists_clip (h : player.InStep other) (hClip : player.clip = some clip) :
    ∃ same, other.clip = some same ∧ same.name = clip.name ∧ same.info = clip.info ∧
      same.deck.serial = clip.deck.serial ∧ same.deck.poisoned = clip.deck.poisoned := by
  have hSetting := congrArg Setting.clip h.looks.setting
  rw [setting_clip hClip] at hSetting
  obtain ⟨same, hSame, hPair⟩ := Option.map_eq_some_iff.1 hSetting
  obtain ⟨hName, hInfo⟩ := Prod.mk.inj hPair
  have hDecks :
      (same.deck.serial, same.deck.poisoned) = (clip.deck.serial, clip.deck.poisoned) := by
    have hRegister := congrArg Prod.snd h.register
    simp only [Player.register, decks, hClip, hSame] at hRegister
    exact (List.cons.inj hRegister).1
  exact ⟨same, hSame, hName, hInfo, congrArg Prod.fst hDecks, congrArg Prod.snd hDecks⟩

/-- They give away the same feed. -/
theorem InStep.audioFeed (h : player.InStep other) : other.audioFeed = player.audioFeed := by
  cases hClip : player.clip with
  | none =>
    have hNone : other.clip = none := by
      have hSetting := congrArg Setting.clip h.looks.setting
      simpa [setting, hClip] using hSetting
    rw [Player.audioFeed, Player.audioFeed, hClip, hNone]
  | some clip =>
    obtain ⟨same, hSame, -, hInfo, hSerial, -⟩ := h.exists_clip hClip
    rw [Player.audioFeed, Player.audioFeed, hClip, hSame]
    simp only [hInfo, hSerial]

/-- What leaves the clip, the decks and the looks of both players alone keeps them in step. -/
theorem InStep.congr {after others : Player δ} (h : player.InStep other)
    (hLooks : after.Resembles others) (hClip : after.clip = player.clip)
    (hClips : others.clip = other.clip) (hRegister : after.register = player.register)
    (hRegisters : others.register = other.register) : after.InStep others where
  looks := hLooks
  register := by rw [hRegister, hRegisters, h.register]
  video clip same hAfter hOthers :=
    h.video clip same (hClip.symm.trans hAfter) (hClips.symm.trans hOthers)

/-! ## Commands -/

theorem decoder_of_install {name : String} {decoder : δ}
    (h : (player.install name decoder).clip = some clip) : decoder = clip.deck.decoder := by
  rw [← Option.some.inj h]

/-- Players in step load a clip in the same way. -/
theorem InStep.load (h : player.InStep other) (library : ClipLibrary δ) (name : String) :
    ∃ outcome loaded others, player.load library name = (outcome, loaded) ∧
      other.load library name = (outcome, others) ∧ loaded.InStep others := by
  rw [Player.load, Player.load, hasLoaded_eq, hasLoaded_eq, h.looks.setting]
  split
  · exact ⟨_, _, _, rfl, rfl, h⟩
  · split
    · exact ⟨_, _, _, rfl, rfl, h⟩
    · rename_i path _
      have hRecord : (player.record (.opened path)).InStep (other.record (.opened path)) :=
        h.congr ⟨h.looks.view, h.looks.nextFrame⟩ rfl rfl rfl rfl
      split
      · exact ⟨_, _, _, rfl, rfl, hRecord⟩
      · rename_i decoder _
        split
        · exact ⟨_, _, _, rfl, rfl, hRecord⟩
        · refine ⟨_, _, _, rfl, rfl, ⟨?_, rfl⟩, ?_, ?_⟩
          · rw [view_install, view_install, hRecord.looks.view]
          · exact congrArg enrol h.register
          · intro clip same hClip hSame _
            rw [← decoder_of_install hClip, ← decoder_of_install hSame]
            exact .refl decoder

theorem InStep.play (h : player.InStep other) (library : ClipLibrary δ) (name : String)
    (first last : Int32) (now : UInt64) :
    (other.play library name first last now).1 = (player.play library name first last now).1 ∧
      (player.play library name first last now).2.InStep
        (other.play library name first last now).2 := by
  obtain ⟨hOutcome, hLooks⟩ := h.looks.play library name first last now
  obtain ⟨outcome, loaded, others, hLoad, hOther, hLoaded⟩ := h.load library name
  refine ⟨hOutcome, hLoaded.congr hLooks ?_ ?_ ?_ ?_⟩
  · rw [(play_eq_load library player name first last now).1, hLoad]
  · rw [(play_eq_load library other name first last now).1, hOther]
  · rw [register_play, hLoad]
  · rw [register_play, hOther]

theorem InStep.playSingleFrame (h : player.InStep other) (library : ClipLibrary δ) (name : String)
    (frame : Int32) :
    (other.playSingleFrame library name frame).1 = (player.playSingleFrame library name frame).1 ∧
      (player.playSingleFrame library name frame).2.InStep
        (other.playSingleFrame library name frame).2 := by
  obtain ⟨hOutcome, hLooks⟩ := h.looks.playSingleFrame library name frame
  obtain ⟨outcome, loaded, others, hLoad, hOther, hLoaded⟩ := h.load library name
  refine ⟨hOutcome, hLoaded.congr hLooks ?_ ?_ ?_ ?_⟩
  · rw [(playSingleFrame_eq_load library player name frame).1, hLoad]
  · rw [(playSingleFrame_eq_load library other name frame).1, hOther]
  · rw [register_playSingleFrame, hLoad]
  · rw [register_playSingleFrame, hOther]

/-! ## The clock -/

omit [Decoder δ] in
/-- Settling a play touches neither the clip nor the decks. -/
theorem settle_keeps (player : Player δ) (clip : LoadedClip δ) :
    (player.settle clip).2.nextFrame = player.nextFrame ∧
      (player.settle clip).2.clip = player.clip ∧
      (player.settle clip).2.register = player.register := by
  rcases settle_cases player clip with hSettle | ⟨-, hSettle⟩
  · rw [hSettle]
    exact ⟨rfl, rfl, rfl⟩
  · rw [hSettle]
    exact ⟨rfl, rfl, rfl⟩

/-- Decoders with the same pictures can be put into the decks of players in step. -/
theorem InStep.withDecoder {decoder decoder' : δ} (h : player.InStep other)
    (hClip : player.clip = some clip) (hSame : other.clip = some same)
    (hVideo : SameVideo decoder decoder') :
    (player.withDecoder clip decoder).InStep (other.withDecoder same decoder') where
  looks := by
    refine ⟨?_, h.looks.nextFrame⟩
    have hView := h.looks.view
    simp only [Player.view, setting_withDecoder hClip, setting_withDecoder hSame] at hView ⊢
    exact hView
  register := by rw [register_withDecoder hClip, register_withDecoder hSame, h.register]
  video moved moved' hMoved hMoved' _ := by
    cases hMoved
    cases hMoved'
    exact hVideo

/-- Players in step decode a frame in the same way. -/
theorem InStep.decodeFrame {decoder decoder' : δ} (h : player.InStep other)
    (hClip : player.clip = some clip) (hSame : other.clip = some same)
    (hName : same.name = clip.name) (hVideo : SameVideo decoder decoder') (wanted : Int32) :
    ∃ outcome after others, player.decodeFrame clip decoder wanted = (outcome, after) ∧
      other.decodeFrame same decoder' wanted = (outcome, others) ∧ after.InStep others := by
  have hRecord : (player.record (.decode (Decoder.position decoder))).InStep
      (other.record (.decode (Decoder.position decoder'))) :=
    h.congr ⟨h.looks.view, h.looks.nextFrame⟩ rfl rfl rfl rfl
  have hPicture : other.picture = player.picture := congrArg View.picture h.looks.view
  have hDecoded := hVideo.decode player.picture
  cases hDecode : Decoder.decode decoder player.picture with
  | mk outcome rest =>
    cases hDecode' : Decoder.decode decoder' player.picture with
    | mk outcome' rest' =>
      obtain ⟨moved, picture⟩ := rest
      obtain ⟨moved', picture'⟩ := rest'
      rw [hDecode, hDecode'] at hDecoded
      obtain ⟨rfl, rfl, hMoved⟩ :
        outcome' = outcome ∧ picture' = picture ∧ SameVideo moved moved' := hDecoded
      have hAfter := hRecord.withDecoder hClip hSame hMoved
      have hView := hAfter.looks.view
      simp only [Player.decodeFrame, record] at hAfter ⊢
      simp only [hPicture, hDecode, hDecode', hName]
      cases outcome' with
      | error cause =>
        refine ⟨_, _, _, rfl, rfl, hAfter.congr ⟨?_, hAfter.looks.nextFrame⟩ rfl rfl rfl rfl⟩
        exact congrArg (fun view : View => { view with picture := picture' }) hView
      | ok _ =>
        refine ⟨_, _, _, rfl, rfl, hAfter.congr ⟨?_, rfl⟩ rfl rfl rfl rfl⟩
        exact congrArg (fun view : View => View.mk view.setting (some wanted) picture') hView

/-- They bring a frame on display in the same way. -/
theorem InStep.present (h : player.InStep other) (hClip : player.clip = some clip)
    (hSame : other.clip = some same) (wanted : Int32) :
    ∃ outcome after others, player.present clip wanted = (outcome, after) ∧
      other.present same wanted = (outcome, others) ∧ after.InStep others := by
  have hFrame : other.currentFrame = player.currentFrame :=
    congrArg View.currentFrame h.looks.view
  obtain ⟨same', hSame', hName, -, -, hPoisoned⟩ := h.exists_clip hClip
  obtain rfl : same = same' := Option.some.inj (hSame.symm.trans hSame')
  rw [Player.present, Player.present, hFrame, hPoisoned, h.looks.nextFrame]
  split
  · exact ⟨_, _, _, rfl, rfl, h⟩
  · split
    · exact ⟨_, _, _, rfl, rfl, h⟩
    · rename_i hSound
      have hVideo := h.video clip same hClip hSame (Bool.eq_false_iff.2 hSound)
      split
      · exact h.decodeFrame hClip hSame hName hVideo wanted
      · have hRecord : (player.record (.seek wanted)).InStep (other.record (.seek wanted)) :=
          h.congr ⟨h.looks.view, h.looks.nextFrame⟩ rfl rfl rfl rfl
        have hSought := hVideo.seek wanted
        cases hSeek : Decoder.seek clip.deck.decoder wanted with
        | mk outcome moved =>
          cases hSeek' : Decoder.seek same.deck.decoder wanted with
          | mk outcome' moved' =>
            rw [hSeek, hSeek'] at hSought
            obtain ⟨rfl, hMoved⟩ : outcome' = outcome ∧ SameVideo moved moved' := hSought
            cases outcome' with
            | error cause =>
              simp only [hName]
              exact ⟨_, _, _, rfl, rfl, hRecord.withDecoder hClip hSame hMoved⟩
            | ok _ => exact hRecord.decodeFrame hClip hSame hName hMoved wanted

/-- They follow the clock in the same way. -/
theorem InStep.updateFrame (h : player.InStep other) (now : UInt64) :
    (other.updateFrame now).1 = (player.updateFrame now).1 ∧
      (player.updateFrame now).2.InStep (other.updateFrame now).2 := by
  rw [← updateWith_present, ← updateWith_present]
  cases hClip : player.clip with
  | none =>
    have hNone : other.clip = none := by
      have hSetting := congrArg Setting.clip h.looks.setting
      simpa [setting, hClip] using hSetting
    rw [updateWith_of_no_clip hClip, updateWith_of_no_clip hNone]
    exact ⟨rfl, h⟩
  | some clip =>
    obtain ⟨same, hSame, hName, hInfo, -, -⟩ := h.exists_clip hClip
    have hCalled : other.wantedFrame same.info now = player.wantedFrame clip.info now := by
      rw [wantedFrame_congr h.looks.setting, hInfo]
    cases hWanted : player.wantedFrame clip.info now with
    | none =>
      rw [updateWith_of_no_wanted hClip hWanted,
        updateWith_of_no_wanted hSame (hCalled.trans hWanted)]
      exact ⟨rfl, h⟩
    | some wanted =>
      obtain ⟨outcome, after, others, hPresent, hPresent', hAfter⟩ := h.present hClip hSame wanted
      cases outcome with
      | error fault =>
        rw [updateWith_error hClip hWanted hPresent,
          updateWith_error hSame (hCalled.trans hWanted) hPresent']
        exact ⟨rfl, hAfter⟩
      | ok _ =>
        rw [updateWith_ok hClip hWanted hPresent,
          updateWith_ok hSame (hCalled.trans hWanted) hPresent']
        obtain ⟨hEnded, hView⟩ := settle_congr hAfter.looks.view hName
        exact ⟨congrArg Except.ok hEnded,
          hAfter.congr ⟨hView, (settle_keeps others same).1.trans <|
            hAfter.looks.nextFrame.trans (settle_keeps after clip).1.symm⟩
            (settle_keeps after clip).2.1 (settle_keeps others same).2.1
            (settle_keeps after clip).2.2 (settle_keeps others same).2.2⟩

/-- **Players in step answer every request in the same way.** -/
theorem InStep.serve (h : player.InStep other) (library : ClipLibrary δ) (request : Request) :
    (other.serve Player.present library request).1 =
        (player.serve Player.present library request).1 ∧
      (player.serve Player.present library request).2.InStep
        (other.serve Player.present library request).2 := by
  cases request with
  | play name first last now =>
    obtain ⟨hOutcome, hAfter⟩ := h.play library name first last now
    exact ⟨congrArg (Except.map fun _ => none) hOutcome, hAfter⟩
  | playSingleFrame name frame =>
    obtain ⟨hOutcome, hAfter⟩ := h.playSingleFrame library name frame
    exact ⟨congrArg (Except.map fun _ => none) hOutcome, hAfter⟩
  | stop =>
    exact ⟨rfl, h.congr ⟨view_withState h.looks.view .stopped, h.looks.nextFrame⟩ rfl rfl rfl rfl⟩
  | update now => exact h.updateFrame now

/-! ## Sound -/

/-- Taking sound through a feed concerns the deck of the feed. -/
theorem clip_fill (player : Player δ) (feed : AudioFeed) (samples : List Int16) :
    (player.fill feed samples).2.clip = player.clip.map fun clip =>
      if clip.deck.serial = feed.serial then
        { clip with deck := (clip.deck.fill samples).2.1 }
      else clip := by
  have hFill : ∀ deck, player.deck? feed.serial = some deck →
      (player.fill feed samples).2.clip = (player.withDeck (deck.fill samples).2.1).clip := by
    intro deck hDeck
    simp only [fill, hDeck]
    split <;> rfl
  cases hClip : player.clip with
  | none =>
    cases hDeck : player.deck? feed.serial with
    | none => simp [fill, hDeck, hClip]
    | some deck => rw [hFill deck hDeck, withDeck, hClip, Option.map_none, Option.map_none]
  | some clip =>
    rw [Option.map_some]
    by_cases hSame : clip.deck.serial = feed.serial
    · have hDeck : player.deck? feed.serial = some clip.deck := by simp [deck?, hClip, hSame]
      rw [hFill clip.deck hDeck, withDeck, hClip, Option.map_some, if_pos hSame,
        clip.deck.serial_fill samples]
      simp
    · rw [if_neg hSame]
      cases hDeck : player.deck? feed.serial with
      | none => simp [fill, hDeck, hClip]
      | some deck =>
        have hOther : clip.deck.serial ≠ (deck.fill samples).2.1.serial := by
          rwa [deck.serial_fill samples, (mem_of_deck? hDeck).2]
        rw [hFill deck hDeck, withDeck, hClip, Option.map_some]
        simp [hOther]

/-- Unless it breaks the decoder down, taking sound moves no pictures. -/
theorem sameVideo_fill (hApart : SoundApart δ) {feed : AudioFeed} {samples : List Int16}
    {moved : LoadedClip δ} (hMoved : (player.fill feed samples).2.clip = some moved)
    (hSound : moved.deck.poisoned = false) :
    ∃ clip, player.clip = some clip ∧ clip.deck.poisoned = false ∧
      SameVideo clip.deck.decoder moved.deck.decoder := by
  rw [clip_fill] at hMoved
  obtain ⟨clip, hClip, rfl⟩ := Option.map_eq_some_iff.1 hMoved
  refine ⟨clip, hClip, ?_⟩
  split at hSound
  · rename_i hSame
    rw [if_pos hSame]
    rcases clip.deck.fill_cases samples with ⟨_, hFill⟩ | ⟨hBefore, _, -, hAudio, hFill⟩
    · rw [hFill] at hSound ⊢
      exact ⟨hSound, .refl clip.deck.decoder⟩
    · rw [hFill] at hSound ⊢
      exact ⟨hBefore, hApart clip.deck.decoder samples (hAudio hSound)⟩
  · rename_i hOther
    rw [if_neg hOther]
    exact ⟨hSound, .refl clip.deck.decoder⟩

/-- Sound that is taken without breaking a decoder down leaves the player in step. -/
theorem InStep.fill (h : player.InStep other) (hApart : SoundApart δ) {feed : AudioFeed}
    {samples : List Int16} (hRegister : (player.fill feed samples).2.register = player.register) :
    (player.fill feed samples).2.InStep other where
  looks := (player.resembles_fill feed samples).symm.trans h.looks
  register := by rw [hRegister, h.register]
  video moved same hMoved hSame hSound := by
    obtain ⟨clip, hClip, hBefore, hVideo⟩ := sameVideo_fill hApart hMoved hSound
    exact hVideo.symm.trans (h.video clip same hClip hSame hBefore)

/-- Sound that breaks a decoder down does what poisoning its deck does. -/
theorem InStep.fill_of_breakdown (h : player.InStep other) (hApart : SoundApart δ)
    {feed : AudioFeed} {samples : List Int16}
    (hRegister : (player.fill feed samples).2.register = remark feed.serial true player.register) :
    (player.fill feed samples).2.InStep (other.breakDown feed.serial) where
  looks := ((player.resembles_fill feed samples).symm.trans h.looks).trans
    (other.resembles_breakDown feed.serial)
  register := by rw [hRegister, register_breakDown, h.register]
  video moved same hMoved hSame hSound := by
    obtain ⟨clip, hClip, hBefore, hVideo⟩ := sameVideo_fill hApart hMoved hSound
    obtain ⟨unbroken, hUnbroken, rfl⟩ := Option.map_eq_some_iff.1 hSame
    have hAgree := hVideo.symm.trans (h.video clip unbroken hClip hUnbroken hBefore)
    rwa [← unbroken.deck.decoder_breakDown feed.serial] at hAgree

end Player
end BranchingMovie
