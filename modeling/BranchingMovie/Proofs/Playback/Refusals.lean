import BranchingMovie.Proofs.Outcome
import BranchingMovie.Proofs.Playback.Course
import BranchingMovie.Proofs.Playback.Feeds

/-!
# Refused commands and failed updates

A command may be refused at every step of opening a clip, and an update may fail at every call of
the decoder.  Neither takes anything away from the clip in the player.

* The list of calls is written and never read: each operation gives the same outcome and the same
  player, apart from that list, when it is emptied before (`Player.unlogged_serve`,
  `Player.unlogged_fill`).  A refused command changes nothing but this list
  (`Player.unlogged_of_serve_error`).
* So the refused commands can be left out of any list of demands (`Booth.history_heeded`).
* A play that is left alone goes on over all failures up to one answer that tells its end, and
  stands still from there on (`Booth.exists_early_late`).  One demand either goes on with it or ends
  it (`Booth.playsOn_or_finishes`).

`Booth.failures_change_nothing` puts them together.
-/

namespace BranchingMovie

variable {δ : Type}

/-! ## The list of calls is only written -/

namespace Player

/-- The player with an empty list of calls. -/
def unlogged (player : Player δ) : Player δ :=
  { player with calls := #[] }

/-- Two players differ in the list of calls at most. -/
theorem unlogged_eq_iff {player other : Player δ} :
    other.unlogged = player.unlogged ↔ ∃ calls, other = { player with calls } := by
  constructor
  · intro h
    refine ⟨other.calls, ?_⟩
    exact congrArg (fun same : Player δ => { same with calls := other.calls }) h
  · rintro ⟨calls, rfl⟩
    rfl

/-- Two steps that differ in the list of calls at most. -/
theorem exists_of_map_unlogged {ω : Type} {step other : ω × Player δ}
    (h : other.map id unlogged = step.map id unlogged) :
    ∃ outcome after after', step = (outcome, after) ∧ other = (outcome, after') ∧
      after'.unlogged = after.unlogged := by
  obtain ⟨outcome, after⟩ := step
  obtain ⟨outcome', after'⟩ := other
  obtain ⟨rfl, hAfter⟩ := Prod.mk.inj h
  exact ⟨_, after, after', rfl, rfl, hAfter⟩

variable [Decoder δ]

/-- Loading a clip does not read the list of calls. -/
theorem unlogged_load (library : ClipLibrary δ) (player : Player δ) (name : String) :
    (player.unlogged.load library name).map id unlogged =
      (player.load library name).map id unlogged := by
  have hLoaded : player.unlogged.hasLoaded name = player.hasLoaded name := rfl
  rw [load, load, hLoaded]
  split
  · rfl
  · split
    · rfl
    · split
      · rfl
      · split <;> rfl

theorem unlogged_play (library : ClipLibrary δ) (player : Player δ) (name : String)
    (first last : Int32) (now : UInt64) :
    (player.unlogged.play library name first last now).map id unlogged =
      (player.play library name first last now).map id unlogged := by
  obtain ⟨outcome, loaded, others, hLoad, hOther, hSame⟩ :=
    exists_of_map_unlogged (unlogged_load library player name)
  rw [play, play, hLoad, hOther]
  cases outcome with
  | error fault => exact Prod.ext rfl hSame
  | ok _ =>
    refine Prod.ext rfl ?_
    exact congrArg (fun player : Player δ => { player with
      startFrame := saturatingAdd first player.shift
      endFrame := saturatingAdd last player.shift
      startTime := now
      state := .playing }) hSame

theorem unlogged_playSingleFrame (library : ClipLibrary δ) (player : Player δ) (name : String)
    (frame : Int32) :
    (player.unlogged.playSingleFrame library name frame).map id unlogged =
      (player.playSingleFrame library name frame).map id unlogged := by
  obtain ⟨outcome, loaded, others, hLoad, hOther, hSame⟩ :=
    exists_of_map_unlogged (unlogged_load library player name)
  rw [playSingleFrame, playSingleFrame, hLoad, hOther]
  cases outcome with
  | error fault => exact Prod.ext rfl hSame
  | ok _ =>
    refine Prod.ext rfl ?_
    exact congrArg (fun player : Player δ => { player with state := .singleFrame frame }) hSame

theorem unlogged_decodeFrame (player : Player δ) (clip : LoadedClip δ) (decoder : δ)
    (wanted : Int32) :
    (player.unlogged.decodeFrame clip decoder wanted).map id unlogged =
      (player.decodeFrame clip decoder wanted).map id unlogged := by
  have hPicture : (player.unlogged.record (.decode (Decoder.position decoder))).picture =
      (player.record (.decode (Decoder.position decoder))).picture := rfl
  simp only [decodeFrame, hPicture]
  split <;> rfl

/-- Neither does showing a frame. -/
theorem unlogged_present (player : Player δ) (clip : LoadedClip δ) (wanted : Int32) :
    (player.unlogged.present clip wanted).map id unlogged =
      (player.present clip wanted).map id unlogged := by
  have hFrame : player.unlogged.currentFrame = player.currentFrame := rfl
  have hNext : player.unlogged.nextFrame = player.nextFrame := rfl
  rw [present, present, hFrame, hNext]
  split
  · rfl
  · split
    · rfl
    · split
      · exact unlogged_decodeFrame player clip _ wanted
      · split
        · rfl
        · rw [← unlogged_decodeFrame (player.unlogged.record _),
            ← unlogged_decodeFrame (player.record _)]
          rfl

omit [Decoder δ] in
theorem unlogged_settle {player other : Player δ} (h : other.unlogged = player.unlogged)
    (clip : LoadedClip δ) :
    (other.settle clip).map id unlogged = (player.settle clip).map id unlogged := by
  obtain ⟨calls, rfl⟩ := unlogged_eq_iff.1 h
  simp only [settle]
  split
  · split <;> rfl
  · rfl

/-- Neither does the clock. -/
theorem unlogged_updateFrame (player : Player δ) (now : UInt64) :
    (player.unlogged.updateFrame now).map id unlogged =
      (player.updateFrame now).map id unlogged := by
  have hClip : player.unlogged.clip = player.clip := rfl
  rw [updateFrame, updateFrame, hClip]
  split
  · rfl
  · rename_i clip _
    have hWanted : player.unlogged.wantedFrame clip.info now = player.wantedFrame clip.info now :=
      rfl
    rw [hWanted]
    split
    · rfl
    · rename_i wanted _
      obtain ⟨outcome, shown, others, hPresent, hOther, hSame⟩ :=
        exists_of_map_unlogged (unlogged_present player clip wanted)
      rw [hPresent, hOther]
      cases outcome with
      | error fault => exact Prod.ext rfl hSame
      | ok _ =>
        obtain ⟨ended, settled, others', hSettle, hOther', hSettled⟩ :=
          exists_of_map_unlogged (unlogged_settle hSame clip)
        simp only [hSettle, hOther']
        exact Prod.ext rfl hSettled

/-- Neither does a request. -/
theorem unlogged_serve (library : ClipLibrary δ) (player : Player δ) (request : Request) :
    (player.unlogged.serve present library request).map id unlogged =
      (player.serve present library request).map id unlogged := by
  cases request with
  | play name first last now =>
    exact congrArg (Prod.map (Except.map fun _ => none) id)
      (unlogged_play library player name first last now)
  | playSingleFrame name frame =>
    exact congrArg (Prod.map (Except.map fun _ => none) id)
      (unlogged_playSingleFrame library player name frame)
  | stop => rfl
  | update now => exact unlogged_updateFrame player now

/-- Neither does taking sound. -/
theorem unlogged_fill (player : Player δ) (feed : AudioFeed) (samples : List Int16) :
    (player.unlogged.fill feed samples).map id unlogged =
      (player.fill feed samples).map id unlogged := by
  have hDeck : player.unlogged.deck? feed.serial = player.deck? feed.serial := rfl
  rw [fill, fill, hDeck]
  split
  · rfl
  · simp only
    split <;> rfl

/-- A refused command changes nothing but the list of calls. -/
theorem unlogged_of_serve_error {library : ClipLibrary δ} {player after : Player δ}
    {request : Request} {fault : PlaybackError} (hCommand : request.clip? ≠ none)
    (h : player.serve present library request = (.error fault, after)) :
    after.unlogged = player.unlogged := by
  rw [unlogged_eq_iff]
  cases request with
  | play name first last now =>
    obtain ⟨hOutcome, rfl⟩ := Prod.mk.inj h
    exact play_error (Prod.ext (Outcome.map_error.1 hOutcome) rfl)
  | playSingleFrame name frame =>
    obtain ⟨hOutcome, rfl⟩ := Prod.mk.inj h
    exact playSingleFrame_error (Prod.ext (Outcome.map_error.1 hOutcome) rfl)
  | stop => exact absurd rfl hCommand
  | update now => exact absurd rfl hCommand

end Player

/-! ## Refused commands can be left out -/

/-- The demand is a command, and it is refused. -/
def Demand.isRefusal : Demand → Option Report → Bool
  | .request command, some (.served (.error _)) => command.clip?.isSome
  | _, _ => false

namespace Booth

/-- The booth with an empty list of calls. -/
def unlogged (booth : Booth δ) : Booth δ :=
  { booth with player := booth.player.unlogged }

variable [Decoder δ] {library : ClipLibrary δ} {booth other : Booth δ}

theorem unlogged_step (library : ClipLibrary δ) (booth : Booth δ) (demand : Demand) :
    (booth.unlogged.step library demand).unlogged = (booth.step library demand).unlogged := by
  cases demand with
  | request request =>
    have hServe := congrArg Prod.snd (Player.unlogged_serve library booth.player request)
    exact congrArg (fun player => ({ booth with player } : Booth δ)) hServe
  | takeFeed => rfl
  | fill number samples =>
    have hFeeds : booth.unlogged.feeds = booth.feeds := rfl
    simp only [step, hFeeds]
    split
    · rename_i feed _
      have hFill := congrArg Prod.snd (Player.unlogged_fill booth.player feed samples)
      exact congrArg (fun player => ({ booth with player } : Booth δ)) hFill
    · rfl

theorem report_unlogged (library : ClipLibrary δ) (booth : Booth δ) (demand : Demand) :
    booth.unlogged.report library demand = booth.report library demand := by
  cases demand with
  | request request =>
    have hServe := congrArg Prod.fst (Player.unlogged_serve library booth.player request)
    exact congrArg (fun outcome => some (Report.served outcome)) hServe
  | takeFeed => rfl
  | fill number samples => rfl

/-- Booths that differ in the list of calls at most meet a demand in the same way. -/
theorem step_congr (h : other.unlogged = booth.unlogged) (demand : Demand) :
    (other.step library demand).unlogged = (booth.step library demand).unlogged := by
  rw [← unlogged_step, h, unlogged_step]

theorem report_congr (h : other.unlogged = booth.unlogged) (demand : Demand) :
    other.report library demand = booth.report library demand := by
  rw [← report_unlogged, h, report_unlogged]

/-- A refused command changes nothing in the booth but the list of calls. -/
theorem unlogged_of_isRefusal {demand : Demand}
    (h : demand.isRefusal (booth.report library demand) = true) :
    (booth.step library demand).unlogged = booth.unlogged := by
  cases demand with
  | request request =>
    cases hServe : booth.player.serve Player.present library request with
    | mk outcome after =>
      rw [report, hServe] at h
      cases outcome with
      | ok ended => cases h
      | error fault =>
        have hCommand : request.clip? ≠ none := Option.isSome_iff_ne_none.1 h
        have hAfter := Player.unlogged_of_serve_error hCommand hServe
        rw [step, hServe]
        exact congrArg (fun player => ({ booth with player } : Booth δ)) hAfter
  | takeFeed => cases h
  | fill number samples => cases h

/-- The demands that are not refused, each with what the player says to it and the player after
it. -/
def heeded (library : ClipLibrary δ) (booth : Booth δ) (demands : List Demand) :
    List (Demand × Option Report × Player δ) :=
  (demands.zip (booth.history library demands)).filter fun entry =>
    !entry.1.isRefusal entry.2.1

/-- A list of demands with a refused command in front. -/
theorem heeded_of_isRefusal {demand : Demand} (demands : List Demand)
    (h : demand.isRefusal (booth.report library demand) = true) :
    booth.heeded library (demand :: demands) =
      (booth.step library demand).heeded library demands := by
  rw [heeded, history, List.zip_cons_cons, List.filter_cons_of_neg, heeded]
  simpa using h

theorem heeded_of_not_isRefusal {demand : Demand} (demands : List Demand)
    (h : ¬ demand.isRefusal (booth.report library demand) = true) :
    booth.heeded library (demand :: demands) =
      (demand, booth.report library demand, (booth.step library demand).player) ::
        (booth.step library demand).heeded library demands := by
  rw [heeded, history, List.zip_cons_cons, List.filter_cons_of_pos, heeded]
  simpa using h

/-- A booth that is spared the refused commands says and shows the same to all other demands. -/
theorem history_heeded (h : other.unlogged = booth.unlogged) (demands : List Demand) :
    (other.history library ((booth.heeded library demands).map (·.1))).map
          (Prod.map id Player.unlogged) =
        (booth.heeded library demands).map (fun entry => (entry.2.1, entry.2.2.unlogged)) ∧
      (other.run library ((booth.heeded library demands).map (·.1))).unlogged =
        (booth.run library demands).unlogged := by
  induction demands generalizing booth other with
  | nil => exact ⟨rfl, h⟩
  | cons demand demands ih =>
    by_cases hRefused : demand.isRefusal (booth.report library demand) = true
    · -- the other booth stays where it is
      rw [heeded_of_isRefusal demands hRefused]
      exact ih (h.trans (unlogged_of_isRefusal hRefused).symm)
    · have hStep : (other.step library demand).unlogged = (booth.step library demand).unlogged :=
        step_congr h demand
      obtain ⟨hHistory, hRun⟩ := ih hStep
      rw [heeded_of_not_isRefusal demands hRefused]
      refine ⟨?_, hRun⟩
      simp only [List.map_cons, history, hHistory, report_congr h]
      exact congrArg (· :: _) (Prod.ext rfl (congrArg Booth.player hStep))

end Booth

/-! ## The end of a play is not lost -/

/-- The demand leaves a play alone: it does not stop it, and if it is a command, it is refused. -/
def Demand.Spares (report : Option Report) : Demand → Prop
  | .request .stop => False
  | .request (.update _) => True
  | .request command => (Demand.request command).isRefusal report = true
  | _ => True

/-- What the player says is not the end of a play. -/
def Report.IsSilent (report : Option Report) : Prop :=
  ∀ ended, report ≠ some (.served (.ok (some ended)))

/-- A play goes on: nothing that was asked for is changed, no end is told, and a frame that is shown
lies in front of the last one. -/
structure Player.PlaysOn (player : Player δ) (step : Option Report × Player δ) : Prop where
  setting : step.2.setting = player.setting
  silent : Report.IsSilent step.1
  before : step.1 = some (.served (.ok none)) →
    ∃ frame, step.2.currentFrame = some frame ∧ frame < player.endFrame

/-- A play of the clip with the key ends, and it is told. -/
structure Player.Finishes (player : Player δ) (key : String) (step : Option Report × Player δ) :
    Prop where
  told : step.1 = some (.served (.ok (some ⟨key, player.endFrame⟩)))
  last : ∃ frame, step.2.currentFrame = some frame ∧ player.endFrame ≤ frame
  stopped : step.2.state = .stopped

/-- A player stands still, and no end is told. -/
structure Player.Rests (player : Player δ) (step : Option Report × Player δ) : Prop where
  setting : step.2.setting = player.setting
  currentFrame : step.2.currentFrame = player.currentFrame
  silent : Report.IsSilent step.1

namespace Booth

variable [Decoder δ] {library : ClipLibrary δ} {booth : Booth δ} {demand : Demand} {key : String}
  {info : ClipInfo}

/-- A demand with what the player says to it and the player after it. -/
def answer (library : ClipLibrary δ) (booth : Booth δ) (demand : Demand) :
    Option Report × Player δ :=
  (booth.report library demand, (booth.step library demand).player)

/-- A refused command changes nothing that was asked for and no frame, and it is answered by a
fault. -/
theorem answer_of_isRefusal (h : demand.isRefusal (booth.report library demand) = true) :
    (booth.step library demand).player.setting = booth.player.setting ∧
      (booth.step library demand).player.currentFrame = booth.player.currentFrame ∧
      ∀ ended, booth.report library demand ≠ some (.served (.ok ended)) := by
  have hSame := unlogged_of_isRefusal h
  have hSetting : (booth.step library demand).unlogged.player.setting =
      booth.unlogged.player.setting := by rw [hSame]
  have hFrame : (booth.step library demand).unlogged.player.currentFrame =
      booth.unlogged.player.currentFrame := by rw [hSame]
  refine ⟨hSetting, hFrame, ?_⟩
  intro ended hReport
  rw [hReport] at h
  cases demand <;> cases h

/-- Only an update of the clock makes something of a play that is left alone. -/
theorem answer_of_spares (hSpares : demand.Spares (booth.report library demand))
    (hUpdate : ∀ now, demand ≠ .request (.update now)) :
    (booth.step library demand).player.setting = booth.player.setting ∧
      (booth.step library demand).player.currentFrame = booth.player.currentFrame ∧
      ∀ ended, booth.report library demand ≠ some (.served (.ok ended)) := by
  cases demand with
  | request request =>
    cases request with
    | play name first last now => exact answer_of_isRefusal hSpares
    | playSingleFrame name frame => exact answer_of_isRefusal hSpares
    | stop => exact hSpares.elim
    | update now => exact absurd rfl (hUpdate now)
  | takeFeed =>
    refine ⟨rfl, rfl, ?_⟩
    intro ended hReport
    cases hReport
  | fill number samples =>
    have hFill : (booth.step library (.fill number samples)).player.setting =
          booth.player.setting ∧
        (booth.step library (.fill number samples)).player.currentFrame =
          booth.player.currentFrame := by
      rw [step]
      split
      · rename_i feed _
        exact ⟨booth.player.setting_fill feed samples, booth.player.currentFrame_fill feed samples⟩
      · exact ⟨rfl, rfl⟩
    refine ⟨hFill.1, hFill.2, ?_⟩
    intro ended hReport
    cases hReport

theorem answer_update (now : UInt64) :
    booth.answer library (.request (.update now)) =
      (some (.served (booth.player.updateFrame now).1), (booth.player.updateFrame now).2) := rfl

/-- A play that is left alone goes on or ends. -/
theorem playsOn_or_finishes (hClip : booth.player.setting.clip = some (key, info))
    (hState : booth.player.state = .playing)
    (hSpares : demand.Spares (booth.report library demand)) :
    booth.player.PlaysOn (booth.answer library demand) ∨
      booth.player.Finishes key (booth.answer library demand) := by
  by_cases hUpdate : ∃ now, demand = .request (.update now)
  · obtain ⟨now, rfl⟩ := hUpdate
    rw [answer_update]
    cases hUpdate : booth.player.updateFrame now with
    | mk outcome after =>
      cases outcome with
      | error fault =>
        exact .inl ⟨Player.setting_of_error hUpdate, fun _ => nofun, nofun⟩
      | ok ended =>
        obtain ⟨hShown, ⟨hBefore, rfl, hSetting⟩ | ⟨hLast, rfl, hStopped⟩⟩ :=
          Player.updateFrame_playing hClip hState hUpdate
        · exact .inl ⟨hSetting, fun _ => nofun, fun _ => ⟨_, hShown, Int32.not_le.1 hBefore⟩⟩
        · exact .inr ⟨rfl, ⟨_, hShown, hLast⟩, hStopped⟩
  · obtain ⟨hSetting, -, hReport⟩ :=
      answer_of_spares hSpares fun now hIs => hUpdate ⟨now, hIs⟩
    exact .inl ⟨hSetting, fun ended => hReport (some ended), fun h => absurd h (hReport none)⟩

/-- A player that has stopped stands still as long as it is left alone. -/
theorem rests_of_stopped (hState : booth.player.state = .stopped)
    (hSpares : demand.Spares (booth.report library demand)) :
    booth.player.Rests (booth.answer library demand) := by
  by_cases hUpdate : ∃ now, demand = .request (.update now)
  · obtain ⟨now, rfl⟩ := hUpdate
    rw [answer_update, Player.updateFrame_of_stopped hState]
    exact ⟨rfl, rfl, fun _ => nofun⟩
  · obtain ⟨hSetting, hFrame, hReport⟩ :=
      answer_of_spares hSpares fun now hIs => hUpdate ⟨now, hIs⟩
    exact ⟨hSetting, hFrame, fun ended => hReport (some ended)⟩

/-- All demands leave the play alone, each when its turn has come. -/
def AllSpare (library : ClipLibrary δ) (booth : Booth δ) (demands : List Demand) : Prop :=
  ∀ entry ∈ demands.zip (booth.history library demands), entry.1.Spares entry.2.1

theorem allSpare_cons {demands : List Demand} :
    booth.AllSpare library (demand :: demands) ↔
      demand.Spares (booth.report library demand) ∧
        (booth.step library demand).AllSpare library demands := by
  rw [AllSpare, history, List.zip_cons_cons, List.forall_mem_cons]
  rfl

theorem history_cons (library : ClipLibrary δ) (booth : Booth δ) (demand : Demand)
    (demands : List Demand) :
    booth.history library (demand :: demands) =
      booth.answer library demand :: (booth.step library demand).history library demands := rfl

/-- A stopped player stands still to the end of all demands that leave it alone. -/
theorem rests_history {demands : List Demand} (hState : booth.player.state = .stopped)
    (hSpare : booth.AllSpare library demands) :
    ∀ step ∈ booth.history library demands, booth.player.Rests step := by
  induction demands generalizing booth with
  | nil =>
    intro step hStep
    cases hStep
  | cons demand demands ih =>
    obtain ⟨hFirst, hRest⟩ := allSpare_cons.1 hSpare
    have hAnswer := rests_of_stopped hState hFirst
    have hStopped : (booth.step library demand).player.state = .stopped := by
      rw [← hState]
      exact congrArg Setting.state hAnswer.setting
    rw [history_cons, List.forall_mem_cons]
    refine ⟨hAnswer, fun step hStep => ?_⟩
    have hLater := ih hStopped hRest step hStep
    exact ⟨hLater.setting.trans hAnswer.setting, hLater.currentFrame.trans hAnswer.currentFrame,
      hLater.silent⟩

/-- A play that is left alone goes on up to one answer that tells its end, and stands still from
there on. -/
theorem exists_early_late {demands : List Demand}
    (hClip : booth.player.setting.clip = some (key, info))
    (hState : booth.player.state = .playing) (hSpare : booth.AllSpare library demands) :
    ∃ early late, booth.history library demands = early ++ late ∧
      (∀ step ∈ early, booth.player.PlaysOn step) ∧
      (late = [] ∨ ∃ final rest, late = final :: rest ∧ booth.player.Finishes key final ∧
        ∀ step ∈ rest, final.2.Rests step) := by
  induction demands generalizing booth with
  | nil => exact ⟨[], [], rfl, by simp, .inl rfl⟩
  | cons demand demands ih =>
    obtain ⟨hFirst, hRest⟩ := allSpare_cons.1 hSpare
    rw [history_cons]
    rcases playsOn_or_finishes hClip hState hFirst with hOn | hEnd
    · have hSetting : (booth.step library demand).player.setting = booth.player.setting :=
        hOn.setting
      have hLast : (booth.step library demand).player.endFrame = booth.player.endFrame :=
        congrArg Setting.endFrame hSetting
      obtain ⟨early, late, hSplit, hEarly, hLate⟩ :=
        ih (by rw [hSetting, hClip]) ((congrArg Setting.state hSetting).trans hState) hRest
      refine ⟨booth.answer library demand :: early, late, by rw [hSplit, List.cons_append], ?_, ?_⟩
      · rw [List.forall_mem_cons]
        refine ⟨hOn, fun step hStep => ?_⟩
        obtain ⟨hSame, hSilent, hBefore⟩ := hEarly step hStep
        rw [hLast] at hBefore
        exact ⟨hSame.trans hSetting, hSilent, hBefore⟩
      · obtain hNone | ⟨final, rest, hFinal, ⟨hTold, hShown, hStopped⟩, hStill⟩ := hLate
        · exact .inl hNone
        · rw [hLast] at hTold hShown
          exact .inr ⟨final, rest, hFinal, ⟨hTold, hShown, hStopped⟩, hStill⟩
    · refine ⟨[], _, rfl, by simp, .inr ⟨_, _, rfl, hEnd, ?_⟩⟩
      exact rests_history hEnd.stopped hRest

/-- **Failures cost nothing.**  A command that is refused, for whatever reason, changes nothing in
the player but its list of calls.  An update that fails leaves the clip in its deck, what was asked
for, the frame on display and the frame of the decoder as they were; only the decoder, the picture
and the list of calls may be others.

So commands that are refused can be left out of any list of demands, and the player says and shows
the same to all others.  And the end of a play is not lost: among demands that do not stop it and
whose commands are all refused, it goes on, over all updates that fail, in front of its last frame;
the first update that shows a frame which is not in front of it tells the end, and it is told
once. -/
theorem failures_change_nothing (library : ClipLibrary δ) (booth : Booth δ)
    (demands : List Demand) :
    (∀ name first last now fault after,
      booth.player.play library name first last now = (.error fault, after) →
        ∃ calls, after = { booth.player with calls }) ∧
    (∀ name frame fault after,
      booth.player.playSingleFrame library name frame = (.error fault, after) →
        ∃ calls, after = { booth.player with calls }) ∧
    (∀ now fault after, booth.player.updateFrame now = (.error fault, after) →
      ∃ clip decoder picture calls, booth.player.clip = some clip ∧
        after = { booth.player.withDecoder clip decoder with picture, calls }) ∧
    ((booth.history library ((booth.heeded library demands).map (·.1))).map
          (Prod.map id Player.unlogged) =
        (booth.heeded library demands).map (fun entry => (entry.2.1, entry.2.2.unlogged)) ∧
      (booth.run library ((booth.heeded library demands).map (·.1))).unlogged =
        (booth.run library demands).unlogged) ∧
    ∀ key info, booth.player.setting.clip = some (key, info) → booth.player.state = .playing →
      booth.AllSpare library demands →
      ∃ early late, booth.history library demands = early ++ late ∧
        (∀ step ∈ early, booth.player.PlaysOn step) ∧
        (late = [] ∨ ∃ final rest, late = final :: rest ∧ booth.player.Finishes key final ∧
          ∀ step ∈ rest, final.2.Rests step) := by
  refine ⟨?_, ?_, ?_, history_heeded rfl demands, ?_⟩
  · intro name first last now fault after hPlay
    exact Player.play_error hPlay
  · intro name frame fault after hSingle
    exact Player.playSingleFrame_error hSingle
  · intro now fault after hUpdate
    exact Player.updateFrame_error hUpdate
  · intro key info hClip hState hSpare
    exact exists_early_late hClip hState hSpare

section Example

/-- A clip of ten frames per second whose frame 5 cannot be sought, and one that cannot be
opened. -/
def unseekableLibrary : ClipLibrary RehearsalDecoder :=
  rehearsalLibrary
    [("clip.mov", { info := tenPerSecondInfo, badSeek := [5] }),
      ("bad.mov", { info := tenPerSecondInfo, refusesToOpen := true })]
where
  tenPerSecondInfo : ClipInfo := { width := 2, height := 1, timeScale := 600, frameDuration := 60 }

/-- The clip plays up to frame 5 and shows its first frame. -/
def unseekableBooth : Booth RehearsalDecoder :=
  ({} : Booth RehearsalDecoder).run unseekableLibrary
    [.request (.play "clip.mov" 0 5 0), .request (.update 0)]

/-- Two commands are refused, frame 5 cannot be sought, and then it is reached from frame 4. -/
def unseekableDemands : List Demand :=
  [.request (.play "none.mov" 0 1 0), .request (.playSingleFrame "bad.mov" 3),
    .request (.update 500), .request (.update 400), .request (.update 500)]

/-- The last answer tells the end of the clip, and no earlier one does; and the answers to the
updates are the same without the commands. -/
theorem failures_change_nothing_of_unseekable :
    (∃ early final, unseekableBooth.history unseekableLibrary unseekableDemands =
        early ++ [final] ∧
      (∀ step ∈ early, unseekableBooth.player.PlaysOn step) ∧
      unseekableBooth.player.Finishes "clip.mov" final) ∧
    (unseekableBooth.history unseekableLibrary (unseekableDemands.drop 2)).map
        (Prod.map id Player.unlogged) =
      (unseekableBooth.heeded unseekableLibrary unseekableDemands).map
        (fun entry => (entry.2.1, entry.2.2.unlogged)) := by
  obtain ⟨-, -, -, ⟨hHeeded, -⟩, hPlays⟩ :=
    failures_change_nothing unseekableLibrary unseekableBooth unseekableDemands
  have hSpare : unseekableBooth.AllSpare unseekableLibrary unseekableDemands := by
    refine allSpare_cons.2 ⟨rfl, allSpare_cons.2 ⟨rfl, ?_⟩⟩
    refine allSpare_cons.2 ⟨trivial, allSpare_cons.2 ⟨trivial, allSpare_cons.2 ⟨trivial, ?_⟩⟩⟩
    intro entry hEntry
    cases hEntry
  have hUpdates : (unseekableBooth.heeded unseekableLibrary unseekableDemands).map (·.1) =
      unseekableDemands.drop 2 := by decide +kernel
  rw [hUpdates] at hHeeded
  refine ⟨?_, hHeeded⟩
  have hLast : ((unseekableBooth.history unseekableLibrary unseekableDemands).map
      (·.1)).getLast? = some (some (.served (.ok (some ⟨"clip.mov", 5⟩)))) := rfl
  rw [List.getLast?_map, Option.map_eq_some_iff] at hLast
  obtain ⟨last, hLast, hTold⟩ := hLast
  obtain ⟨early, late, hSplit, hEarly, hLate⟩ :=
    hPlays "clip.mov" unseekableLibrary.tenPerSecondInfo rfl rfl hSpare
  rw [hSplit] at hLast
  obtain rfl | ⟨final, rest, rfl, hFinal, hStill⟩ := hLate
  · rw [List.append_nil] at hLast
    exact absurd hTold ((hEarly last (List.mem_of_getLast? hLast)).silent _)
  · refine ⟨early, final, ?_, hEarly, hFinal⟩
    obtain rfl | ⟨front, back, rfl⟩ := List.eq_nil_or_concat rest
    · exact hSplit
    · rw [List.concat_eq_append, ← List.cons_append, ← List.append_assoc,
        List.getLast?_concat] at hLast
      have hBack : last ∈ front.concat back := by simp [Option.some.inj hLast]
      exact absurd hTold ((hStill last hBack).silent _)

end Example

end Booth
end BranchingMovie
