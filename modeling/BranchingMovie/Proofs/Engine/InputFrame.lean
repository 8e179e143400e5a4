import BranchingMovie.Proofs.Engine.DisplayOrigin

/-!
# The frame that input is judged on

A tick delivers the input before the clock brings the picture up to the time.  So a click is looked
up in the zones of a frame, and a button is held against the window of a clip on a frame, that may
have been left behind.  `Engine.frame_of_jump` says so for every event that moves a run.
-/

namespace BranchingMovie

variable {δ : Type}

/-! ## Jumps -/

/-- An event moves a run that waits, and by what the entry answers. -/
theorem Session.answer_of_moved {film : Film δ} {session : Session δ} (h : session.Coherent film)
    {event : InputEvent} (hMoved : (session.handle event).1 = true) :
    session.state = .awaitingEvent ∧ ∃ entry kind offset, session.WaitsAt film entry kind ∧
      film.answer? entry session.player.currentFrame event = some offset ∧
      (session.handle event).2.pointer = session.pointer.advance offset := by
  obtain ⟨handlers, -, hHandle⟩ := session.handle_eq event
  by_cases hWaits : session.state = .awaitingEvent
  · obtain ⟨entry, kind, hAt⟩ := h.waiting hWaits
    cases hAnswer : film.answer? entry session.player.currentFrame event with
    | none =>
      rw [← head?_replies hAt, Option.map_eq_none_iff, List.head?_eq_none_iff] at hAnswer
      rw [hHandle, hAnswer] at hMoved
      cases hMoved
    | some offset =>
      have hLeave := scene_handle_of_answer hAt hWaits hAnswer
      exact ⟨hWaits, entry, kind, offset, hAt, hAnswer, congrArg Scene.pointer hLeave⟩
  · have hIdle : ({ session with handlers }).state ≠ .awaitingEvent := hWaits
    rw [hHandle, follow_of_idle hIdle] at hMoved
    cases hMoved

/-- A play of the entry shows the frame, when the sound shifts it by so many frames. -/
def Entry.PlayShows (entry : Entry) (shift frame : Int32) : Prop :=
  let first := (saturatingAdd entry.startFrame shift).toInt
  let last := (saturatingAdd entry.endFrame shift).toInt
  max 0 (min first last) ≤ frame.toInt ∧ frame.toInt ≤ max 0 last

theorem Entry.isActiveOn_eq_true_iff {entry : Entry} {frame? : Option Int32} :
    entry.isActiveOn frame? = true ↔
      ∃ frame, frame? = some frame ∧ entry.actionStart ≤ frame ∧ frame ≤ entry.actionEnd := by
  cases frame? <;> simp [isActiveOn]

/-- A click with an answer lies in a zone of the frame on display, and the slot of the zone
answers. -/
theorem Film.zoneOffset?_eq_some_iff {film : Film δ} {entry : Entry} {frame? : Option Int32}
    {point : Point} {offset : Int32} :
    film.zoneOffset? entry frame? point = some offset ↔
      ∃ index frame zone, film.catalog.get? entry.name = some index ∧ frame? = some frame ∧
        index.zoneAt frame point = .ok (some zone) ∧ entry.slotOffset? zone.slot = some offset := by
  have hZone : ∀ (index : HotZoneIndex) frame zone,
      index.zoneAt frame point = .ok (some zone) ↔ ∃ zones, index.frames.get? frame = some zones ∧
        (zones.find? fun zone => zone.rect.contains point.x point.y) = some zone := by
    intro index frame zone
    rw [HotZoneIndex.zoneAt, HotZoneIndex.zonesOn]
    cases index.frames.get? frame <;> simp [Except.map]
  simp only [zoneOffset?, Option.bind_eq_bind, Option.bind_eq_some_iff, hZone]
  constructor
  · rintro ⟨index, hIndex, frame, hFrame, zones, hZones, zone, hFound, hOffset⟩
    exact ⟨index, frame, zone, hIndex, hFrame, ⟨zones, hZones, hFound⟩, hOffset⟩
  · rintro ⟨index, frame, zone, hIndex, hFrame, ⟨zones, hZones, hFound⟩, hOffset⟩
    exact ⟨index, hIndex, frame, hFrame, zones, hZones, zone, hFound, hOffset⟩

/-! ## The frame of a jump -/

namespace Engine

variable [Decoder δ]

/-- Events that leave a run waiting leave it with a frame on display that its entry asked for, or
with one that was left behind. -/
theorem own_or_left_of_deliver {film : Film δ} {clips : ClipLibrary δ} {acts : List (Act δ)}
    {earlier : List InputEvent} {entry : Entry} {kind : Opcode} {frame : Int32}
    (h : ((ofFilm film).run acts).session.Coherent (film.restock clips))
    (hWaits : (((ofFilm film).run acts).session.deliver earlier).state = .awaitingEvent)
    (hAt : (((ofFilm film).run acts).session.deliver earlier).WaitsAt (film.restock clips) entry
      kind)
    (hFrame : (((ofFilm film).run acts).session.deliver earlier).player.currentFrame =
      some frame) :
    (((ofFilm film).run acts).session.deliver earlier).player.setting.CanShow frame ∨
      LeftBehind film acts (Asset.key entry.name) frame := by
  obtain ⟨hState, handlers, hKept⟩ := Session.deliver_of_waiting h hWaits
  have hClip := hAt.clip
  rw [hKept] at hFrame hClip ⊢
  rcases own_or_left film acts hState frame hFrame with hOwn | ⟨key, hKey, hLeft⟩
  · exact .inl hOwn
  · obtain rfl := Option.some.inj (hKey.symm.trans hClip)
    exact .inr hLeft

/-- **The frame of a jump is one that the entry asked for, or one that was left behind.**  Take an
engine to which anything has happened, and an event that moves its run, with any events delivered
before it.

* A click moves the run off a still frame only.  The zones are those of the frame on display: that
  of the entry, or one left behind.
* A button that moves the run off a clip does so inside the window, on a frame that the play can
  show, or on one left behind.

A frame that was left behind was on display, of the same clip, before the run came to the entry, and
no update has succeeded since. -/
theorem frame_of_jump (film : Film δ) (acts : List (Act δ)) (earlier : List InputEvent)
    (event : InputEvent) :
    let session := ((ofFilm film).run acts).session.deliver earlier
    (session.handle event).1 = true →
    ∃ entry offset, film.graph.lookup session.pointer = .ok entry ∧
      (session.handle event).2.pointer = session.pointer.advance offset ∧
      (∀ point, event = .point point → Opcode.ofCode? entry.opcode = some .stillFrame ∧
        ∃ index frame zone, film.catalog.get? entry.name = some index ∧
          session.player.currentFrame = some frame ∧
          index.zoneAt frame point = .ok (some zone) ∧
          entry.slotOffset? zone.slot = some offset ∧
          (frame = entry.startFrame ∨ LeftBehind film acts (Asset.key entry.name) frame)) ∧
      (∀ control, event = .control control → Opcode.ofCode? entry.opcode = some .playClip →
        ∃ frame, session.player.currentFrame = some frame ∧
          entry.actionStart ≤ frame ∧ frame ≤ entry.actionEnd ∧
          (entry.PlayShows session.player.shift frame ∨
            LeftBehind film acts (Asset.key entry.name) frame)) := by
  intro session hMoved
  obtain ⟨clips, hFilm⟩ := (ofFilm film).film_run acts
  have hBefore : ((ofFilm film).run acts).session.Coherent (film.restock clips) := by
    have hCoherent := coherent_run_ofFilm film acts
    rwa [hFilm] at hCoherent
  obtain ⟨hWaits, entry, kind, offset, hAt, hAnswer, hPointer⟩ :=
    Session.answer_of_moved (hBefore.deliver earlier) hMoved
  have hDecodes := hAt.decodes
  have hServes := hAt.serves
  refine ⟨entry, offset, hAt.lookup, hPointer, ?_, ?_⟩
  · rintro point rfl
    cases kind with
    | stillFrame =>
      simp only [Film.answer?, hDecodes] at hAnswer
      obtain ⟨index, frame, zone, hIndex, hFrame, hZone, hOffset⟩ :=
        Film.zoneOffset?_eq_some_iff.1 hAnswer
      refine ⟨hDecodes, index, frame, zone, hIndex, hFrame, hZone, hOffset, ?_⟩
      rcases own_or_left_of_deliver hBefore hWaits hAt hFrame with hOwn | hLeft
      · have hSetting : session.player.setting.state = .singleFrame entry.startFrame := hServes
        rw [Setting.CanShow, hSetting] at hOwn
        exact .inl hOwn
      · exact .inr hLeft
    | playClip =>
      simp only [Film.answer?, hDecodes] at hAnswer
      cases hAnswer
    | _ => exact hServes.elim
  · rintro control rfl hKind
    obtain rfl : kind = .playClip := Option.some.inj (hDecodes.symm.trans hKind)
    simp only [Film.answer?, hDecodes] at hAnswer
    split at hAnswer
    · rename_i hActive
      obtain ⟨frame, hFrame, hFirst, hLast⟩ := Entry.isActiveOn_eq_true_iff.1 hActive
      refine ⟨frame, hFrame, hFirst, hLast, ?_⟩
      rcases own_or_left_of_deliver hBefore hWaits hAt hFrame with hOwn | hLeft
      · obtain ⟨hPlaying, hStart, hEnd⟩ := hServes
        rw [Setting.CanShow, hPlaying, hStart, hEnd, Player.shift_setting] at hOwn
        exact .inl hOwn
      · exact .inr hLeft
    · cases hAnswer

/-- The first two frames of a map as a clip, and then another entry.  The map has a zone on frame 1
and on no other. -/
def filmOfMap (second : Entry) : Film SyntheticDecoder :=
  { Film.ofEntries
      [⟨0, "map.mov", #v[1, 0, 1, 0, 0, 1, 0, 0, 0, 0, 0, 0, 0, 0, 0, 0, 0, 0, 0, 0, 0, 0, 0, 0]⟩,
        second] with
    catalog := HotZoneCatalog.empty.insert "map.mov"
      (HotZoneIndex.ofRecords "map.hot" [⟨1, [⟨0, ⟨0, 0, 320, 240⟩⟩]⟩]).1 }

/-- Frame 42 of the map, where zones lead on. -/
def mapAtFrame42 : Entry :=
  ⟨1, "map.mov", #v[2, 42, 0, 0, 0, 0, 100, 1, 0, 0, 0, 0, 0, 0, 0, 0, 0, 0, 0, 0, 0, 0, 0, 0]⟩

/-- The frames 20 to 30 of the map, where a button leads on while one of the frames 0 to 5 is on
display. -/
def mapFromFrame20 : Entry :=
  ⟨1, "map.mov", #v[1, 20, 30, 0, 5, 1, 1, 1, 0, 0, 0, 0, 0, 0, 0, 0, 0, 0, 0, 0, 0, 0, 0, 0]⟩

/-- The clip has come to its end, the run has gone on, and an event has come in. -/
def upToSecondEntry (event : InputEvent) : List (Act SyntheticDecoder) :=
  [.tick 0, .tick 1000, .push event]

/-- A click right after the arrival at a still frame is judged on the frame that the clip before it
left behind. -/
theorem frame_of_jump_of_left_behind :
    let acts := upToSecondEntry (.point ⟨5, 5⟩)
    let session := ((ofFilm (filmOfMap mapAtFrame42)).run acts).session.deliver []
    (session.handle (.point ⟨5, 5⟩)).1 = true ∧
    ∃ entry, (filmOfMap mapAtFrame42).graph.lookup session.pointer = .ok entry ∧
      ∃ frame, session.player.currentFrame = some frame ∧ (frame = entry.startFrame ∨
        LeftBehind (filmOfMap mapAtFrame42) acts (Asset.key entry.name) frame) := by
  intro acts session
  have hMoved : (session.handle (.point ⟨5, 5⟩)).1 = true := by decide +kernel
  obtain ⟨entry, offset, hLookup, -, hClick, -⟩ :=
    frame_of_jump (filmOfMap mapAtFrame42) acts [] (.point ⟨5, 5⟩) hMoved
  obtain ⟨-, index, frame, zone, -, hFrame, -, -, hOrigin⟩ := hClick ⟨5, 5⟩ rfl
  exact ⟨hMoved, entry, hLookup, frame, hFrame, hOrigin⟩

/-- Not every click that moves a run lies in a zone of the frame of the entry, and not every button
that moves a run off a clip does so on a frame that the play can show. -/
theorem not_forall_jump_on_own_frame :
    (¬ ∀ (film : Film SyntheticDecoder) (acts : List (Act SyntheticDecoder))
        (earlier later : List InputEvent) (point : Point),
      let engine := (ofFilm film).run acts
      let session := engine.session.deliver earlier
      engine.input.pending = earlier ++ .point point :: later →
      (session.handle (.point point)).1 = true →
      ∃ entry index zone, film.graph.lookup session.pointer = .ok entry ∧
        film.catalog.get? entry.name = some index ∧
        index.zoneAt entry.startFrame point = .ok (some zone)) ∧
    ¬ ∀ (film : Film SyntheticDecoder) (acts : List (Act SyntheticDecoder))
        (earlier later : List InputEvent) (control : Control),
      let engine := (ofFilm film).run acts
      let session := engine.session.deliver earlier
      engine.input.pending = earlier ++ .control control :: later →
      (session.handle (.control control)).1 = true →
      ∀ entry, film.graph.lookup session.pointer = .ok entry →
        Opcode.ofCode? entry.opcode = some .playClip →
        ∃ frame, session.player.currentFrame = some frame ∧
          entry.PlayShows session.player.shift frame := by
  constructor
  · intro hAll
    obtain ⟨entry, index, zone, hLookup, hIndex, hZone⟩ := hAll (filmOfMap mapAtFrame42)
      (upToSecondEntry (.point ⟨5, 5⟩)) [] [] ⟨5, 5⟩ (by decide +kernel) (by decide +kernel)
    obtain rfl : mapAtFrame42 = entry := Except.ok.inj hLookup
    have hNone : (filmOfMap mapAtFrame42).catalog.get? mapAtFrame42.name |>.all
        (·.zoneAt mapAtFrame42.startFrame ⟨5, 5⟩ == .error ⟨42⟩) := by decide +kernel
    rw [hIndex, Option.all_some, hZone] at hNone
    cases hNone
  · intro hAll
    obtain ⟨frame, hFrame, hFirst, -⟩ := hAll (filmOfMap mapFromFrame20)
      (upToSecondEntry (.control .analysis)) [] [] .analysis (by decide +kernel)
      (by decide +kernel) mapFromFrame20 (by rfl) (by decide)
    obtain rfl : (1 : Int32) = frame := Option.some.inj hFrame
    exact absurd hFirst (by decide +kernel)

end Engine
end BranchingMovie
