import Mathlib.Data.List.Chain
import BranchingMovie.Proofs.Engine.Endings

/-!
# What an entry installs

While a run waits at an entry, what the entry has installed is there and nothing else: a handler for
each slot that listens to a button, in slot order, the handler for the end of a clip, or the handler
for the zones of a still frame.  When the run is over nobody listens.  The pointer for zones is
shown as long as there is a handler for zones.

The panel hears of the pointer only when it changes, so what it is told alternates
(`Scene.LaserTold`), through visits, walks and ticks that fail as well.  `installed_run` puts both
together.
-/

namespace BranchingMovie

variable {δ : Type}

/-! ## Buttons -/

/-- The button that a condition listens to, with the jump that it asks for. -/
def Condition.button? (condition : Condition) : Option (Control × Int32) :=
  match Trigger.ofCode? condition.code with
  | some (.control control) => some (control, condition.offset)
  | _ => none

namespace Entry

/-- The button of a slot, when the slot is used and listens to one. -/
def buttonIn? (entry : Entry) (slot : Fin conditionSlots) : Option (Control × Int32) :=
  if (entry.condition slot).isEmpty then none else (entry.condition slot).button?

/-- The buttons of an entry in slot order. -/
def buttons (entry : Entry) : List (Control × Int32) :=
  (List.finRange conditionSlots).filterMap entry.buttonIn?

theorem controlsOf_eq {script : String} {index : Nat} {conditions : List Condition}
    {controls : List (Control × Int32)} (h : controlsOf script index conditions = .ok controls) :
    controls = conditions.filterMap Condition.button? := by
  induction conditions generalizing controls with
  | nil =>
    cases h
    rfl
  | cons condition conditions ih =>
    unfold controlsOf at h
    split at h
    · cases h
    · rename_i hCode
      have hNone : condition.button? = none := by rw [Condition.button?, hCode]
      rw [List.filterMap_cons_none hNone, ← ih h]
    · rename_i control hCode
      have hSome : condition.button? = some (control, condition.offset) := by
        rw [Condition.button?, hCode]
      obtain ⟨rest, hRest, rfl⟩ := Outcome.map_ok.1 h
      rw [List.filterMap_cons_some hSome, ← ih hRest]

/-- What an entry listens to are the buttons of its slots. -/
theorem controls_eq {entry : Entry} {script : String} {controls : List (Control × Int32)}
    (h : entry.controls script = .ok controls) : controls = entry.buttons := by
  rw [controlsOf_eq h, conditions, buttons, List.filterMap_map, List.filterMap_filter,
    List.filterMap_map]
  refine List.filterMap_congr fun slot _ => ?_
  cases hEmpty : (entry.condition slot).isEmpty <;> simp [buttonIn?, hEmpty]

end Entry

/-- A run that waits has what its entry installs. -/
theorem Session.WaitsAt.installed {film : Film δ} {session : Session δ} {entry : Entry}
    {kind : Opcode} (h : session.WaitsAt film entry kind) :
    (kind = .playClip ∨ kind = .stillFrame) ∧
      session.handlers.listeners = film.listeners entry entry.buttons kind := by
  obtain ⟨controls, hControls, hListens⟩ := h.listens
  obtain rfl := Entry.controls_eq hControls
  refine ⟨?_, hListens⟩
  have hServes := h.serves
  cases kind with
  | playClip => exact .inl rfl
  | stillFrame => exact .inr rfl
  | _ => exact hServes.elim

/-! ## The pointer for zones -/

/-- What the panel is told about the pointer for zones. -/
def SurfaceEvent.laser? : SurfaceEvent → Option Bool
  | laserMode enabled => some enabled
  | _ => none

namespace Scene

/-- All that the panel was told about the pointer for zones. -/
def lasers (scene : Scene δ) : List Bool :=
  scene.surface.toList.filterMap SurfaceEvent.laser?

/-- The panel was told of every change of the pointer for zones, which is hidden at first, and of
nothing that is no change. -/
structure LaserTold (scene : Scene δ) : Prop where
  changes : (false :: scene.lasers).IsChain (· ≠ ·)
  last : (false :: scene.lasers).getLast? = some scene.laserMode

variable {film : Film δ} {scene later : Scene δ}

theorem LaserTold.congr (h : scene.LaserTold) (hSurface : later.surface = scene.surface)
    (hLaser : later.laserMode = scene.laserMode) : later.LaserTold where
  changes := by
    rw [lasers, hSurface]
    exact h.changes
  last := by
    rw [lasers, hSurface, hLaser]
    exact h.last

theorem lasers_notify (scene : Scene δ) (event : SurfaceEvent) :
    (scene.notify event).lasers = scene.lasers ++ event.laser?.toList := by
  rw [lasers, lasers, notify, Array.toList_push, List.filterMap_append]
  cases event <;> rfl

theorem LaserTold.notify (h : scene.LaserTold) (event : SurfaceEvent)
    (hOther : event.laser? = none) : (scene.notify event).LaserTold where
  changes := by
    rw [lasers_notify, hOther, Option.toList_none, List.append_nil]
    exact h.changes
  last := by
    rw [lasers_notify, hOther, Option.toList_none, List.append_nil]
    exact h.last

/-- The panel is told when the pointer is not as it was. -/
theorem LaserTold.setLaserMode (h : scene.LaserTold) (enabled : Bool) :
    (scene.setLaserMode enabled).LaserTold := by
  unfold Scene.setLaserMode
  split
  · exact h
  · rename_i hChanges
    have hLasers := scene.lasers_notify (.laserMode enabled)
    refine ⟨?_, ?_⟩
    · show (false :: (scene.notify (.laserMode enabled)).lasers).IsChain (· ≠ ·)
      rw [hLasers, ← List.cons_append]
      refine h.changes.append (List.isChain_singleton _) fun last hLast first hFirst => ?_
      rw [h.last] at hLast
      cases hLast
      cases hFirst
      exact hChanges
    · show (false :: (scene.notify (.laserMode enabled)).lasers).getLast? = some enabled
      rw [hLasers, ← List.cons_append]
      exact List.getLast?_concat

theorem LaserTold.openZones (h : scene.LaserTold) (entry : Entry) :
    (scene.openZones film entry).LaserTold := by
  unfold Scene.openZones
  split
  · exact h.setLaserMode true
  · exact h

theorem LaserTold.await (h : scene.LaserTold) (outcome : Except PlaybackError Unit × Player δ) :
    (scene.await outcome).2.LaserTold := by
  unfold Scene.await
  split
  · exact h.congr rfl rfl
  · exact h.congr rfl rfl

theorem LaserTold.finish (h : scene.LaserTold) (ending : Ending) :
    (scene.finish ending).LaserTold :=
  (h.notify .exitToMenu rfl).congr rfl rfl

section Clock

variable [Decoder δ]

theorem LaserTold.perform (h : scene.LaserTold) (now : UInt64) (entry : Entry) (kind : Opcode) :
    (scene.perform film now entry kind).2.LaserTold := by
  cases kind with
  | playClip =>
    simp only [Scene.perform]
    split
    · exact h
    · exact h.await _
  | stillFrame =>
    simp only [Scene.perform]
    split
    · exact h
    · exact (h.openZones entry).await _
  | switchScript =>
    simp only [Scene.perform, Scene.switchScript]
    split
    · exact h.finish .exitToMenu
    · exact h.congr rfl rfl
  | death => exact h.finish .death
  | enableInterface => exact (h.notify (.navigation true) rfl).congr rfl rfl
  | _ => exact h.congr rfl rfl

theorem LaserTold.visit (h : scene.LaserTold) (now : UInt64) :
    (scene.visit film now).2.LaserTold := by
  have hDark := h.setLaserMode false
  simp only [Scene.visit]
  split
  · exact hDark
  · split
    · exact hDark
    · exact hDark.perform now _ _

/-- Nothing that happens in a run changes the pointer for zones without a word to the panel. -/
theorem isInvariant_laserTold : IsInvariant (LaserTold (δ := δ)) where
  player _ h := h.congr rfl rfl
  leave _ _ h := h.congr rfl rfl
  visit now _ h := h.visit now

end Clock
end Scene

namespace Engine

variable [Decoder δ]

/-- **Between any two things that happen to an engine, what an entry has installed is there and
nothing else.**
* A run that waits at a clip has a handler for each slot that listens to a button, in slot order,
  and one for the end of the clip; a run that waits at a still frame has those for the buttons, and
  one for the zones of its clip if there are any.  There is no open scope, and the pointer for zones
  is shown exactly when there is a handler for zones.
* In a run that is over there is no handler, and the pointer is hidden.
* What the panel was told about the pointer alternates and begins with showing it, and the last that
  it was told is what the pointer is now; without a word about it the pointer is hidden. -/
theorem installed_run (film : Film δ) (acts : List (Act δ)) :
    let session := ((ofFilm film).run acts).session
    let lasers := session.surface.toList.filterMap SurfaceEvent.laser?
    (session.state = .awaitingEvent → ∃ entry, film.graph.lookup session.pointer = .ok entry ∧
      (Opcode.ofCode? entry.opcode = some .playClip ∧
          session.handlers.listeners =
            { control := entry.buttons.map fun button =>
                .onControlWithin entry.window button.1 button.2
              point := []
              endOfClip := [.always entry.defaultOffset]
              checkpoints := [] } ∨
        Opcode.ofCode? entry.opcode = some .stillFrame ∧
          session.handlers.listeners =
            { control := entry.buttons.map fun button => .onControl button.1 button.2
              point := (film.catalog.get? entry.name).toList.map (Handler.onZone entry)
              endOfClip := []
              checkpoints := [] }) ∧
      (session.laserMode = true ↔ session.handlers.listeners.point ≠ [])) ∧
    (∀ ending, session.state = .finished ending →
      session.handlers.size = 0 ∧ session.handlers.depth = 0 ∧ session.laserMode = false) ∧
    lasers.IsChain (· ≠ ·) ∧ (∀ first ∈ lasers.head?, first = true) ∧
    session.laserMode = lasers.getLastD false := by
  intro session lasers
  have hCoherent : session.Coherent ((ofFilm film).run acts).film := coherent_run_ofFilm film acts
  obtain ⟨clips, hFilm⟩ := (ofFilm film).film_run acts
  rw [hFilm] at hCoherent
  have hStart : (ofFilm film).session.scene.LaserTold := ⟨List.isChain_singleton _, rfl⟩
  have hTold : session.scene.LaserTold := Scene.isInvariant_laserTold.run hStart acts
  obtain ⟨hFirst, hChain⟩ := List.isChain_cons.1 hTold.changes
  refine ⟨fun hWaits => ?_, fun ending hOver => ?_, hChain, fun first hHead => ?_, ?_⟩
  · obtain ⟨entry, kind, hAt⟩ := hCoherent.waiting hWaits
    obtain ⟨hKind, hListeners⟩ := hAt.installed
    refine ⟨entry, hAt.lookup, ?_, ?_⟩
    · obtain rfl | rfl := hKind
      · exact .inl ⟨hAt.decodes, hListeners⟩
      · exact .inr ⟨hAt.decodes, hListeners⟩
    · rw [hAt.laser, Bool.not_eq_true', List.isEmpty_eq_false_iff]
  · obtain ⟨hSilent, hDark⟩ := hCoherent.ended ending hOver
    have hReset := HandlerStack.reset_of_silent hSilent
    rw [← hReset]
    exact ⟨rfl, rfl, hDark⟩
  · exact eq_true_of_ne_false (hFirst first hHead).symm
  · have hLast := hTold.last
    rw [List.getLast?_cons, ← List.getLastD_eq_getLast?] at hLast
    exact (Option.some.inj hLast).symm

/-- A still frame with one zone, whose slot leads to a death. -/
theorem installed_run_at_zone :
    let zone : HotZone := ⟨0, ⟨0, 0, 320, 240⟩⟩
    let frame : Entry := ⟨0, "map.mov", #v[2, 42, 0, 0, 0, 0, 100, 1, 3, 1, 0, 0, 0, 0, 0, 0, 0, 0,
      0, 0, 0, 0, 0, 0]⟩
    let film := { Film.ofEntries [frame, .plain 5 "" 0 0] with
      catalog := HotZoneCatalog.empty.insert "MAP.mov" ⟨Table.empty.insert 42 [zone]⟩ }
    let waits := ((ofFilm film).run [.tick 0]).session
    let ended := ((ofFilm film).run [.tick 0, .tick 1, .push (.point ⟨1, 1⟩), .tick 2]).session
    (waits.state = .awaitingEvent ∧ waits.surface = #[.laserMode true] ∧
      ∃ entry, film.graph.lookup waits.pointer = .ok entry ∧
        (waits.laserMode = true ↔ waits.handlers.listeners.point ≠ [])) ∧
    ended.state = .finished .death ∧ ended.handlers.size = 0 ∧
      ended.surface = #[.laserMode true, .laserMode false, .exitToMenu] := by
  intro zone frame film waits ended
  have hWaits : waits.state = .awaitingEvent := by decide +kernel
  have hOver : ended.state = .finished .death := by decide +kernel
  obtain ⟨entry, hLookup, -, hLaser⟩ := (installed_run film [.tick 0]).1 hWaits
  obtain ⟨hSize, -, -⟩ :=
    (installed_run film [.tick 0, .tick 1, .push (.point ⟨1, 1⟩), .tick 2]).2.1 .death hOver
  exact ⟨⟨hWaits, by decide +kernel, entry, hLookup, hLaser⟩, hOver, hSize, by decide +kernel⟩

end Engine
end BranchingMovie
