import BranchingMovie.Proofs.Engine.Run
import BranchingMovie.Proofs.Outcome

/-!
# What a visit can do

Whether a walk goes on behind an entry is decided by the scripts and the settings alone.

* `Film.next?` is the pointer that an entry leads on to within the same walk; an entry that waits,
  ends the run or is refused leads nowhere.
* `Film.refusal?` is what is wrong with the place under a pointer: there is no entry, or one whose
  opcode or conditions mean nothing.
* `Session.visit_cases` says everything that a visit can do: it is refused, it leads on, it ends the
  run, or it asks the player for what the entry shows.
-/

namespace BranchingMovie

variable {δ : Type}

/-! ## The place under a pointer -/

/-- Runs wait at clips and at still frames. -/
theorem Opcode.isInteractive_iff {kind : Opcode} :
    kind.isInteractive = true ↔ kind = .playClip ∨ kind = .stillFrame := by
  cases kind <;> simp [isInteractive]

/-- Only a condition that stands for no trigger is wrong with the conditions of an entry. -/
theorem Entry.controls_error {entry : Entry} {script : String} {fault : EngineError}
    (h : entry.controls script = .error fault) :
    ∃ code, fault = .unknownCondition script entry.index code := by
  unfold controls at h
  generalize entry.conditions.map (·.2) = conditions at h
  induction conditions with
  | nil => cases h
  | cons condition conditions ih =>
    unfold controlsOf at h
    split at h
    · cases h
      exact ⟨condition.code, rfl⟩
    · exact ih h
    · exact ih (Outcome.map_error.1 h)

/-- The failure is one of the film, at the place where the run is; neither the clips nor the limit
of a walk have a part in it. -/
def EngineError.isLogical : EngineError → Bool
  | pointer _ | unknownOpcode .. | unknownCondition .. => true
  | runaway .. | playback _ => false

namespace Film

/-- The pointer that an entry of a kind, under a pointer, leads on to within the same walk. -/
def onward? (film : Film δ) (pointer : NodePointer) (entry : Entry) : Opcode → Option NodePointer
  | .nop | .gate | .hotZoneMarker | .reserved _ | .enableInterface =>
    some (pointer.advance entry.defaultOffset)
  | .switchScript =>
    if film.config.isGate entry.name then none
    else some (.ofName entry.name entry.startFrame.toInt64)
  | .playClip | .stillFrame | .death => none

/-- The pointer that the entry under a pointer leads on to within the same walk. -/
def next? (film : Film δ) (pointer : NodePointer) : Option NodePointer :=
  match film.graph.lookup pointer with
  | .error _ => none
  | .ok entry => (Opcode.ofCode? entry.opcode).bind (film.onward? pointer entry)

/-- The entry under the pointer is there, and a walk goes on behind it. -/
def LeadsOn (film : Film δ) (pointer : NodePointer) : Prop :=
  (film.next? pointer).isSome = true

instance (film : Film δ) (pointer : NodePointer) : Decidable (film.LeadsOn pointer) :=
  inferInstanceAs (Decidable (_ = true))

/-- What is wrong with the place under a pointer: there is no entry, its opcode stands for nothing,
or the run would wait at it and one of its conditions stands for nothing. -/
def refusal? (film : Film δ) (pointer : NodePointer) : Option EngineError :=
  match film.graph.lookup pointer with
  | .error fault => some (.pointer fault)
  | .ok entry =>
    match Opcode.ofCode? entry.opcode with
    | none => some (.unknownOpcode pointer.script entry.index entry.opcode)
    | some kind =>
      match kind.isInteractive, entry.controls pointer.script with
      | true, .error fault => some fault
      | _, _ => none

variable {film : Film δ} {pointer place : NodePointer} {entry : Entry} {kind : Opcode}

theorem leadsOn_iff : film.LeadsOn pointer ↔ ∃ place, film.next? pointer = some place :=
  Option.isSome_iff_exists

theorem not_leadsOn_iff : ¬ film.LeadsOn pointer ↔ film.next? pointer = none := by
  rw [LeadsOn, Bool.not_eq_true, Option.isSome_eq_false_iff, Option.isNone_iff_eq_none]

theorem next?_of_lookup (hLookup : film.graph.lookup pointer = .ok entry)
    (hKind : Opcode.ofCode? entry.opcode = some kind) :
    film.next? pointer = film.onward? pointer entry kind := by
  simp only [next?, hLookup, hKind, Option.bind_some]

theorem next?_eq_some_iff :
    film.next? pointer = some place ↔
      ∃ entry kind, film.graph.lookup pointer = .ok entry ∧
        Opcode.ofCode? entry.opcode = some kind ∧ film.onward? pointer entry kind = some place := by
  unfold next?
  cases film.graph.lookup pointer with
  | error fault => simp
  | ok entry => simp [Option.bind_eq_some_iff]

/-- An entry leads on to one of the same script, or it switches to another script and is no gate. -/
theorem onward?_eq_some_iff :
    film.onward? pointer entry kind = some place ↔
      kind.isInteractive = false ∧ kind ≠ .death ∧ kind ≠ .switchScript ∧
          place = pointer.advance entry.defaultOffset ∨
        kind = .switchScript ∧ film.config.isGate entry.name = false ∧
          place = .ofName entry.name entry.startFrame.toInt64 := by
  rw [eq_comm (a := place), eq_comm (a := place)]
  cases kind <;> simp [onward?, Opcode.isInteractive]

/-- Everything that can be wrong with a place. -/
theorem refusal?_eq_some_iff {fault : EngineError} :
    film.refusal? pointer = some fault ↔
      (∃ cause, film.graph.lookup pointer = .error cause ∧ .pointer cause = fault) ∨
      ∃ entry, film.graph.lookup pointer = .ok entry ∧
        (Opcode.ofCode? entry.opcode = none ∧
            .unknownOpcode pointer.script entry.index entry.opcode = fault ∨
          ∃ kind, Opcode.ofCode? entry.opcode = some kind ∧ kind.isInteractive = true ∧
            entry.controls pointer.script = .error fault) := by
  unfold refusal?
  cases film.graph.lookup pointer with
  | error cause => simp
  | ok entry =>
    cases hKind : Opcode.ofCode? entry.opcode with
    | none => simp [hKind]
    | some kind =>
      cases hInteractive : kind.isInteractive with
      | false => simp [hKind, hInteractive]
      | true =>
        cases hControls : entry.controls pointer.script with
        | error cause => simp [hKind, hInteractive, hControls]
        | ok controls => simp [hKind, hInteractive, hControls]

/-- What is wrong with a place is a failure of the film. -/
theorem isLogical_of_refusal? {fault : EngineError} (h : film.refusal? pointer = some fault) :
    fault.isLogical = true := by
  obtain ⟨cause, -, rfl⟩ | ⟨entry, -, ⟨-, rfl⟩ | ⟨kind, -, -, hControls⟩⟩ :=
    refusal?_eq_some_iff.1 h
  · rfl
  · rfl
  · obtain ⟨code, rfl⟩ := Entry.controls_error hControls
    rfl

end Film

-- an entry that switches to its own script leads on, and one that switches to the gate does not
example :
    (Film.ofEntries [.plain 4 "INTRO.NOD" 0 0]).next? ⟨"intro.nod", 0⟩ = some ⟨"intro.nod", 0⟩ ∧
      ¬ (Film.ofEntries [.plain 4 "GATE.NOD" 0 0]).LeadsOn ⟨"intro.nod", 0⟩ := by
  decide +kernel

/-! ## Visiting -/

/-- What the entry of a kind asks of the player. -/
def Player.enter [Decoder δ] (library : ClipLibrary δ) (now : UInt64) (player : Player δ)
    (entry : Entry) : Opcode → Except PlaybackError Unit × Player δ
  | .playClip => player.play library entry.name entry.startFrame entry.endFrame now
  | .stillFrame => player.playSingleFrame library entry.name entry.startFrame
  | _ => (.ok (), player)

namespace Session

variable {film : Film δ} {session : Session δ} {fault : EngineError}
  {place : NodePointer} {entry : Entry} {kind : Opcode}

theorem clear_eq (session : Session δ) :
    ∃ surface, session.clear = { session with
      handlers := session.handlers.reset, laserMode := false, surface } := by
  obtain ⟨surface, hLaser⟩ :=
    setLaserMode_eq { session with handlers := session.handlers.reset } false
  exact ⟨surface, hLaser⟩

@[simp] theorem pointer_clear (session : Session δ) : session.clear.pointer = session.pointer := by
  obtain ⟨_, hClear⟩ := session.clear_eq
  rw [hClear]

@[simp] theorem state_clear (session : Session δ) : session.clear.state = session.state := by
  obtain ⟨_, hClear⟩ := session.clear_eq
  rw [hClear]

@[simp] theorem player_clear (session : Session δ) : session.clear.player = session.player := by
  obtain ⟨_, hClear⟩ := session.clear_eq
  rw [hClear]

/-- A run waits when the player consents, and stays where it is when the player refuses. -/
theorem await_cases (session : Session δ) (outcome : Except PlaybackError Unit × Player δ) :
    (∃ cause, outcome.1 = .error cause ∧ session.await outcome =
      (.error (.playback cause), { session with player := outcome.2 })) ∨
    (outcome.1 = .ok () ∧ session.await outcome =
      (.ok (), { session with player := outcome.2, state := .awaitingEvent })) := by
  obtain ⟨result, player⟩ := outcome
  cases result with
  | error cause => exact .inl ⟨cause, rfl, rfl⟩
  | ok _ => exact .inr ⟨rfl, rfl⟩

variable [Decoder δ] {now : UInt64}

theorem visit_of_lookup (hLookup : film.graph.lookup session.pointer = .ok entry)
    (hKind : Opcode.ofCode? entry.opcode = some kind) (now : UInt64) :
    session.visit film now = session.clear.perform film now entry kind := by
  simp only [visit, pointer_clear, hLookup, hKind]

/-- A place with something wrong is refused, and nothing is done there. -/
theorem visit_of_refusal? (h : film.refusal? session.pointer = some fault) (now : UInt64) :
    session.visit film now = (.error fault, session.clear) := by
  obtain ⟨cause, hLookup, rfl⟩ |
    ⟨entry, hLookup, ⟨hKind, rfl⟩ | ⟨kind, hKind, hWaits, hControls⟩⟩ :=
    Film.refusal?_eq_some_iff.1 h
  · simp only [visit, pointer_clear, hLookup]
  · simp only [visit, pointer_clear, hLookup, hKind]
  · rw [visit_of_lookup hLookup hKind]
    obtain rfl | rfl := Opcode.isInteractive_iff.1 hWaits
    · simp only [perform, enterPlayClip, pointer_clear, hControls]
    · simp only [perform, enterStillFrame, pointer_clear, hControls]

/-- An entry that leads on moves the pointer, and leaves the run walking and the player alone. -/
theorem visit_of_next? (h : film.next? session.pointer = some place) (now : UInt64) :
    ∃ surface, session.visit film now =
      (.ok (), { session.clear with pointer := place, surface }) := by
  obtain ⟨entry, kind, hLookup, hKind, hOnward⟩ := Film.next?_eq_some_iff.1 h
  rw [visit_of_lookup hLookup hKind]
  cases kind with
  | playClip => cases hOnward
  | stillFrame => cases hOnward
  | death => cases hOnward
  | switchScript =>
    simp only [Film.onward?] at hOnward
    split at hOnward
    · cases hOnward
    · rename_i hGate
      cases hOnward
      exact ⟨session.clear.surface, by simp only [perform, switchScript, if_neg hGate]⟩
  | _ =>
    cases hOnward
    exact ⟨_, by simp only [perform, advance, notify, pointer_clear]; rfl⟩

/-- The run has come to an entry of a kind that waits: the handlers of the entry listen, and then
the player is asked for what the entry shows. -/
structure Enters (film : Film δ) (now : UInt64) (session : Session δ) (entry : Entry)
    (kind : Opcode) : Prop where
  lookup : film.graph.lookup session.pointer = .ok entry
  decodes : Opcode.ofCode? entry.opcode = some kind
  interactive : kind.isInteractive = true
  visit : ∃ controls handlers surface, entry.controls session.pointer.script = .ok controls ∧
    handlers.listeners = film.listeners entry controls kind ∧
    session.visit film now = ({ session with
      handlers, laserMode := !handlers.listeners.point.isEmpty, surface }).await
        (session.player.enter film.clips now entry kind)

/-- An entry that waits, and whose conditions are sound, installs its handlers whatever was there
before, and asks the player for what it shows. -/
theorem perform_clear_of_controls (session : Session δ) {controls : List (Control × Int32)}
    (hWaits : kind.isInteractive = true)
    (hControls : entry.controls session.pointer.script = .ok controls) (film : Film δ)
    (now : UInt64) :
    ∃ handlers surface, handlers.listeners = film.listeners entry controls kind ∧
      session.clear.perform film now entry kind = ({ session with
        handlers, laserMode := !handlers.listeners.point.isEmpty, surface }).await
          (session.player.enter film.clips now entry kind) := by
  obtain ⟨cleared, hClear⟩ := session.clear_eq
  rw [hClear]
  obtain rfl | rfl := Opcode.isInteractive_iff.1 hWaits
  · have hListen := listeners_listenTo
      { session with handlers := session.handlers.reset, laserMode := false, surface := cleared }
      (Handler.onControlWithin entry.window) controls
    refine ⟨((listenTo { session with
      handlers := session.handlers.reset, laserMode := false, surface := cleared }
      (Handler.onControlWithin entry.window) controls).handlers.addEndOfClip
        (.always entry.defaultOffset)).1, cleared, ?_, ?_⟩
    · rw [HandlerStack.listeners_addEndOfClip, hListen]
      rfl
    · simp only [perform, enterPlayClip, hControls, HandlerStack.listeners_addEndOfClip, hListen]
      rfl
  · obtain ⟨handlers, surface, hHandlers, hOpen⟩ := openZones_eq film
      (listenTo { session with
        handlers := session.handlers.reset, laserMode := false, surface := cleared }
        Handler.onControl controls) entry
    rw [listeners_listenTo] at hHandlers
    refine ⟨handlers, surface, hHandlers, ?_⟩
    simp only [perform, enterStillFrame, hControls, hOpen, hHandlers]
    rfl

/-- An entry whose conditions are sound is entered. -/
theorem enters_of_controls {controls : List (Control × Int32)}
    (hLookup : film.graph.lookup session.pointer = .ok entry)
    (hKind : Opcode.ofCode? entry.opcode = some kind) (hWaits : kind.isInteractive = true)
    (hControls : entry.controls session.pointer.script = .ok controls) (now : UInt64) :
    session.Enters film now entry kind := by
  obtain ⟨handlers, surface, hHandlers, hPerform⟩ :=
    session.perform_clear_of_controls hWaits hControls film now
  refine ⟨hLookup, hKind, hWaits, controls, handlers, surface, hControls, hHandlers, ?_⟩
  rw [visit_of_lookup hLookup hKind, hPerform]

/-- Everything that a visit can do: it is refused, it leads on, it ends the run, or it enters an
entry that waits. -/
theorem visit_cases (film : Film δ) (now : UInt64) (session : Session δ) :
    (∃ fault, film.refusal? session.pointer = some fault ∧
      session.visit film now = (.error fault, session.clear)) ∨
    (∃ place surface, film.next? session.pointer = some place ∧
      session.visit film now = (.ok (), { session.clear with pointer := place, surface })) ∨
    (film.next? session.pointer = none ∧ ∃ ending,
      session.visit film now = (.ok (), session.clear.finish ending)) ∨
    (film.next? session.pointer = none ∧ ∃ entry kind, session.Enters film now entry kind) := by
  cases hRefusal : film.refusal? session.pointer with
  | some fault => exact .inl ⟨fault, rfl, visit_of_refusal? hRefusal now⟩
  | none =>
    cases hNext : film.next? session.pointer with
    | some place =>
      obtain ⟨surface, hVisit⟩ := visit_of_next? hNext now
      exact .inr (.inl ⟨place, surface, rfl, hVisit⟩)
    | none =>
      refine .inr (.inr ?_)
      cases hLookup : film.graph.lookup session.pointer with
      | error cause => simp [Film.refusal?, hLookup] at hRefusal
      | ok entry =>
        cases hKind : Opcode.ofCode? entry.opcode with
        | none => simp [Film.refusal?, hLookup, hKind] at hRefusal
        | some kind =>
          rw [Film.next?_of_lookup hLookup hKind] at hNext
          cases hWaits : kind.isInteractive with
          | true =>
            cases hControls : entry.controls session.pointer.script with
            | error fault =>
              simp [Film.refusal?, hLookup, hKind, hWaits, hControls] at hRefusal
            | ok controls =>
              exact .inr ⟨rfl, entry, kind, enters_of_controls hLookup hKind hWaits hControls now⟩
          | false =>
            refine .inl ⟨rfl, ?_⟩
            rw [visit_of_lookup hLookup hKind]
            cases kind with
            | death => exact ⟨.death, rfl⟩
            | switchScript =>
              refine ⟨.exitToMenu, ?_⟩
              simp only [Film.onward?, ite_eq_left_iff, reduceCtorEq, imp_false,
                not_not] at hNext
              simp only [perform, switchScript, if_pos hNext]
            | playClip => cases hWaits
            | stillFrame => cases hWaits
            | _ => cases hNext

/-- A visit fails because something is wrong with the place, or because the player refuses. -/
theorem visit_error (h : (session.visit film now).1 = .error fault) :
    film.refusal? session.pointer = some fault ∨ ∃ cause, fault = .playback cause := by
  obtain ⟨cause, hRefusal, hVisit⟩ | ⟨_, _, -, hVisit⟩ | ⟨-, _, hVisit⟩ | ⟨-, _, _, hEnters⟩ :=
    session.visit_cases film now
  · rw [hVisit] at h
    cases h
    exact .inl hRefusal
  · rw [hVisit] at h
    cases h
  · rw [hVisit] at h
    cases h
  · obtain ⟨_, _, _, -, -, hVisit⟩ := hEnters.visit
    rw [hVisit] at h
    obtain ⟨cause, -, hAwait⟩ | ⟨-, hAwait⟩ := await_cases _ _
    · rw [hAwait] at h
      cases h
      exact .inr ⟨cause, rfl⟩
    · rw [hAwait] at h
      cases h

end Session
end BranchingMovie
