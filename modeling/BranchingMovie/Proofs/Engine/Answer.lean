import BranchingMovie.Proofs.Engine.Coherence

/-!
# What a waiting run answers

While a run waits at an entry, the fields of the entry, the zones of its clip and the frame on
display decide what an event does; handlers need not be asked.  `Film.answer?` is this decision, and
`head?_replies` says that it is the first reply of the handlers of a run that waits.
-/

namespace BranchingMovie

/-! ## The decision -/

namespace Entry

/-- The lowest slot in use whose condition listens to a button. -/
def slotFor? (entry : Entry) (control : Control) : Option (Fin conditionSlots) :=
  (List.finRange conditionSlots).find? fun slot =>
    !(entry.condition slot).isEmpty &&
      Trigger.ofCode? (entry.condition slot).code == some (.control control)

/-- The jump that a button asks for, at a moment when buttons count. -/
def buttonOffset? (entry : Entry) (control : Control) : Option Int32 :=
  (entry.slotFor? control).map fun slot => (entry.condition slot).offset

/-- The frame on display is known, and buttons count on it. -/
def isActiveOn (entry : Entry) (frame? : Option Int32) : Bool :=
  frame?.any fun frame => entry.actionStart ≤ frame && frame ≤ entry.actionEnd

/-- Buttons count on the frames of the window of a clip. -/
theorem isOpen_window (entry : Entry) (context : DispatchContext) :
    entry.window.isOpen context = entry.isActiveOn context.currentFrame := by
  unfold Handler.Window.isOpen isActiveOn
  cases context.currentFrame <;> rfl

end Entry

/-- The jump that a click asks for: the clip has zones, the frame on display is known and has a
record, and the condition in the slot of the first zone around the point is used. -/
def Film.zoneOffset? {δ : Type} (film : Film δ) (entry : Entry) (frame? : Option Int32)
    (point : Point) : Option Int32 := do
  let index ← film.catalog.get? entry.name
  let frame ← frame?
  let zones ← index.frames.get? frame
  let zone ← zones.find? fun zone => zone.rect.contains point.x point.y
  entry.slotOffset? zone.slot

/-- The jump that an event asks for while the run waits at an entry.  Clips listen to buttons on
some of their frames, still frames listen to buttons and clicks. -/
def Film.answer? {δ : Type} (film : Film δ) (entry : Entry) (frame? : Option Int32)
    (event : InputEvent) : Option Int32 :=
  match Opcode.ofCode? entry.opcode, event with
  | some .playClip, .control control =>
    if entry.isActiveOn frame? then entry.buttonOffset? control else none
  | some .stillFrame, .control control => entry.buttonOffset? control
  | some .stillFrame, .point point => film.zoneOffset? entry frame? point
  | _, _ => none

/-! ## Handlers agree with it -/

/-- The first of the buttons that conditions list for a control is that of the first condition which
listens to it. -/
theorem Entry.findSome?_controlsOf {script : String} {index : Nat} {conditions : List Condition}
    {controls : List (Control × Int32)} (h : controlsOf script index conditions = .ok controls)
    (fired : Control) :
    (controls.findSome? fun listed => if fired = listed.1 then some listed.2 else none) =
      (conditions.find? fun condition =>
        Trigger.ofCode? condition.code == some (.control fired)).map (·.offset) := by
  induction conditions generalizing controls with
  | nil =>
    cases h
    rfl
  | cons condition conditions ih =>
    unfold controlsOf at h
    rw [List.find?_cons]
    split at h
    · cases h
    · rename_i hCode
      rw [hCode, ih h]
      rfl
    · rename_i control hCode
      cases hRest : controlsOf script index conditions with
      | error fault =>
        rw [hRest] at h
        cases h
      | ok rest =>
        rw [hRest] at h
        cases h
        rw [hCode, List.findSome?_cons]
        by_cases hFired : fired = control
        · subst hFired
          simp
        · have hOther : (some (Trigger.control control) == some (.control fired)) = false := by
            simpa using fun h => hFired h.symm
          rw [hOther, if_neg hFired]
          exact ih hRest

/-- The buttons of an entry ask for what its lowest slots ask for. -/
theorem Entry.findSome?_controls {entry : Entry} {script : String}
    {controls : List (Control × Int32)} (h : entry.controls script = .ok controls)
    (fired : Control) :
    (controls.findSome? fun listed => if fired = listed.1 then some listed.2 else none) =
      entry.buttonOffset? fired := by
  rw [findSome?_controlsOf h, conditions, buttonOffset?, slotFor?, List.find?_map,
    List.find?_filter, List.find?_map]
  simp only [Option.map_map, Function.comp_def, Bool.decide_and, Bool.decide_eq_true]

/-- A click into zones asks for the jump of its zone. -/
theorem Entry.zoneTransition_eq (entry : Entry) (index : HotZoneIndex) (point : Point)
    (context : DispatchContext) :
    entry.zoneTransition index point context = (do
      let frame ← context.currentFrame
      let zones ← index.frames.get? frame
      let zone ← zones.find? fun zone => zone.rect.contains point.x point.y
      (entry.slotOffset? zone.slot).map Transition.mk) := by
  unfold zoneTransition
  cases context.currentFrame with
  | none => rfl
  | some frame =>
    simp only [HotZoneIndex.zoneAt, HotZoneIndex.zonesOn, Option.bind_eq_bind, Option.bind_some]
    cases index.frames.get? frame with
    | none => rfl
    | some zones =>
      simp only [Except.map, Option.bind_some]
      cases zones.find? fun zone => zone.rect.contains point.x point.y with
      | none => rfl
      | some zone => rfl

namespace Session

variable {δ : Type} {film : Film δ} {session : Session δ} {entry : Entry} {kind : Opcode}

/-- The replies of steady handlers for buttons. -/
theorem replies_control {handlers : List (Handler Control)}
    (h : session.handlers.listeners.control = handlers)
    (hSteady : ∀ handler ∈ handlers, handler.IsSteady) (control : Control) :
    session.replies (.control control) = Handler.answers handlers control session.context := by
  have hHandlers : session.handlers.control.map (·.handler) = handlers := h
  rw [replies, HandlerStack.dispatchControl, filterMap_answer, hHandlers]
  rwa [hHandlers]

/-- The replies of steady handlers for clicks, the newest first. -/
theorem replies_point {handlers : List (Handler Point)}
    (h : session.handlers.listeners.point = handlers)
    (hSteady : ∀ handler ∈ handlers, handler.IsSteady) (point : Point) :
    session.replies (.point point) = Handler.answers handlers.reverse point session.context := by
  have hHandlers : session.handlers.point.reverse.map (·.handler) = handlers.reverse := by
    rw [List.map_reverse]
    exact congrArg List.reverse h
  rw [replies, HandlerStack.dispatchPoint, filterMap_answer, hHandlers]
  rw [hHandlers]
  exact fun handler hMem => hSteady handler (List.mem_reverse.1 hMem)

/-- Handlers for the buttons of an entry that answer, while they count, each to its own button: the
first answer is that of the lowest slot. -/
theorem head?_answers (counts : Bool) {controls : List (Control × Int32)} {script : String}
    (h : entry.controls script = .ok controls) {handlerOf : Control → Int32 → Handler Control}
    {context : DispatchContext} {fired : Control}
    (hAnswer : ∀ control offset, handlerOf control offset 0 fired context =
      if fired = control ∧ counts = true then some ⟨offset⟩ else none) :
    (Handler.answers (controls.map fun listed : Control × Int32 =>
        handlerOf listed.1 listed.2) fired context).head?.map (·.offset) =
      if counts then entry.buttonOffset? fired else none := by
  rw [Handler.answers, List.head?_filterMap, List.findSome?_map, List.map_findSome?,
    ← Entry.findSome?_controls h fired]
  have hListed : (Option.map (·.offset) ∘
      (fun handler : Handler Control => handler 0 fired context) ∘
      fun listed : Control × Int32 => handlerOf listed.1 listed.2) =
      fun listed => if fired = listed.1 ∧ counts = true then some listed.2 else none := by
    funext listed
    simp only [Function.comp_apply, hAnswer]
    split <;> rfl
  rw [hListed]
  cases counts with
  | false => simp
  | true => simp

/-- The handler for the zones of an entry asks for the jump of the zone. -/
theorem head?_answers_zoneHandlers (film : Film δ) (entry : Entry) (point : Point)
    (context : DispatchContext) :
    (Handler.answers (film.zoneHandlers entry).reverse point context).head?.map (·.offset) =
      film.zoneOffset? entry context.currentFrame point := by
  rw [Film.zoneHandlers, Film.zoneOffset?]
  cases film.catalog.get? entry.name with
  | none => rfl
  | some index =>
    show (List.filterMap (fun handler : Handler Point => handler 0 point context)
      [Handler.onZone entry index]).head?.map (·.offset) = _
    rw [List.head?_filterMap, List.findSome?_singleton]
    show (entry.zoneTransition index point context).map (·.offset) = _
    rw [entry.zoneTransition_eq]
    simp [Function.comp_def, Option.map_bind]

/-- **The first reply to an event is what the entry decides**, while the run waits at it. -/
theorem head?_replies (h : session.WaitsAt film entry kind) (event : InputEvent) :
    (session.replies event).head?.map (·.offset) =
      film.answer? entry session.player.currentFrame event := by
  obtain ⟨controls, hControls, hListens⟩ := h.listens
  have hControl := congrArg Listeners.control hListens
  have hPoint := congrArg Listeners.point hListens
  have hServes := h.serves
  have hDecodes := h.decodes
  cases kind with
  | playClip =>
    cases event with
    | control fired =>
      rw [replies_control hControl (List.forall_mem_map.2 fun listed _ =>
        Handler.isSteady_onControlWithin _ _ _)]
      simp only [Film.answer?, hDecodes]
      refine head?_answers _ hControls fun control offset => ?_
      show (if fired = control ∧ entry.window.isOpen session.context = true then
        some (Transition.mk offset) else none) = _
      rw [entry.isOpen_window]
      rfl
    | point point =>
      rw [replies_point hPoint (List.forall_mem_nil _)]
      simp only [Film.answer?, hDecodes]
      rfl
  | stillFrame =>
    cases event with
    | control fired =>
      rw [replies_control hControl (List.forall_mem_map.2 fun listed _ =>
        Handler.isSteady_onControl _ _)]
      simp only [Film.answer?, hDecodes]
      refine (head?_answers true hControls fun control offset => ?_).trans (if_pos rfl)
      simp only [Handler.onControl, and_true]
    | point point =>
      rw [replies_point hPoint (List.forall_mem_map.2 fun index _ =>
        Handler.isSteady_onZone entry index)]
      simp only [Film.answer?, hDecodes]
      exact head?_answers_zoneHandlers film entry point session.context
  | _ => exact hServes.elim

end Session
end BranchingMovie
