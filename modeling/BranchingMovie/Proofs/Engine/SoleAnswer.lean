import Mathlib.Data.List.Nodup
import BranchingMovie.Proofs.Engine.Installed
import BranchingMovie.Proofs.Engine.LoadedFilm

/-!
# Buttons have one answer

The check of conditions passes those that all stand for triggers and name no button twice, in
whatever order they are (`Entry.checkConditions_ok_iff`).  So of the handlers that a checked entry
installs, at most one answers a button (`length_dispatchControl_le`), and it does not matter in
which slots the conditions stand (`button_answers_of_loaded`).
-/

namespace BranchingMovie

/-! ## Checked conditions -/

namespace Entry

/-- The buttons that conditions listen to, in the order of the conditions. -/
def listedButtons (conditions : List Condition) : List Control :=
  (conditions.filterMap Condition.button?).map Prod.fst

/-- Conditions pass the check when all of them stand for triggers, and no button is named twice or
was seen before. -/
theorem checkConditions_ok_iff {script : String} {index : Nat} {seen : List Control}
    {conditions : List Condition} :
    checkConditions script index seen conditions = .ok () ↔
      (∀ condition ∈ conditions, Trigger.ofCode? condition.code ≠ none) ∧
        (listedButtons conditions).Nodup ∧ ∀ button ∈ listedButtons conditions, button ∉ seen := by
  induction conditions generalizing seen with
  | nil => simp [checkConditions, listedButtons]
  | cons condition conditions ih =>
    rw [checkConditions]
    cases hCode : Trigger.ofCode? condition.code with
    | none => simp [hCode]
    | some trigger =>
      cases trigger with
      | zone =>
        have hListed : listedButtons (condition :: conditions) = listedButtons conditions := by
          simp [listedButtons, Condition.button?, hCode]
        simp [ih, hListed, hCode]
      | control button =>
        have hListed : listedButtons (condition :: conditions) =
            button :: listedButtons conditions := by
          simp [listedButtons, Condition.button?, hCode]
        rw [hListed]
        by_cases hSeen : button ∈ seen
        · simp [hSeen]
        · simp only [if_neg hSeen, ih, List.forall_mem_cons, List.nodup_cons, hCode]
          constructor
          · rintro ⟨hKnown, hNodup, hNew⟩
            refine ⟨⟨by simp, hKnown⟩, ⟨fun hAgain => ?_, hNodup⟩, hSeen, fun other hOther => ?_⟩
            · exact hNew button hAgain List.mem_cons_self
            · exact fun hBefore => hNew other hOther (List.mem_cons_of_mem _ hBefore)
          · rintro ⟨⟨-, hKnown⟩, ⟨hOnce, hNodup⟩, -, hNew⟩
            refine ⟨hKnown, hNodup, fun other hOther hBefore => ?_⟩
            obtain rfl | hBefore := List.mem_cons.1 hBefore
            · exact hOnce hOther
            · exact hNew other hOther hBefore

/-- The check does not depend on the order of the conditions. -/
theorem checkConditions_perm {script : String} {index : Nat} {conditions others : List Condition}
    (hPerm : others.Perm conditions) (h : checkConditions script index [] conditions = .ok ()) :
    checkConditions script index [] others = .ok () := by
  obtain ⟨hKnown, hNodup, -⟩ := checkConditions_ok_iff.1 h
  refine checkConditions_ok_iff.2 ⟨fun condition hCondition => ?_, ?_, by simp⟩
  · exact hKnown condition (hPerm.mem_iff.1 hCondition)
  · exact ((hPerm.filterMap _).map _).nodup_iff.2 hNodup

/-- The buttons of an entry that waits and was checked are all different. -/
theorem nodup_controls {entry : Entry} {name script : String} {controls : List (Control × Int32)}
    (h : entry.validate name = .ok ()) (hWaits : entry.isInteractive = true)
    (hControls : entry.controls script = .ok controls) : (controls.map Prod.fst).Nodup := by
  rw [validate, if_pos hWaits] at h
  rw [controlsOf_eq hControls]
  exact (checkConditions_ok_iff.1 h).2.1

/-! ## Conditions in other slots -/

/-- The entries differ in the slots in which their conditions stand, and in nothing else that is
used. -/
structure Reslots (other entry : Entry) : Prop where
  index : other.index = entry.index
  name : other.name = entry.name
  opcode : other.opcode = entry.opcode
  startFrame : other.startFrame = entry.startFrame
  endFrame : other.endFrame = entry.endFrame
  window : other.window = entry.window
  defaultOffset : other.defaultOffset = entry.defaultOffset
  conditions : (other.conditions.map Prod.snd).Perm (entry.conditions.map Prod.snd)

section Reslots

variable {entry other : Entry}

theorem Reslots.isInteractive (h : other.Reslots entry) :
    other.isInteractive = entry.isInteractive := by
  rw [Entry.isInteractive, Entry.isInteractive, h.opcode]

theorem Reslots.validate (h : other.Reslots entry) {name : String}
    (hValid : entry.validate name = .ok ()) : other.validate name = .ok () := by
  rw [Entry.validate, h.isInteractive, h.index]
  rw [Entry.validate] at hValid
  by_cases hWaits : entry.isInteractive = true
  · rw [if_pos hWaits] at hValid ⊢
    exact checkConditions_perm h.conditions hValid
  · rw [if_neg hWaits]

theorem Reslots.controls (h : other.Reslots entry) {script : String}
    {controls others : List (Control × Int32)} (hControls : entry.controls script = .ok controls)
    (hOthers : other.controls script = .ok others) : others.Perm controls := by
  rw [controlsOf_eq hControls, controlsOf_eq hOthers]
  exact h.conditions.filterMap _

end Reslots

/-! ## What handlers answer -/

/-- Buttons count now, while the run waits at the entry of a kind. -/
def takesButtons (entry : Entry) (kind : Opcode) (context : DispatchContext) : Bool :=
  match kind with
  | .playClip => entry.window.isOpen context
  | _ => true

/-- The answers to a button are those of its conditions, as long as buttons count. -/
def buttonAnswers (entry : Entry) (kind : Opcode) (controls : List (Control × Int32))
    (fired : Control) (context : DispatchContext) : List Transition :=
  controls.filterMap fun listed =>
    if fired = listed.1 ∧ entry.takesButtons kind context = true then some ⟨listed.2⟩ else none

/-- Where no button is listed twice, a button has one answer at most. -/
theorem length_buttonAnswers_le (entry : Entry) (kind : Opcode) {controls : List (Control × Int32)}
    (hNodup : (controls.map Prod.fst).Nodup) (fired : Control) (context : DispatchContext) :
    (entry.buttonAnswers kind controls fired context).length ≤ 1 := by
  have hCount : (controls.map Prod.fst).count fired ≤ 1 :=
    List.nodup_iff_count_le_one.1 hNodup fired
  rw [List.count, List.countP_map] at hCount
  rw [buttonAnswers, List.length_filterMap_eq_countP]
  refine le_trans (List.countP_mono_left fun listed _ hAnswers => ?_) hCount
  split at hAnswers
  · rename_i hFired
    simp [hFired.1]
  · cases hAnswers

/-- It is the same in whatever slots the conditions stand. -/
theorem Reslots.buttonAnswers {entry other : Entry} (h : other.Reslots entry) (kind : Opcode)
    {controls others : List (Control × Int32)} (hNodup : (controls.map Prod.fst).Nodup)
    (hPerm : others.Perm controls) (fired : Control) (context : DispatchContext) :
    other.buttonAnswers kind others fired context =
      entry.buttonAnswers kind controls fired context := by
  have hAnswers : (other.buttonAnswers kind others fired context).Perm
      (entry.buttonAnswers kind controls fired context) := by
    simp only [Entry.buttonAnswers, takesButtons, h.window]
    exact hPerm.filterMap _
  have hFew := entry.length_buttonAnswers_le kind hNodup fired context
  -- lists of one element at most have only one order
  match hList : entry.buttonAnswers kind controls fired context with
  | [] =>
    rw [hList] at hAnswers
    exact List.perm_nil.1 hAnswers
  | [answer] =>
    rw [hList] at hAnswers
    exact List.perm_singleton.1 hAnswers
  | _ :: _ :: _ =>
    rw [hList] at hFew
    simp at hFew

end Entry

section Installed

variable {δ : Type} {film : Film δ} {entry : Entry} {kind : Opcode}
  {controls : List (Control × Int32)}

/-- The handlers that an entry installs answer a button with what its conditions ask for, however
often they were asked before. -/
theorem dispatchControl_of_listeners {handlers : HandlerStack} (hWaits : kind.isInteractive = true)
    (h : handlers.listeners = film.listeners entry controls kind) (fired : Control)
    (context : DispatchContext) :
    (handlers.dispatchControl fired context).2 =
      entry.buttonAnswers kind controls fired context := by
  obtain rfl | rfl := Opcode.isInteractive_iff.1 hWaits
  · have hControl : handlers.control.map (·.handler) =
        controls.map fun listed => Handler.onControlWithin entry.window listed.1 listed.2 :=
      congrArg Listeners.control h
    rw [HandlerStack.dispatchControl, filterMap_answer, hControl, Handler.answers,
      List.filterMap_map]
    · rfl
    · rw [hControl]
      exact List.forall_mem_map.2 fun listed _ => Handler.isSteady_onControlWithin _ _ _
  · have hControl : handlers.control.map (·.handler) =
        controls.map fun listed => Handler.onControl listed.1 listed.2 :=
      congrArg Listeners.control h
    rw [HandlerStack.dispatchControl, filterMap_answer, hControl, Handler.answers,
      List.filterMap_map]
    · refine List.filterMap_congr fun listed _ => ?_
      simp [Handler.onControl, Entry.takesButtons]
    · rw [hControl]
      exact List.forall_mem_map.2 fun listed _ => Handler.isSteady_onControl _ _

end Installed

/-! ## What a session does -/

namespace Session

variable {δ : Type} {session replaced : Session δ}

/-- Where jumps lead does not depend on the handlers. -/
theorem scene_follow (h : replaced.scene = session.scene)
    (transitions : List Transition) :
    (replaced.follow transitions).map id scene = (session.follow transitions).map id scene := by
  cases transitions with
  | nil => exact congrArg (Prod.mk false) h
  | cons transition transitions =>
    have hState : replaced.state = session.state := congrArg Scene.state h
    rw [follow_cons, follow_cons]
    by_cases hWaits : session.state = .awaitingEvent
    · rw [interrupt_of_waiting hWaits, interrupt_of_waiting (hState.trans hWaits)]
      exact congrArg (fun scene : Scene δ => (true, scene.leave transition.offset)) h
    · rw [interrupt_of_idle hWaits, interrupt_of_idle (hState ▸ hWaits)]
      exact congrArg (Prod.mk false) h

/-- An event that is answered alike leads to the same scene. -/
theorem scene_handleControl (h : replaced.scene = session.scene) {control : Control}
    (hAnswers : (replaced.handlers.dispatchControl control replaced.context).2 =
      (session.handlers.dispatchControl control session.context).2) :
    (replaced.handleControl control).map id scene =
      (session.handleControl control).map id scene := by
  simp only [handleControl, hAnswers]
  refine scene_follow ?_ _
  exact h

end Session

section Clock

variable {δ : Type} [Decoder δ] {film : Film δ} {entry other : Entry} {kind : Opcode}

/-- What an entry shows does not depend on the slots of its conditions, when these are sound. -/
theorem Scene.perform_of_reslots (h : other.Reslots entry) (hWaits : kind.isInteractive = true)
    (scene : Scene δ) {controls others : List (Control × Int32)}
    (hControls : entry.controls scene.pointer.script = .ok controls)
    (hOthers : other.controls scene.pointer.script = .ok others) (now : UInt64) :
    scene.perform film now other kind = scene.perform film now entry kind := by
  obtain rfl | rfl := Opcode.isInteractive_iff.1 hWaits
  · simp only [perform, hControls, hOthers, h.name, h.startFrame, h.endFrame]
  · simp only [perform, hControls, hOthers, openZones, h.name, h.startFrame]

/-- The listeners of an entry that was entered. -/
theorem Session.listeners_perform_clear (session : Session δ) {controls : List (Control × Int32)}
    (hWaits : kind.isInteractive = true)
    (hControls : entry.controls session.pointer.script = .ok controls) (film : Film δ)
    (now : UInt64) :
    (session.clear.perform film now entry kind).2.handlers.listeners =
      film.listeners entry controls kind := by
  obtain ⟨handlers, surface, hHandlers, hPerform⟩ :=
    session.perform_clear_of_controls hWaits hControls film now
  rw [hPerform]
  obtain ⟨cause, -, hAwait⟩ | ⟨-, hAwait⟩ := Session.await_cases _ _ <;>
    · rw [hAwait]
      exact hHandlers

/-! ## Loaded graphs -/

/-- **A button has one answer at most, and the slots of the conditions do not matter to it.**  Let
an entry of a loaded graph be entered that shows a clip or a still frame.  However often its
handlers were asked before, and whatever frame is on display, at most one of them answers a button.
The entry with its conditions in other slots is entered in the same way.  At any later moment, when
all but the handlers is the same in two runs that have entered the one and the other, a button gets
the same answers in both, moves both or neither, and leads to the same scene. -/
theorem button_answers_of_loaded {config : Config} {store : AssetStore}
    (hLoad : NodeGraph.load config store = .ok film.graph) {key : String} {script : Script}
    (hScript : film.graph.table.get? key = some script) (hEntry : entry ∈ script.entries)
    (hKind : Opcode.ofCode? entry.opcode = some kind)
    (hWaits : kind = .playClip ∨ kind = .stillFrame) (now : UInt64) (session : Session δ) :
    let entered (entry : Entry) := session.clear.perform film now entry kind
    (∀ (handlers : HandlerStack) (control : Control) (context : DispatchContext),
      handlers.uncounted = (entered entry).2.handlers.uncounted →
      (handlers.dispatchControl control context).2.length ≤ 1) ∧
    ∀ other : Entry, other.Reslots entry →
      (entered other).map id Session.scene = (entered entry).map id Session.scene ∧
      ∀ waiting replaced : Session δ,
        waiting.handlers.uncounted = (entered entry).2.handlers.uncounted →
        replaced.handlers.uncounted = (entered other).2.handlers.uncounted →
        replaced.scene = waiting.scene → ∀ control : Control,
          (replaced.handlers.dispatchControl control replaced.context).2 =
            (waiting.handlers.dispatchControl control waiting.context).2 ∧
          (replaced.handleControl control).map id Session.scene =
            (waiting.handleControl control).map id Session.scene := by
  intro entered
  have hInteractive : kind.isInteractive = true := Opcode.isInteractive_iff.2 hWaits
  have hEntryWaits : entry.isInteractive = true := by
    rw [Entry.isInteractive, hKind]
    exact hInteractive
  have hChecked := (NodeGraph.isClosed_of_load hLoad).checked key script hScript
  have hValid := Script.validate_entry hChecked hEntry
  obtain ⟨controls, hControls⟩ :=
    Entry.controls_ok_of_validate hValid hEntryWaits session.clear.pointer.script
  have hNodup := Entry.nodup_controls hValid hEntryWaits hControls
  rw [Session.pointer_clear] at hControls
  have hListens := session.listeners_perform_clear hInteractive hControls film now
  refine ⟨fun handlers control context hHandlers => ?_, fun other hOther => ?_⟩
  · rw [dispatchControl_of_listeners hInteractive
      ((HandlerStack.listeners_of_uncounted hHandlers).trans hListens)]
    exact entry.length_buttonAnswers_le kind hNodup control context
  · obtain ⟨others, hOthers⟩ := Entry.controls_ok_of_validate (hOther.validate hValid)
      (hOther.isInteractive.trans hEntryWaits) session.pointer.script
    have hOthersListen := session.listeners_perform_clear hInteractive hOthers film now
    have hPerm := hOther.controls hControls hOthers
    refine ⟨?_, fun waiting replaced hWaiting hReplaced hScene control => ?_⟩
    · have hPlace : session.clear.scene.pointer = session.pointer := session.pointer_clear
      rw [← hPlace] at hControls hOthers
      rw [Session.scene_perform, Session.scene_perform]
      exact Scene.perform_of_reslots hOther hInteractive _ hControls hOthers now
    · have hContext : replaced.context = waiting.context :=
        congrArg (fun scene : Scene δ => DispatchContext.mk scene.player.currentFrame) hScene
      have hAnswers : (replaced.handlers.dispatchControl control replaced.context).2 =
          (waiting.handlers.dispatchControl control waiting.context).2 := by
        rw [dispatchControl_of_listeners hInteractive
            ((HandlerStack.listeners_of_uncounted hReplaced).trans hOthersListen),
          dispatchControl_of_listeners hInteractive
            ((HandlerStack.listeners_of_uncounted hWaiting).trans hListens), hContext]
        exact hOther.buttonAnswers kind hNodup hPerm control waiting.context
      exact ⟨hAnswers, Session.scene_handleControl hScene hAnswers⟩

end Clock

/-- A folder with one script, whose only entry shows a still frame that listens to two buttons and
two zones. -/
def twoButtons : AssetStore where
  data := ⟨[("encountr.nod", "film/ENCOUNTR.NOD")]⟩
  read path :=
    if path = "film/ENCOUNTR.NOD" then
      .ok (Text.Utf8.encode "0 bay.mov 2 5 0 0 0 0 3 1 100 2 4 -1 100 7 0 0 0 0 0 0 0 0 0 0".toList)
    else .error .notFound

/-- The entry in it. -/
def atPanel : Entry :=
  ⟨0, "bay.mov", #v[2, 5, 0, 0, 0, 0, 3, 1, 100, 2, 4, -1, 100, 7, 0, 0, 0, 0, 0, 0, 0, 0, 0, 0]⟩

/-- The entry with its conditions in other slots. -/
def atOtherPanel : Entry :=
  ⟨0, "bay.mov", #v[2, 5, 0, 0, 0, 0, 0, 0, 4, -1, 100, 7, 0, 0, 0, 0, 3, 1, 0, 9, 100, 2, 0, 0]⟩

/-- The film with it. -/
def panelFilm : Film SyntheticDecoder where
  graph := .ofScripts [⟨"encountr.nod", [atPanel]⟩] ⟨"encountr.nod", 0⟩
  catalog := .empty
  config := {}
  clips := ({} : SyntheticProfile).library .ok

theorem load_twoButtons : NodeGraph.load {} twoButtons = .ok panelFilm.graph := by
  have hKey : Asset.key "encountr.nod" = "encountr.nod" := by decide
  have hScript : Script.load twoButtons "encountr.nod" = .ok ⟨"encountr.nod", [atPanel]⟩ :=
    Outcome.toOption_eq_some.1 (by decide +kernel)
  have hLinks : Script.references {} ⟨"encountr.nod", [atPanel]⟩ = [] := by decide
  have hEntry : panelFilm.graph.lookup ⟨"encountr.nod", 0⟩ = .ok atPanel :=
    Outcome.toOption_eq_some.1 (by decide)
  show NodeGraph.load {} twoButtons =
    .ok (.ofScripts [⟨"encountr.nod", [atPanel]⟩] ⟨"encountr.nod", 0⟩)
  exact NodeGraph.load_of_lone_script hKey rfl hKey rfl List.mem_cons_self hScript hLinks hEntry

theorem atOtherPanel_reslots : atOtherPanel.Reslots atPanel :=
  ⟨rfl, rfl, rfl, rfl, rfl, rfl, rfl, by decide⟩

/-- The button in the second slot leads one entry back, also from the slot before. -/
theorem button_answers_of_twoButtons :
    let entered (entry : Entry) :=
      (Session.start panelFilm.graph.start).clear.perform panelFilm 0 entry .stillFrame
    let waiting := (entered atPanel).2
    let replaced := (entered atOtherPanel).2
    (waiting.handlers.dispatchControl .no waiting.context).2 = [⟨-1⟩] ∧
      (replaced.handlers.dispatchControl .no replaced.context).2 = [⟨-1⟩] ∧
      (waiting.handlers.dispatchControl .yes {}).2.length ≤ 1 ∧
      (replaced.handleControl .no).map id Session.scene =
        (waiting.handleControl .no).map id Session.scene := by
  intro entered waiting replaced
  have hScript : panelFilm.graph.table.get? "encountr.nod" =
      some ⟨"encountr.nod", [atPanel]⟩ := by decide
  have hKind : Opcode.ofCode? atPanel.opcode = some .stillFrame := rfl
  obtain ⟨hFew, hSlots⟩ := button_answers_of_loaded load_twoButtons hScript List.mem_cons_self
    hKind (.inr rfl) 0 (Session.start panelFilm.graph.start)
  obtain ⟨hEntered, hAnswers⟩ := hSlots atOtherPanel atOtherPanel_reslots
  have hWaiting : (waiting.handlers.dispatchControl .no waiting.context).2 = [⟨-1⟩] := by
    decide
  obtain ⟨hSame, hScene⟩ := hAnswers waiting replaced rfl rfl (congrArg Prod.snd hEntered) .no
  exact ⟨hWaiting, hSame.trans hWaiting, hFew waiting.handlers .yes {} rfl, hScene⟩

end BranchingMovie
