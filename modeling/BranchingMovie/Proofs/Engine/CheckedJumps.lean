import BranchingMovie.Proofs.Engine.Visits
import BranchingMovie.Proofs.Word

/-!
# Jumps in checked arithmetic

An index is moved by adding an offset to it, without a look at the script.  Here the same is done in
checked arithmetic: a jump is refused (`Session.advance?`) where no entry stands under the pointer,
or where the sum is no word.  No jump of a run ever is (`Session.jumps_in_range`), whatever is asked
of the run in whatever order, because a run adds only to the pointer of an entry that it has looked
up: the one that it visits, or the one that it waits at (`Session.IsSited`).
-/

namespace BranchingMovie

/-! ## Pointers -/

/-- The pointer `offset` entries further, none when the index overflows. -/
def NodePointer.advance? (pointer : NodePointer) (offset : Int32) : Option NodePointer :=
  (Word.add? pointer.index offset.toInt64).map fun index => { pointer with index }

example : (NodePointer.mk "a.nod" 9223372036854775807).advance? 1 = none := by decide

namespace NodeGraph

/-- No script has more than 2 to the power of 62 entries. -/
def HasShortScripts (graph : NodeGraph) : Prop :=
  ∀ key script, graph.table.get? key = some script → script.size ≤ 4611686018427387904

variable {graph : NodeGraph} {pointer : NodePointer} {entry : Entry}

/-- The index of an entry lies in its script. -/
theorem index_of_lookup (h : graph.lookup pointer = .ok entry) :
    ∃ script, graph.table.get? pointer.script = some script ∧
      0 ≤ pointer.index.toInt ∧ pointer.index.toInt < script.size := by
  unfold lookup at h
  split at h
  · cases h
  · rename_i script hScript
    refine ⟨script, hScript, ?_⟩
    split at h
    · cases h
    · rename_i found hFound
      unfold Script.get? at hFound
      split at hFound
      · cases hFound
      · rename_i hSign
        have hLow : 0 ≤ pointer.index.toInt := by
          rw [Int64.lt_iff_toInt_lt] at hSign
          exact Int.not_lt.1 hSign
        obtain ⟨hHigh, -⟩ := List.getElem?_eq_some_iff.1 hFound
        rw [Script.size]
        omega

/-- An index in a script can be moved by every offset. -/
theorem advance?_of_lookup (hShort : graph.HasShortScripts)
    (h : graph.lookup pointer = .ok entry) (offset : Int32) :
    pointer.advance? offset = some (pointer.advance offset) := by
  obtain ⟨script, hScript, hLow, hHigh⟩ := index_of_lookup h
  have hSize := hShort _ script hScript
  have hOffset : offset.toInt64.toInt = offset.toInt := offset.toInt_toInt64
  have hLeast := offset.le_toInt
  have hGreatest := offset.toInt_lt
  have hMin : Int64.minValue.toInt = -9223372036854775808 := rfl
  have hMax : Int64.maxValue.toInt = 9223372036854775807 := rfl
  have hFits : Word.Fits (pointer.index.toInt + offset.toInt64.toInt) := by
    unfold Word.Fits
    omega
  rw [NodePointer.advance?, Word.add?, if_pos hFits]
  rfl

end NodeGraph

/-! ## Events -/

namespace Session

variable {δ : Type}

/-- Goes some entries further from the entry under the pointer, unless there is none, or the index
overflows. -/
def advance? (film : Film δ) (session : Session δ) (offset : Int32) : Option (Session δ) :=
  match film.graph.lookup session.pointer with
  | .error _ => none
  | .ok _ => (session.pointer.advance? offset).map fun pointer => { session with pointer }

/-- Leaves the entry that the run waits at, in checked arithmetic. -/
def interrupt? (film : Film δ) (session : Session δ) (offset : Int32) :
    Option (Bool × Session δ) :=
  if session.state = .awaitingEvent then
    (session.advance? film offset).map fun moved =>
      (true, { moved with player := session.player.stop, state := .running })
  else some (false, session)

/-- Follows jumps, in checked arithmetic. -/
def follow? (film : Film δ) (session : Session δ) : List Transition → Option (Bool × Session δ)
  | [] => some (false, session)
  | transition :: transitions => do
    let (moved, session) ← session.interrupt? film transition.offset
    let (later, session) ← session.follow? film transitions
    return (moved || later, session)

/-- Offers a button to the handlers, in checked arithmetic. -/
def handleControl? (film : Film δ) (session : Session δ) (control : Control) :
    Option (Bool × Session δ) :=
  let (handlers, transitions) := session.handlers.dispatchControl control session.context
  { session with handlers }.follow? film transitions

/-- Offers a click to the handlers, in checked arithmetic. -/
def handlePoint? (film : Film δ) (session : Session δ) (point : Point) :
    Option (Bool × Session δ) :=
  let (handlers, transitions) := session.handlers.dispatchPoint point session.context
  { session with handlers }.follow? film transitions

/-- Offers the end of a clip to the handlers, in checked arithmetic. -/
def handleEndOfClip? (film : Film δ) (session : Session δ) : Option (Bool × Session δ) :=
  let (handlers, transitions) := session.handlers.dispatchEndOfClip session.context
  { session with handlers }.follow? film transitions

/-- While the run waits, there is an entry under its pointer. -/
def IsSited (film : Film δ) (session : Session δ) : Prop :=
  session.state = .awaitingEvent → ∃ entry, film.graph.lookup session.pointer = .ok entry

theorem IsSited.of_idle {film : Film δ} {session : Session δ}
    (h : session.state ≠ .awaitingEvent) : session.IsSited film :=
  fun hWaits => absurd hWaits h

section Events

variable {film : Film δ} {session : Session δ} (hShort : film.graph.HasShortScripts)
include hShort

theorem advance?_eq_some {entry : Entry} (h : film.graph.lookup session.pointer = .ok entry)
    (offset : Int32) : session.advance? film offset = some (session.advance offset) := by
  simp only [advance?, h, NodeGraph.advance?_of_lookup hShort h offset]
  rfl

theorem interrupt?_eq_some (h : session.IsSited film) (offset : Int32) :
    session.interrupt? film offset = some (session.interrupt offset) ∧
      (session.interrupt offset).2.IsSited film := by
  by_cases hWaits : session.state = .awaitingEvent
  · obtain ⟨entry, hLookup⟩ := h hWaits
    rw [interrupt?, if_pos hWaits, interrupt_of_waiting hWaits, advance?_eq_some hShort hLookup]
    exact ⟨rfl, .of_idle RunState.noConfusion⟩
  · rw [interrupt?, if_neg hWaits, interrupt_of_idle hWaits]
    exact ⟨rfl, h⟩

theorem follow?_eq_some (h : session.IsSited film) (transitions : List Transition) :
    session.follow? film transitions = some (session.follow transitions) ∧
      (session.follow transitions).2.IsSited film := by
  induction transitions generalizing session with
  | nil => exact ⟨rfl, h⟩
  | cons transition transitions ih =>
    obtain ⟨hMoves, hMoved⟩ := interrupt?_eq_some hShort h transition.offset
    obtain ⟨hFollows, hFollowed⟩ := ih hMoved
    refine ⟨?_, hFollowed⟩
    simp only [follow?, hMoves, Option.bind_eq_bind, Option.bind_some, hFollows]
    rfl

/-- It does not matter to jumps which handlers have asked for them. -/
theorem follow?_asked_eq_some (h : session.IsSited film) (handlers : HandlerStack)
    (transitions : List Transition) :
    ({ session with handlers }.follow? film transitions).map Prod.snd =
        some ({ session with handlers }.follow transitions).2 ∧
      ({ session with handlers }.follow transitions).2.IsSited film := by
  have hAsked : ({ session with handlers }).IsSited film := h
  obtain ⟨hFollow, hFollowed⟩ := follow?_eq_some hShort hAsked transitions
  exact ⟨congrArg (Option.map Prod.snd) hFollow, hFollowed⟩

end Events

/-! ## Walking -/

section Walk

variable [Decoder δ]

/-- Does what an entry asks for, in checked arithmetic.  Only entries without a task of their own,
and those that show the navigation buttons, add to the index. -/
def perform? (film : Film δ) (now : UInt64) (session : Session δ) (entry : Entry) :
    Opcode → Option (Except EngineError Unit × Session δ)
  | .nop | .gate | .hotZoneMarker | .reserved _ =>
    (session.advance? film entry.defaultOffset).map fun moved => (.ok (), moved)
  | .enableInterface =>
    ((session.notify (.navigation true)).advance? film entry.defaultOffset).map fun moved =>
      (.ok (), moved)
  | .playClip => some (session.enterPlayClip film now entry)
  | .stillFrame => some (session.enterStillFrame film entry)
  | .switchScript => some (.ok (), session.switchScript film entry)
  | .death => some (.ok (), session.finish .death)

/-- Visits the entry under the pointer, in checked arithmetic. -/
def visit? (film : Film δ) (now : UInt64) (session : Session δ) :
    Option (Except EngineError Unit × Session δ) :=
  let session := session.clear
  match film.graph.lookup session.pointer with
  | .error fault => some (.error (.pointer fault), session)
  | .ok entry =>
    match Opcode.ofCode? entry.opcode with
    | none =>
      some (.error (.unknownOpcode session.pointer.script entry.index entry.opcode), session)
    | some opcode => session.perform? film now entry opcode

/-- Visits entries while the run does not wait, in checked arithmetic. -/
def walk? (film : Film δ) (now : UInt64) (limit : Nat) :
    Nat → Session δ → Option (Except EngineError Unit × Session δ)
  | 0, session => some (session.walk film now limit 0)
  | remaining + 1, session =>
    if session.state = .running then do
      match ← session.visit? film now with
      | (.error fault, session) => return (.error fault, session)
      | (.ok (), session) => walk? film now limit remaining session
    else some (.ok (), session)

/-- Goes on until the run waits or is over, in checked arithmetic. -/
def update? (film : Film δ) (now : UInt64) (session : Session δ) :
    Option (Except EngineError Unit × Session δ) :=
  let limit := film.config.maxStepsPerTick.toNat
  walk? film now limit limit session

variable {film : Film δ} {session : Session δ}

/-- A visit waits only at the entry that it has looked up. -/
theorem isSited_visit (film : Film δ) (hState : session.state = .running) (now : UInt64) :
    (session.visit film now).2.IsSited film := by
  have hIdle : session.clear.state ≠ .awaitingEvent := by
    rw [state_clear, hState]
    exact RunState.noConfusion
  obtain ⟨fault, -, hVisit⟩ | ⟨place, surface, -, hVisit⟩ | ⟨-, ending, hVisit⟩ |
    ⟨-, entry, kind, hEnters⟩ := session.visit_cases film now
  · rw [hVisit]
    exact .of_idle hIdle
  · rw [hVisit]
    exact .of_idle hIdle
  · rw [hVisit]
    exact .of_idle RunState.noConfusion
  · obtain ⟨_, _, _, -, -, hVisit⟩ := hEnters.visit
    intro _
    refine ⟨entry, ?_⟩
    rw [hVisit]
    obtain ⟨cause, -, hAwait⟩ | ⟨-, hAwait⟩ := await_cases _ _ <;>
      · rw [hAwait]
        exact hEnters.lookup

variable (hShort : film.graph.HasShortScripts)
include hShort

theorem perform?_eq_some {entry : Entry} (h : film.graph.lookup session.pointer = .ok entry)
    (now : UInt64) (kind : Opcode) :
    session.perform? film now entry kind = some (session.perform film now entry kind) := by
  cases kind with
  | enableInterface =>
    have hNotified : film.graph.lookup (session.notify (.navigation true)).pointer = .ok entry := h
    simp only [perform?, advance?_eq_some hShort hNotified]
    rfl
  | playClip => rfl
  | stillFrame => rfl
  | switchScript => rfl
  | death => rfl
  | _ =>
    simp only [perform?, advance?_eq_some hShort h]
    rfl

theorem visit?_eq_some (now : UInt64) :
    session.visit? film now = some (session.visit film now) := by
  simp only [visit?, visit]
  cases hLookup : film.graph.lookup session.clear.pointer with
  | error fault => rfl
  | ok entry =>
    simp only
    cases Opcode.ofCode? entry.opcode with
    | none => rfl
    | some kind => exact perform?_eq_some hShort hLookup now kind

theorem walk?_eq_some (h : session.IsSited film) (now : UInt64) (limit remaining : Nat) :
    session.walk? film now limit remaining = some (session.walk film now limit remaining) ∧
      (session.walk film now limit remaining).2.IsSited film := by
  induction remaining generalizing session with
  | zero =>
    refine ⟨rfl, ?_⟩
    unfold walk
    split <;> exact h
  | succ remaining ih =>
    by_cases hState : session.state = .running
    · have hSited := isSited_visit film hState now
      simp only [walk?, walk, if_pos hState, visit?_eq_some hShort, Option.bind_eq_bind,
        Option.bind_some]
      generalize session.visit film now = visit at hSited ⊢
      obtain ⟨outcome, visited⟩ := visit
      cases outcome with
      | error fault => exact ⟨rfl, hSited⟩
      | ok _ => exact ih hSited
    · rw [walk?, walk, if_neg hState, if_neg hState]
      exact ⟨rfl, h⟩

end Walk

/-! ## Runs -/

/-- What can be asked of a run. -/
inductive Command (δ : Type) where
  /-- It goes on, with the clips that there are now. -/
  | update (clips : ClipLibrary δ) (now : UInt64)
  | control (control : Control)
  | point (point : Point)
  | endOfClip
  /-- It leaves the entry that it waits at. -/
  | interrupt (offset : Int32)
  /-- The handlers and the player are others from now on. -/
  | replace (handlers : HandlerStack) (player : Player δ)

variable [Decoder δ]

/-- A run after a command, whatever comes of it. -/
def obey (film : Film δ) (session : Session δ) : Command δ → Session δ
  | .update clips now => (session.update (film.restock clips) now).2
  | .control control => (session.handleControl control).2
  | .point point => (session.handlePoint point).2
  | .endOfClip => session.handleEndOfClip.2
  | .interrupt offset => (session.interrupt offset).2
  | .replace handlers player => { session with handlers, player }

/-- A run after a command, in checked arithmetic. -/
def obey? (film : Film δ) (session : Session δ) : Command δ → Option (Session δ)
  | .update clips now => (session.update? (film.restock clips) now).map Prod.snd
  | .control control => (session.handleControl? film control).map Prod.snd
  | .point point => (session.handlePoint? film point).map Prod.snd
  | .endOfClip => (session.handleEndOfClip? film).map Prod.snd
  | .interrupt offset => (session.interrupt? film offset).map Prod.snd
  | .replace handlers player => some { session with handlers, player }

/-- A run after commands. -/
def obeyAll (film : Film δ) (session : Session δ) (commands : List (Command δ)) : Session δ :=
  commands.foldl (obey film) session

/-- A run after commands, in checked arithmetic. -/
def obeyAll? (film : Film δ) (session : Session δ) (commands : List (Command δ)) :
    Option (Session δ) :=
  commands.foldlM (obey? film) session

section Commands

variable {film : Film δ} {session : Session δ} (hShort : film.graph.HasShortScripts)
include hShort

/-- A command never makes an index overflow, and it leaves a run that waits at an entry of its
script. -/
theorem obey?_eq_some (h : session.IsSited film) (command : Command δ) :
    session.obey? film command = some (session.obey film command) ∧
      (session.obey film command).IsSited film := by
  cases command with
  | update clips now =>
    have hRestocked : (film.restock clips).graph.HasShortScripts := hShort
    obtain ⟨hWalk, hWalked⟩ := walk?_eq_some hRestocked h now
      film.config.maxStepsPerTick.toNat film.config.maxStepsPerTick.toNat
    exact ⟨congrArg (Option.map Prod.snd) hWalk, hWalked⟩
  | control control =>
    exact follow?_asked_eq_some hShort h
      (session.handlers.dispatchControl control session.context).1
      (session.handlers.dispatchControl control session.context).2
  | point point =>
    exact follow?_asked_eq_some hShort h
      (session.handlers.dispatchPoint point session.context).1
      (session.handlers.dispatchPoint point session.context).2
  | endOfClip =>
    exact follow?_asked_eq_some hShort h
      (session.handlers.dispatchEndOfClip session.context).1
      (session.handlers.dispatchEndOfClip session.context).2
  | interrupt offset =>
    obtain ⟨hMove, hMoved⟩ := interrupt?_eq_some hShort h offset
    exact ⟨congrArg (Option.map Prod.snd) hMove, hMoved⟩
  | replace handlers player => exact ⟨rfl, h⟩

theorem obeyAll?_eq_some (h : session.IsSited film) (commands : List (Command δ)) :
    session.obeyAll? film commands = some (session.obeyAll film commands) ∧
      (session.obeyAll film commands).IsSited film := by
  induction commands generalizing session with
  | nil => exact ⟨rfl, h⟩
  | cons command commands ih =>
    obtain ⟨hStep, hSited⟩ := obey?_eq_some hShort h command
    obtain ⟨hRest, hLast⟩ := ih hSited
    refine ⟨?_, hLast⟩
    rw [obeyAll?, List.foldlM_cons, hStep]
    exact hRest

end Commands

/-- **No jump of a run overflows.**  Let no script of a film have more than 2 to the power of 62
entries.  Wherever a run begins, also at no entry at all, and whatever it is asked for in whatever
order, with whatever offsets, clips, handlers and player: whenever an offset is added to an index,
the index is that of an entry and the sum is a word, so the run in checked arithmetic is the run.
And while the run waits, its pointer names an entry. -/
theorem jumps_in_range (film : Film δ) (hShort : film.graph.HasShortScripts)
    (pointer : NodePointer) (commands : List (Command δ)) :
    (start pointer).obeyAll? film commands = some ((start pointer).obeyAll film commands) ∧
      (((start pointer).obeyAll film commands).state = .awaitingEvent →
        ∃ entry, film.graph.lookup ((start pointer).obeyAll film commands).pointer = .ok entry) :=
  obeyAll?_eq_some hShort (.of_idle RunState.noConfusion) commands

/-- A film of one script is short when the script is. -/
theorem hasShortScripts_ofEntries {entries : List Entry}
    (h : entries.length ≤ 4611686018427387904) :
    (Film.ofEntries entries).graph.HasShortScripts := by
  intro key script hScript
  have hOnly : (Table.empty.insert (Asset.key "intro.nod")
      (Script.ofName "intro.nod" entries)).get? key = some script := hScript
  rw [Table.get?_insert] at hOnly
  split at hOnly
  · cases hOnly
    exact h
  · cases hOnly

/-- The greatest jump from a still frame leads out of the script, where nothing moves the run any
more. -/
theorem jumps_in_range_of_still_frame :
    let film := Film.ofEntries [.plain 2 "intro.mov" 7 0]
    let clips := ({} : SyntheticProfile).library .ok
    let commands : List (Command SyntheticDecoder) :=
      [.update clips 0, .interrupt 2147483647, .update clips 40, .interrupt 2147483647]
    (start film.graph.start).obeyAll? film commands =
        some ((start film.graph.start).obeyAll film commands) ∧
      ((start film.graph.start).obeyAll film commands).pointer = ⟨"intro.nod", 2147483647⟩ := by
  intro film clips commands
  have hShort : film.graph.HasShortScripts := hasShortScripts_ofEntries (by decide)
  exact ⟨(jumps_in_range film hShort film.graph.start commands).1, by decide +kernel⟩

end Session
end BranchingMovie
