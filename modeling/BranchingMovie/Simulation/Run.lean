import BranchingMovie.Simulation.TimedInput
import BranchingMovie.Simulation.Transcript

/-!
# Simulated runs

A run is driven without a display: one tick at time zero and one after each span of `tickMs`
milliseconds, the last one at the end of the duration, unless the run is over before, or a tick
fails, or an overflow stops the program.  Input is delivered in front of the first tick that is not
before its time.
-/

namespace BranchingMovie

namespace Simulation

/-! ## Ticks -/

/-- The time of the tick after the one at `now`.  The end of the duration caps the sum, and does not
keep it from overflowing. -/
def nextTick (tickMs durationMs now : UInt64) : Except Overflow UInt64 :=
  Overflow.guard (Overflow.ofSum? now tickMs) (min (now + tickMs) durationMs)

theorem nextTick_bounds {tickMs durationMs now next : UInt64} (hTick : 0 < tickMs)
    (hNow : now < durationMs) (h : nextTick tickMs durationMs now = .ok next) :
    now < next ∧ next ≤ durationMs := by
  obtain ⟨hFits, rfl⟩ := Overflow.guard_eq_ok_iff.1 h
  have hSum := Overflow.toNat_add_of_ofSum? hFits
  have hZero : (0 : UInt64).toNat = 0 := rfl
  have hMin : (min (now + tickMs) durationMs).toNat =
      min (now + tickMs).toNat durationMs.toNat := by
    simp only [min]
    simp only [UInt64.le_iff_toNat_le]
    split <;> rfl
  rw [UInt64.lt_iff_toNat_lt] at hTick hNow ⊢
  rw [UInt64.le_iff_toNat_le]
  omega

/-- The input in the order of its times; input of one time keeps its order. -/
def schedule (inputs : List TimedInput) : List TimedInput :=
  inputs.mergeSort fun a b => a.atMs ≤ b.atMs

/-- The run stands elsewhere, or does something else, than before. -/
def hasMoved (last : Option (NodePointer × RunState)) (report : TickReport) : Bool :=
  last != some (report.pointer, report.state)

variable {δ : Type} [Decoder δ]

/-- A tick, unless an overflow in it stops the program.  Nothing but the start of a play can
overflow, and a play that starts in a tick is on when the tick is over. -/
def tick (engine : Engine δ) (now : UInt64) :
    Except Overflow (Except EngineError TickReport × Engine δ) :=
  let (outcome, engine) := engine.tick now
  Overflow.guard engine.session.player.overflow? (outcome, engine)

/-- Runs on from the tick at `now`, with the input `pending` in the order of its times and the
transcript so far. -/
def runFrom (tickMs durationMs : UInt64) (hTick : 0 < tickMs) (engine : Engine δ)
    (pending : List TimedInput) (last : Option (NodePointer × RunState))
    (entries : Array TranscriptEntry) (now : UInt64) :
    Except Overflow (Except EngineError Transcript × Engine δ) :=
  let due := pending.takeWhile fun input => input.atMs ≤ now
  let engine := due.foldl (fun engine input => engine.pushInput input.event) engine
  let entries := due.foldl (fun entries input => entries.push (.input now input.event)) entries
  match tick engine now with
  | .error overflow => .error overflow
  | .ok (.error fault, engine) => .ok (.error fault, engine)
  | .ok (.ok report, engine) =>
    let entries := if hasMoved last report then entries.push (.node now report) else entries
    match report.state with
    | .finished ending => .ok (.ok ⟨entries, some ending, now⟩, engine)
    | _ =>
      if _hNow : now < durationMs then
        match _hNext : nextTick tickMs durationMs now with
        | .error overflow => .error overflow
        | .ok next =>
          runFrom tickMs durationMs hTick engine
            (pending.dropWhile fun input => input.atMs ≤ now)
            (some (report.pointer, report.state)) entries next
      else .ok (.ok ⟨entries, none, now⟩, engine)
termination_by durationMs.toNat - now.toNat
decreasing_by
  have h := nextTick_bounds hTick _hNow _hNext
  rw [UInt64.lt_iff_toNat_lt, UInt64.le_iff_toNat_le] at h
  omega

/-- The length of a tick, which is at least one millisecond. -/
def tickLength (tickMs : UInt64) : UInt64 :=
  if tickMs = 0 then 1 else tickMs

theorem tickLength_pos (tickMs : UInt64) : 0 < tickLength tickMs := by
  unfold tickLength
  split
  · decide
  · rename_i h
    exact UInt64.pos_iff_ne_zero.2 h

end Simulation

/-- Drives an engine from time zero for `durationMs` milliseconds or to the end of the run.  A run
that comes to its end leaves the engine, with a transcript or with the failure of a tick; one that
an overflow stops leaves nothing. -/
def simulate {δ : Type} [Decoder δ] (engine : Engine δ) (inputs : List TimedInput)
    (durationMs tickMs : UInt64) : Except Overflow (Except EngineError Transcript × Engine δ) :=
  Simulation.runFrom (Simulation.tickLength tickMs) durationMs (Simulation.tickLength_pos tickMs)
    engine (Simulation.schedule inputs) none #[] 0

end BranchingMovie
