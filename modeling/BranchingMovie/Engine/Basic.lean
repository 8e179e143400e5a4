import BranchingMovie.Engine.InputQueue
import BranchingMovie.Engine.Walk

/-!
# The engine

A tick delivers the input that has come in, brings the picture up to the time, which may end a clip,
and lets the run walk on.  Input is judged on the picture of the tick before.
-/

namespace BranchingMovie

/-- A film, its run, and the input that waits for it. -/
structure Engine (δ : Type) where
  film : Film δ
  session : Session δ
  input : InputQueue := {}

/-- Where a run stands after a tick. -/
structure TickReport where
  pointer : NodePointer
  state : RunState
  clip : Option String
  frame : Option Int32
  deriving DecidableEq, Repr

namespace Session

variable {δ : Type}

/-- Where a run stands. -/
def report (session : Session δ) : TickReport :=
  ⟨session.pointer, session.state, session.player.clipName, session.player.currentFrame⟩

/-- Offers events to the handlers, one after the other. -/
def deliver (session : Session δ) (events : List InputEvent) : Session δ :=
  events.foldl (fun session event => (session.handle event).2) session

/-- Brings the picture up to the time, and offers the end of a clip to the handlers. -/
def updateFrame [Decoder δ] (session : Session δ) (now : UInt64) :
    Except EngineError Unit × Session δ :=
  match session.player.updateFrame now with
  | (.error fault, player) => (.error (.playback fault), { session with player })
  | (.ok none, player) => (.ok (), { session with player })
  | (.ok (some _), player) => (.ok (), ({ session with player }.handleEndOfClip).2)

/-- One tick of a run. -/
def tick [Decoder δ] (film : Film δ) (now : UInt64) (session : Session δ)
    (events : List InputEvent) : Except EngineError TickReport × Session δ :=
  match (session.deliver events).updateFrame now with
  | (.error fault, session) => (.error fault, session)
  | (.ok (), session) =>
    match session.update film now with
    | (.error fault, session) => (.error fault, session)
    | (.ok (), session) => (.ok session.report, session)

end Session

namespace Engine

variable {δ : Type}

/-- The engine at the start of a film. -/
def ofFilm (film : Film δ) : Engine δ :=
  { film, session := .start film.graph.start }

/-- Loads the scripts and click maps of a film, with the warnings about them. -/
def load (config : Config) (store : AssetStore) (clips : ClipLibrary δ) :
    Except LoadError (Engine δ) × List String :=
  match NodeGraph.load config store with
  | .error fault => (.error fault, [])
  | .ok graph =>
    let (outcome, warnings) := HotZoneCatalog.load config store graph
    (outcome.map fun catalog => ofFilm { graph, catalog, config, clips }, warnings)

/-- Takes input for the next tick. -/
def pushInput (engine : Engine δ) (event : InputEvent) : Engine δ :=
  { engine with input := engine.input.push event }

/-- One tick at the time `now`. -/
def tick [Decoder δ] (engine : Engine δ) (now : UInt64) :
    Except EngineError TickReport × Engine δ :=
  let (events, input) := engine.input.drain
  let (outcome, session) := engine.session.tick engine.film now events
  (outcome, { engine with session, input })

end Engine
end BranchingMovie
