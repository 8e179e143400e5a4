import BranchingMovie.CommandLine.Arguments
import BranchingMovie.CommandLine.Report
import BranchingMovie.Config.Reader
import BranchingMovie.Document
import BranchingMovie.Playback.Synthetic
import BranchingMovie.Simulation.Run

/-!
# The program

The program indexes the data folders, loads the scripts, and either prints what it found or runs the
film with synthetic clips and prints a transcript.  It reaches files and output through a host, so
that it runs on a file tree in memory just as it runs on a disc.
-/

namespace BranchingMovie.CommandLine

/-! ## Hosts -/

/-- Access to files and output. -/
class Host (m : Type → Type) where
  /-- The bytes of a file. -/
  readFile : String → m (Except IoFault (List UInt8))
  /-- The folder at a path with all that is below it, if there is one.  Its files may be empty
  there: they are read by their paths. -/
  readFolder : String → m (Option FileTree)
  /-- The path names a folder. -/
  isFolder : String → m Bool
  /-- Makes one folder, in a folder that is there. -/
  makeFolder : String → m (Except IoFault Unit)
  /-- Writes a text file. -/
  writeFile : String → String → m (Except IoFault Unit)
  /-- Prints a line. -/
  putLine : String → m Unit
  /-- Prints a line of a failure report. -/
  putErrorLine : String → m Unit

variable {m : Type → Type} [Monad m] [Host m]

/-- Prints lines. -/
def putLines (lines : List String) : ExceptT Abort m Unit :=
  lines.forM fun line => ExceptT.lift (Host.putLine line)

/-- Fails with an account of where the failure arose, if there is one. -/
def within {ε α : Type} (account : String) (causesOf : ε → List String) :
    Except ε α → ExceptT Abort m α
  | .ok a => pure a
  | .error fault => throw (.failed ⟨account, causesOf fault⟩)

/-! ## Loading -/

/-- Reads the settings, and replaces those that the arguments give. -/
def readConfig (arguments : Arguments) : ExceptT Abort m Config := do
  let config ←
    match arguments.config with
    | none => pure {}
    | some path =>
      match Config.read path (← ExceptT.lift (Host.readFile path)) with
      | .ok config => pure config
      | .error fault => throw (.failed ⟨fault.message, fault.causes⟩)
  return { config with
    startScript := arguments.start.getD config.startScript
    startIndex := arguments.startIndex.getD config.startIndex }

/-- Indexes the data folders, prints the number of files and reads them. -/
def openStore (arguments : Arguments) : ExceptT Abort m AssetStore := do
  let roots ← arguments.roots.mapM fun root => do
    return (root, ← ExceptT.lift (Host.readFolder root))
  let data ← within "scanning data directories" (fun fault => [fault.message])
    (DataDir.ofRoots roots).1
  putLines [s!"Indexed {data.size} data file(s)"]
  let contents ← data.files.mapM fun (_, path) => do
    return (path, ← ExceptT.lift (Host.readFile path))
  return .ofContents data contents

/-! ## Documents -/

/-- Makes light of a refusal to make a folder that is there. -/
def unlessFolder (path : String) (outcome : Except IoFault Unit) : m (Except IoFault Unit) := do
  match outcome with
  | .ok () => return .ok ()
  | .error fault => if ← Host.isFolder path then return .ok () else return .error fault

/-- Makes a folder, and before it those on the way to it when they are missing.  What was made stays
when a later one is refused. -/
def makeFolders (path : String) : m (Except IoFault Unit) := do
  if path.isEmpty then return .ok ()
  match ← Host.makeFolder path with
  | .error .notFound =>
    if _h : (Path.parent path).length < path.length then
      match ← makeFolders (Path.parent path) with
      | .error fault => return .error fault
      | .ok () => unlessFolder path (← Host.makeFolder path)
    else return .error .notFound
  | outcome => unlessFolder path outcome
termination_by path.length

/-- Writes a document, and makes the folder for it. -/
def writeDocument (path : String) (document : Json) : ExceptT Abort m Unit := do
  let folder := Path.parent path
  if !folder.isEmpty then
    within s!"creating directory {folder}" (fun fault => [fault.message])
      (← ExceptT.lift (makeFolders folder))
  within s!"writing {path}" (fun fault => [fault.message])
    (← ExceptT.lift (Host.writeFile path document.pretty))

/-- Writes the graph where the arguments want it. -/
def dumpGraph (arguments : Arguments) (graph : NodeGraph) : ExceptT Abort m Unit := do
  if let some path := arguments.dumpGraph then
    writeDocument path graph.document
    putLines [s!"Graph written to {path}"]

/-! ## Commands -/

/-- The texts of a refusal to load. -/
def loadCauses (fault : LoadError) : List String :=
  fault.message :: fault.causes

/-- The texts of a failed run. -/
def runCauses (fault : EngineError) : List String :=
  fault.message :: fault.causes

/-- Goes on unless an overflow stops the program. -/
def unlessOverflow {α : Type} : Except Overflow α → ExceptT Abort m α
  | .ok a => pure a
  | .error overflow => throw (.stopped overflow)

/-- Prints what there is to know about the graph. -/
def inspect (arguments : Arguments) : ExceptT Abort m Unit := do
  let config ← readConfig arguments
  let store ← openStore arguments
  let graph ← within "loading script graph" loadCauses (NodeGraph.load config store)
  putLines (graphReport graph)
  dumpGraph arguments graph

/-- Runs the film and prints the transcript. -/
def runFilm (arguments : Arguments) : ExceptT Abort m Unit := do
  let config ← readConfig arguments
  let store ← openStore arguments
  let clips := ({} : SyntheticProfile).library store.data.locate
  let engine ← within "loading engine" loadCauses (Engine.load config store clips).1
  dumpGraph arguments engine.film.graph
  let (outcome, _) ← unlessOverflow
    (BranchingMovie.simulate engine arguments.inputs arguments.duration arguments.tick)
  let transcript ← within "running simulation" runCauses outcome
  putLines (transcriptReport transcript)
  if let some path := arguments.transcriptJson then
    writeDocument path transcript.document
    putLines [s!"Transcript written to {path}"]

/-- Carries out what the arguments ask for. -/
def execute (arguments : Arguments) : ExceptT Abort m Unit :=
  match arguments.misfit? with
  | some misfit => throw (.failed ⟨misfit.message, []⟩)
  | none => if arguments.simulate then runFilm arguments else inspect arguments

/-- The name and version of the program. -/
def versionLine : String := "daed_engine 0.1.0"

/-- How the program is called. -/
def usage : List String :=
  ["Usage: daed_engine [--data-root FOLDER]... [--config FILE] [--start SCRIPT]",
    "         [--start-index ENTRY] [--dump-graph FILE]",
    "         [--simulate [--input EVENT@MS]... [--duration-ms MS] [--tick-ms MS]",
    "          [--transcript-json FILE]]"]

/-- Runs the program and gives its exit code: 1 for a failure, 2 for arguments that cannot be
understood, 101 for an overflow.  The usage goes where failures go, so that the output holds results
only. -/
def program (arguments : List String) : m UInt32 :=
  match read arguments with
  | .misuse => do
    usage.forM Host.putErrorLine
    return 2
  | .help => do
    usage.forM Host.putErrorLine
    return 0
  | .version => do
    Host.putLine versionLine
    return 0
  | .run arguments => do
    match ← (execute arguments).run with
    | .ok () => return 0
    | .error abort =>
      abort.report.forM Host.putErrorLine
      return abort.exitCode

end BranchingMovie.CommandLine
