import BranchingMovie.Simulation.TimedInput

/-!
# Arguments

The options of the command line.  An option with a value takes it from behind an equals sign or from
the next argument, which must not look like an option; all but two may be given once.
-/

namespace BranchingMovie.CommandLine

/-! ## Options -/

/-- What the arguments ask for. -/
structure Arguments where
  dataRoots : List String := []
  config : Option String := none
  start : Option String := none
  startIndex : Option UInt64 := none
  dumpGraph : Option String := none
  simulate : Bool := false
  inputs : List TimedInput := []
  durationMs : Option UInt64 := none
  tickMs : Option UInt64 := none
  transcriptJson : Option String := none
  deriving DecidableEq, Repr

namespace Arguments

/-- The folders to search, `data` unless some are given. -/
def roots (arguments : Arguments) : List String :=
  if arguments.dataRoots.isEmpty then ["data"] else arguments.dataRoots

/-- The length of a simulated run. -/
def duration (arguments : Arguments) : UInt64 :=
  arguments.durationMs.getD 60000

/-- The length of a tick of a simulated run. -/
def tick (arguments : Arguments) : UInt64 :=
  arguments.tickMs.getD 33

end Arguments

/-- What the arguments come to. -/
inductive Request where
  | run (arguments : Arguments)
  | version
  | help
  /-- The arguments cannot be understood. -/
  | misuse
  deriving DecidableEq, Repr

/-- An option with a value. -/
inductive ValueOption where
  | dataRoot
  | config
  | start
  | startIndex
  | dumpGraph
  | input
  | durationMs
  | tickMs
  | transcriptJson
  deriving DecidableEq, Repr

/-- An option, by what it wants. -/
inductive OptionKind where
  | value (option : ValueOption)
  | simulate
  | help
  | version
  deriving DecidableEq, Repr

/-- The option of a long name. -/
def optionOf? (name : String) : Option OptionKind :=
  match name with
  | "data-root" => some (.value .dataRoot)
  | "config" => some (.value .config)
  | "start" => some (.value .start)
  | "start-index" => some (.value .startIndex)
  | "dump-graph" => some (.value .dumpGraph)
  | "input" => some (.value .input)
  | "duration-ms" => some (.value .durationMs)
  | "tick-ms" => some (.value .tickMs)
  | "transcript-json" => some (.value .transcriptJson)
  | "simulate" => some .simulate
  | "help" => some .help
  | "version" => some .version
  | _ => none

/-! ## Values -/

/-- A path, which must not be empty. -/
def pathOf? (value : String) : Option String :=
  if value.isEmpty then none else some value

/-- Sets what may be given once. -/
def once {α : Type} (old new : Option α) (set : Option α → Arguments) : Option Arguments :=
  match old, new with
  | none, some value => some (set (some value))
  | _, _ => none

/-- The arguments with the value of an option, if it can be read and the option may be given
(again). -/
def Arguments.set (arguments : Arguments) (value : String) : ValueOption → Option Arguments
  | .dataRoot =>
    (pathOf? value).map fun path => { arguments with dataRoots := arguments.dataRoots ++ [path] }
  | .input =>
    (TimedInput.read value).toOption.map fun input =>
      { arguments with inputs := arguments.inputs ++ [input] }
  | .config => once arguments.config (pathOf? value) fun v => { arguments with config := v }
  | .start => once arguments.start (some value) fun v => { arguments with start := v }
  | .startIndex =>
    once arguments.startIndex (Numeral.readUInt64 value.toList).toOption fun v =>
      { arguments with startIndex := v }
  | .dumpGraph =>
    once arguments.dumpGraph (pathOf? value) fun v => { arguments with dumpGraph := v }
  | .durationMs =>
    once arguments.durationMs (Numeral.readUInt64 value.toList).toOption fun v =>
      { arguments with durationMs := v }
  | .tickMs =>
    once arguments.tickMs (Numeral.readUInt64 value.toList).toOption fun v =>
      { arguments with tickMs := v }
  | .transcriptJson =>
    once arguments.transcriptJson (pathOf? value) fun v => { arguments with transcriptJson := v }

/-! ## Reading -/

/-- The shape of an argument. -/
inductive Shape where
  /-- Two hyphens and nothing else: no options follow. -/
  | endOfOptions
  | long (name : String) (value : Option String)
  | short (letters : List Char)
  | plain
  deriving DecidableEq, Repr

/-- The shape of an argument.  A hyphen alone is a plain one. -/
def shapeOf (argument : String) : Shape :=
  match argument.toList with
  | ['-', '-'] => .endOfOptions
  | '-' :: '-' :: option =>
    match Text.cutFirst '=' option with
    | some (name, value) => .long (String.ofList name) (some (String.ofList value))
    | none => .long (String.ofList option) none
  | '-' :: letter :: letters => .short (letter :: letters)
  | _ => .plain

/-- What short options come to: the first of them decides. -/
def ofLetters : List Char → Request
  | 'h' :: _ => .help
  | 'V' :: _ => .version
  | _ => .misuse

/-- Reads arguments behind those that came to `arguments`. -/
def readFrom (arguments : Arguments) : List String → Request
  | [] => .run arguments
  | argument :: rest =>
    match shapeOf argument with
    | .plain => .misuse
    | .endOfOptions => if rest.isEmpty then .run arguments else .misuse
    | .short letters => ofLetters letters
    | .long name value =>
      match optionOf? name, value with
      | none, _ => .misuse
      | some .help, none => .help
      | some .version, none => .version
      | some .simulate, none =>
        if arguments.simulate then .misuse else readFrom { arguments with simulate := true } rest
      | some (.value option), some value =>
        match arguments.set value option with
        | none => .misuse
        | some arguments => readFrom arguments rest
      | some (.value option), none =>
        match rest with
        | [] => .misuse
        | value :: rest =>
          if shapeOf value = .plain then
            match arguments.set value option with
            | none => .misuse
            | some arguments => readFrom arguments rest
          else .misuse
      | some _, some _ => .misuse

/-- Reads the arguments of the program. -/
def read (arguments : List String) : Request :=
  readFrom {} arguments

/-! ## Commands -/

/-- What options do not go together. -/
inductive Misfit where
  | inputWithoutSimulate
  | transcriptWithoutSimulate
  | zeroTick
  deriving DecidableEq, Repr

/-- The wording of a misfit. -/
def Misfit.message : Misfit → String
  | inputWithoutSimulate => "--input requires --simulate"
  | transcriptWithoutSimulate => "--transcript-json requires --simulate"
  | zeroTick => "--tick-ms must be at least 1"

/-- The first misfit among the arguments. -/
def Arguments.misfit? (arguments : Arguments) : Option Misfit :=
  if !arguments.simulate && !arguments.inputs.isEmpty then some .inputWithoutSimulate
  else if !arguments.simulate && arguments.transcriptJson.isSome then
    some .transcriptWithoutSimulate
  else if arguments.tick = 0 then some .zeroTick
  else none

end BranchingMovie.CommandLine
