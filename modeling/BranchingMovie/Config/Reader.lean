import BranchingMovie.Asset.FileTree
import BranchingMovie.Config
import BranchingMovie.Json.Reader
import BranchingMovie.Text.Utf8

/-!
# Reading settings

Settings are read from a JSON document: an object that names some of them, or an array that lists
the first of them in order.  What is not given keeps its default.  An object may have members that
are no settings, but no setting twice.
-/

namespace BranchingMovie

/-! ## Refusals -/

/-- Why settings cannot be read. -/
inductive ConfigFault where
  | unreadable (path : String) (cause : IoFault)
  | malformed (path : String)
  deriving DecidableEq, Repr

/-- The wording of a refusal. -/
def ConfigFault.message : ConfigFault → String
  | unreadable path _ => s!"reading engine config {path}"
  | malformed path => s!"parsing engine config {path}"

/-- The wordings of the causes of a refusal. -/
def ConfigFault.causes : ConfigFault → List String
  | unreadable _ cause => [cause.message]
  | malformed _ => []

namespace Config

/-! ## Settings one by one -/

/-- The name of a setting in documents. -/
inductive Setting where
  | startScript
  | startIndex
  | gateScript
  | scriptSuffix
  | hotZoneSuffix
  | maxStepsPerTick
  deriving DecidableEq, Repr

/-- All settings, in the order of their declaration. -/
def Setting.all : List Setting :=
  [startScript, startIndex, gateScript, scriptSuffix, hotZoneSuffix, maxStepsPerTick]

/-- The name of a setting in a document. -/
def Setting.name : Setting → String
  | startScript => "start_script"
  | startIndex => "start_index"
  | gateScript => "gate_script"
  | scriptSuffix => "script_suffix"
  | hotZoneSuffix => "hotzone_suffix"
  | maxStepsPerTick => "max_steps_per_tick"

/-- The setting of a name. -/
def Setting.ofName? (name : String) : Option Setting :=
  all.find? fun setting => setting.name == name

/-- The text in a document. -/
def textIn : Json → Option String
  | .string text => text
  | _ => none

/-- The whole number of 64 bits in a document, written without sign, point and exponent. -/
def wordIn : Json → Option UInt64
  | .number text =>
    if text.toList.all fun c => (Numeral.digit? c).isSome then
      (Numeral.readUInt64 text.toList).toOption
    else none
  | _ => none

/-- The settings with one of them taken from a document. -/
def set (config : Config) (value : Json) : Setting → Option Config
  | .startScript => (textIn value).map fun s => { config with startScript := s }
  | .startIndex => (wordIn value).map fun n => { config with startIndex := n }
  | .gateScript => (textIn value).map fun s => { config with gateScript := s }
  | .scriptSuffix => (textIn value).map fun s => { config with scriptSuffix := s }
  | .hotZoneSuffix => (textIn value).map fun s => { config with hotZoneSuffix := s }
  | .maxStepsPerTick => (wordIn value).map fun n => { config with maxStepsPerTick := n }

/-! ## Documents -/

/-- Takes settings from the members of an object, none of those in `seen` again. -/
def ofMembers (seen : List Setting) (config : Config) :
    List (Option String × Json) → Option Config
  | [] => some config
  | (none, _) :: _ => none
  | (some name, value) :: members =>
    match Setting.ofName? name with
    | none => ofMembers seen config members
    | some setting =>
      if setting ∈ seen then none
      else (config.set value setting).bind fun config => ofMembers (setting :: seen) config members

/-- Takes the settings from the items of an array, as far as there are any. -/
def ofItems (config : Config) : List Setting → List Json → Option Config
  | _, [] => some config
  | [], _ :: _ => none
  | setting :: settings, value :: values =>
    (config.set value setting).bind fun config => ofItems config settings values

/-- The settings in a document. -/
def ofJson : Json → Option Config
  | .object members => ofMembers [] {} members
  | .array items => ofItems {} Setting.all items
  | _ => none

/-- Reads the settings in the bytes of the file at a path. -/
def read (path : String) (content : Except IoFault (List UInt8)) : Except ConfigFault Config :=
  match content with
  | .error cause => .error (.unreadable path cause)
  | .ok bytes =>
    match Text.Utf8.decode? bytes with
    | none => .error (.unreadable path .notText)
    | some text =>
      match (Json.read? text).bind ofJson with
      | none => .error (.malformed path)
      | some config => .ok config

end Config
end BranchingMovie
