import BranchingMovie.Asset.DataDir
import BranchingMovie.Config
import BranchingMovie.Control
import BranchingMovie.Graph.Basic
import BranchingMovie.HotZone.Reader
import BranchingMovie.Script.Reader

/-!
# Loading a script graph

The start script is loaded, and breadth first every script that an entry of a loaded script names,
whatever the entry does with the name.  The gate is never followed.  Each file is visited once, so
scripts that name each other do no harm.  The first script in this order that is missing, broken or
has conditions that cannot be honoured decides the refusal.
-/

namespace BranchingMovie

/-! ## Refusals -/

/-- What is wrong with the text of a file. -/
inductive FormatFault where
  | script (fault : ScriptFault)
  | hotZones (fault : HotFault)
  deriving DecidableEq, Repr

/-- The wording of what is wrong with a text. -/
def FormatFault.message : FormatFault → String
  | script fault => fault.message
  | hotZones fault => fault.message

/-- Why the content of a film cannot be loaded. -/
inductive LoadError where
  | missing (name : String) (cause : Asset.NotFound)
  | io (path : String) (cause : IoFault)
  | format (file : String) (cause : FormatFault)
  /-- An interactive entry has a condition whose code stands for no trigger. -/
  | unknownCondition (script : String) (index : Nat) (code : Int32)
  /-- An interactive entry lists a button twice. -/
  | duplicateCondition (script : String) (index : Nat) (trigger : Trigger)
  /-- The start script has no entry at the start index. -/
  | badStart (script : String) (index : UInt64)
  deriving DecidableEq, Repr

namespace LoadError

/-- The wording of a refusal. -/
def message : LoadError → String
  | missing name _ => s!"missing data file for '{name}'"
  | io path _ => s!"reading {path}"
  | format file _ => s!"parsing {file}"
  | unknownCondition script index code =>
    s!"{script}[{index}]: condition code {Numeral.writeInt code.toInt} is not a known trigger"
  | duplicateCondition script index trigger =>
    s!"{script}[{index}]: trigger '{trigger.name}' is listed more than once"
  | badStart script index =>
    s!"start pointer {script}[{index.toNat}] does not name a loaded entry"

/-- The wordings of the causes of a refusal, the nearest first. -/
def causes : LoadError → List String
  | missing _ cause => [cause.message]
  | io _ cause => [cause.message]
  | format _ cause => [cause.message]
  | _ => []

end LoadError

namespace AssetStore

/-- The bytes of the file that a name refers to. -/
def fetch (store : AssetStore) (name : String) : Except LoadError (List UInt8) :=
  match store.data.locate name with
  | .error cause => .error (.missing name cause)
  | .ok path => (store.read path).mapError (.io path)

end AssetStore

/-! ## Conditions -/

namespace Entry

/-- The run waits at the entry. -/
def isInteractive (entry : Entry) : Bool :=
  match Opcode.ofCode? entry.opcode with
  | some opcode => opcode.isInteractive
  | none => false

/-- Checks conditions in slot order, behind those that named the buttons `seen`: each code must
stand for a trigger, and no button may come twice. -/
def checkConditions (script : String) (index : Nat) (seen : List Control) :
    List Condition → Except LoadError Unit
  | [] => .ok ()
  | condition :: conditions =>
    match Trigger.ofCode? condition.code with
    | none => .error (.unknownCondition script index condition.code)
    | some .zone => checkConditions script index seen conditions
    | some (.control button) =>
      if button ∈ seen then .error (.duplicateCondition script index (.control button))
      else checkConditions script index (button :: seen) conditions

/-- Checks the conditions of an entry, if they count. -/
def validate (script : String) (entry : Entry) : Except LoadError Unit :=
  if entry.isInteractive then
    checkConditions script entry.index [] (entry.conditions.map (·.2))
  else .ok ()

end Entry

namespace Script

/-- Checks the conditions of all entries, in file order. -/
def validate (script : Script) : Except LoadError Unit :=
  script.entries.forM (Entry.validate script.name)

/-- The keys of the scripts that the entries name, the gate left out, in file order. -/
def references (config : Config) (script : Script) : List String :=
  (script.entries.filter fun entry =>
    config.isScriptName entry.name && !config.isGate entry.name).map (Asset.key ·.name)

/-- Loads and checks one script. -/
def load (store : AssetStore) (name : String) : Except LoadError Script := do
  let bytes ← store.fetch name
  let entries ← (Script.readBytes bytes).mapError fun fault => .format name (.script fault)
  let script := Script.ofName name entries
  script.validate
  return script

end Script

/-! ## The search -/

namespace NodeGraph

/-- Loads the scripts in `pending` and those that they lead to, breadth first.  `unvisited` holds
the keys of the files that were not visited yet; a name whose file is there and was visited is
passed over. -/
def loadFrom (config : Config) (store : AssetStore) (unvisited pending : List String) :
    Except LoadError (List Script) :=
  match pending with
  | [] => .ok []
  | name :: pending =>
    match store.data.locate name with
    | .error cause => .error (.missing name cause)
    | .ok _ =>
      if _h : Asset.key name ∈ unvisited then do
        let script ← Script.load store name
        let scripts ← loadFrom config store (unvisited.erase (Asset.key name))
          (pending ++ script.references config)
        return script :: scripts
      else loadFrom config store unvisited pending
termination_by (unvisited.length, pending.length)
decreasing_by
  · refine Prod.Lex.left _ _ ?_
    rw [List.length_erase_of_mem _h]
    have := List.length_pos_of_mem _h
    omega
  · exact Prod.Lex.right _ (Nat.lt_succ_self _)

/-- Loads every script that the start script leads to, and sets the start pointer. -/
def load (config : Config) (store : AssetStore) : Except LoadError NodeGraph := do
  let startKey := Asset.key config.startScript
  let scripts ← loadFrom config store (store.data.files.map (·.1)) [startKey]
  let start := NodePointer.ofName startKey config.startIndex.toInt64
  let graph := NodeGraph.ofScripts scripts start
  match graph.lookup start with
  | .ok _ => return graph
  | .error _ => throw (.badStart start.script config.startIndex)

end NodeGraph
end BranchingMovie
