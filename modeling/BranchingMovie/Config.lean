import BranchingMovie.Asset.Key

/-!
# Settings

Where a run starts, which names are scripts, which script is the gate, how click maps are named, and
how many entries one tick may walk through.
-/

namespace BranchingMovie

/-- The settings of a run. -/
structure Config where
  /-- The script that the run starts in. -/
  startScript : String := "encountr.nod"
  /-- The entry of that script that the run starts at. -/
  startIndex : UInt64 := 0
  /-- The script that ends a run that switches to it, and that is never loaded by reference. -/
  gateScript : String := "gate.nod"
  /-- The end of every name that is a script. -/
  scriptSuffix : String := ".nod"
  /-- The end of the name of a click map. -/
  hotZoneSuffix : String := ".hot"
  /-- The number of entries that one tick may walk through. -/
  maxStepsPerTick : UInt64 := 4096
  deriving DecidableEq, Repr

namespace Config

/-- The name is that of a script: it ends in the script suffix, in any case of its ASCII letters. -/
def isScriptName (config : Config) (name : String) : Bool :=
  (Text.lowerAscii config.scriptSuffix.toList).isSuffixOf (Text.lowerAscii name.toList)

/-- The name is that of the gate: its key is the configured name in small letters.  The configured
name itself is taken as it stands, with its folders and blanks. -/
def isGate (config : Config) (name : String) : Bool :=
  Asset.keyChars name.toList == Text.lowerAscii config.gateScript.toList

/-- The name of the click map of a clip: what stands in front of the last dot of its name, if
anything, and the suffix of click maps. -/
def hotZoneName (config : Config) (clip : String) : String :=
  let stem :=
    match Text.cutLast '.' clip.toList with
    | some (c :: stem, _) => c :: stem
    | _ => clip.toList
  String.ofList (stem ++ config.hotZoneSuffix.toList)

end Config
end BranchingMovie
