import BranchingMovie.Text.Fields

/-!
# Asset keys

Scripts, clips and click maps are named loosely: in any case, with the folders of another disc, with
blanks around the name.  The key of a name is what counts, and two names with one key are one asset.
-/

namespace BranchingMovie

namespace Asset

/-- The characters that separate the folders in a name. -/
def isSeparator (c : Char) : Bool :=
  c == '/' || c == '\\'

/-- The characters of the key of a name: its last path segment in small letters.  Blanks are trimmed
before the path is cut, so blanks behind a separator stay. -/
def keyChars (name : List Char) : List Char :=
  Text.lowerAscii ((Text.fields isSeparator (Text.trim name)).getLastD [])

/-- The key of a name. -/
def key (name : String) : String :=
  String.ofList (keyChars name.toList)

/-- No file has the key of the name. -/
structure NotFound where
  name : String
  deriving DecidableEq, Repr

/-- The wording of the refusal. -/
def NotFound.message (fault : NotFound) : String :=
  s!"required data file '{fault.name}' not found"

end Asset
end BranchingMovie
