/-!
# JSON values

Documents as values.  Members of an object keep their order.  A number keeps its text, because what
it may be read as depends on who asks, and so does a string that holds half of a surrogate pair,
which is no text but may stand in a document.
-/

namespace BranchingMovie

/-- A JSON document. -/
inductive Json where
  | null
  | bool (value : Bool)
  /-- A number as it is written. -/
  | number (text : String)
  /-- A string; `none` for one with half of a surrogate pair in it. -/
  | string (text : Option String)
  | array (items : List Json)
  | object (members : List (Option String × Json))

namespace Json

/-- A string that is text. -/
def text (s : String) : Json :=
  string (some s)

/-- An object with its members by name. -/
def record (members : List (String × Json)) : Json :=
  object (members.map fun member => (some member.1, member.2))

end Json
end BranchingMovie
