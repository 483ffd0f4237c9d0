/-!
# Places inside a value

A path names one part of an argument or result: `out.author.name`, `out[1]`, `out.tags[]`.  The
steps are kept innermost first, so that going one level deeper is one `cons`; the text is only
made when an error needs it.
-/

namespace QueryWire

namespace Path

/-- One step from a value to a part of it. -/
inductive Step where
  /-- The field of a name. -/
  | field (name : String)
  /-- The element at a position of a tuple. -/
  | index (i : Nat)
  /-- Any element of an array or set. -/
  | element
deriving DecidableEq, Repr

/-- How a step is written behind the place it starts from. -/
def Step.text : Step → String
  | .field name => "." ++ name
  | .index i => "[" ++ toString i ++ "]"
  | .element => "[]"

end Path

/-- A place inside a value: the name of the whole, and the steps down to the part. -/
structure Path where
  /-- The name of the whole value. -/
  root : String
  /-- The steps, the last one first. -/
  steps : List Path.Step := []
deriving DecidableEq, Repr

namespace Path

/-- The place of an argument value. -/
def arguments : Path := ⟨"args", []⟩

/-- The place of a result value. -/
def result : Path := ⟨"out", []⟩

/-- One step further down. -/
def push (path : Path) (step : Step) : Path := ⟨path.root, step :: path.steps⟩

/-- The field `name` of the value at a place. -/
def field (path : Path) (name : String) : Path := path.push (.field name)

/-- The element at position `i` of the value at a place. -/
def index (path : Path) (i : Nat) : Path := path.push (.index i)

/-- An element of the array or set at a place. -/
def element (path : Path) : Path := path.push .element

/-- A place in writing. -/
def text (path : Path) : String :=
  path.root ++ String.join (path.steps.reverse.map Step.text)

end Path

end QueryWire
