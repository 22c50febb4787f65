/-!
# Paths

A path is a text whose parts are separated by slashes. Empty parts and `.` parts say nothing,
except a `.` that starts a relative path. This file fixes

* `Path.names` -- the parts that are not empty;
* `Path.name?` -- the last part that says something, unless it is `..`;
* `Path.parent?` -- the text before the name;
* `Path.above?` -- the text before the last part that says something, whatever it is;
* `Path.withName` -- the path with its name exchanged; a path without one gets the name appended;
* `Path.stem?`, `Path.extension?` -- the name before and after its last dot, where a name that
  starts with its only dot has no extension.
-/

namespace Logworks.Disk

/-- A path, as the text it is written with. -/
structure Path where
  chars : List Char
  deriving DecidableEq, Repr

namespace Path

def ofString (s : String) : Path := ⟨s.toList⟩

def toString (p : Path) : String := String.ofList p.chars

instance : ToString Path := ⟨toString⟩

/-- The parts between slashes, at least one. -/
def partsOf : List Char → List (List Char)
  | [] => [[]]
  | c :: cs =>
    if c = '/' then [] :: partsOf cs
    else match partsOf cs with
      | [] => [[c]]
      | p :: ps => (c :: p) :: ps

def parts (p : Path) : List (List Char) := partsOf p.chars

def isAbsolute (p : Path) : Bool := p.chars.head? == some '/'

/-- The parts that are not empty. -/
def names (p : Path) : List (List Char) := p.parts.filter fun part => !part.isEmpty

/-- A path with a slash at its end. -/
def isSlashed (p : Path) : Bool := p.chars.getLast? == some '/'

/-- A part after the first that says nothing. -/
def isVoid (part : List Char) : Bool := part.isEmpty || part == ['.']

/-- The parts after the first, without the void ones at their end. -/
def dropVoidEnd : List (List Char) → List (List Char)
  | [] => []
  | p :: ps =>
    match dropVoidEnd ps with
    | [] => if isVoid p then [] else [p]
    | rest => p :: rest

/-- Parts joined by slashes. -/
def join : List (List Char) → List Char
  | [] => []
  | [p] => p
  | p :: ps => p ++ '/' :: join ps

/-- The text of a directory given by its parts: the root is a slash. -/
def directoryText : List (List Char) → List Char
  | [[]] => ['/']
  | ps => join ps

/-- The text before the name, and the name. -/
def splitName? (p : Path) : Option (List Char × List Char) :=
  match p.parts with
  | [] => none
  | first :: rest =>
    match (dropVoidEnd rest).getLast? with
    | none =>
      if first.isEmpty || first == ['.'] || first == ['.', '.'] then none else some ([], first)
    | some name =>
      if name == ['.', '.'] then none
      else some (directoryText (first :: dropVoidEnd (dropVoidEnd rest).dropLast), name)

def name? (p : Path) : Option (List Char) := p.splitName?.map (·.2)

def parent? (p : Path) : Option Path := p.splitName?.map fun q => ⟨q.1⟩

/-- The path before the last part that says something. The top has none, nor has the empty path. -/
def above? (p : Path) : Option Path :=
  match p.parts with
  | [] => none
  | first :: rest =>
    match dropVoidEnd rest with
    | [] => if first.isEmpty then none else some ⟨[]⟩
    | rest => some ⟨directoryText (first :: dropVoidEnd rest.dropLast)⟩

/-- A name put behind a directory's text. -/
def append (directory name : List Char) : List Char :=
  match directory.getLast? with
  | none => name
  | some '/' => directory ++ name
  | some _ => directory ++ '/' :: name

def withName (p : Path) (name : List Char) : Path :=
  match p.splitName? with
  | some (directory, _) => ⟨append directory name⟩
  | none => ⟨append p.chars name⟩

/-- `p` with a text put behind it. -/
def withSuffix (p : Path) (suffix : String) : Path := ⟨p.chars ++ suffix.toList⟩

/-- A relative path as seen from a directory; an absolute one stands for itself. -/
def under (directory p : Path) : Path :=
  if p.isAbsolute then p else ⟨append directory.chars p.chars⟩

/-! ## Stem and extension -/

/-- A text split at its last dot. -/
def splitLastDot? : List Char → Option (List Char × List Char)
  | [] => none
  | c :: cs =>
    match splitLastDot? cs with
    | some (a, b) => some (c :: a, b)
    | none => if c = '.' then some ([], cs) else none

/-- A name before and after its last dot; a dot that starts the name does not count. -/
def stemAndExtension (name : List Char) : List Char × Option (List Char) :=
  if name == ['.', '.'] then (name, none)
  else match splitLastDot? name with
    | none => (name, none)
    | some ([], _) => (name, none)
    | some (stem, ext) => (stem, some ext)

def stem? (p : Path) : Option (List Char) := p.name?.map fun n => (stemAndExtension n).1

def extension? (p : Path) : Option (List Char) := p.name?.bind fun n => (stemAndExtension n).2

end Path

end Logworks.Disk
