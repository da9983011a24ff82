/-
Paths, and the places they lead to.

A path is kept as it is written, byte by byte.  Its steps are the pieces between slashes that are
not empty.  From a directory a step leads to a place: a single dot stays, two dots lead to the
directory above, and every other step is the name of an entry.  A place is told by the names of the
entries that lead to it from the root.

* `steps` and `next` — the steps of a path, and where one of them leads;
* `endsInName` — whether a path ends in the name of an entry;
* `parent` — the path of the directory that holds what a path names;
* `join` — the path of a name inside a directory.
-/
import StateOverlay.Text.Bytes

namespace StateOverlay

/-- A path, as it is written. -/
abbrev Path := Bytes

/-- A place in a tree, by the names that lead to it from the root. -/
abbrev Place := List Bytes

namespace Path

/-- What stands between the steps of a path. -/
def slash : UInt8 := '/'.toUInt8

/-- The step that stays where it is. -/
def dot : Bytes := Text.bytes ['.']

/-- The step that leads to the directory above. -/
def dotDot : Bytes := Text.bytes ['.', '.']

/-- The pieces of a path between slashes, the empty ones left out. -/
def steps (path : Path) : List Bytes := (path.splitOn slash).filter (!·.isEmpty)

/-- The place that a step leads to from the directory at a place.  Above the root there is nothing,
and two dots stay there. -/
def next (place : Place) (step : Bytes) : Place :=
  if step = dot then place
  else if step = dotDot then place.dropLast
  else place ++ [step]

/-- Whether a path begins at the root. -/
def isAbsolute (path : Path) : Bool := path.head? = some slash

/-- Whether a path ends in a slash, and so means a directory. -/
def endsInSlash (path : Path) : Bool := path.getLast? = some slash

/-- Whether a path ends in the name of an entry, so that it can be the path of a file. -/
def endsInName (path : Path) : Bool :=
  !endsInSlash path && (steps path).getLast?.any fun step => step != dot && step != dotDot

/-- Some pieces of a path without those at their end that lead nowhere. -/
def dropIdle (pieces : List Bytes) : List Bytes :=
  (pieces.reverse.dropWhile fun piece => piece.isEmpty || piece == dot).reverse

/-- The path of the directory that holds what a path names.  It is empty for a path of one step and
for the empty path; a dot counts as a name only where a path begins with it. -/
def parent (path : Path) : Path :=
  match path.splitOn slash with
  | [] => []
  | first :: rest =>
    -- a first piece that is empty stands for the root, and a dot there is kept
    match dropIdle rest with
    | [] => []
    | named =>
      let directory := [slash].intercalate (first :: dropIdle named.dropLast)
      if directory.isEmpty then [slash] else directory

/-- The path of a name inside a directory; a name that begins with a slash stands for itself. -/
def join (directory : Path) (name : Bytes) : Path :=
  if directory.isEmpty || isAbsolute name then name
  else if endsInSlash directory then directory ++ name
  else directory ++ [slash] ++ name

end Path

end StateOverlay
