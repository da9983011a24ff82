/-
A directory tree, as the runs of the library see it.

A tree is known through one view, `node?`: what stands at a place.  Reading, testing and writing a
path follow its steps through that view, and fail the way an operating system does: at the first
place on the way that is missing or is no directory.  Files have one name, and there are no links.

* `follow`, `resolve` — where the steps of a path lead, upwards too, and where they end;
* `read`, `isThere`, `write` — what a run asks of a tree;
* `put`, `remove` — making and clearing entries, with the directories on the way;
* `node?_set` — setting an entry changes the view there and nowhere else.
-/
import StateOverlay.Files.Path

namespace StateOverlay

/-- Why a file cannot be read or written. -/
inductive FileFault where
  | notFound
  | notDirectory
  | isDirectory
  /-- A name of the path, or the path itself, is longer than a file system takes. -/
  | nameTooLong
  /-- The path holds a character that no name can hold. -/
  | zeroInPath
  /-- The file is not valid UTF-8. -/
  | notText
  /-- Any other reason, in the words of the operating system. -/
  | other (reason : Text)
deriving DecidableEq

/-- The text of a fault. -/
def FileFault.message : FileFault → Text
  | .notFound => "No such file or directory (os error 2)".toList
  | .notDirectory => "Not a directory (os error 20)".toList
  | .isDirectory => "Is a directory (os error 21)".toList
  | .nameTooLong => "File name too long (os error 36)".toList
  | .zeroInPath => "file name contained an unexpected NUL byte".toList
  | .notText => "stream did not contain valid UTF-8".toList
  | .other reason => reason

/-- What a file holds: a text, or bytes that are not valid UTF-8. -/
inductive Content where
  | text (s : Text)
  | bytes (bytes : Bytes)
deriving DecidableEq

/-- The content of a file of given bytes. -/
def Content.ofBytes (bytes : Bytes) : Content :=
  match Bytes.text? bytes with
  | some s => .text s
  | none => .bytes bytes

/-- What a content reads as. -/
def Content.read : Content → Except FileFault Text
  | .text s => .ok s
  | .bytes _ => .error .notText

/-- What stands under a name. -/
inductive Node where
  | file (content : Content)
  | directory
deriving DecidableEq

/-- The number of bytes that a name may have. -/
def longestName : Nat := 255

/-- The number of bytes that a path may have. -/
def longestPath : Nat := 4095

/-- What is wrong with a path before any of its names is looked up. -/
def pathFault? (path : Path) : Option FileFault :=
  if path.contains 0 then some .zeroInPath
  else if path.isEmpty then some .notFound
  else if longestPath < path.length then some .nameTooLong
  else none

/-- A directory tree, by the places of its entries. -/
structure Directory where
  entries : List (Place × Node) := []
  /-- The place of the working directory, from which paths lead that do not begin at the root. -/
  here : Place := []

namespace Directory

/-- What stands at a place; at the root stands the tree itself. -/
def node? (tree : Directory) : Place → Option Node
  | [] => some .directory
  | place => tree.entries.lookup place

/-- A tree with an entry set. -/
def set (tree : Directory) (place : Place) (node : Node) : Directory :=
  { tree with entries := (place, node) :: tree.entries.filter (·.1 != place) }

/-- Dropping the entry of one place does not touch the others. -/
theorem lookup_filter_ne {place other : Place} (h : other ≠ place) (entries : List (Place × Node)) :
    (entries.filter (·.1 != place)).lookup other = entries.lookup other := by
  induction entries with
  | nil => rfl
  | cons entry entries ih =>
    obtain ⟨key, node⟩ := entry
    by_cases hkey : key = place
    -- the entry is dropped, and it was not the one looked for
    · subst hkey
      have : (other == key) = false := beq_eq_false_iff_ne.mpr h
      simp [List.lookup_cons, this, ih]
    · have : (key != place) = true := bne_iff_ne.mpr hkey
      simp [List.lookup_cons, this, ih]

/-- Setting an entry changes what stands at its place and nothing else. -/
theorem node?_set {place : Place} (hplace : place ≠ []) (tree : Directory) (node : Node)
    (other : Place) :
    (tree.set place node).node? other = if other = place then some node else tree.node? other := by
  cases other with
  | nil => simp [node?, hplace.symm]
  | cons name rest =>
    by_cases h : name :: rest = place
    · simp [node?, set, h]
    · have : (name :: rest == place) = false := beq_eq_false_iff_ne.mpr h
      simp [node?, set, List.lookup_cons, this, h, lookup_filter_ne h]

/-! ### Following a path -/

/-- What is found at a place.  Nothing is found under a name that is too long. -/
def look (tree : Directory) (place : Place) : Except FileFault Node :=
  if place.any (longestName < ·.length) then .error .nameTooLong
  else
    match tree.node? place with
    | some node => .ok node
    | none => .error .notFound

/-- Whether a directory is found at a place. -/
def isDirectory (tree : Directory) (place : Place) : Bool :=
  match tree.look place with
  | .ok .directory => true
  | _ => false

/-- Follows some steps from a place, as long as there is a directory to take the next one from: the
place where that ends, and the steps that are left. -/
def follow (tree : Directory) (place : Place) : List Bytes → Place × List Bytes
  | [] => (place, [])
  | step :: rest =>
    if tree.isDirectory place then tree.follow (Path.next place step) rest
    else (place, step :: rest)

/-- The place at which a path begins. -/
def start (tree : Directory) (path : Path) : Place :=
  if Path.isAbsolute path then [] else tree.here

/-- The place that a path leads to, whatever may stand there. -/
def resolve (tree : Directory) (path : Path) : Except FileFault Place :=
  match pathFault? path with
  | some fault => .error fault
  | none =>
    match tree.follow (tree.start path) (Path.steps path) with
    | (place, []) => .ok place
    | (place, _ :: _) =>
      match tree.look place with
      | .ok _ => .error .notDirectory
      | .error fault => .error fault

/-! ### Reading and writing -/

/-- What a path names. -/
def lookup (tree : Directory) (path : Path) : Except FileFault Node :=
  match tree.resolve path with
  | .error fault => .error fault
  | .ok place =>
    match tree.look place with
    | .error fault => .error fault
    | .ok .directory => .ok .directory
    | .ok (.file content) =>
      if Path.endsInSlash path then .error .notDirectory else .ok (.file content)

/-- Whether a path names a file or a directory. -/
def isThere (tree : Directory) (path : Path) : Bool := (tree.lookup path).isOk

/-- The text of the file that a path names. -/
def read (tree : Directory) (path : Path) : Except FileFault Text :=
  match tree.lookup path with
  | .error fault => .error fault
  | .ok .directory => .error .isDirectory
  | .ok (.file content) => content.read

/-- Writes a file over what it held before, or makes it in a directory that is there. -/
def write (tree : Directory) (path : Path) (contents : Text) : Except FileFault Directory :=
  match tree.resolve path with
  | .error fault => .error fault
  | .ok place =>
    if Path.endsInName path then
      match tree.look place with
      | .ok .directory => .error .isDirectory
      | .error .nameTooLong => .error .nameTooLong
      | _ => .ok (tree.set place (.file (.text contents)))
    else .error .isDirectory

/-! ### Making and clearing entries -/

/-- Makes the directory at a place and those on the way, as far as no file is in the way and no name
is too long: the tree with them, and whether all of them are there. -/
def makeDirectory (tree : Directory) (place : Place) : Directory × Bool :=
  go tree [] place
where
  go (tree : Directory) (here : Place) (rest : List Bytes) : Directory × Bool :=
    match tree.node? here with
    | some (.file _) => (tree, false)
    | found =>
      let tree := if found.isNone then tree.set here .directory else tree
      match rest with
      | [] => (tree, true)
      | name :: rest =>
        if longestName < name.length then (tree, false) else go tree (here ++ [name]) rest

/-- The place that a path leads to once all directories on its way are there. -/
def target (tree : Directory) (path : Path) : Place :=
  (Path.steps path).foldl Path.next (tree.start path)

/-- Puts a file under a path, or makes a directory if the path ends in a slash: the tree afterwards,
and whether that could be done. -/
def put (tree : Directory) (path : Path) (content : Content) : Directory × Bool :=
  let place := tree.target path
  if (pathFault? path).isSome then (tree, false)
  else if Path.endsInSlash path then tree.makeDirectory place
  else
    match tree.makeDirectory place.dropLast with
    | (tree, false) => (tree, false)
    | (tree, true) =>
      if tree.node? place = some .directory then (tree, false)
      else if place.any (longestName < ·.length) then (tree, false)
      else (tree.set place (.file content), true)

/-- Removes what a path names, with all that is in it. -/
def remove (tree : Directory) (path : Path) : Directory :=
  if tree.isThere path then
    let removed := tree.target path
    { tree with entries := tree.entries.filter fun (place, _) => !removed.isPrefixOf place }
  else tree

end Directory

end StateOverlay
