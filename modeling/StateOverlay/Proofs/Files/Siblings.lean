/-
Paths of entries in one directory.

The path of an entry beside a file is put together from the parent of the file's path and a name.
Both operations work on the path as it is written: the parent drops the last name with all slashes
and dots around it, and keeps what stands further in front.  A dot and an empty piece lead nowhere,
so that the new path goes through the directories of the old one, whatever redundancy the old one is
written with, and ends in the name:

* `Path.IsEntryName` — a name that leads to an entry of the directory it is looked up in;
* `Path.steps_join`, `Path.exists_steps_parent` — the steps of joined paths and of parents;
* `Denotes` — what is looked up and written through a path is the entry of a name in a directory;
* `exists_goesTo_of_read` — a path that can be read denotes such an entry;
* `GoesTo.sibling` — a name joined to the parent of its path denotes the entry beside it.
-/
import StateOverlay.Proofs.Files.Writing
import StateOverlay.Proofs.Text.Bytes

namespace StateOverlay

/-! ### Steps -/

namespace Path

/-- A single name that leads to an entry of the directory it is looked up in: it neither stays where
it is nor leads upwards. -/
structure IsEntryName (name : Text) : Prop where
  nonempty : name ≠ []
  noSlash : '/' ∉ name
  notHere : name ≠ ['.']
  notUp : name ≠ ['.', '.']

instance (name : Text) : Decidable (IsEntryName name) :=
  decidable_of_iff (name ≠ [] ∧ '/' ∉ name ∧ name ≠ ['.'] ∧ name ≠ ['.', '.'])
    ⟨fun ⟨nonempty, noSlash, notHere, notUp⟩ => ⟨nonempty, noSlash, notHere, notUp⟩,
      fun h => ⟨h.nonempty, h.noSlash, h.notHere, h.notUp⟩⟩

section IsEntryName

variable {name : Text} (h : IsEntryName name)

include h

theorem IsEntryName.bytes_ne_nil : name.bytes ≠ [] :=
  fun hnil => h.nonempty (bytes_injective hnil)

theorem IsEntryName.slash_not_mem : slash ∉ name.bytes :=
  fun hslash => h.noSlash (slash_mem_bytes_iff.mp hslash)

theorem IsEntryName.bytes_ne_dot : name.bytes ≠ dot :=
  fun hdot => h.notHere (bytes_injective hdot)

theorem IsEntryName.bytes_ne_dotDot : name.bytes ≠ dotDot :=
  fun hdotDot => h.notUp (bytes_injective hdotDot)

end IsEntryName

theorem steps_append_slash (s t : Path) : steps (s ++ slash :: t) = steps s ++ steps t := by
  rw [steps, List.splitOn_append_cons_self, List.filter_append]
  rfl

theorem steps_eq_singleton {name : Bytes} (hne : name ≠ []) (hslash : slash ∉ name) :
    steps name = [name] := by
  rw [steps, List.splitOn_eq_singleton hslash]
  exact List.filter_cons_of_pos (by simpa using hne)

/-- The steps of some pieces without slashes, one after another. -/
theorem steps_intercalate {pieces : List Bytes} (h : ∀ piece ∈ pieces, slash ∉ piece) :
    steps ([slash].intercalate pieces) = pieces.filter (!·.isEmpty) := by
  cases pieces with
  | nil => rfl
  | cons first rest =>
    rw [steps, List.splitOn_intercalate slash h (List.cons_ne_nil _ _)]

/-- The steps of a path whose last piece is not empty. -/
theorem steps_of_splitOn {path last : Bytes} {pieces : List Bytes}
    (hpieces : path.splitOn slash = pieces ++ [last]) (hne : last ≠ []) :
    steps path = pieces.filter (!·.isEmpty) ++ [last] := by
  rw [steps, hpieces, List.filter_append, List.filter_cons_of_pos (by simpa using hne)]
  rfl

/-- A path that does not end in a slash ends in a piece that is not empty. -/
theorem exists_splitOn_eq_concat {path : Path} (hne : path ≠ [])
    (hslash : endsInSlash path = false) :
    ∃ pieces last, path.splitOn slash = pieces ++ [last] ∧ last ≠ [] := by
  by_cases hmem : slash ∈ path
  · -- the last slash is the first one from behind
    obtain ⟨back, front, hback, hlast⟩ :=
      List.eq_append_cons_of_mem (List.mem_reverse.mpr hmem)
    have hpath : path = front.reverse ++ slash :: back.reverse := by
      rw [← List.reverse_reverse path, hback, List.reverse_append, List.reverse_cons,
        List.append_assoc, List.singleton_append]
    refine ⟨front.reverse.splitOn slash, back.reverse, ?_, ?_⟩
    · rw [hpath, List.splitOn_append_cons_self,
        List.splitOn_eq_singleton (mt List.mem_reverse.mp hlast)]
    · intro hempty
      rw [hpath, hempty, endsInSlash, List.getLast?_concat] at hslash
      exact absurd hslash (by decide)
  · exact ⟨[], path, List.splitOn_eq_singleton hmem, hne⟩

/-- The path of a name in a directory means no directory itself. -/
theorem endsInSlash_join {name : Bytes} (hne : name ≠ []) (hslash : slash ∉ name)
    (directory : Path) : endsInSlash (join directory name) = false := by
  have hends : ∀ front : Path, endsInSlash (front ++ name) = false := by
    intro front
    rw [endsInSlash, List.getLast?_append_of_ne_nil _ hne, decide_eq_false_iff_not]
    exact fun hlast => hslash (List.mem_of_getLast? hlast)
  rw [join]
  split
  · exact hends []
  · split
    · exact hends directory
    · exact hends _

/-- A path that begins with something other than a slash does not begin at the root. -/
theorem isAbsolute_append_of_ne_nil {piece : Bytes} (hne : piece ≠ []) (hslash : slash ∉ piece)
    (rest : Path) : isAbsolute (piece ++ rest) = false := by
  obtain ⟨byte, piece, rfl⟩ := List.exists_cons_of_ne_nil hne
  rw [isAbsolute, List.cons_append, List.head?_cons, decide_eq_false_iff_not, Option.some_inj]
  exact fun hbyte => hslash (hbyte ▸ List.mem_cons_self)

theorem isAbsolute_eq_false {name : Bytes} (hslash : slash ∉ name) : isAbsolute name = false := by
  cases name with
  | nil => rfl
  | cons byte name =>
    rw [← List.append_nil (byte :: name)]
    exact isAbsolute_append_of_ne_nil (List.cons_ne_nil _ _) hslash []

/-- The path of a name in a directory goes where the directory does, and on to the name. -/
theorem steps_join {name : Bytes} (hne : name ≠ []) (hslash : slash ∉ name) (directory : Path) :
    steps (join directory name) = steps directory ++ [name] := by
  have hname := steps_eq_singleton hne hslash
  rw [join, isAbsolute_eq_false hslash, Bool.or_false]
  by_cases hempty : directory = []
  · rw [hempty, List.isEmpty_nil, if_pos rfl, hname]
    rfl
  rw [if_neg (by simpa using hempty)]
  by_cases hends : endsInSlash directory = true
  · -- the slash is there already
    obtain ⟨front, rfl⟩ := List.getLast?_eq_some_iff.mp (of_decide_eq_true hends)
    rw [if_pos hends, List.append_assoc, List.singleton_append, steps_append_slash,
      steps_append_slash, hname]
    exact congrArg (· ++ [name]) (List.append_nil (steps front)).symm
  · rw [if_neg hends, List.append_assoc, List.singleton_append, steps_append_slash, hname]

/-- The path of a name in a directory begins where the directory does. -/
theorem isAbsolute_join {name : Bytes} (hslash : slash ∉ name) (directory : Path) :
    isAbsolute (join directory name) = isAbsolute directory := by
  have hrelative := isAbsolute_eq_false hslash
  cases directory with
  | nil => exact hrelative
  | cons byte directory =>
    rw [join, hrelative, Bool.or_false, if_neg (by simp)]
    split <;> rfl

/-- What is dropped at the end of some pieces leads nowhere. -/
theorem exists_dropIdle_append (pieces : List Bytes) :
    ∃ idle, pieces = dropIdle pieces ++ idle ∧ ∀ piece ∈ idle, piece = [] ∨ piece = dot := by
  refine ⟨(pieces.reverse.takeWhile fun piece => piece.isEmpty || piece == dot).reverse, ?_, ?_⟩
  · rw [dropIdle, ← List.reverse_append, List.takeWhile_append_dropWhile, List.reverse_reverse]
  · intro piece hpiece
    have hidle := List.mem_takeWhile_imp (List.mem_reverse.mp hpiece)
    rwa [Bool.or_eq_true, List.isEmpty_iff, beq_iff_eq] at hidle

theorem dropIdle_concat {pieces : List Bytes} {last : Bytes} (hne : last ≠ []) (hdot : last ≠ dot) :
    dropIdle (pieces ++ [last]) = pieces ++ [last] := by
  rw [dropIdle, List.reverse_concat, List.dropWhile_cons_of_neg (by simp [hne, hdot]),
    List.reverse_cons, List.reverse_reverse]

/-- The parent of a path of several pieces is put together from the pieces in front of the last. -/
theorem parent_of_splitOn {path first last : Bytes} {middle : List Bytes}
    (hpieces : path.splitOn slash = first :: (middle ++ [last])) (hne : last ≠ [])
    (hdot : last ≠ dot) :
    parent path = if ([slash].intercalate (first :: dropIdle middle)).isEmpty then [slash]
      else [slash].intercalate (first :: dropIdle middle) := by
  rw [parent, hpieces]
  dsimp only
  rw [dropIdle_concat hne hdot]
  split
  · case h_1 hnone => exact absurd hnone (List.concat_ne_nil _ _)
  · rw [List.dropLast_concat]

/-- The parent of a path goes where the path does in front of its last name, dots aside. -/
theorem exists_steps_parent {path last : Bytes} {pieces : List Bytes}
    (hpieces : path.splitOn slash = pieces ++ [last]) (hne : last ≠ []) (hdot : last ≠ dot) :
    ∃ idle, steps path = steps (parent path) ++ idle ++ [last] ∧ ∀ step ∈ idle, step = dot := by
  have hsteps := steps_of_splitOn hpieces hne
  cases pieces with
  | nil =>
    refine ⟨[], ?_, List.forall_mem_nil _⟩
    have hparent : parent path = [] := by rw [parent, hpieces]; rfl
    rw [hparent]
    exact hsteps
  | cons first middle =>
    obtain ⟨idle, hmiddle, hidle⟩ := exists_dropIdle_append middle
    have hplain : ∀ piece ∈ first :: dropIdle middle, slash ∉ piece := by
      intro piece hpiece
      refine not_mem_of_mem_splitOn (s := path) ?_
      rw [hpieces, hmiddle]
      simp only [List.cons_append, List.mem_cons, List.mem_append] at hpiece ⊢
      tauto
    have hparent : steps (parent path) = (first :: dropIdle middle).filter (!·.isEmpty) := by
      rw [← steps_intercalate hplain, parent_of_splitOn hpieces hne hdot]
      split
      · case isTrue hroot => rw [List.isEmpty_iff.mp hroot]; rfl
      · rfl
    refine ⟨idle.filter (!·.isEmpty), ?_, ?_⟩
    · calc steps path
          = (first :: (dropIdle middle ++ idle)).filter (!·.isEmpty) ++ [last] := by
            rw [hsteps, ← hmiddle]
        _ = steps (parent path) ++ idle.filter (!·.isEmpty) ++ [last] := by
            rw [hparent, ← List.cons_append, List.filter_append]
    · intro step hstep
      obtain ⟨hmem, hstep⟩ := List.mem_filter.mp hstep
      exact (hidle step hmem).resolve_left (by simpa using hstep)

/-- Some pieces put together begin at the root if the first one is empty and others follow it. -/
theorem isAbsolute_intercalate {first : Bytes} (hslash : slash ∉ first) (rest : List Bytes) :
    isAbsolute ([slash].intercalate (first :: rest)) = (first.isEmpty && !rest.isEmpty) := by
  cases rest with
  | nil => simp [isAbsolute_eq_false hslash]
  | cons second rest =>
    rw [List.intercalate_cons_cons, List.append_assoc]
    cases first with
    | nil => rfl
    | cons byte first => exact isAbsolute_append_of_ne_nil (List.cons_ne_nil _ _) hslash _

/-- The parent of a path begins where the path does. -/
theorem isAbsolute_parent {path last : Bytes} {pieces : List Bytes}
    (hpieces : path.splitOn slash = pieces ++ [last]) (hne : last ≠ []) (hdot : last ≠ dot) :
    isAbsolute (parent path) = isAbsolute path := by
  have hplain : ∀ piece ∈ path.splitOn slash, slash ∉ piece := fun _ => not_mem_of_mem_splitOn
  have hpath : [slash].intercalate (path.splitOn slash) = path := List.intercalate_splitOn slash
  rw [hpieces] at hplain hpath
  cases pieces with
  | nil =>
    have hparent : parent path = [] := by rw [parent, hpieces]; rfl
    rw [List.nil_append, List.intercalate_singleton] at hpath
    rw [hparent, ← hpath, isAbsolute_eq_false (hplain last List.mem_cons_self)]
    rfl
  | cons first middle =>
    have hfirst : slash ∉ first := hplain first List.mem_cons_self
    have habsolute : isAbsolute path = first.isEmpty := by
      rw [← hpath, List.cons_append, isAbsolute_intercalate hfirst]
      simp
    rw [parent_of_splitOn hpieces hne hdot, habsolute]
    split
    · case isTrue hroot =>
      -- nothing but slashes and dots stands in front of the last name
      cases first with
      | nil => rfl
      | cons byte first => cases hmiddle : dropIdle middle <;> simp [hmiddle] at hroot
    · case isFalse hroot =>
      rw [isAbsolute_intercalate hfirst]
      cases hmiddle : dropIdle middle with
      | nil => simpa [hmiddle] using hroot
      | cons second rest => simp

end Path

/-! ### Entries of a directory -/

variable {tree : Directory} {path : Path} {directory : Place} {name : Bytes}

/-- A path goes through directories to one of them, and on to a name. -/
structure GoesTo (tree : Directory) (path : Path) (directory : Place) (name : Bytes) : Prop where
  way : ∃ steps, Path.steps path = steps ++ [name] ∧
    tree.follow (tree.start path) steps = (directory, [])
  isDirectory : tree.isDirectory directory = true
  noDot : name ≠ Path.dot
  noDotDot : name ≠ Path.dotDot
  noSlash : Path.endsInSlash path = false

/-- What a path denotes is the entry of a name in a directory: the path ends there, it leads to what
stands there and to nothing else, and what is written through it is set there.  Nothing stands in
the way but a fault of the path itself, or a name that is too long. -/
structure Denotes (tree : Directory) (path : Path) (directory : Place) (name : Bytes) : Prop where
  reach_eq : tree.reach path = directory ++ [name]
  isDirectory : tree.node? directory = some .directory
  lookup_iff : ∀ node, tree.lookup path = .ok node ↔
    pathFault? path = none ∧ name.length ≤ longestName ∧
      tree.node? (directory ++ [name]) = some node
  write_iff : ∀ contents written, tree.write path contents = .ok written ↔
    pathFault? path = none ∧ name.length ≤ longestName ∧
      tree.node? (directory ++ [name]) ≠ some .directory ∧
      written = tree.set (directory ++ [name]) (.file (.text contents))

theorem GoesTo.follow_eq (h : GoesTo tree path directory name) :
    tree.follow (tree.start path) (Path.steps path) = (directory ++ [name], []) := by
  obtain ⟨steps, hsteps, hway⟩ := h.way
  have hnext : directory ++ [name] = Path.next directory name := by
    rw [Path.next, if_neg h.noDot, if_neg h.noDotDot]
  rw [hsteps]
  exact Directory.follow_concat_eq_iff.mpr ⟨directory, hway, h.isDirectory, hnext⟩

theorem GoesTo.place?_eq_some_iff (h : GoesTo tree path directory name) {place : Place} :
    tree.place? path = some place ↔ pathFault? path = none ∧ directory ++ [name] = place := by
  rw [Directory.place?_eq_some_iff, Directory.resolve_eq_ok_iff, h.follow_eq]
  simp

/-- The names on the way were short enough to get there. -/
theorem GoesTo.short_iff (h : GoesTo tree path directory name) :
    (∀ other ∈ directory ++ [name], other.length ≤ longestName) ↔ name.length ≤ longestName := by
  rw [List.forall_mem_append, List.forall_mem_singleton]
  exact and_iff_right (Directory.isDirectory_iff.mp h.isDirectory).1

theorem GoesTo.endsInName (h : GoesTo tree path directory name) : Path.endsInName path = true := by
  obtain ⟨steps, hsteps, _⟩ := h.way
  rw [Path.endsInName, h.noSlash, hsteps, List.getLast?_concat]
  simp [h.noDot, h.noDotDot]

theorem GoesTo.lookup_eq_ok_iff (h : GoesTo tree path directory name) {node : Node} :
    tree.lookup path = .ok node ↔
      pathFault? path = none ∧ name.length ≤ longestName ∧
        tree.node? (directory ++ [name]) = some node := by
  simp only [Directory.lookup_eq_ok_iff, h.place?_eq_some_iff, Directory.look_eq_ok_iff, h.noSlash,
    or_true, and_true, ← h.short_iff]
  constructor
  · rintro ⟨_, ⟨hfault, rfl⟩, hlook⟩
    exact ⟨hfault, hlook⟩
  · rintro ⟨hfault, hlook⟩
    exact ⟨_, ⟨hfault, rfl⟩, hlook⟩

theorem GoesTo.write_eq_ok_iff (h : GoesTo tree path directory name) {contents : Text}
    {written : Directory} :
    tree.write path contents = .ok written ↔
      pathFault? path = none ∧ name.length ≤ longestName ∧
        tree.node? (directory ++ [name]) ≠ some .directory ∧
        written = tree.set (directory ++ [name]) (.file (.text contents)) := by
  rw [Directory.write_eq_ok_iff]
  constructor
  · rintro ⟨place, hwritable, rfl⟩
    obtain ⟨hfault, rfl⟩ := h.place?_eq_some_iff.mp hwritable.leads
    exact ⟨hfault, h.short_iff.mp hwritable.short, hwritable.noDirectory, rfl⟩
  · rintro ⟨hfault, hshort, hnode, rfl⟩
    exact ⟨_, ⟨h.place?_eq_some_iff.mpr ⟨hfault, rfl⟩, h.endsInName, h.short_iff.mpr hshort, hnode⟩,
      rfl⟩

/-- A path that goes to a name in a directory denotes the entry there. -/
theorem GoesTo.denotes (h : GoesTo tree path directory name) :
    Denotes tree path directory name where
  reach_eq := by rw [Directory.reach, h.follow_eq]
  isDirectory := (Directory.isDirectory_iff.mp h.isDirectory).2
  lookup_iff _ := h.lookup_eq_ok_iff
  write_iff _ _ := h.write_eq_ok_iff

/-- The text of a path that can be read is that of the entry it goes to, unless the path ends in two
dots. -/
theorem exists_goesTo_of_read {source : Text} (h : tree.read path = .ok source)
    (hup : (Path.steps path).getLast? ≠ some Path.dotDot) :
    ∃ directory name, GoesTo tree path directory name ∧
      tree.node? (directory ++ [name]) = some (.file (.text source)) := by
  have hlookup := Directory.read_eq_ok_iff.mp h
  obtain ⟨place, hplace, hlook, hends⟩ := Directory.lookup_eq_ok_iff.mp hlookup
  have hslash : Path.endsInSlash path = false := hends.resolve_left (by simp)
  obtain ⟨hfault, hfollow⟩ :=
    Directory.resolve_eq_ok_iff.mp (Directory.place?_eq_some_iff.mp hplace)
  have hne : path ≠ [] := by
    rintro rfl
    exact absurd hfault (by decide)
  obtain ⟨pieces, last, hpieces, hlast⟩ := Path.exists_splitOn_eq_concat hne hslash
  have hsteps := Path.steps_of_splitOn hpieces hlast
  rw [hsteps] at hfollow hup
  obtain ⟨directory, hway, hdirectory, rfl⟩ := Directory.follow_concat_eq_iff.mp hfollow
  have hdotDot : last ≠ Path.dotDot := fun hlast => hup (by rw [List.getLast?_concat, hlast])
  have hdot : last ≠ Path.dot := by
    -- a dot would stay in the directory that it is taken from
    rintro rfl
    rw [Path.next, if_pos rfl] at hlook
    have hnode := (Directory.look_eq_ok_iff.mp hlook).2
    rw [(Directory.isDirectory_iff.mp hdirectory).2] at hnode
    cases hnode
  have hgoes : GoesTo tree path directory last :=
    ⟨⟨_, hsteps, hway⟩, hdirectory, hdot, hdotDot, hslash⟩
  exact ⟨_, _, hgoes, (hgoes.lookup_eq_ok_iff.mp hlookup).2.2⟩

/-- Dots lead nowhere. -/
theorem Directory.eq_of_follow_dots {place final : Place} {idle : List Bytes}
    (hidle : ∀ step ∈ idle, step = Path.dot) (h : tree.follow place idle = (final, [])) :
    final = place := by
  induction idle with
  | nil => exact (Prod.mk.inj h).1.symm
  | cons step rest ih =>
    rw [List.forall_mem_cons] at hidle
    rw [follow_cons] at h
    split at h
    · rw [Path.next, if_pos hidle.1] at h
      exact ih hidle.2 h
    · cases h

/-- The parent of a path leads to the directory that the path goes through last. -/
theorem GoesTo.parent (h : GoesTo tree path directory name) :
    tree.follow (tree.start (Path.parent path)) (Path.steps (Path.parent path)) =
      (directory, []) := by
  obtain ⟨steps, hsteps, hway⟩ := h.way
  have hne : path ≠ [] := by
    rintro rfl
    exact absurd hsteps (List.concat_ne_nil _ _).symm
  obtain ⟨pieces, last, hpieces, hlast⟩ := Path.exists_splitOn_eq_concat hne h.noSlash
  obtain rfl : last = name := by
    rw [Path.steps_of_splitOn hpieces hlast] at hsteps
    exact List.singleton_inj.mp (List.append_inj_right' hsteps rfl)
  obtain ⟨idle, hparent, hidle⟩ := Path.exists_steps_parent hpieces hlast h.noDot
  obtain rfl : steps = Path.steps (Path.parent path) ++ idle :=
    List.append_inj_left' (hsteps.symm.trans hparent) rfl
  rw [Directory.start, Path.isAbsolute_parent hpieces hlast h.noDot, ← Directory.start]
  obtain ⟨middle, hmiddle, hdots⟩ := Directory.follow_append_eq_iff.mp hway
  rw [Directory.eq_of_follow_dots hidle hdots]
  exact hmiddle

/-- A name joined to the parent of a path goes to the entry beside that of the path. -/
theorem GoesTo.sibling (h : GoesTo tree path directory name) {file : Text}
    (hfile : Path.IsEntryName file) :
    GoesTo tree (Path.join (Path.parent path) file.bytes) directory file.bytes where
  way := by
    refine ⟨_, Path.steps_join hfile.bytes_ne_nil hfile.slash_not_mem _, ?_⟩
    rw [Directory.start, Path.isAbsolute_join hfile.slash_not_mem, ← Directory.start]
    exact h.parent
  isDirectory := h.isDirectory
  noDot := hfile.bytes_ne_dot
  noDotDot := hfile.bytes_ne_dotDot
  noSlash := Path.endsInSlash_join hfile.bytes_ne_nil hfile.slash_not_mem _

end StateOverlay
