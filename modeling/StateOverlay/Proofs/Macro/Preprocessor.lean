/-
The part of the C preprocessor that decides which macros are defined.

Its state is a table of definitions and, for each name, a stack of saved ones.  A text is read as
its lines after continuations were joined, and a line as a directive or nothing: the directives are
`#ifndef` with `#endif`, `#define`, `#undef` and the two pragmas that save and restore the
definition of a name.  All other lines are passed over.

* `process` — what a text does to the macros;
* `directives_append_feed` — the directives of a text, line by line;
* `process_of_guarded` — a text in an inclusion guard does what its commands do if the guard is not
  defined, and nothing otherwise.
-/
import Mathlib.Logic.Function.Basic
import StateOverlay.Proofs.Text.Identifier

namespace StateOverlay.Preprocessor

/-! ### Macros -/

/-- The definition of a macro: its parameters, if it takes any, and its replacement. -/
structure Definition where
  params : Option (List Text) := none
  body : Text := []
deriving DecidableEq

/-- The macros defined at some point, and what was saved of each name, the latest first; a name that
was not defined is saved as such. -/
@[ext]
structure Macros where
  table : Text → Option Definition
  saved : Text → List (Option Definition)

/-- What a directive can do to the macros. -/
inductive Command where
  | define (name : Text) (definition : Definition)
  | undef (name : Text)
  | push (name : Text)
  | pop (name : Text)
deriving DecidableEq

/-- Carries out a command; restoring a name of which nothing is saved does nothing. -/
def Macros.apply (macros : Macros) : Command → Macros
  | .define name definition =>
    { macros with table := Function.update macros.table name (some definition) }
  | .undef name => { macros with table := Function.update macros.table name none }
  | .push name =>
    { macros with
      saved := Function.update macros.saved name (macros.table name :: macros.saved name) }
  | .pop name =>
    match macros.saved name with
    | [] => macros
    | definition :: rest =>
      { table := Function.update macros.table name definition
        saved := Function.update macros.saved name rest }

/-! ### Directives -/

/-- A line that the preprocessor does not pass over. -/
inductive Directive where
  | ifndef (name : Text)
  | endif
  | command (command : Command)
deriving DecidableEq

/-- The parameters between the parentheses of a definition. -/
def parseParams (s : Text) : List Text :=
  if (Text.trim s).isEmpty then [] else (s.splitOn ',').map Text.trim

/-- What follows `#define`: a parenthesis directly behind the name begins the parameters. -/
def parseDefine? (s : Text) : Option Command := do
  let (name, rest) ← Text.name? (Text.trimStart s)
  match rest with
  | '(' :: rest =>
    let params := parseParams (rest.takeWhile (· != ')'))
    let body ← [')'].isPrefixOf? (rest.dropWhile (· != ')'))
    some (.define name { params := some params, body := Text.trim body })
  | _ => some (.define name { params := none, body := Text.trim rest })

/-- What follows `#pragma`: saving or restoring the name that stands in quotation marks. -/
def parsePragma? (s : Text) : Option Command := do
  let (word, rest) ← Text.name? (Text.trimStart s)
  let rest ← ['(', '"'].isPrefixOf? (Text.trimStart rest)
  let name := rest.takeWhile (· != '"')
  let _ ← ['"', ')'].isPrefixOf? (rest.dropWhile (· != '"'))
  if word = "push_macro".toList then some (.push name)
  else if word = "pop_macro".toList then some (.pop name)
  else none

/-- The directive of a given word with what follows it. -/
def parseWord? (word rest : Text) : Option Directive :=
  if word = "ifndef".toList then
    (Text.name? (Text.trimStart rest)).map fun (name, _) => .ifndef name
  else if word = "endif".toList then some .endif
  else if word = "define".toList then (parseDefine? rest).map .command
  else if word = "undef".toList then
    (Text.name? (Text.trimStart rest)).map fun (name, _) => .command (.undef name)
  else if word = "pragma".toList then (parsePragma? rest).map .command
  else none

/-- The directive on a line, if there is one. -/
def directive? (line : Text) : Option Directive := do
  let rest ← ['#'].isPrefixOf? (Text.trimStart line)
  let (word, rest) ← Text.name? (Text.trimStart rest)
  parseWord? word rest

/-- A text with its continued lines joined: a backslash in front of a line feed goes with it. -/
def splice : Text → Text
  | [] => []
  | '\\' :: '\n' :: rest => splice rest
  | c :: rest => c :: splice rest

/-- The directives of a text. -/
def directives (text : Text) : List Directive :=
  ((splice text).splitOn '\n').filterMap directive?

/-! ### Processing -/

/-- The macros while a text is processed, with a flag for each group that is open: whether its lines
count. -/
structure Progress where
  macros : Macros
  groups : List Bool := []

/-- One directive: a command counts if all open groups do. -/
def Progress.step (progress : Progress) : Directive → Progress
  | .ifndef name =>
    { progress with groups := (progress.macros.table name).isNone :: progress.groups }
  | .endif => { progress with groups := progress.groups.tail }
  | .command command =>
    if progress.groups.all id then { progress with macros := progress.macros.apply command }
    else progress

/-- The macros after a text was processed. -/
def process (text : Text) (macros : Macros) : Macros :=
  ((directives text).foldl Progress.step { macros }).macros

/-! ### Lines -/

theorem splice_cons {c : Char} {rest : Text} (h : c ≠ '\\' ∨ rest.head? ≠ some '\n') :
    splice (c :: rest) = c :: splice rest := by
  rw [splice]
  rintro tail rfl rfl
  rcases h with h | h
  · exact h rfl
  · exact h rfl

/-- A line that is not continued stays, whatever comes behind it. -/
theorem splice_append_feed {s : Text} (h : s.getLast? ≠ some '\\') (t : Text) :
    splice (s ++ '\n' :: t) = splice s ++ '\n' :: splice t := by
  fun_induction splice s with
  | case1 => exact splice_cons (.inl (by decide))
  | case2 rest ih =>
    refine ih fun hlast => h ?_
    rw [List.getLast?_cons_cons, List.getLast?_cons, hlast]
    rfl
  | case3 c rest hjoin ih =>
    have hlast : rest.getLast? ≠ some '\\' := by
      intro hlast
      refine h ?_
      rw [List.getLast?_cons, hlast]
      rfl
    -- a backslash before the line feed would be the last character
    have hhere : c ≠ '\\' ∨ (rest ++ '\n' :: t).head? ≠ some '\n' := by
      cases rest with
      | nil => exact .inl fun hc => h (by rw [hc]; rfl)
      | cons d rest =>
        by_cases hc : c = '\\'
        · exact .inr fun hd => hjoin rest hc (by rw [Option.some_inj.mp hd])
        · exact .inl hc
    rw [List.cons_append, splice_cons hhere, ih hlast]
    rfl

/-- What a continuation joins. -/
theorem splice_append_continuation {s : Text} (h : '\n' ∉ s) (t : Text) :
    splice (s ++ '\\' :: '\n' :: t) = s ++ splice t := by
  induction s with
  | nil => rfl
  | cons c s ih =>
    rw [List.mem_cons, not_or] at h
    have hhead : (s ++ '\\' :: '\n' :: t).head? ≠ some '\n' := by
      cases s with
      | nil => exact fun heq => absurd (Option.some_inj.mp heq) (by decide)
      | cons d s => exact fun heq => h.2 (Option.some_inj.mp heq ▸ List.mem_cons_self)
    rw [List.cons_append, splice_cons (.inr hhead), ih h.2]
    rfl

theorem splice_eq_self {s : Text} (h : '\n' ∉ s) : splice s = s := by
  induction s with
  | nil => rfl
  | cons c s ih =>
    rw [List.mem_cons, not_or] at h
    have hhead : s.head? ≠ some '\n' := fun heq => h.2 (List.mem_of_head? heq)
    rw [splice_cons (.inr hhead), ih h.2]

/-- The directives of a text are those in front of a line feed and those behind it, unless the line
feed is continued. -/
theorem directives_append_feed {s : Text} (h : s.getLast? ≠ some '\\') (t : Text) :
    directives (s ++ '\n' :: t) = directives s ++ directives t := by
  rw [directives, splice_append_feed h, List.splitOn_append_cons_self, List.filterMap_append]
  rfl

/-- A text without line feeds holds one directive or none. -/
theorem directives_line {s : Text} (h : '\n' ∉ s) : directives s = (directive? s).toList := by
  rw [directives, splice_eq_self h, List.splitOn_eq_singleton h]
  cases hdirective : directive? s with
  | none => rw [List.filterMap_cons_none hdirective]; rfl
  | some directive => rw [List.filterMap_cons_some hdirective]; rfl

/-- The directives of a text, line by line. -/
theorem directives_unlines {lines : List Text} (h : ∀ line ∈ lines, line.getLast? ≠ some '\\') :
    directives (Text.unlines lines) = lines.flatMap directives := by
  induction lines with
  | nil => rfl
  | cons line rest ih =>
    cases rest with
    | nil => rw [unlines_singleton, List.flatMap_singleton]
    | cons next rest =>
      rw [unlines_cons_cons, directives_append_feed (h line List.mem_cons_self),
        ih fun other hother => h other (List.mem_cons_of_mem _ hother)]
      exact List.flatMap_cons.symm

/-! ### Guarded texts -/

/-- The macros after some commands. -/
def Macros.applyAll (macros : Macros) (commands : List Command) : Macros :=
  commands.foldl Macros.apply macros

theorem Macros.applyAll_cons (macros : Macros) (command : Command) (commands : List Command) :
    macros.applyAll (command :: commands) = (macros.apply command).applyAll commands := rfl

theorem Macros.applyAll_append (macros : Macros) (commands more : List Command) :
    macros.applyAll (commands ++ more) = (macros.applyAll commands).applyAll more :=
  List.foldl_append

/-- Commands count if and only if all open groups do. -/
theorem foldl_step_commands (commands : List Command) (progress : Progress) :
    (commands.map Directive.command).foldl Progress.step progress =
      if progress.groups.all id then
        { progress with macros := progress.macros.applyAll commands }
      else progress := by
  induction commands generalizing progress with
  | nil => simp [Macros.applyAll]
  | cons command commands ih =>
    rw [List.map_cons, List.foldl_cons, ih, Progress.step]
    cases hgroups : progress.groups.all id with
    | true => simp only [if_true, hgroups]; rfl
    | false => simp [hgroups]

/-- A text in an inclusion guard does what its commands do, or nothing if the guard is defined. -/
theorem process_of_guarded {text guard : Text} {commands : List Command}
    (h : directives text = .ifndef guard :: commands.map .command ++ [.endif]) (macros : Macros) :
    process text macros
      = if (macros.table guard).isNone then macros.applyAll commands else macros := by
  rw [process, h, List.cons_append, List.foldl_cons, List.foldl_append, foldl_step_commands]
  cases hguard : (macros.table guard).isNone with
  | true => simp [Progress.step, hguard]
  | false => simp [Progress.step, hguard]

end StateOverlay.Preprocessor
