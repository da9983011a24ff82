/-
What the preprocessor makes of a fragment.

Every fragment of the generated texts is read back as the directives that it stands for, if its
names are identifiers and nothing in it breaks a line.

* `directive?_word` — a line with a directive, up to its word;
* `parseDefine?_object`, `parseDefine?_function`, `parsePragma?_named` — what follows the word;
* `Fragment.IsClean` — what a fragment must hold to be read back;
* `Fragment.render_assignment`, `Fragment.render_guardOpen`, `Fragment.render_shadow`,
  `Fragment.render_restore` — the text of a fragment from its front on;
* `directives_render` — the directives of a fragment;
* `Reads`, `Reads.directives_unlines` — the directives of a text of fragments.
-/
import Mathlib.Data.List.Basic
import StateOverlay.Overlay.Fragment
import StateOverlay.Proofs.Macro.Preprocessor

namespace StateOverlay

open Preprocessor

/-! ### Words -/

/-- A name is read behind a blank. -/
theorem name?_blank {name rest : Text} (h : IsIdentifier name)
    (hrest : ∀ c, rest.head? = some c → isWord c = false) :
    Text.name? (Text.trimStart (' ' :: (name ++ rest))) = some (name, rest) := by
  have hstart : Text.trimStart (' ' :: (name ++ rest)) = Text.trimStart (name ++ rest) :=
    List.dropWhile_cons_of_pos (by decide)
  rw [hstart, trimStart_identifier h, name?_append h hrest]

theorem name?_blank_end {name : Text} (h : IsIdentifier name) :
    Text.name? (Text.trimStart (' ' :: name)) = some (name, []) := by
  have hname := @name?_blank name [] h fun c hc => nomatch hc
  rwa [List.append_nil] at hname

/-- A line with a directive is read up to its word. -/
theorem directive?_word {word rest : Text} (h : IsIdentifier word)
    (hrest : ∀ c, rest.head? = some c → isWord c = false) :
    directive? ('#' :: (word ++ rest)) = parseWord? word rest := by
  have hsign : Text.trimStart ('#' :: (word ++ rest)) = '#' :: (word ++ rest) :=
    List.dropWhile_cons_of_neg (by decide)
  have hprefix : ['#'].isPrefixOf? ('#' :: (word ++ rest)) = some (word ++ rest) := rfl
  rw [directive?, hsign, hprefix, Option.bind_eq_bind, Option.bind_some, trimStart_identifier h,
    name?_append h hrest]
  rfl

/-- A line that begins with a name is no directive. -/
theorem directive?_code {c : Char} (hc : isNameStart c = true) (rest : Text) :
    directive? (c :: rest) = none := by
  have hblank : ¬ isBlank c = true := by rw [isBlank_of_isNameStart hc]; exact Bool.false_ne_true
  have hsign : ('#' == c) = false := by
    rw [beq_eq_false_iff_ne]
    rintro rfl
    cases hc
  have hprefix : ['#'].isPrefixOf? (c :: rest) = none := by
    show (if '#' == c then some rest else none) = none
    rw [hsign]
    rfl
  rw [directive?, Text.trimStart, List.dropWhile_cons_of_neg hblank, hprefix]
  rfl

/-! ### Arguments -/

/-- The definition of a macro without parameters. -/
theorem parseDefine?_object {name body : Text} (h : IsIdentifier name) :
    parseDefine? (' ' :: (name ++ ' ' :: body))
      = some (.define name { params := none, body := Text.trim body }) := by
  have hname := @name?_blank name (' ' :: body) h fun c hc => by cases hc; decide
  have htrim : Text.trim (' ' :: body) = Text.trim body :=
    @trim_blanks_append [' '] (List.forall_mem_singleton.mpr (by decide)) body
  rw [parseDefine?, hname]
  show some (Command.define name { params := none, body := Text.trim (' ' :: body) }) = _
  rw [htrim]

theorem parseDefine?_empty {name : Text} (h : IsIdentifier name) :
    parseDefine? (' ' :: name) = some (.define name {}) := by
  rw [parseDefine?, name?_blank_end h]
  rfl

/-- Parameters between commas with blanks are read back, behind white space or not. -/
theorem map_trim_splitOn_params {params : List Text} :
    ∀ {margin first : Text}, (∀ c ∈ margin, isBlank c = true) →
      (∀ param ∈ first :: params, IsIdentifier param) →
        ((margin ++ [',', ' '].intercalate (first :: params)).splitOn ',').map Text.trim
          = first :: params := by
  have hpiece : ∀ {margin first : Text}, (∀ c ∈ margin, isBlank c = true) → IsIdentifier first →
      ((margin ++ first).splitOn ',').map Text.trim = [first] := by
    intro margin first hmargin hfirst
    have hcomma : ',' ∉ margin ++ first := by
      rw [List.mem_append, not_or]
      refine ⟨fun hmem => ?_, hfirst.not_mem (by decide) (by decide)⟩
      exact absurd (hmargin ',' hmem) (by decide)
    rw [List.splitOn_eq_singleton hcomma, List.map_singleton, trim_blanks_append hmargin,
      hfirst.trim_eq]
  induction params with
  | nil =>
    intro margin first hmargin h
    rw [List.intercalate_singleton]
    exact hpiece hmargin (h first List.mem_cons_self)
  | cons next params ih =>
    intro margin first hmargin h
    have hrest := @ih [' '] next (List.forall_mem_singleton.mpr (by decide))
      fun param hparam => h param (List.mem_cons_of_mem _ hparam)
    have hsplit : margin ++ [',', ' '].intercalate (first :: next :: params)
        = (margin ++ first) ++ ',' :: ([' '] ++ [',', ' '].intercalate (next :: params)) := by
      rw [List.intercalate_cons_cons]
      simp only [List.append_assoc, List.cons_append, List.nil_append]
    rw [hsplit, List.splitOn_append_cons_self, List.map_append, hrest,
      hpiece hmargin (h first List.mem_cons_self)]
    rfl

theorem parseParams_intercalate {params : List Text} (h : ∀ param ∈ params, IsIdentifier param) :
    parseParams ([',', ' '].intercalate params) = params := by
  cases params with
  | nil => rfl
  | cons first params =>
    have hne : (Text.trim ([',', ' '].intercalate (first :: params))).isEmpty = false := by
      obtain ⟨c, rest, rfl, hc, _⟩ := (h _ List.mem_cons_self).exists_cons
      have hhead : ∃ tail, [',', ' '].intercalate ((c :: rest) :: params) = c :: tail := by
        cases params with
        | nil => exact ⟨rest, List.intercalate_singleton⟩
        | cons next params => exact ⟨_, List.intercalate_cons_cons⟩
      obtain ⟨tail, hhead⟩ := hhead
      rw [hhead, trim_cons (isBlank_of_isNameStart hc)]
      rfl
    have hparams := @map_trim_splitOn_params params [] first (by simp) h
    rw [parseParams, if_neg (by rw [hne]; exact Bool.false_ne_true)]
    exact hparams

/-- No parenthesis stands among parameters. -/
theorem not_mem_intercalate {c : Char} {params : List Text} (hc : c ∉ [',', ' '])
    (h : ∀ param ∈ params, c ∉ param) : c ∉ [',', ' '].intercalate params := by
  induction params with
  | nil => exact List.not_mem_nil
  | cons first params ih =>
    cases params with
    | nil =>
      rw [List.intercalate_singleton]
      exact h first List.mem_cons_self
    | cons next params =>
      rw [List.intercalate_cons_cons]
      exact List.not_mem_append (List.not_mem_append (h first List.mem_cons_self) hc)
        (ih fun param hparam => h param (List.mem_cons_of_mem _ hparam))

/-- The definition of a macro with parameters. -/
theorem parseDefine?_function {name body : Text} {params : List Text} (h : IsIdentifier name)
    (hparams : ∀ param ∈ params, IsIdentifier param) :
    parseDefine? (' ' :: (name ++ '(' :: ([',', ' '].intercalate params ++ ')' :: body)))
      = some (.define name { params := some params, body := Text.trim body }) := by
  have hname := @name?_blank name ('(' :: ([',', ' '].intercalate params ++ ')' :: body)) h
    fun c hc => by cases hc; decide
  have hclose : ')' ∉ [',', ' '].intercalate params :=
    not_mem_intercalate (by decide) fun param hparam =>
      (hparams param hparam).not_mem (by decide) (by decide)
  obtain ⟨htake, hdrop⟩ := takeWhile_ne_append hclose body
  have hprefix : [')'].isPrefixOf? (')' :: body) = some body := rfl
  simp only [parseDefine?, hname, Option.bind_eq_bind, Option.bind_some, htake, hdrop, hprefix,
    parseParams_intercalate hparams]

/-- The pragmas that save and restore a name. -/
theorem parsePragma?_named {word name : Text} (hword : IsIdentifier word) (h : IsIdentifier name) :
    parsePragma? (' ' :: (word ++ '(' :: '"' :: (name ++ ['"', ')'])))
      = if word = "push_macro".toList then some (.push name)
        else if word = "pop_macro".toList then some (.pop name) else none := by
  have hread := @name?_blank word ('(' :: '"' :: (name ++ ['"', ')'])) hword
    fun c hc => by cases hc; decide
  have hopen : Text.trimStart ('(' :: '"' :: (name ++ ['"', ')']))
      = '(' :: '"' :: (name ++ ['"', ')']) := List.dropWhile_cons_of_neg (by decide)
  have hprefix : ['(', '"'].isPrefixOf? ('(' :: '"' :: (name ++ ['"', ')']))
      = some (name ++ ['"', ')']) := rfl
  have hquote : '"' ∉ name := h.not_mem (by decide) (by decide)
  obtain ⟨htake, hdrop⟩ := takeWhile_ne_append hquote [')']
  rw [parsePragma?, hread, Option.bind_eq_bind, Option.bind_some]
  dsimp only
  rw [hopen, hprefix, Option.bind_eq_bind, Option.bind_some, htake, hdrop]
  rfl

/-! ### Lines -/

/-- A line of code: it begins with a name. -/
structure IsCode (line : Text) : Prop where
  feed : '\n' ∉ line
  begins : ∃ c rest, line = c :: rest ∧ isNameStart c = true

/-- A line of code holds no directive. -/
theorem IsCode.directives_eq {line : Text} (h : IsCode line) : directives line = [] := by
  obtain ⟨c, rest, rfl, hc⟩ := h.begins
  rw [directives_line h.feed, directive?_code hc]
  rfl

theorem IsIdentifier.feed {name : Text} (h : IsIdentifier name) : '\n' ∉ name :=
  h.not_mem (by decide) (by decide)

/-- A line that begins with a directive's word holds that directive. -/
theorem directives_word {word rest : Text} (h : IsIdentifier word)
    (hrest : ∀ c, rest.head? = some c → isWord c = false) (hfeed : '\n' ∉ rest) :
    directives ('#' :: (word ++ rest)) = (parseWord? word rest).toList := by
  have hline : '\n' ∉ '#' :: (word ++ rest) := by
    rw [List.mem_cons, List.mem_append, not_or, not_or]
    exact ⟨by decide, h.feed, hfeed⟩
  rw [directives_line hline, directive?_word h hrest]

/-- A line whose word takes a name holds the directive of that name. -/
theorem directives_naming {word name : Text} {directive : Text → Directive}
    (hword : IsIdentifier word) (h : IsIdentifier name)
    (hparse : parseWord? word (' ' :: name)
      = (Text.name? (Text.trimStart (' ' :: name))).map fun found => directive found.1) :
    directives ('#' :: (word ++ ' ' :: name)) = [directive name] := by
  have hfeed : '\n' ∉ ' ' :: name := by
    rw [List.mem_cons, not_or]
    exact ⟨by decide, h.feed⟩
  rw [directives_word hword (fun c hc => by cases hc; decide) hfeed, hparse, name?_blank_end h]
  rfl

theorem directives_ifndef {guard : Text} (h : IsIdentifier guard) :
    directives ("#ifndef ".toList ++ guard) = [.ifndef guard] :=
  @directives_naming "ifndef".toList guard Directive.ifndef (by decide) h rfl

theorem directives_undef {name : Text} (h : IsIdentifier name) :
    directives ("#undef ".toList ++ name) = [.command (.undef name)] :=
  @directives_naming "undef".toList name (fun name => .command (.undef name)) (by decide) h rfl

theorem directives_endif {rest : Text} (h : '\n' ∉ rest) :
    directives ("#endif ".toList ++ rest) = [.endif] :=
  @directives_word "endif".toList (' ' :: rest) (by decide) (fun c hc => by cases hc; decide)
    (by simp [h])

/-- A line that defines something. -/
theorem directives_define {rest : Text} {command : Command} (hfeed : '\n' ∉ rest)
    (h : parseDefine? (' ' :: rest) = some command) :
    directives ("#define ".toList ++ rest) = [.command command] := by
  have hline := @directives_word "define".toList (' ' :: rest) (by decide)
    (fun c hc => by cases hc; decide) (by simp [hfeed])
  refine hline.trans ?_
  show ((parseDefine? (' ' :: rest)).map Directive.command).toList = _
  rw [h]
  rfl

/-- The line of a pragma about a name. -/
def pragmaLine (word name : Text) : Text :=
  "#pragma ".toList ++ (word ++ '(' :: '"' :: (name ++ ['"', ')']))

/-- A line that saves or restores a name. -/
theorem directives_pragma {word name : Text} {command : Command} (hword : IsIdentifier word)
    (h : IsIdentifier name)
    (hcommand : (if word = "push_macro".toList then some (Command.push name)
      else if word = "pop_macro".toList then some (.pop name) else none) = some command) :
    directives (pragmaLine word name) = [.command command] := by
  have hline := @directives_word "pragma".toList
    (' ' :: (word ++ '(' :: '"' :: (name ++ ['"', ')']))) (by decide)
    (fun c hc => by cases hc; decide) (by simp [h.feed, hword.feed])
  refine hline.trans ?_
  show ((parsePragma? _).map Directive.command).toList = _
  rw [parsePragma?_named hword h, hcommand]
  rfl

/-! ### Fragments -/

/-- The commands that shadow a name with a definition. -/
def shadowCommands (name : Text) (definition : Definition) : List Command :=
  [.push name, .undef name, .define name definition]

namespace Fragment

/-- The directives that a fragment stands for. -/
def directives : Fragment → List Directive
  | .guardOpen guard => [.ifndef guard, .command (.define guard {})]
  | .guardClose _ => [.endif]
  | .shadow name params expansion =>
    (shadowCommands name { params, body := expansion }).map .command
  | .restore name => [.command (.pop name)]
  | .assignment .. | .alias .. | .verbatim _ => []

/-- What a fragment must hold to be read back: names that are identifiers, and nothing that breaks
or continues a line. -/
def IsClean : Fragment → Prop
  | .guardOpen guard => IsIdentifier guard
  | .guardClose guard => '\n' ∉ guard
  | .assignment instanceName record field value =>
    IsCode instanceName ∧ '\n' ∉ record ∧ '\n' ∉ field ∧ '\n' ∉ value
  | .alias type name target => IsCode type ∧ '\n' ∉ name ∧ '\n' ∉ target
  | .shadow name params expansion =>
    IsIdentifier name ∧ (∀ param ∈ params.getD [], IsIdentifier param) ∧ '\n' ∉ expansion ∧
      Text.trim expansion = expansion ∧ expansion.getLast? = some ')'
  | .restore name => IsIdentifier name
  | .verbatim line => line = [] ∨ IsCode line ∧ line.getLast? = some ';'

theorem render_assignment (instanceName record field value : Text) :
    (assignment instanceName record field value).render
      = instanceName ++ '.' :: (record ++ '.' :: (field ++ (" = ".toList ++ value ++ [';']))) := by
  show instanceName ++ ['.'] ++ record ++ ['.'] ++ field ++ " = ".toList ++ value ++ [';'] = _
  simp only [List.append_assoc, List.cons_append, List.nil_append]

theorem render_guardOpen (guard : Text) :
    (guardOpen guard).render
      = ("#ifndef ".toList ++ guard) ++ '\n' :: ("#define ".toList ++ guard) := by
  have hdefine : "\n#define ".toList = '\n' :: "#define ".toList := by decide
  show "#ifndef ".toList ++ guard ++ "\n#define ".toList ++ guard = _
  rw [hdefine]
  simp only [List.append_assoc, List.cons_append]

/-- A shadow is two lines and a definition. -/
theorem render_shadow (name : Text) (params : Option (List Text)) (expansion : Text) :
    (shadow name params expansion).render
      = pragmaLine "push_macro".toList name ++ '\n' ::
          (("#undef ".toList ++ name) ++ '\n' :: definition name params expansion) := by
  have hopen : "#pragma push_macro(\"".toList
      = "#pragma ".toList ++ ("push_macro".toList ++ ['(', '"']) := by decide
  have hclose : "\")\n#undef ".toList = ['"', ')', '\n'] ++ "#undef ".toList := by decide
  show "#pragma push_macro(\"".toList ++ name ++ "\")\n#undef ".toList ++ name ++ ['\n'] ++
    definition name params expansion = _
  rw [hopen, hclose]
  unfold pragmaLine
  simp only [List.append_assoc, List.cons_append, List.nil_append]

theorem render_restore (name : Text) :
    (restore name).render = pragmaLine "pop_macro".toList name := by
  have hopen : "#pragma pop_macro(\"".toList
      = "#pragma ".toList ++ ("pop_macro".toList ++ ['(', '"']) := by decide
  have hclose : "\")".toList = ['"', ')'] := by decide
  show "#pragma pop_macro(\"".toList ++ name ++ "\")".toList = _
  rw [hopen, hclose]
  unfold pragmaLine
  simp only [List.append_assoc, List.cons_append, List.nil_append]

end Fragment

/-- A line of code goes on as one. -/
theorem IsCode.append {line rest : Text} (h : IsCode line) (hrest : '\n' ∉ rest) :
    IsCode (line ++ rest) := by
  obtain ⟨c, tail, rfl, hc⟩ := h.begins
  exact ⟨List.not_mem_append h.feed hrest, c, tail ++ rest, rfl, hc⟩

theorem IsIdentifier.isCode {name : Text} (h : IsIdentifier name) : IsCode name := by
  obtain ⟨c, rest, heq, hc, _⟩ := h.exists_cons
  exact ⟨h.feed, c, rest, heq, hc⟩

theorem IsCode.trimEnd {line : Text} (h : IsCode line) : IsCode (Text.trimEnd line) := by
  obtain ⟨c, rest, heq, hc⟩ := h.begins
  refine ⟨fun hmem => h.feed (trimEnd_subset line hmem), c, Text.trimEnd rest, ?_, hc⟩
  rw [heq, trimEnd_cons (isBlank_of_isNameStart hc)]

/-- Lines joined by a continuation hold the directive of what they join to. -/
theorem directives_continued {s t : Text} (hs : '\n' ∉ s) (ht : '\n' ∉ t) :
    directives (s ++ '\\' :: '\n' :: t) = directives (s ++ t) := by
  have hst : '\n' ∉ s ++ t := List.not_mem_append hs ht
  rw [directives, directives, splice_append_continuation hs, splice_eq_self ht, splice_eq_self hst]

/-- The definition of a shadow is read back, on one line or on two. -/
theorem directives_definition {name expansion : Text} {params : Option (List Text)}
    (h : (Fragment.shadow name params expansion).IsClean) :
    directives (Fragment.definition name params expansion)
      = [.command (.define name { params, body := expansion })] := by
  obtain ⟨hname, hparams, hfeed, htrim, _⟩ := h
  cases params with
  | none =>
    have hrest : '\n' ∉ name ++ ' ' :: expansion := by simp [hname.feed, hfeed]
    have hline : Fragment.definition name none expansion
        = "#define ".toList ++ (name ++ ' ' :: expansion) := by
      show "#define ".toList ++ name ++ [' '] ++ expansion = _
      simp only [List.append_assoc, List.cons_append, List.nil_append]
    rw [hline, directives_define hrest (parseDefine?_object hname), htrim]
  | some params =>
    replace hparams : ∀ param ∈ params, IsIdentifier param := hparams
    have hfeeds : '\n' ∉ [',', ' '].intercalate params :=
      not_mem_intercalate (by decide) fun param hparam => (hparams param hparam).feed
    -- the line up to its continuation
    let front := name ++ '(' :: ([',', ' '].intercalate params ++ [')', ' '])
    have hlines : Fragment.definition name (some params) expansion
        = ("#define ".toList ++ front) ++ '\\' :: '\n' :: (' ' :: ' ' :: expansion) := by
      have hend : ") \\\n  ".toList = [')', ' ', '\\', '\n', ' ', ' '] := by decide
      show "#define ".toList ++ name ++ ['('] ++ [',', ' '].intercalate params ++
        ") \\\n  ".toList ++ expansion = _
      rw [hend]
      simp only [front, List.append_assoc, List.cons_append, List.nil_append]
    have hline : ("#define ".toList ++ front) ++ ' ' :: ' ' :: expansion
        = "#define ".toList ++ (name ++ '(' ::
            ([',', ' '].intercalate params ++ ')' :: ' ' :: ' ' :: ' ' :: expansion)) := by
      simp only [front, List.append_assoc, List.cons_append, List.nil_append]
    have hfront : '\n' ∉ "#define ".toList ++ front :=
      List.not_mem_append (by decide) (by simp [front, hname.feed, hfeeds])
    -- one blank stands in front of the continuation and two behind it
    have htail : Text.trim (' ' :: ' ' :: ' ' :: expansion) = expansion :=
      (@trim_blanks_append [' ', ' ', ' '] (List.all_eq_true.mp (by decide)) expansion).trans htrim
    rw [hlines, directives_continued hfront (by simp [hfeed]), hline,
      directives_define (by simp [hname.feed, hfeeds, hfeed]) (parseDefine?_function hname hparams),
      htail]

/-- A text ends as its last part does. -/
theorem getLast?_append_of_eq_some {s t : Text} {c : Char} (h : t.getLast? = some c) :
    (s ++ t).getLast? = some c := by
  rw [List.getLast?_append, h]
  rfl

/-- A text that ends in another character does not end in this one. -/
theorem getLast?_ne_of_eq_some {s : Text} {c other : Char} (h : s.getLast? = some c)
    (hc : c ≠ other) : s.getLast? ≠ some other := by
  rw [h]
  exact fun heq => hc (Option.some_inj.mp heq)

/-- A text with an identifier at its end ends in a word character. -/
theorem getLast?_append_identifier {name : Text} (h : IsIdentifier name) {c : Char}
    (hc : isWord c = false) (s : Text) : (s ++ name).getLast? ≠ some c := by
  intro hlast
  obtain ⟨first, rest, heq, _⟩ := h.exists_cons
  have hne : name ≠ [] := heq ▸ List.cons_ne_nil first rest
  rw [List.getLast?_append_of_ne_nil _ hne] at hlast
  cases hc.symm.trans (h.isWord_of_mem c (List.mem_of_getLast? hlast))

/-- A shadow saves a name, removes it and defines it anew. -/
theorem directives_shadow {name expansion : Text} {params : Option (List Text)}
    (h : (Fragment.shadow name params expansion).IsClean) :
    directives (Fragment.shadow name params expansion).render
      = (shadowCommands name { params, body := expansion }).map .command := by
  have hname : IsIdentifier name := h.1
  have hsave : (pragmaLine "push_macro".toList name).getLast? = some ')' := by
    unfold pragmaLine
    simp [List.getLast?_cons]
  -- three lines, of which the last may be continued
  rw [Fragment.render_shadow, directives_append_feed (getLast?_ne_of_eq_some hsave (by decide)),
    directives_pragma (by decide) hname (if_pos rfl),
    directives_append_feed (getLast?_append_identifier hname rfl _), directives_undef hname,
    directives_definition h]
  rfl

/-- An assignment is a line of code. -/
theorem isCode_assignment {instanceName record field value : Text}
    (h : (Fragment.assignment instanceName record field value).IsClean) :
    IsCode (Fragment.assignment instanceName record field value).render := by
  obtain ⟨hinstance, hrecord, hfield, hvalue⟩ := h
  have hequals : '\n' ∉ " = ".toList := by decide
  show IsCode (instanceName ++ ['.'] ++ record ++ ['.'] ++ field ++ " = ".toList ++ value ++ [';'])
  exact (((((((hinstance.append (by decide)).append hrecord).append (by decide)).append
    hfield).append hequals).append hvalue).append (by decide))

/-- An alias is a line of code. -/
theorem isCode_alias {type name target : Text} (h : (Fragment.alias type name target).IsClean) :
    IsCode (Fragment.alias type name target).render := by
  obtain ⟨htype, hname, htarget⟩ := h
  have hequals : '\n' ∉ " = ".toList := by decide
  show IsCode (Text.trimEnd type ++
    (if (Text.trimEnd type).getLast? = some '*' then [] else [' ']) ++ name ++ " = ".toList ++
      target ++ [';'])
  refine ((((htype.trimEnd.append ?_).append hname).append hequals).append htarget).append
    (by decide)
  split <;> decide

/-- **A fragment is read back** as the directives that it stands for. -/
theorem directives_render : ∀ {fragment : Fragment}, fragment.IsClean →
    directives fragment.render = fragment.directives
  | .guardOpen guard, h => by
    have hguard : IsIdentifier guard := h
    rw [Fragment.render_guardOpen, directives_append_feed (getLast?_append_identifier hguard rfl _),
      directives_ifndef hguard, directives_define hguard.feed (parseDefine?_empty hguard)]
    rfl
  | .guardClose guard, h => by
    have hfeed : '\n' ∉ "/* ".toList ++ guard ++ " */".toList :=
      List.not_mem_append (List.not_mem_append (by decide) h) (by decide)
    have hline : (Fragment.guardClose guard).render
        = "#endif ".toList ++ ("/* ".toList ++ guard ++ " */".toList) := by
      have hopen : "#endif /* ".toList = "#endif ".toList ++ "/* ".toList := by decide
      show "#endif /* ".toList ++ guard ++ " */".toList = _
      rw [hopen]
      simp only [List.append_assoc]
    rw [hline, directives_endif hfeed]
    rfl
  | .assignment instanceName record field value, h => by
    rw [(isCode_assignment h).directives_eq]
    rfl
  | .alias type name target, h => by
    rw [(isCode_alias h).directives_eq]
    rfl
  | .shadow name params expansion, h => directives_shadow h
  | .restore name, h => by
    rw [Fragment.render_restore,
      directives_pragma (by decide) h ((if_neg (by decide)).trans (if_pos rfl))]
    rfl
  | .verbatim line, h => by
    rcases h with rfl | ⟨hcode, _⟩
    · rfl
    · exact hcode.directives_eq

/-- No fragment ends in a backslash. -/
theorem getLast?_render : ∀ {fragment : Fragment}, fragment.IsClean →
    fragment.render.getLast? ≠ some '\\'
  | .guardOpen guard, h => getLast?_append_identifier h rfl _
  | .guardClose guard, _ => by
    have hend : " */".toList.getLast? = some '/' := by decide
    exact getLast?_ne_of_eq_some (getLast?_append_of_eq_some hend) (by decide)
  | .assignment .., _ => getLast?_ne_of_eq_some (c := ';') List.getLast?_concat (by decide)
  | .alias .., _ => getLast?_ne_of_eq_some (c := ';') List.getLast?_concat (by decide)
  | .shadow name params expansion, h => by
    have hexpansion : expansion.getLast? = some ')' := h.2.2.2.2
    have hdefinition : (Fragment.definition name params expansion).getLast? = some ')' := by
      cases params with
      | none => exact getLast?_append_of_eq_some hexpansion
      | some params => exact getLast?_append_of_eq_some hexpansion
    exact getLast?_ne_of_eq_some (getLast?_append_of_eq_some hdefinition) (by decide)
  | .restore name, _ => by
    have hend : "\")".toList.getLast? = some ')' := by decide
    exact getLast?_ne_of_eq_some (getLast?_append_of_eq_some hend) (by decide)
  | .verbatim line, h => by
    rcases h with rfl | ⟨_, hend⟩
    · exact fun hend => nomatch hend
    · exact getLast?_ne_of_eq_some hend (by decide)

/-! ### Texts of fragments -/

/-- Some fragments that can be read back stand for some directives. -/
structure Reads (fragments : List Fragment) (found : List Directive) : Prop where
  clean : ∀ fragment ∈ fragments, fragment.IsClean
  found : fragments.flatMap Fragment.directives = found

theorem Reads.nil : Reads [] [] := ⟨fun _ hf => absurd hf List.not_mem_nil, rfl⟩

theorem Reads.cons {fragment : Fragment} {fragments : List Fragment} {found : List Directive}
    (h : fragment.IsClean) (hrest : Reads fragments found) :
    Reads (fragment :: fragments) (fragment.directives ++ found) := by
  refine ⟨List.forall_mem_cons.mpr ⟨h, hrest.clean⟩, ?_⟩
  rw [List.flatMap_cons, hrest.found]

theorem Reads.append {fragments more : List Fragment} {found others : List Directive}
    (h : Reads fragments found) (hmore : Reads more others) :
    Reads (fragments ++ more) (found ++ others) := by
  refine ⟨List.forall_mem_append.mpr ⟨h.clean, hmore.clean⟩, ?_⟩
  rw [List.flatMap_append, h.found, hmore.found]

theorem Reads.flatMap {α : Type} {items : List α} {fragments : α → List Fragment}
    {found : α → List Directive} (h : ∀ item ∈ items, Reads (fragments item) (found item)) :
    Reads (items.flatMap fragments) (items.flatMap found) := by
  induction items with
  | nil => exact .nil
  | cons item items ih =>
    rw [List.flatMap_cons, List.flatMap_cons]
    exact (h item List.mem_cons_self).append
      (ih fun other hother => h other (List.mem_cons_of_mem _ hother))

/-- Fragments that stand for no directives. -/
theorem Reads.of_passed {fragments : List Fragment}
    (h : ∀ fragment ∈ fragments, fragment.IsClean ∧ fragment.directives = []) :
    Reads fragments [] :=
  ⟨fun fragment hf => (h fragment hf).1,
    List.flatMap_eq_nil_iff.mpr fun fragment hf => (h fragment hf).2⟩

/-- The directives of a text of fragments are those that the fragments stand for. -/
theorem Reads.directives_unlines {fragments : List Fragment} {found : List Directive}
    (h : Reads fragments found) :
    directives (Text.unlines (fragments.map Fragment.render)) = found := by
  have hend : ∀ line ∈ fragments.map Fragment.render, line.getLast? ≠ some '\\' := by
    intro line hline
    obtain ⟨fragment, hfragment, rfl⟩ := List.mem_map.mp hline
    exact getLast?_render (h.clean fragment hfragment)
  rw [Preprocessor.directives_unlines hend, List.flatMap_map, ← h.found]
  exact List.flatMap_congr fun fragment hfragment => directives_render (h.clean fragment hfragment)

end StateOverlay
