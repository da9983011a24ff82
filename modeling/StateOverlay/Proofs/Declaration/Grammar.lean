/-
The lines that declare one name.

A declaration stands on one line: the qualifier if there is one, a type, a name with one array
suffix at most, attributes, an initializer if there is one, and a semicolon.  A comment may follow.
Whatever the attributes and the initializer hold, such a line is a declaration of its name:

* `DeclarationLine` — the parts of such a line, and `DeclarationLine.text`, the line;
* `DeclarationLine.trailingName?_declarator` — reducing the declaration leaves its name at the end;
* `DeclarationLine.isCodeLine` — the line is neither quiet nor a directive;
* `DeclarationLine.classify_text` — the line is a declaration of its name.
-/
import StateOverlay.Proofs.Declaration.Comments
import StateOverlay.Proofs.Declaration.Declarator
import StateOverlay.Proofs.Scan.CodeLines

namespace StateOverlay

open Declaration

/-- The qualifier and the white space behind it, if a line has them. -/
def qualifierText (qualifier : Text) : Option Text → Text
  | some blanks => qualifier ++ blanks
  | none => []

/-- The comment at the end of a line, if it has one. -/
def commentText : Option Text → Text
  | some comment => ['/', '*'] ++ comment
  | none => []

/-- A line is cut in front of the comment at its end. -/
theorem stripComment_append_commentText {code : Text} (hcode : ¬ ['/', '*'] <:+: code)
    (comment : Option Text) : stripComment (code ++ commentText comment) = code := by
  apply stripComment_append hcode
  cases comment with
  | some comment => exact .inr (List.prefix_append _ _)
  | none => exact .inl rfl

/-- A line that begins with a type and a name, behind the qualifier if it has it, is code. -/
theorem isCodeLine_of_type_name {qualifier margin type name : Text} {qualified : Option Text}
    (hqualifier : IsIdentifier qualifier) (hmargin : ∀ c ∈ margin, isBlank c)
    (hqualified : ∀ blanks ∈ qualified, ∀ c ∈ blanks, isBlank c) (htype : IsTypeText type)
    (hname : IsIdentifier name) (rest : Text) :
    IsCodeLine (margin ++ (qualifierText qualifier qualified ++ (type ++ (name ++ rest)))) := by
  have hall : ∀ c ∈ margin ++ (qualifierText qualifier qualified ++ (type ++ name)),
      isWord c = true ∨ isBlank c = true ∨ c = '*' := by
    intro c hc
    simp only [List.mem_append] at hc
    rcases hc with hc | hc | hc | hc
    · exact .inr (.inl (hmargin c hc))
    · cases qualified with
      | none => exact absurd hc List.not_mem_nil
      | some blanks =>
        rcases List.mem_append.mp hc with hc | hc
        · exact .inl (hqualifier.isWord_of_mem c hc)
        · exact .inr (.inl (hqualified blanks rfl c hc))
    · exact htype.all c hc
    · exact .inl (hname.isWord_of_mem c hc)
  have hloud : ∃ c ∈ margin ++ (qualifierText qualifier qualified ++ (type ++ name)),
      isBlank c = false := by
    obtain ⟨c, word, rfl, hc, _⟩ := hname.exists_cons
    exact ⟨c, by simp, isBlank_of_isNameStart hc⟩
  have hcode := isCodeLine_of_words hall hloud rest
  simpa only [List.append_assoc] using hcode

/-- The parts of a line that declares a name. -/
structure DeclarationLine where
  margin : Text
  /-- The white space behind the qualifier, if the line has the qualifier. -/
  qualified : Option Text
  type : Text
  name : Text
  /-- The white space in front of an array suffix and what stands between its brackets. -/
  suffix : Option (Text × Text)
  /-- The attributes, each with the white space in front of it. -/
  attributes : List (Text × Text)
  gap : Text
  /-- What stands behind the equals sign, if there is one. -/
  initializer : Option Text
  /-- The white space behind the semicolon. -/
  ending : Text
  /-- What stands behind the opening of a comment, if there is one. -/
  comment : Option Text
  margin_blank : ∀ c ∈ margin, isBlank c
  qualified_blank : ∀ blanks ∈ qualified, blanks ≠ [] ∧ ∀ c ∈ blanks, isBlank c
  isTypeText_type : IsTypeText type
  isIdentifier_name : IsIdentifier name
  suffix_plain : ∀ found ∈ suffix, (∀ c ∈ found.1, isBlank c) ∧ ']' ∉ found.2 ∧ '=' ∉ found.2 ∧
    ¬ attributeWord <:+: found.2
  attributes_spaced : ∀ found ∈ attributes,
    found.1 ≠ [] ∧ (∀ c ∈ found.1, isBlank c) ∧ IsAttribute found.2
  gap_blank : ∀ c ∈ gap, isBlank c
  ending_blank : ∀ c ∈ ending, isBlank c

namespace DeclarationLine

/-! ### The text of a line -/

def suffixText (line : DeclarationLine) : Text :=
  match line.suffix with
  | some (blanks, dim) => blanks ++ '[' :: (dim ++ [']'])
  | none => []

def attributesText (line : DeclarationLine) : Text :=
  line.attributes.flatMap fun (blanks, attr) => blanks ++ attr

def initializerText (line : DeclarationLine) : Text :=
  match line.initializer with
  | some initializer => '=' :: initializer
  | none => []

/-- What stands between the name and the semicolon. -/
def tail (line : DeclarationLine) : Text :=
  line.suffixText ++ (line.attributesText ++ (line.gap ++ line.initializerText))

/-- A line up to the comment at its end. -/
def code (qualifier : Text) (line : DeclarationLine) : Text :=
  line.margin ++ (qualifierText qualifier line.qualified ++
    (line.type ++ (line.name ++ line.tail))) ++ [';'] ++ line.ending

/-- A line as it stands in a header. -/
def text (qualifier : Text) (line : DeclarationLine) : Text :=
  line.code qualifier ++ commentText line.comment

variable (line : DeclarationLine)

/-! ### What stands behind the name -/

theorem separates_initializer : Separates (line.gap ++ line.initializerText) := by
  apply Separates.blanks_append line.gap_blank
  rw [initializerText]
  split
  · exact .cons (by decide) (by decide) (by decide) _
  · exact .nil

theorem separates_attributes :
    Separates (line.attributesText ++ (line.gap ++ line.initializerText)) := by
  rw [attributesText]
  cases hattributes : line.attributes with
  | nil => exact line.separates_initializer
  | cons first rest =>
    obtain ⟨hne, hblanks, hattr⟩ := line.attributes_spaced first (hattributes ▸ .head _)
    rw [List.flatMap_cons, List.append_assoc, List.append_assoc]
    exact .attribute hne hblanks hattr _

theorem separates_tail : Separates line.tail := by
  rw [tail, suffixText]
  split
  · case h_1 blanks dim hsuffix =>
    rw [List.append_assoc]
    exact .blanks_append (line.suffix_plain _ hsuffix).1
      (.cons (by decide) (by decide) (by decide) _)
  · exact line.separates_attributes

/-! ### Reducing the declaration -/

/-- Removing the attributes of a line leaves the white space in front of them. -/
theorem removeAttributes_attributesText (rest : Text) :
    removeAttributes (line.attributesText ++ rest)
      = line.attributes.flatMap Prod.fst ++ removeAttributes rest :=
  removeAttributes_attributes (fun found hfound => (line.attributes_spaced found hfound).2) rest

theorem removeAttributes_suffixText (rest : Text) :
    removeAttributes (line.suffixText ++ rest) = line.suffixText ++ removeAttributes rest := by
  rw [suffixText]
  split
  · case h_1 blanks dim hsuffix =>
    obtain ⟨hblanks, _, _, hwordless⟩ := line.suffix_plain _ hsuffix
    rw [List.append_assoc, removeAttributes_blanks_append hblanks, List.cons_append,
      removeAttributes_cons_of_not_isWord (by decide), List.append_assoc,
      List.singleton_append, removeAttributes_append_of_wordless hwordless (by decide)]
    simp
  · rfl

/-- What is left of the declaration between the suffix and the initializer. -/
def remnant : Text := line.attributes.flatMap Prod.fst ++ line.gap

theorem isBlank_of_mem_remnant {c : Char} (hc : c ∈ line.remnant) : isBlank c = true := by
  rcases List.mem_append.mp hc with hc | hc
  · obtain ⟨found, hfound, hc⟩ := List.mem_flatMap.mp hc
    exact (line.attributes_spaced found hfound).2.1 c hc
  · exact line.gap_blank c hc

theorem isArraySuffix_suffixText : line.suffixText = [] ∨ IsArraySuffix line.suffixText := by
  rw [suffixText]
  split
  · case h_1 blanks dim hsuffix =>
    obtain ⟨hblanks, hclose, _⟩ := line.suffix_plain _ hsuffix
    exact .inr ⟨blanks, dim, hblanks, hclose, rfl⟩
  · exact .inl rfl

theorem equals_not_mem_suffixText : '=' ∉ line.suffixText := by
  rw [suffixText]
  split
  · case h_1 blanks dim hsuffix =>
    obtain ⟨hblanks, _, hequals, _⟩ := line.suffix_plain _ hsuffix
    simp only [List.mem_append, List.mem_cons, List.not_mem_nil, or_false, not_or]
    exact ⟨fun hc => (nomatch hblanks _ hc), by decide, hequals, by decide⟩
  · exact List.not_mem_nil

/-- A declaration without its attributes, up to its initializer. -/
theorem takeWhile_removeAttributes {type : Text} (htype : IsTypeText type) :
    (removeAttributes (type ++ (line.name ++ line.tail))).takeWhile (· != '=')
      = type ++ (line.name ++ line.suffixText) ++ line.remnant := by
  have hunopened : '(' ∉ type ++ line.name := by
    rw [List.mem_append, not_or]
    exact ⟨htype.not_mem (by decide) (by decide) (by decide),
      line.isIdentifier_name.not_mem (by decide) (by decide)⟩
  have hplain : ∀ c ∈ type ++ (line.name ++ line.suffixText) ++ line.remnant,
      (c != '=') = true := by
    simp only [bne_iff_ne, ne_eq, List.mem_append]
    rintro c ((hc | hc | hc) | hc) rfl
    · exact htype.not_mem (by decide) (by decide) (by decide) hc
    · exact line.isIdentifier_name.not_mem (by decide) (by decide) hc
    · exact line.equals_not_mem_suffixText hc
    · cases line.isBlank_of_mem_remnant hc
  have hremoved : removeAttributes (type ++ (line.name ++ line.tail))
      = type ++ (line.name ++ line.suffixText) ++ line.remnant
        ++ removeAttributes line.initializerText := by
    rw [← List.append_assoc, removeAttributes_append_of_unopened hunopened line.separates_tail,
      tail, line.removeAttributes_suffixText, line.removeAttributes_attributesText,
      removeAttributes_blanks_append line.gap_blank, remnant]
    simp only [List.append_assoc]
  -- whatever stands in the initializer, attributes too, comes behind the cut
  have hcut : (removeAttributes line.initializerText).takeWhile (· != '=') = [] := by
    rw [initializerText]
    split
    · rw [removeAttributes_cons_of_not_isWord (by decide)]
      rfl
    · rw [removeAttributes]
      rfl
  rw [hremoved, List.takeWhile_append_of_pos hplain, hcut, List.append_nil]

/-- The name of a line stands at the end of its declarator. -/
theorem trailingName?_trim {type : Text} (htype : IsTypeText type) :
    trailingName? (Text.trim ((removeAttributes (type ++ (line.name ++ line.tail))).takeWhile
      (· != '='))) = some line.name := by
  obtain ⟨c, word, hname, hc, _⟩ := line.isIdentifier_name.exists_cons
  have hne : line.name ++ line.suffixText ≠ [] := by
    rw [hname]
    exact List.cons_ne_nil _ _
  have hfirst : ∀ d, (line.name ++ line.suffixText).head? = some d → isBlank d = false := by
    rw [hname]
    rintro d ⟨rfl⟩
    exact isBlank_of_isNameStart hc
  have hlast : ∀ d, (line.name ++ line.suffixText).getLast? = some d → isBlank d = false := by
    intro d hd
    rcases line.isArraySuffix_suffixText with hsuffix | hsuffix
    · rw [hsuffix, List.append_nil] at hd
      exact line.isIdentifier_name.isBlank_of_mem d (List.mem_of_getLast? hd)
    · rw [List.getLast?_append, hsuffix.ends.2] at hd
      cases hd
      decide
  rw [line.takeWhile_removeAttributes htype,
    trim_append_append hne hfirst hlast fun d => line.isBlank_of_mem_remnant]
  exact trailingName?_of_type (htype.of_suffix (List.dropWhile_suffix _)) line.isIdentifier_name
    line.isArraySuffix_suffixText

section Qualified

variable {qualifier : Text} (hqualifier : IsIdentifier qualifier)
  (hne : line.qualified = none → line.name ≠ qualifier)

/-- A line up to its semicolon, without the white space in front of it. -/
def declaration (qualifier : Text) : Text :=
  Text.trimStart (qualifierText qualifier line.qualified ++
    (line.type ++ (line.name ++ line.tail)))

include hqualifier hne in
/-- The declaration goes on to the name behind a type once the qualifier is dropped. -/
theorem exists_unqualified_declaration :
    ∃ type, IsTypeText type ∧
      (afterQualifier? qualifier (line.declaration qualifier)).getD (line.declaration qualifier)
        = type ++ (line.name ++ line.tail) := by
  have htrimmed : IsTypeText (Text.trimStart line.type) :=
    line.isTypeText_type.of_suffix (List.dropWhile_suffix _)
  rw [declaration]
  cases hqualified : line.qualified with
  | some blanks =>
    obtain ⟨hblanksNe, hblanks⟩ := line.qualified_blank blanks hqualified
    refine ⟨_, htrimmed, ?_⟩
    rw [qualifierText, List.append_assoc, trimStart_identifier hqualifier,
      afterQualifier?_append hblanksNe hblanks, Option.getD_some,
      trimStart_type_append line.isIdentifier_name]
  | none =>
    rw [qualifierText, List.nil_append, trimStart_type_append line.isIdentifier_name]
    obtain ⟨shorter, hsuffix, hunqualified⟩ := exists_unqualified hqualifier
      line.isIdentifier_name (fun c => htrimmed.isWord_last) (fun _ => hne hqualified)
      line.separates_tail.head
    exact ⟨shorter, htrimmed.of_suffix hsuffix, hunqualified⟩

include hqualifier hne in
theorem trailingName?_declarator :
    trailingName? (declarator qualifier (line.declaration qualifier)) = some line.name := by
  obtain ⟨type, htype, hunqualified⟩ := line.exists_unqualified_declaration hqualifier hne
  rw [declarator, hunqualified]
  exact line.trailingName?_trim htype

/-! ### The line as a whole -/

/-- A line up to its comment, trimmed, is its declaration and a semicolon. -/
theorem trim_code : Text.trim (line.code qualifier) = line.declaration qualifier ++ [';'] :=
  trim_terminated line.margin_blank line.ending_blank

include hqualifier in
theorem isCodeLine : IsCodeLine (line.text qualifier) := by
  have hcode := isCodeLine_of_type_name hqualifier line.margin_blank
    (fun blanks hblanks => (line.qualified_blank blanks hblanks).2) line.isTypeText_type
    line.isIdentifier_name (line.tail ++ ([';'] ++ (line.ending ++ commentText line.comment)))
  simpa only [text, code, List.append_assoc] using hcode

include hqualifier hne in
/-- A line is a declaration of its name. -/
theorem classify_text {config : Config} (hstorage : config.storageQualifier = qualifier)
    (hopener : ¬ ['/', '*'] <:+: line.code qualifier) :
    classify config (line.text qualifier) = .declaration line.name
      ((record? qualifier config.recordTypeTag (line.declaration qualifier ++ [';'])).map
        fun (name, contents) => { name, rawValues := splitValues contents }) := by
  subst hstorage
  rw [classify]
  dsimp only
  rw [text, stripComment_append_commentText hopener, line.trim_code, List.getLast?_concat,
    if_pos rfl, List.dropLast_concat, line.trailingName?_declarator hqualifier hne]

end Qualified

end DeclarationLine

end StateOverlay
