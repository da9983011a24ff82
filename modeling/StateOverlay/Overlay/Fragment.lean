/-
The pieces of source text an overlay is made of.

A fragment stands for one or more whole lines and is rendered without a final line feed; the texts
of a run are fragments and empty lines joined by line feeds.
-/
import StateOverlay.Text.Blank

namespace StateOverlay

/-- A piece of generated source text. -/
inductive Fragment where
  /-- The two lines that open a file which is included once. -/
  | guardOpen (guard : Text)
  /-- The line that closes such a file. -/
  | guardClose (guard : Text)
  /-- An assignment to a field of a record in the container. -/
  | assignment (instanceName record field value : Text)
  /-- A plain declaration bound to a field of the container. -/
  | alias (type name target : Text)
  /-- Saving, removing and defining a name anew; a definition with parameters goes on in the next
  line. -/
  | shadow (name : Text) (params : Option (List Text)) (expansion : Text)
  /-- Going back to the definition that a shadow saved. -/
  | restore (name : Text)
  /-- A line as it is. -/
  | verbatim (line : Text)

namespace Fragment

/-- The definition that a shadow gives to a name. -/
def definition (name : Text) (params : Option (List Text)) (expansion : Text) : Text :=
  match params with
  | some params =>
    "#define ".toList ++ name ++ ['('] ++ [',', ' '].intercalate params ++ ") \\\n  ".toList ++
      expansion
  | none => "#define ".toList ++ name ++ [' '] ++ expansion

/-- The text of a fragment. -/
def render : Fragment → Text
  | .guardOpen guard => "#ifndef ".toList ++ guard ++ "\n#define ".toList ++ guard
  | .guardClose guard => "#endif /* ".toList ++ guard ++ " */".toList
  | .assignment instanceName record field value =>
    instanceName ++ ['.'] ++ record ++ ['.'] ++ field ++ " = ".toList ++ value ++ [';']
  | .alias type name target =>
    let type := Text.trimEnd type
    let gap : Text := if type.getLast? = some '*' then [] else [' ']
    type ++ gap ++ name ++ " = ".toList ++ target ++ [';']
  | .shadow name params expansion =>
    "#pragma push_macro(\"".toList ++ name ++ "\")\n#undef ".toList ++ name ++ ['\n'] ++
      definition name params expansion
  | .restore name => "#pragma pop_macro(\"".toList ++ name ++ "\")".toList
  | .verbatim line => line

end Fragment

end StateOverlay
