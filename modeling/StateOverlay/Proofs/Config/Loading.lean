/-
Loading configurations.

A configuration file gives some fields of a configuration, in any order and among members that
nobody knows.  What it does not give keeps its default:

* `Config.naming` — a configuration where some members name a field, and the defaults elsewhere;
* `Config.Gives` — the members that give the fields of a configuration;
* `Config.IsWellFormed` — the members that give a field of some configuration;
* `Config.NamesTwice` — objects that name a field twice;
* `Config.settles`, `Config.exists_settles_error` — such members are read as what they name, unless
  they name a field twice;
* `Config.file_overrides_named_fields` — and so is a file of them.
-/
import StateOverlay.Config.Reader
import StateOverlay.Proofs.Json.Reading
import StateOverlay.Proofs.Run.Planning

namespace StateOverlay

open Json

/-! ### Named fields -/

/-- Whether some members name a key. -/
def names (members : List (Text × Document)) (key : Text) : Bool :=
  members.any fun member => member.1 == key

theorem names_cons_of_ne {member : Text × Document} {key : Text} (h : member.1 ≠ key)
    (members : List (Text × Document)) : names (member :: members) key = names members key := by
  rw [names, List.any_cons, beq_eq_false_iff_ne.mpr h, Bool.false_or]
  rfl

/-- Whether the objects under a key among some members name a key. -/
def namesInside (outer : Text) (members : List (Text × Document)) (key : Text) : Bool :=
  members.any fun member =>
    member.1 == outer &&
      match member.2 with
      | .object inner => names inner key
      | _ => false

/-- Whether some members name one of some keys twice. -/
def NameTwice (keys : List Text) (members : List (Text × Document)) : Prop :=
  ∃ key ∈ keys, 2 ≤ (members.map Prod.fst).count key

theorem count_le_one_of_not_nameTwice {keys : List Text} {members : List (Text × Document)}
    (h : ¬ NameTwice keys members) : ∀ key ∈ keys, (members.map Prod.fst).count key ≤ 1 :=
  fun key hkey => Nat.le_of_lt_succ (Nat.lt_of_not_le fun hcount => h ⟨key, hkey, hcount⟩)

theorem namesInside_eq_false {outer : Text} {members : List (Text × Document)}
    (h : outer ∉ members.map Prod.fst) (key : Text) : namesInside outer members key = false := by
  rw [namesInside, List.any_eq_false]
  intro member hmember hnames
  have houter := (Bool.and_eq_true_iff.mp hnames).1
  exact h (List.mem_map.mpr ⟨member, hmember, beq_iff_eq.mp houter⟩)

theorem namesInside_cons_of_ne {member : Text × Document} {outer : Text} (h : member.1 ≠ outer)
    (members : List (Text × Document)) :
    namesInside outer (member :: members) = namesInside outer members := by
  funext key
  rw [namesInside, List.any_cons, beq_eq_false_iff_ne.mpr h, Bool.false_and, Bool.false_or]
  rfl

theorem namesInside_cons_object (outer : Text) (inner : List (Text × Document))
    {members : List (Text × Document)} (h : outer ∉ members.map Prod.fst) :
    namesInside outer ((outer, .object inner) :: members) = names inner := by
  funext key
  have hnone := namesInside_eq_false h key
  rw [namesInside] at hnone ⊢
  rw [List.any_cons, hnone, Bool.or_false, beq_self_eq_true, Bool.true_and]

/-! ### Record field names -/

namespace RecordFields

/-- The fields as texts by their keys. -/
def texts (given : RecordFields) : List (Text × Text) :=
  [("size".toList, given.size), ("data".toList, given.data), ("attr".toList, given.attr)]

/-- The fields that are named, and the defaults of the others. -/
def restrict (given : RecordFields) (named : Text → Bool) : RecordFields where
  size := if named "size".toList then given.size else ({} : RecordFields).size
  data := if named "data".toList then given.data else ({} : RecordFields).data
  attr := if named "attr".toList then given.attr else ({} : RecordFields).attr

/-- The members that give a field, or that have an unknown key. -/
inductive Gives (given : RecordFields) : Text × Document → Prop where
  | text {key value : Text} (h : (key, value) ∈ given.texts) : Gives given (key, .string value)
  | unknown {key : Text} {document : Document} (h : key ∉ keys fields) : Gives given (key, document)

/-- A field is read from its text. -/
theorem settles_of_mem_texts {given : RecordFields} {key value : Text}
    {field : FieldReader RecordFields} (h : (key, value) ∈ given.texts)
    (hfield : fields.find? (·.key == key) = some field) :
    (∀ state, ∃ updated, Settles (field.read state) (.string value) (.ok updated)) ∧
      ∀ done, Settles (field.read (given.restrict (names done))) (.string value)
        (.ok (given.restrict (names ((key, .string value) :: done)))) := by
  simp only [texts, List.mem_cons, Prod.mk.injEq, List.not_mem_nil, or_false] at h
  rcases h with ⟨rfl, rfl⟩ | ⟨rfl, rfl⟩ | ⟨rfl, rfl⟩ <;>
    obtain rfl := Option.some.inj hfield <;>
    exact ⟨fun _ => ⟨_, settles_fieldText _ _ _ _⟩, fun _ => settles_fieldText _ _ _ _⟩

theorem restrict_cons_of_unknown (given : RecordFields) {member : Text × Document}
    (h : member.1 ∉ keys fields) (done : List (Text × Document)) :
    given.restrict (names (member :: done)) = given.restrict (names done) := by
  have hsame : ∀ key ∈ keys fields, names (member :: done) key = names done key :=
    fun key hkey => names_cons_of_ne (fun heq => h (heq ▸ hkey)) done
  rw [restrict, restrict, hsame _ (by decide), hsame _ (by decide), hsame _ (by decide)]

/-- The record field names are read from members that give them. -/
theorem settles {given : RecordFields} {members : List (Text × Document)}
    (h : ∀ member ∈ members, given.Gives member) (honce : ¬ NameTwice (keys fields) members) :
    Settles reader (.object members) (.ok (given.restrict (names members))) := by
  have hfills : Fills fields [] (given.restrict (names [])) members
      (.ok (given.restrict (names (members.reverse ++ [])))) := by
    refine fills_ok (fun done => given.restrict (names done))
      (fun member hmember done field hfield _ => ?_)
      (fun member done hkey => restrict_cons_of_unknown given hkey done) (fun _ _ => Iff.rfl)
      (fun key hkey => ?_)
    · obtain ⟨key, document⟩ := member
      cases h _ hmember with
      | text htext => exact (settles_of_mem_texts htext hfield).2 done
      | unknown hkey => exact absurd (mem_keys_of_find? hfield) hkey
    · have := count_le_one_of_not_nameTwice honce key hkey
      rwa [List.map_nil, List.count_nil, Nat.zero_add]
  have hreverse : names (members.reverse ++ []) = names members := by
    funext key
    rw [List.append_nil, names, List.any_reverse]
    rfl
  rw [hreverse] at hfills
  exact hfills.settles

/-- The members with a value that a field could have, or with an unknown key. -/
def IsWellFormed (member : Text × Document) : Prop := ∃ given : RecordFields, given.Gives member

theorem IsWellFormed.exists_settles {key : Text} {document : Document}
    {field : FieldReader RecordFields} (h : IsWellFormed (key, document))
    (hfield : fields.find? (·.key == key) = some field) (state : RecordFields) :
    ∃ updated, Settles (field.read state) document (.ok updated) := by
  obtain ⟨given, hgiven⟩ := h
  cases hgiven with
  | text htext => exact (settles_of_mem_texts htext hfield).1 state
  | unknown hkey => exact absurd (mem_keys_of_find? hfield) hkey

/-- They are read, or one of them is named twice. -/
theorem exists_settles {members : List (Text × Document)}
    (h : ∀ member ∈ members, IsWellFormed member) :
    ∃ outcome, Settles reader (.object members) outcome := by
  obtain ⟨outcome, hfills⟩ := exists_fills {} fun member hmember field hfield state =>
    ((h member hmember).exists_settles hfield state).imp' Except.ok fun _ => id
  exact ⟨outcome, hfills.settles⟩

/-- They are not read if one of them is named twice. -/
theorem exists_settles_error {members : List (Text × Document)}
    (h : ∀ member ∈ members, IsWellFormed member) (htwice : NameTwice (keys fields) members) :
    ∃ key, Settles reader (.object members) (.error key) := by
  obtain ⟨key, hkey, hcount⟩ := htwice
  obtain ⟨found, hfills⟩ := exists_fills_error {}
    (fun member hmember field hfield => .inr ((h member hmember).exists_settles hfield))
    List.nodup_nil (.inl ⟨key, hkey, by rwa [List.count_nil, Nat.zero_add]⟩)
  exact ⟨found, hfills.settles⟩

end RecordFields

namespace Config

/-- The fields that are texts, by their keys. -/
def texts (config : Config) : List (Text × Text) :=
  [("state_type".toList, config.stateType), ("state_instance".toList, config.stateInstance),
    ("state_init_fn".toList, config.stateInitFn),
    ("storage_qualifier".toList, config.storageQualifier),
    ("record_type_tag".toList, config.recordTypeTag),
    ("param_array_ident".toList, config.paramArrayIdent),
    ("param_array_type".toList, config.paramArrayType), ("entry_macro".toList, config.entryMacro),
    ("entry_state_suffix".toList, config.entryStateSuffix),
    ("overlay_file".toList, config.overlayFile), ("overlay_guard".toList, config.overlayGuard),
    ("cleanup_file".toList, config.cleanupFile), ("cleanup_guard".toList, config.cleanupGuard),
    ("companion_file".toList, config.companionFile),
    ("companion_marker".toList, config.companionMarker)]

/-- A field if its key is named, and its default otherwise. -/
def pick {α : Type} (config : Config) (named : Text → Bool) (key : String)
    (field : Config → α) : α :=
  if named key.toList then field config else field {}

/-- The fields that are named, and the defaults of the others; the same with the record fields. -/
def restrict (config : Config) (named inside : Text → Bool) : Config :=
  { stateType := config.pick named "state_type" stateType
    stateInstance := config.pick named "state_instance" stateInstance
    stateInitFn := config.pick named "state_init_fn" stateInitFn
    storageQualifier := config.pick named "storage_qualifier" storageQualifier
    recordTypeTag := config.pick named "record_type_tag" recordTypeTag
    recordFields := config.recordFields.restrict inside
    paramArrayIdent := config.pick named "param_array_ident" paramArrayIdent
    paramArrayType := config.pick named "param_array_type" paramArrayType
    entryMacro := config.pick named "entry_macro" entryMacro
    entryMacroParams := config.pick named "entry_macro_params" entryMacroParams
    entryStateSuffix := config.pick named "entry_state_suffix" entryStateSuffix
    overlayFile := config.pick named "overlay_file" overlayFile
    overlayGuard := config.pick named "overlay_guard" overlayGuard
    cleanupFile := config.pick named "cleanup_file" cleanupFile
    cleanupGuard := config.pick named "cleanup_guard" cleanupGuard
    companionFile := config.pick named "companion_file" companionFile
    companionMarker := config.pick named "companion_marker" companionMarker }

/-- The fields that some members name, and the defaults of the others. -/
def naming (config : Config) (members : List (Text × Document)) : Config :=
  config.restrict (names members) (namesInside "record_fields".toList members)

/-- The members that give a field, or that have an unknown key. -/
inductive Gives (config : Config) : Text × Document → Prop where
  | text {key value : Text} (h : (key, value) ∈ config.texts) : Gives config (key, .string value)
  | recordFields {members : List (Text × Document)}
      (h : ∀ member ∈ members, config.recordFields.Gives member) :
      Gives config ("record_fields".toList, .object members)
  | entryMacroParams :
      Gives config ("entry_macro_params".toList, .list (config.entryMacroParams.map .string))
  | unknown {key : Text} {document : Document} (h : key ∉ keys fields) :
      Gives config (key, document)

/-- A field is read from its text. -/
theorem settles_of_mem_texts {config : Config} {key value : Text} {field : FieldReader Config}
    (h : (key, value) ∈ config.texts) (hfield : fields.find? (·.key == key) = some field) :
    (∀ state, ∃ updated, Settles (field.read state) (.string value) (.ok updated)) ∧
      ∀ done, Settles (field.read (config.naming done)) (.string value)
        (.ok (config.naming ((key, .string value) :: done))) := by
  simp only [texts, List.mem_cons, Prod.mk.injEq, List.not_mem_nil, or_false] at h
  rcases h with ⟨rfl, rfl⟩ | ⟨rfl, rfl⟩ | ⟨rfl, rfl⟩ | ⟨rfl, rfl⟩ | ⟨rfl, rfl⟩ | ⟨rfl, rfl⟩ |
    ⟨rfl, rfl⟩ | ⟨rfl, rfl⟩ | ⟨rfl, rfl⟩ | ⟨rfl, rfl⟩ | ⟨rfl, rfl⟩ | ⟨rfl, rfl⟩ | ⟨rfl, rfl⟩ |
    ⟨rfl, rfl⟩ | ⟨rfl, rfl⟩ <;>
    obtain rfl := Option.some.inj hfield <;>
    exact ⟨fun _ => ⟨_, settles_fieldText _ _ _ _⟩, fun _ => settles_fieldText _ _ _ _⟩

/-- The parameters of the entry macro are read from their list. -/
theorem settles_entryMacroParams (params : List Text) :
    Settles (Reader.list Reader.text) (.list (params.map .string)) (.ok params) := by
  apply settles_list
  rw [List.forall₂_map_left_iff]
  exact List.forall₂_same.mpr fun param _ => settles_text param

theorem restrict_congr (config : Config) {named other : Text → Bool} (inside : Text → Bool)
    (h : ∀ key ∈ keys fields, named key = other key) :
    config.restrict named inside = config.restrict other inside := by
  rw [restrict, restrict]
  congr 1 <;> rw [pick, pick, h _ (by decide)]

theorem naming_cons_of_unknown (config : Config) {member : Text × Document}
    (h : member.1 ∉ keys fields) (done : List (Text × Document)) :
    config.naming (member :: done) = config.naming done := by
  have hne : ∀ key ∈ keys fields, member.1 ≠ key := fun key hkey heq => h (heq ▸ hkey)
  rw [naming, naming, namesInside_cons_of_ne (hne _ (by decide))]
  exact restrict_congr config _ fun key hkey => names_cons_of_ne (hne key hkey) done

/-- A field named twice, or one of the record fields. -/
def NamesTwice (members : List (Text × Document)) : Prop :=
  NameTwice (keys fields) members ∨
    ∃ inner, ("record_fields".toList, .object inner) ∈ members ∧
      NameTwice (keys RecordFields.fields) inner

/-- A configuration is read from members that give its fields. -/
theorem settles {config : Config} {members : List (Text × Document)}
    (h : ∀ member ∈ members, config.Gives member) (honce : ¬ NamesTwice members) :
    Settles reader (.object members) (.ok (config.naming members)) := by
  rw [NamesTwice, not_or] at honce
  have hfills : Fills fields [] (config.naming []) members
      (.ok (config.naming (members.reverse ++ []))) := by
    refine fills_ok config.naming (fun member hmember done field hfield hnew => ?_)
      (fun member done hkey => naming_cons_of_unknown config hkey done) (fun _ _ => Iff.rfl)
      (fun key hkey => ?_)
    · obtain ⟨key, document⟩ := member
      cases h _ hmember with
      | text htext => exact (settles_of_mem_texts htext hfield).2 done
      | @recordFields inner hinner =>
        have hvalue := RecordFields.settles hinner fun htwice => honce.2 ⟨inner, hmember, htwice⟩
        obtain rfl := Option.some.inj hfield
        rw [← namesInside_cons_object "record_fields".toList inner hnew] at hvalue
        exact hvalue.map fun recordFields => { config.naming done with recordFields }
      | entryMacroParams =>
        obtain rfl := Option.some.inj hfield
        exact (settles_entryMacroParams config.entryMacroParams).map
          fun entryMacroParams => { config.naming done with entryMacroParams }
      | unknown hkey => exact absurd (mem_keys_of_find? hfield) hkey
    · have := count_le_one_of_not_nameTwice honce.1 key hkey
      rwa [List.map_nil, List.count_nil, Nat.zero_add]
  have hreverse : config.naming (members.reverse ++ []) = config.naming members := by
    have hnames : names members.reverse = names members := by
      funext key
      exact List.any_reverse
    have hinside : namesInside "record_fields".toList members.reverse
        = namesInside "record_fields".toList members := by
      funext key
      exact List.any_reverse
    rw [List.append_nil, naming, naming, hnames, hinside]
  rw [hreverse] at hfills
  exact hfills.settles

/-- The members with a value that a field could have, or with an unknown key. -/
inductive IsWellFormed : Text × Document → Prop where
  | text {config : Config} {key value : Text} (h : (key, value) ∈ config.texts) :
      IsWellFormed (key, .string value)
  | recordFields {members : List (Text × Document)}
      (h : ∀ member ∈ members, RecordFields.IsWellFormed member) :
      IsWellFormed ("record_fields".toList, .object members)
  | entryMacroParams (params : List Text) :
      IsWellFormed ("entry_macro_params".toList, .list (params.map .string))
  | unknown {key : Text} {document : Document} (h : key ∉ keys fields) :
      IsWellFormed (key, document)

theorem IsWellFormed.inner {inner : List (Text × Document)}
    (h : IsWellFormed ("record_fields".toList, .object inner)) :
    ∀ member ∈ inner, RecordFields.IsWellFormed member := by
  generalize hkey : "record_fields".toList = key at h
  cases h with
  | recordFields hinner => exact hinner
  | unknown hunknown => exact absurd (by rw [← hkey]; decide) hunknown

/-- A member is refused or read. -/
theorem IsWellFormed.refuses_or_settles {key : Text} {document : Document}
    {field : FieldReader Config} (h : IsWellFormed (key, document))
    (hfield : fields.find? (·.key == key) = some field) :
    Refuses field document ∨
      ∀ state, ∃ updated, Settles (field.read state) document (.ok updated) := by
  cases h with
  | text htext => exact .inr (settles_of_mem_texts htext hfield).1
  | recordFields hinner =>
    obtain rfl := Option.some.inj hfield
    obtain ⟨outcome, houtcome⟩ := RecordFields.exists_settles hinner
    cases outcome with
    | error found =>
      exact .inl fun state => ⟨found, houtcome.map fun recordFields => { state with recordFields }⟩
    | ok value =>
      exact .inr fun state => ⟨_, houtcome.map fun recordFields => { state with recordFields }⟩
  | entryMacroParams params =>
    obtain rfl := Option.some.inj hfield
    exact .inr fun state => ⟨_, (settles_entryMacroParams params).map
      fun entryMacroParams => { state with entryMacroParams }⟩
  | unknown hkey => exact absurd (mem_keys_of_find? hfield) hkey

/-- Record field names are refused if one of them is named twice. -/
theorem exists_refuses {inner : List (Text × Document)}
    (h : ∀ member ∈ inner, RecordFields.IsWellFormed member)
    (htwice : NameTwice (keys RecordFields.fields) inner) :
    ∃ field, fields.find? (·.key == "record_fields".toList) = some field ∧
      Refuses field (.object inner) := by
  obtain ⟨found, hfound⟩ := RecordFields.exists_settles_error h htwice
  exact ⟨_, rfl, fun state =>
    ⟨found, hfound.map fun recordFields => { state with recordFields }⟩⟩

/-- It is not read if a field is named twice. -/
theorem exists_settles_error {members : List (Text × Document)}
    (h : ∀ member ∈ members, IsWellFormed member) (htwice : NamesTwice members) :
    ∃ key, Settles reader (.object members) (.error key) := by
  have hsomewhere : (∃ key ∈ keys fields, 2 ≤ [].count key + (members.map Prod.fst).count key) ∨
      ∃ member ∈ members, ∃ field, fields.find? (·.key == member.1) = some field ∧
        Refuses field member.2 := by
    rcases htwice with ⟨key, hkey, hcount⟩ | ⟨inner, hmember, hinnerTwice⟩
    · exact .inl ⟨key, hkey, by rwa [List.count_nil, Nat.zero_add]⟩
    · exact .inr ⟨_, hmember, exists_refuses (h _ hmember).inner hinnerTwice⟩
  obtain ⟨found, hfills⟩ := exists_fills_error {}
    (fun member hmember field hfield => (h member hmember).refuses_or_settles hfield)
    List.nodup_nil hsomewhere
  exact ⟨found, hfills.settles⟩

/-! ### Files -/

/-- A configuration file that gives some fields is read as the configuration where it names a
field and as the defaults elsewhere.  If it names a field twice, it is not read. -/
theorem file_overrides_named_fields {tree : Directory} {path : Path} {source : Text}
    {members : List (Text × Document)} (hread : tree.read path = .ok source)
    (hsource : IsJsonText (.object members) source) :
    (∀ config : Config, (∀ member ∈ members, config.Gives member) → ¬ NamesTwice members →
      ((loadConfig path).run tree).result = .ok (config.naming members)) ∧
    ((∀ member ∈ members, IsWellFormed member) → NamesTwice members →
      ∃ key position, ((loadConfig path).run tree).result
        = .error (.config path (.duplicateField key) position)) := by
  have hresult : ((loadConfig path).run tree).result = (reader.decode source).mapError fun fault =>
      .config path fault.problem (fault.position source) := by
    simp only [loadConfig, Procedure.bind_eq, Procedure.result_bind, result_readFile,
      (Procedure.readOnly_readFile path).tree_run, hread, ofJson]
    cases reader.decode source <;> rfl
  constructor
  · intro config hgives honce
    have hdecode : reader.decode source = .ok (config.naming members) :=
      (settles hgives honce).decode hsource
    rw [hresult, hdecode]
    rfl
  · intro hgives htwice
    obtain ⟨key, hsettles⟩ := exists_settles_error hgives htwice
    obtain ⟨fault, hdecode, hproblem⟩ := hsettles.decode hsource
    refine ⟨key, fault.position source, ?_⟩
    rw [hresult, hdecode, ← hproblem]
    rfl

/-- A file that names one field, with an escape in its value, behind a member that nobody knows. -/
theorem file_overrides_overlay_file :
    let source := "\x7b\"later\": [true, -1],\n \"overlay_file\" : \"\\u006F.h\"\x7d".toList
    let path := Text.bytes "c.json".toList
    let tree : Directory := { entries := [([path], .file (.text source))] }
    ((loadConfig path).run tree).result = .ok { overlayFile := "o.h".toList } := by
  intro source path tree
  have hplain : ∀ {s : String}, (∀ c ∈ s.toList, c ≠ '"' ∧ c ≠ '\\' ∧ 0x20 ≤ c.toNat) →
      SpellsText s.toList s.toList := spellsText_self
  have hspace : ∀ token : Text, Spaced token (' ' :: token) := fun token => ⟨[' '], by decide, rfl⟩
  have hlater : Writes (.value (.list [.boolean true, .number "-1".toList])) " [true, -1]".toList :=
    .list (hspace ['[']) (.isTrue (spaced_self _)) (.nextItem (spaced_self [','])
      (.number ⟨['-'], ['1'], [], [], by decide, .inr ⟨⟨by decide, by decide⟩, by decide⟩, .inl rfl,
        .inl rfl, rfl⟩ (hspace _)) (.endList (spaced_self [']'])))
  have hunit : SpellsUnit 'o'.toNat "006F".toList :=
    .digits (a := 0) (b := 0) (c := 6) (d := 15) (.inl rfl) (.inl rfl) (.inl rfl) (.inr rfl)
  have hescaped : SpellsText "o.h".toList "\\u006F.h".toList :=
    .cons (.code hunit) (hplain (s := ".h") (by decide))
  let members : List (Text × Document) :=
    [("later".toList, .list [.boolean true, .number "-1".toList]),
      ("overlay_file".toList, .string "o.h".toList)]
  have hsource : IsJsonText (.object members) source :=
    ⟨_, [], .object (spaced_self ['{'])
      (.member (hplain (s := "later") (by decide)) (spaced_self _) (spaced_self [':']) hlater)
      (.nextMember (spaced_self [','])
        (.member (hplain (s := "overlay_file") (by decide)) ⟨['\n', ' '], by decide, rfl⟩
          (hspace [':']) (.string hescaped (hspace _)))
        (.endObject (spaced_self ['}']))), List.forall_mem_nil _, rfl⟩
  have hgives : ∀ member ∈ members, ({ overlayFile := "o.h".toList } : Config).Gives member := by
    simp only [members, List.forall_mem_cons, List.not_mem_nil, false_implies, implies_true,
      and_true]
    exact ⟨.unknown (by decide), .text (by decide)⟩
  have honce : ¬ NamesTwice members := by
    rintro (⟨key, hkey, hcount⟩ | ⟨inner, hmember, _⟩)
    · revert key
      decide
    · simp [members] at hmember
  have hnaming : ({ overlayFile := "o.h".toList } : Config).naming members =
      { overlayFile := "o.h".toList } := by decide +kernel
  have hread : tree.read path = .ok source := by decide +kernel
  rw [← hnaming]
  exact (file_overrides_named_fields hread hsource).1 _ hgives honce

end Config

end StateOverlay
