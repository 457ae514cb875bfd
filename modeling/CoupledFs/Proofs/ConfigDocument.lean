import CoupledFs.Config.Document
import CoupledFs.Proofs.JsonPrinter

/-! Configurations and the documents that describe them. A document that gives some fields, in any
order and in any spelling, with whatever unknown members between them, is read as the usual
configuration with just these fields in place of its own. -/

namespace CoupledFs

/-! ### Values of fields -/

namespace Json.Value

variable {value : Json.Value} {text : String} {texts : List String}

def IsText (value : Json.Value) (text : String) : Prop :=
  ∃ literal, value = .text literal ∧ literal.Denotes text

def IsTexts (value : Json.Value) (texts : List String) : Prop :=
  ∃ items, value = .array items ∧ List.Forall₂ IsText items texts

/-- The values that list some texts, or leave open which. -/
def IsTexts? (value : Json.Value) : Option (List String) → Prop
  | none => value = .null
  | some texts => value.IsTexts texts

theorem string?_of_isText (written : value.IsText text) : value.string? = some text := by
  obtain ⟨literal, rfl, denotes⟩ := written
  exact Literal.decode?_of_denotes denotes

theorem choice?_of_isText (ofWord : String → Option α) (written : value.IsText text) :
    value.choice? ofWord = ofWord text := by
  obtain ⟨literal, rfl, denotes⟩ := written
  rw [choice?, Literal.decode?_of_denotes denotes]
  rfl

theorem isText_ofString (text : String) : (ofString text).IsText text :=
  ⟨.encode text, rfl, Literal.denotes_encode text⟩

theorem isTexts_ofStrings (texts : List String) :
    (Json.Value.array (texts.map ofString)).IsTexts texts := by
  refine ⟨_, rfl, ?_⟩
  rw [List.forall₂_map_left_iff, List.forall₂_same]
  intro text _
  exact isText_ofString text

theorem legal_of_isText (written : value.IsText text) : value.Legal := by
  obtain ⟨literal, rfl, denotes⟩ := written
  exact .text (Literal.legalText_of_denotes denotes)

theorem legal_of_isTexts (written : value.IsTexts texts) : value.Legal := by
  obtain ⟨items, rfl, spelled⟩ := written
  apply Legal.array
  induction spelled with
  | nil => exact List.forall_mem_nil _
  | cons first _ ih => exact List.forall_mem_cons.mpr ⟨legal_of_isText first, ih⟩

theorem legal_of_isTexts? {names : Option (List String)} (written : value.IsTexts? names) :
    value.Legal := by
  cases names with
  | none =>
    have null : value = .null := written
    exact null ▸ .null
  | some names => exact legal_of_isTexts written

theorem list?_of_forall₂ {item : Json.Value → Option α} {items : List Json.Value} {found : List α}
    (reads : List.Forall₂ (fun value a => item value = some a) items found) :
    list? item (.array items) = some found := by
  rw [list?]
  induction reads with
  | nil => rfl
  | cons first _ ih =>
    rw [List.mapM_cons, first, ih]
    rfl

theorem list?_string?_of_isTexts (written : value.IsTexts texts) :
    value.list? string? = some texts := by
  obtain ⟨items, rfl, spelled⟩ := written
  exact list?_of_forall₂ (spelled.imp fun _ _ => string?_of_isText)

theorem option?_of_isTexts? {names : Option (List String)} (written : value.IsTexts? names) :
    value.option? (list? string?) = some names := by
  cases names with
  | none =>
    have null : value = .null := written
    rw [null, option?]
  | some names =>
    have read := list?_string?_of_isTexts written
    obtain ⟨items, rfl, -⟩ := written
    change (list? string? (.array items)).map some = _
    rw [read, Option.map_some]

end Json.Value

namespace Config

def withFields (base config : Config) (given : List Field) : Config where
  pathStyle := if .pathStyle ∈ given then config.pathStyle else base.pathStyle
  roots := if .roots ∈ given then config.roots else base.roots
  storeName := if .storeName ∈ given then config.storeName else base.storeName
  readOnly := if .readOnly ∈ given then config.readOnly else base.readOnly
  views := if .views ∈ given then config.views else base.views
  directoryMode := if .directoryMode ∈ given then config.directoryMode else base.directoryMode
  fileMode := if .fileMode ∈ given then config.fileMode else base.fileMode
  owner := if .owner ∈ given then config.owner else base.owner
  group := if .group ∈ given then config.group else base.group
  users := if .users ∈ given then config.users else base.users
  groups := if .groups ∈ given then config.groups else base.groups

/-- The values that give a field of a configuration. -/
def Field.Gives (config : Config) (value : Json.Value) : Field → Prop
  | .pathStyle => value.IsText config.pathStyle.word
  | .roots => value.IsTexts? config.roots
  | .storeName => value.IsText config.storeName
  | .readOnly => value = .bool config.readOnly
  | .views => value.IsTexts (config.views.map AttributeView.name)
  | .directoryMode => value = .ofNat config.directoryMode.toNat
  | .fileMode => value = .ofNat config.fileMode.toNat
  | .owner => value.IsText config.owner
  | .group => value.IsText config.group
  | .users => value.IsTexts config.users
  | .groups => value.IsTexts config.groups

/-- The members of an object that give some fields of a configuration in their order, with any
members of other names between them. -/
inductive Arranged (config : Config) : List Field → List (Json.Literal × Json.Value) → Prop where
  | done : Arranged config [] []
  | given (field : Field) (named : Json.Literal.Denotes name field.name)
      (gives : field.Gives config value) (rest : Arranged config fields members) :
      Arranged config (field :: fields) ((name, value) :: members)
  | unknown (named : Json.Literal.Denotes name text) (other : ∀ field : Field, field.name ≠ text)
      (rest : Arranged config fields members) : Arranged config fields ((name, value) :: members)

variable {base config : Config} {given fields : List Field} {field : Field} {value : Json.Value}
  {members : List (Json.Literal × Json.Value)}

theorem withFields_nil (base config : Config) : base.withFields config [] = base := rfl

theorem withFields_congr {given' : List Field} (same : ∀ field, field ∈ given ↔ field ∈ given') :
    base.withFields config given = base.withFields config given' := by
  simp only [withFields, same]

theorem withFields_of_all (all : ∀ field, field ∈ given) : base.withFields config given = config := by
  simp only [withFields, all, if_true]

namespace Field

theorem mode?_ofNat (mode : UInt32) : mode? (.ofNat mode.toNat) = some mode := by
  rw [mode?, Json.natBelow?_ofNat mode.toNat_lt_size, Option.map_some, UInt32.ofNat_toNat]

theorem ofName?_name (field : Field) : ofName? field.name = some field := by
  cases field <;> decide

theorem ofName?_eq_none (other : ∀ field : Field, field.name ≠ text) : ofName? text = none := by
  rw [ofName?, List.find?_eq_none]
  intro field _
  simpa using other field

theorem list?_choice?_of_isTexts {views : List AttributeView}
    (written : value.IsTexts (views.map AttributeView.name)) :
    value.list? (Json.Value.choice? AttributeView.ofWord?) = some views := by
  obtain ⟨items, rfl, spelled⟩ := written
  rw [List.forall₂_map_right_iff] at spelled
  apply Json.Value.list?_of_forall₂
  refine spelled.imp fun item view named => ?_
  rw [Json.Value.choice?_of_isText _ named]
  cases view <;> rfl

/-- A field is read from any value that gives it, and no other field changes. -/
theorem assign?_of_gives (gives : field.Gives config value) :
    field.assign? (base.withFields config given) value =
      some (base.withFields config (field :: given)) := by
  cases field with
  | pathStyle =>
    have word : PathStyle.ofWord? config.pathStyle.word = some config.pathStyle := by
      cases config.pathStyle <;> rfl
    rw [assign?, Json.Value.choice?_of_isText _ gives, word]
    simp [withFields]
  | roots =>
    rw [assign?, texts?, Json.Value.option?_of_isTexts? gives]
    simp [withFields]
  | views =>
    rw [assign?, list?_choice?_of_isTexts gives]
    simp [withFields]
  | readOnly =>
    have given : value = .bool config.readOnly := gives
    rw [assign?, given]
    simp [withFields, Json.Value.bool?]
  | directoryMode =>
    have given : value = .ofNat config.directoryMode.toNat := gives
    rw [assign?, given, mode?_ofNat]
    simp [withFields]
  | fileMode =>
    have given : value = .ofNat config.fileMode.toNat := gives
    rw [assign?, given, mode?_ofNat]
    simp [withFields]
  | storeName | owner | group =>
    rw [assign?, Json.Value.string?_of_isText gives]
    simp [withFields]
  | users | groups =>
    rw [assign?, texts?, Json.Value.list?_string?_of_isTexts gives]
    simp [withFields]

theorem gives_value (config : Config) (field : Field) : field.Gives config (field.value config) := by
  cases field with
  | roots =>
    change ((config.roots.map ofTexts).getD .null).IsTexts? config.roots
    cases config.roots with
    | none => rfl
    | some names => exact Json.Value.isTexts_ofStrings names
  | pathStyle | storeName | owner | group => exact Json.Value.isText_ofString _
  | views | users | groups => exact Json.Value.isTexts_ofStrings _
  | readOnly | directoryMode | fileMode => rfl

theorem legal_of_gives (gives : field.Gives config value) : value.Legal := by
  cases field with
  | roots => exact Json.Value.legal_of_isTexts? gives
  | pathStyle | storeName | owner | group => exact Json.Value.legal_of_isText gives
  | views | users | groups => exact Json.Value.legal_of_isTexts gives
  | readOnly =>
    have given : value = .bool config.readOnly := gives
    exact given ▸ .bool _
  | directoryMode =>
    have given : value = .ofNat config.directoryMode.toNat := gives
    exact given ▸ .number (Json.numeral_decimal _)
  | fileMode =>
    have given : value = .ofNat config.fileMode.toNat := gives
    exact given ▸ .number (Json.numeral_decimal _)

end Field

/-! ### Documents -/

-- What is given so far grows at its front, so the fields come back in reverse.
theorem readMembers_of_arranged (arranged : Arranged config fields members) (once : fields.Nodup)
    (fresh : ∀ field ∈ fields, field ∉ given) :
    readMembers (base.withFields config given) given members =
      some (base.withFields config (fields.reverse ++ given)) := by
  induction arranged generalizing given with
  | done => rfl
  | given field named gives _ ih =>
    obtain ⟨absent, once⟩ := List.nodup_cons.mp once
    obtain ⟨new, fresh⟩ := List.forall_mem_cons.mp fresh
    have later := ih once fun other member =>
      List.not_mem_cons_of_ne_of_not_mem (ne_of_mem_of_not_mem member absent) (fresh other member)
    rw [readMembers, Json.Literal.decode?_of_denotes named, Option.bind_eq_bind, Option.bind_some,
      Field.ofName?_name]
    simp only [if_neg new, Field.assign?_of_gives gives]
    rw [List.reverse_cons, List.append_assoc]
    exact later
  | unknown named other _ ih =>
    rw [readMembers, Json.Literal.decode?_of_denotes named, Option.bind_eq_bind, Option.bind_some,
      Field.ofName?_eq_none other]
    exact ih once fresh

theorem overlay?_of_arranged (arranged : Arranged config fields members) (once : fields.Nodup)
    (base : Config) : base.overlay? (.object members) = some (base.withFields config fields) := by
  have read : readMembers (base.withFields config []) [] members = _ :=
    readMembers_of_arranged arranged once fun _ _ => List.not_mem_nil
  rw [withFields_nil, List.append_nil] at read
  rw [overlay?, read]
  exact congrArg some (withFields_congr fun _ => List.mem_reverse)

theorem arranged_of_fields (config : Config) (fields : List Field) :
    Arranged config fields (fields.map fun field => (.encode field.name, field.value config)) := by
  induction fields with
  | nil => exact .done
  | cons field fields ih =>
    exact .given field (Json.Literal.denotes_encode _) (field.gives_value config) ih

theorem written_toDocument (config : Config) : config.toValue.Written config.toDocument := by
  apply Json.written_write Json.Layout.lawful_compact
  have legal : ∀ field ∈ Field.all, Json.LegalText (Json.Literal.encode field.name).bytes ∧
      (field.value config).Legal := fun field _ =>
    ⟨Json.Literal.legalText_of_denotes (Json.Literal.denotes_encode _),
      Field.legal_of_gives (field.gives_value config)⟩
  rw [toValue, Json.Value.ofMembers, List.map_map]
  apply Json.Value.Legal.object
  · exact List.forall_mem_map.mpr fun field member => (legal field member).1
  · exact List.forall_mem_map.mpr fun field member => (legal field member).2

/-- A document that gives some fields of a configuration, each once and in any order, is read as the
usual configuration with these fields of the other in place of its own, if that is valid, and is
refused as that configuration is refused, if not. What is written for a valid configuration is read
as it. -/
theorem document_replaces_fields (config : Config) :
    (∀ fields members document, fields.Nodup → Arranged config fields members →
      (Json.Value.object members).Written document →
        ofDocument document = (unix.withFields config fields).validate.map fun _ =>
          unix.withFields config fields) ∧
      (config.validate = .ok () → ofDocument config.toDocument = .ok config) := by
  have reads : ∀ fields members document, fields.Nodup → Arranged config fields members →
      (Json.Value.object members).Written document →
        ofDocument document = (unix.withFields config fields).validate.map fun _ =>
          unix.withFields config fields := by
    intro fields members document once arranged written
    rw [ofDocument, Json.read?_of_written written, Option.bind_some,
      overlay?_of_arranged arranged once]
    cases valid : (unix.withFields config fields).validate <;> simp only [valid] <;> rfl
  refine ⟨reads, fun valid => ?_⟩
  have whole : unix.withFields config Field.all = config := withFields_of_all fun field => by
    cases field <;> decide
  have read := reads Field.all _ _ (by decide) (arranged_of_fields config Field.all)
    (written_toDocument config)
  rwa [whole, valid] at read

/-- A document in which the owner is spelled by a number, then comes a member of an unknown name, and
then the roots are left open. -/
theorem document_replaces_fields_out_of_order :
    let config := { windows with owner := "é" }
    let number : List UInt8 := [0x2D, 0x31, 0x2E, 0x35]
    let members : List (Json.Literal × Json.Value) :=
      [(.encode "owner", .text ⟨[0x5C, 0x75, 0x30, 0x30, 0x45, 0x39]⟩),
        (.encode "x", .array [.number number]), (.encode "roots", .null)]
    let document := (Json.Value.object members).indented
    let text :=
      "\x7b\n  \"owner\": \"\\u00E9\",\n  \"x\": [\n    -1.5\n  ],\n  \"roots\": null\n\x7d"
    document = Json.ascii text ∧
      ofDocument document = .ok { unix with owner := "é" } ∧
      ofDocument config.toDocument = .ok config := by
  intro config number members document text
  obtain ⟨reads, whole⟩ := document_replaces_fields config
  have spelled : Json.Literal.Denotes ⟨[0x5C, 0x75, 0x30, 0x30, 0x45, 0x39]⟩ "é" := by
    have zero : Json.HexDigit 0 0x30 := .decimal (by decide) rfl
    have high : Json.HexDigit 14 0x45 := .upper (by decide) (by decide) rfl
    have low : Json.HexDigit 9 0x39 := .decimal (by decide) rfl
    exact ⟨[_], .cons (.unit (.digits zero zero high low rfl)) .nil, rfl⟩
  have arranged : Arranged config [.owner, .roots] members :=
    .given .owner (Json.Literal.denotes_encode _) ⟨_, rfl, spelled⟩
      (.unknown (Json.Literal.denotes_encode _) (fun field => by cases field <;> decide)
        (.given .roots (Json.Literal.denotes_encode _) rfl .done))
  have numeral : Json.Numeral number := by
    have whole : Json.Whole [0x31] := .digits ⟨by decide, by decide⟩ (by decide) nofun
    have places : Json.Digits [0x35] := ⟨by decide, by simp [Json.IsDigit]⟩
    exact .negative whole (.digits places) .absent
  have legal : (Json.Value.object members).Legal := by
    have name (text : String) : Json.LegalText (Json.Literal.encode text).bytes :=
      Json.Literal.legalText_of_denotes (Json.Literal.denotes_encode text)
    have owner := Json.Literal.legalText_of_denotes spelled
    have item : (Json.Value.array [.number number]).Legal :=
      .array (List.forall_mem_singleton.mpr (.number numeral))
    refine .object ?_ ?_ <;> simp only [members, List.forall_mem_cons]
    · exact ⟨name _, name _, name _, List.forall_mem_nil _⟩
    · exact ⟨.text owner, item, .null, List.forall_mem_nil _⟩
  have written : (Json.Value.object members).Written document :=
    Json.written_write Json.Layout.lawful_indented legal 0
  refine ⟨by decide, ?_, whole rfl⟩
  exact reads _ _ _ (by decide) arranged written

end Config

end CoupledFs
