import PolicyEditing.Proofs.Shape.Prints
import PolicyEditing.Shape.Item
import PolicyEditing.Wire.Item

/-!
# Items in both directions

An editor sends an item and gets it back.  Every part of an item has a shape, a reader and a writer
that belong together (`Shape.Prints`), from positions up to the item itself (`Item.prints`): what is
taken has the shape, and what is written is what mattered of it.

An edit and a choice between two ranges are told apart by the field with the range, and a plain
explanation from a marked-up one by being a string.  That is all that the two choices need.

The explanation of an item can be exchanged before the item is written, without harm to the other
fields (`Item.IsReadFrom.again`).
-/

namespace PolicyEditing

open Shape (Prints)

variable {value : Json}

/-! ## Places and edits -/

theorem prints_line [UriReading] : Shape.unsigned32.Prints Json.asUnsigned32? .nat :=
  Shape.prints_nonneg _

theorem Position.ofJson?_eq_some_iff {position : Position} :
    Position.ofJson? value = some position ↔
      (value.named ["line", "character"]).required? Json.asUnsigned32? "line" =
        some position.line ∧
      (value.named ["line", "character"]).required? Json.asUnsigned32? "character" =
        some position.character := by
  obtain ⟨line, character⟩ := position
  simp [Position.ofJson?, Option.bind_eq_some_iff]

theorem Position.prints [UriReading] : Shape.position.Prints Position.ofJson? Position.toJson where
  isSome_read value := by
    rw [Shape.position, Shape.admits_record_of_needed (by decide) (by decide) (by decide)]
    exact prints_line.isSome_required rfl fun _ => prints_line.isSome_required rfl fun _ => rfl
  write_eq {value position} hread := by
    obtain ⟨hline, hcharacter⟩ := Position.ofJson?_eq_some_iff.mp hread
    simp [Shape.position, Shape.relevant_record, Json.sortNames, prints_line.required rfl hline,
      prints_line.required rfl hcharacter, Json.ofOptionalFields_eq, Position.toJson]
  read_write {value position} hread := by
    obtain ⟨hline, hcharacter⟩ := Position.ofJson?_eq_some_iff.mp hread
    exact Position.ofJson?_eq_some_iff.mpr
      ⟨prints_line.required_again hline rfl, prints_line.required_again hcharacter rfl⟩

theorem Range.ofJson?_eq_some_iff {range : Range} :
    Range.ofJson? value = some range ↔
      (value.named ["start", "end"]).required? Position.ofJson? "start" = some range.start ∧
      (value.named ["start", "end"]).required? Position.ofJson? "end" = some range.stop := by
  obtain ⟨start, stop⟩ := range
  simp [Range.ofJson?, Option.bind_eq_some_iff]

theorem Range.prints [UriReading] : Shape.range.Prints Range.ofJson? Range.toJson where
  isSome_read value := by
    rw [Shape.range, Shape.admits_record_of_needed (by decide) (by decide) (by decide)]
    exact Position.prints.isSome_required rfl fun _ =>
      Position.prints.isSome_required rfl fun _ => rfl
  write_eq {value range} hread := by
    obtain ⟨hstart, hstop⟩ := Range.ofJson?_eq_some_iff.mp hread
    simp [Shape.range, Shape.relevant_record, Json.sortNames, Position.prints.required rfl hstart,
      Position.prints.required rfl hstop, Json.ofOptionalFields_eq, Range.toJson]
  read_write {value range} hread := by
    obtain ⟨hstart, hstop⟩ := Range.ofJson?_eq_some_iff.mp hread
    exact Range.ofJson?_eq_some_iff.mpr
      ⟨Position.prints.required_again hstart rfl, Position.prints.required_again hstop rfl⟩

theorem Text.prints [UriReading] : Shape.string.Prints Text.ofJson? Text.toJson :=
  Shape.prints_string.map String.toList fun text => congrArg Json.string text.ofList_toList

theorem TextEdit.ofJson?_eq_some_iff {edit : TextEdit} :
    TextEdit.ofJson? value = some edit ↔
      (value.named ["range", "newText"]).required? Range.ofJson? "range" = some edit.range ∧
      (value.named ["range", "newText"]).required? Text.ofJson? "newText" = some edit.newText := by
  obtain ⟨range, newText⟩ := edit
  simp [TextEdit.ofJson?, Option.bind_eq_some_iff]

theorem TextEdit.prints [UriReading] : Shape.edit.Prints TextEdit.ofJson? TextEdit.toJson where
  isSome_read value := by
    rw [Shape.edit, Shape.admits_record_of_needed (by decide) (by decide) (by decide)]
    exact Range.prints.isSome_required rfl fun _ => Text.prints.isSome_required rfl fun _ => rfl
  write_eq {value edit} hread := by
    obtain ⟨hrange, htext⟩ := TextEdit.ofJson?_eq_some_iff.mp hread
    simp [Shape.edit, Shape.relevant_record, Json.sortNames, Range.prints.required rfl hrange,
      Text.prints.required rfl htext, Json.ofOptionalFields_eq, TextEdit.toJson]
  read_write {value edit} hread := by
    obtain ⟨hrange, htext⟩ := TextEdit.ofJson?_eq_some_iff.mp hread
    exact TextEdit.ofJson?_eq_some_iff.mpr
      ⟨Range.prints.required_again hrange rfl, Text.prints.required_again htext rfl⟩

namespace Completion

/-! ## Parts of an item -/

/-- Text beside a label, and the text behind it. -/
def labelDetailsShape : Shape :=
  .record [("detail", .optionalString), ("description", .optionalString)]

theorem LabelDetails.ofJson?_eq_some_iff {details : LabelDetails} :
    LabelDetails.ofJson? value = some details ↔
      (value.named ["detail", "description"]).asObject?.isSome ∧
      (value.named ["detail", "description"]).optional? Json.asString? "detail" =
        some details.detail ∧
      (value.named ["detail", "description"]).optional? Json.asString? "description" =
        some details.description := by
  obtain ⟨detail, description⟩ := details
  simp [LabelDetails.ofJson?, Option.bind_eq_some_iff, Option.isSome_iff_exists]

theorem LabelDetails.prints [UriReading] :
    labelDetailsShape.Prints LabelDetails.ofJson? LabelDetails.toJson where
  isSome_read value := by
    rw [labelDetailsShape, Shape.admits_record (by decide) (by decide)]
    exact Prints.isSome_bind fun _ => Shape.prints_string.isSome_optional fun _ =>
      Shape.prints_string.isSome_optional fun _ => rfl
  write_eq {value details} hread := by
    obtain ⟨-, hdetail, hdescription⟩ := LabelDetails.ofJson?_eq_some_iff.mp hread
    simp [labelDetailsShape, Shape.relevant_record, Json.sortNames, Shape.optionalString,
      Shape.prints_string.optional hdetail, Shape.prints_string.optional hdescription,
      LabelDetails.toJson]
  read_write {value details} hread := by
    obtain ⟨-, hdetail, hdescription⟩ := LabelDetails.ofJson?_eq_some_iff.mp hread
    exact LabelDetails.ofJson?_eq_some_iff.mpr
      ⟨rfl,
        Shape.prints_string.optional_again hdetail (Json.field?_ofOptionalFields (by simp) _),
        Shape.prints_string.optional_again hdescription (Json.field?_ofOptionalFields (by simp) _)⟩

theorem MarkupKind.ofJson?_eq_some_iff {kind : MarkupKind} :
    MarkupKind.ofJson? value = some kind ↔ value.asName? = some kind.name := by
  unfold MarkupKind.ofJson?
  cases value.asName? with
  | none => simp
  | some name =>
      constructor
      · intro hread
        simp only [Option.bind_eq_bind, Option.bind_some] at hread
        split_ifs at hread with hplain hmarkdown <;> cases hread
        · rw [hplain]
        · rw [hmarkdown]
      · rintro ⟨⟩
        cases kind <;> rfl

theorem MarkupKind.prints [UriReading] :
    Shape.markupKind.Prints MarkupKind.ofJson? fun kind => .string kind.name where
  isSome_read value := by
    simp only [Shape.markupKind, Shape.admits, MarkupKind.ofJson?, MarkupKind.name]
    cases value.asName? with
    | none => rfl
    | some name =>
        by_cases hplain : name = "plaintext"
        · simp [hplain]
        · by_cases hmarkdown : name = "markdown" <;> simp [hplain, hmarkdown]
  write_eq {value kind} hread := by
    rw [Shape.markupKind, Shape.relevant, MarkupKind.ofJson?_eq_some_iff.mp hread]
    rfl
  read_write {_ kind} _ := MarkupKind.ofJson?_eq_some_iff.mpr rfl

/-- A marked-up text. -/
def markupShape : Shape := .record [("kind", .markupKind), ("value", .string)]

theorem Documentation.markupOfJson?_eq_some_iff {documentation : Documentation} :
    Documentation.markupOfJson? value = some documentation ↔
      ∃ kind text, (value.named ["kind", "value"]).required? MarkupKind.ofJson? "kind" = some kind ∧
        (value.named ["kind", "value"]).required? Json.asString? "value" = some text ∧
        .markup kind text = documentation := by
  simp [Documentation.markupOfJson?, Option.bind_eq_some_iff]

theorem Documentation.prints_markup [UriReading] :
    markupShape.Prints Documentation.markupOfJson? Documentation.toJson where
  isSome_read value := by
    rw [markupShape, Shape.admits_record_of_needed (by decide) (by decide) (by decide)]
    exact MarkupKind.prints.isSome_required rfl fun _ =>
      Shape.prints_string.isSome_required rfl fun _ => rfl
  write_eq {value documentation} hread := by
    obtain ⟨kind, text, hkind, htext, rfl⟩ := Documentation.markupOfJson?_eq_some_iff.mp hread
    simp [markupShape, Shape.relevant_record, Json.sortNames, MarkupKind.prints.required rfl hkind,
      Shape.prints_string.required rfl htext, Json.ofOptionalFields_eq, Documentation.toJson]
  read_write {value documentation} hread := by
    obtain ⟨kind, text, hkind, htext, rfl⟩ := Documentation.markupOfJson?_eq_some_iff.mp hread
    exact Documentation.markupOfJson?_eq_some_iff.mpr
      ⟨kind, text, MarkupKind.prints.required_again hkind rfl,
        Shape.prints_string.required_again htext rfl, rfl⟩

theorem Documentation.prints [UriReading] :
    Shape.explanation.Prints Documentation.ofJson? Documentation.toJson := by
  have hread : Documentation.ofJson? = fun value =>
      (value.asString?.map .plain).or (markupOfJson? value) := by
    funext value
    cases value <;> rfl
  rw [hread, Shape.explanation]
  refine (Shape.prints_string.map .plain fun _ => rfl).either Documentation.prints_markup ?_
  intro value documentation hmarkup
  obtain ⟨kind, text, -, -, rfl⟩ := Documentation.markupOfJson?_eq_some_iff.mp hmarkup
  rfl

theorem Documentation.ofJson?_toJson (documentation : Documentation) :
    Documentation.ofJson? documentation.toJson = some documentation := by
  cases documentation with
  | plain _ => rfl
  | markup kind _ => cases kind <;> rfl

theorem Documentation.toJson_ne_null (documentation : Documentation) :
    documentation.toJson ≠ .null := by
  cases documentation <;> exact Json.noConfusion

/-- The choice between two ranges. -/
def choiceShape : Shape :=
  .record [("newText", .string), ("insert", .range), ("replace", .range)]

theorem MainEdit.choiceOfJson?_eq_some_iff {edit : MainEdit} :
    MainEdit.choiceOfJson? value = some edit ↔
      ∃ newText insert replace,
        (value.named ["newText", "insert", "replace"]).required? Text.ofJson? "newText" =
          some newText ∧
        (value.named ["newText", "insert", "replace"]).required? Range.ofJson? "insert" =
          some insert ∧
        (value.named ["newText", "insert", "replace"]).required? Range.ofJson? "replace" =
          some replace ∧
        .eitherRange newText insert replace = edit := by
  simp [MainEdit.choiceOfJson?, Option.bind_eq_some_iff]

theorem MainEdit.prints_choice [UriReading] :
    choiceShape.Prints MainEdit.choiceOfJson? MainEdit.toJson where
  isSome_read value := by
    rw [choiceShape, Shape.admits_record_of_needed (by decide) (by decide) (by decide)]
    exact Text.prints.isSome_required rfl fun _ => Range.prints.isSome_required rfl fun _ =>
      Range.prints.isSome_required rfl fun _ => rfl
  write_eq {value edit} hread := by
    obtain ⟨newText, insert, replace, htext, hinsert, hreplace, rfl⟩ :=
      MainEdit.choiceOfJson?_eq_some_iff.mp hread
    simp [choiceShape, Shape.relevant_record, Json.sortNames, Text.prints.required rfl htext,
      Range.prints.required rfl hinsert, Range.prints.required rfl hreplace,
      Json.ofOptionalFields_eq, MainEdit.toJson]
  read_write {value edit} hread := by
    obtain ⟨newText, insert, replace, htext, hinsert, hreplace, rfl⟩ :=
      MainEdit.choiceOfJson?_eq_some_iff.mp hread
    exact MainEdit.choiceOfJson?_eq_some_iff.mpr
      ⟨newText, insert, replace, Text.prints.required_again htext rfl,
        Range.prints.required_again hinsert rfl, Range.prints.required_again hreplace rfl, rfl⟩

theorem MainEdit.prints [UriReading] :
    (Shape.either .edit choiceShape).Prints MainEdit.ofJson? MainEdit.toJson := by
  have hread : MainEdit.ofJson? = fun value =>
      ((TextEdit.ofJson? value).map .oneRange).or (choiceOfJson? value) := by
    funext value
    unfold MainEdit.ofJson?
    cases TextEdit.ofJson? value <;> rfl
  rw [hread]
  refine (TextEdit.prints.map .oneRange fun _ => rfl).either MainEdit.prints_choice ?_
  intro value edit hchoice
  obtain ⟨newText, insert, replace, -, -, -, rfl⟩ := MainEdit.choiceOfJson?_eq_some_iff.mp hchoice
  rfl

theorem Command.ofJson?_eq_some_iff {command : Command} :
    Command.ofJson? value = some command ↔
      (value.named ["title", "command", "arguments"]).required? Json.asString? "title" =
        some command.title ∧
      (value.named ["title", "command", "arguments"]).required? Json.asString? "command" =
        some command.command ∧
      (value.named ["title", "command", "arguments"]).optional? Json.asArray? "arguments" =
        some command.arguments := by
  obtain ⟨title, command, arguments⟩ := command
  simp [Command.ofJson?, Option.bind_eq_some_iff]

theorem Command.prints [UriReading] : Shape.command.Prints Command.ofJson? Command.toJson where
  isSome_read value := by
    rw [Shape.command, Shape.admits_record_of_needed (by decide) (by decide) (by decide)]
    exact Shape.prints_string.isSome_required rfl fun _ =>
      Shape.prints_string.isSome_required rfl fun _ =>
        Shape.prints_array.isSome_optional fun _ => rfl
  write_eq {value command} hread := by
    obtain ⟨htitle, hcommand, harguments⟩ := Command.ofJson?_eq_some_iff.mp hread
    simp [Shape.command, Shape.relevant_record, Json.sortNames,
      Shape.prints_string.required rfl htitle, Shape.prints_string.required rfl hcommand,
      Shape.prints_array.optional harguments, Command.toJson]
  read_write {value command} hread := by
    obtain ⟨htitle, hcommand, harguments⟩ := Command.ofJson?_eq_some_iff.mp hread
    exact Command.ofJson?_eq_some_iff.mpr
      ⟨Shape.prints_string.required_again htitle (Json.field?_ofOptionalFields (by simp) _),
        Shape.prints_string.required_again hcommand (Json.field?_ofOptionalFields (by simp) _),
        Shape.prints_array.optional_again harguments (Json.field?_ofOptionalFields (by simp) _)⟩

/-! ## Items -/

/-- The fields of a completion item, in the order in which an array gives their values. -/
def itemFields : List (String × Shape) :=
  [("label", .string), ("labelDetails", .optional labelDetailsShape), ("kind", .optional .signed32),
    ("detail", .optionalString), ("documentation", .optional .explanation), ("deprecated", .flag),
    ("preselect", .flag), ("sortText", .optionalString), ("filterText", .optionalString),
    ("insertText", .optionalString), ("insertTextFormat", .optional .signed32),
    ("insertTextMode", .optional .signed32), ("textEdit", .optional (.either .edit choiceShape)),
    ("additionalTextEdits", .optional (.listOf .edit)), ("command", .optional .command),
    ("commitCharacters", .optional (.listOf .string)), ("data", .optional .anything),
    ("tags", .optional (.listOf .signed32))]

/-- A completion item. -/
def itemShape : Shape := .record itemFields

theorem prints_number [UriReading] : Shape.signed32.Prints Json.asSigned32? .int :=
  Shape.prints_whole _ _

/-- Whether an item has what a value has in its fields. -/
structure Item.IsReadFrom (value : Json) (item : Item) : Prop where
  label : value.required? Json.asString? "label" = some item.label
  labelDetails : value.optional? LabelDetails.ofJson? "labelDetails" = some item.labelDetails
  kind : value.optional? Json.asSigned32? "kind" = some item.kind
  detail : value.optional? Json.asString? "detail" = some item.detail
  documentation : value.optional? Documentation.ofJson? "documentation" = some item.documentation
  deprecated : value.optional? Json.asBool? "deprecated" = some item.deprecated
  preselect : value.optional? Json.asBool? "preselect" = some item.preselect
  sortText : value.optional? Json.asString? "sortText" = some item.sortText
  filterText : value.optional? Json.asString? "filterText" = some item.filterText
  insertText : value.optional? Json.asString? "insertText" = some item.insertText
  insertTextFormat : value.optional? Json.asSigned32? "insertTextFormat" =
    some item.insertTextFormat
  insertTextMode : value.optional? Json.asSigned32? "insertTextMode" = some item.insertTextMode
  textEdit : value.optional? MainEdit.ofJson? "textEdit" = some item.textEdit
  additionalTextEdits : value.optional? (Json.asListOf? TextEdit.ofJson?) "additionalTextEdits" =
    some item.additionalTextEdits
  command : value.optional? Command.ofJson? "command" = some item.command
  commitCharacters : value.optional? (Json.asListOf? Json.asString?) "commitCharacters" =
    some item.commitCharacters
  data : value.optional? some "data" = some item.data
  tags : value.optional? (Json.asListOf? Json.asSigned32?) "tags" = some item.tags

namespace Item

variable {item : Item}

theorem ofJson?_eq_some_iff :
    ofJson? value = some item ↔ IsReadFrom (value.named fieldNames) item := by
  constructor
  · intro hread
    -- The fields are taken off one by one: all at once, the steps grow too large to rewrite.
    unfold ofJson? at hread
    obtain ⟨_, hlabel, hread⟩ := Option.bind_eq_some_iff.mp hread
    obtain ⟨_, hlabelDetails, hread⟩ := Option.bind_eq_some_iff.mp hread
    obtain ⟨_, hkind, hread⟩ := Option.bind_eq_some_iff.mp hread
    obtain ⟨_, hdetail, hread⟩ := Option.bind_eq_some_iff.mp hread
    obtain ⟨_, hdocumentation, hread⟩ := Option.bind_eq_some_iff.mp hread
    obtain ⟨_, hdeprecated, hread⟩ := Option.bind_eq_some_iff.mp hread
    obtain ⟨_, hpreselect, hread⟩ := Option.bind_eq_some_iff.mp hread
    obtain ⟨_, hsortText, hread⟩ := Option.bind_eq_some_iff.mp hread
    obtain ⟨_, hfilterText, hread⟩ := Option.bind_eq_some_iff.mp hread
    obtain ⟨_, hinsertText, hread⟩ := Option.bind_eq_some_iff.mp hread
    obtain ⟨_, hinsertTextFormat, hread⟩ := Option.bind_eq_some_iff.mp hread
    obtain ⟨_, hinsertTextMode, hread⟩ := Option.bind_eq_some_iff.mp hread
    obtain ⟨_, htextEdit, hread⟩ := Option.bind_eq_some_iff.mp hread
    obtain ⟨_, hadditionalTextEdits, hread⟩ := Option.bind_eq_some_iff.mp hread
    obtain ⟨_, hcommand, hread⟩ := Option.bind_eq_some_iff.mp hread
    obtain ⟨_, hcommitCharacters, hread⟩ := Option.bind_eq_some_iff.mp hread
    obtain ⟨_, hdata, hread⟩ := Option.bind_eq_some_iff.mp hread
    obtain ⟨_, htags, hread⟩ := Option.bind_eq_some_iff.mp hread
    cases hread
    exact ⟨hlabel, hlabelDetails, hkind, hdetail, hdocumentation, hdeprecated, hpreselect,
      hsortText, hfilterText, hinsertText, hinsertTextFormat, hinsertTextMode, htextEdit,
      hadditionalTextEdits, hcommand, hcommitCharacters, hdata, htags⟩
  · intro hread
    simp only [ofJson?, hread.label, hread.labelDetails, hread.kind, hread.detail,
      hread.documentation, hread.deprecated, hread.preselect, hread.sortText, hread.filterText,
      hread.insertText, hread.insertTextFormat, hread.insertTextMode, hread.textEdit,
      hread.additionalTextEdits, hread.command, hread.commitCharacters, hread.data, hread.tags,
      Option.bind_eq_bind, Option.bind_some]

theorem isSome_ofJson? [UriReading] (value : Json) :
    (ofJson? value).isSome = itemShape.admits value := by
  rw [itemShape, itemFields, Shape.admits_record_of_needed (by decide) (by decide) (by decide)]
  exact Shape.prints_string.isSome_required rfl fun _ =>
    LabelDetails.prints.isSome_optional fun _ => prints_number.isSome_optional fun _ =>
    Shape.prints_string.isSome_optional fun _ => Documentation.prints.isSome_optional fun _ =>
    Shape.prints_boolean.isSome_optional fun _ => Shape.prints_boolean.isSome_optional fun _ =>
    Shape.prints_string.isSome_optional fun _ => Shape.prints_string.isSome_optional fun _ =>
    Shape.prints_string.isSome_optional fun _ => prints_number.isSome_optional fun _ =>
    prints_number.isSome_optional fun _ => MainEdit.prints.isSome_optional fun _ =>
    TextEdit.prints.listOf.isSome_optional fun _ => Command.prints.isSome_optional fun _ =>
    Shape.prints_string.listOf.isSome_optional fun _ =>
    Shape.prints_anything.isSome_optional fun _ => prints_number.listOf.isSome_optional fun _ => rfl

/-- What is written for an item is what mattered of the fields that it was read from. -/
theorem IsReadFrom.fields_eq [UriReading] (hread : IsReadFrom value item) :
    item.fields = Json.sortNames (itemFields.map fun field =>
      (field.1, (value.given? field.1).map field.2.relevant)) := by
  simp [itemFields, Json.sortNames, Shape.optionalString, Shape.flag, fields,
    Shape.prints_string.required rfl hread.label,
    LabelDetails.prints.optional hread.labelDetails, prints_number.optional hread.kind,
    Shape.prints_string.optional hread.detail, Documentation.prints.optional hread.documentation,
    Shape.prints_boolean.optional hread.deprecated, Shape.prints_boolean.optional hread.preselect,
    Shape.prints_string.optional hread.sortText, Shape.prints_string.optional hread.filterText,
    Shape.prints_string.optional hread.insertText, prints_number.optional hread.insertTextFormat,
    prints_number.optional hread.insertTextMode, MainEdit.prints.optional hread.textEdit,
    TextEdit.prints.listOf.optional hread.additionalTextEdits,
    Command.prints.optional hread.command,
    Shape.prints_string.listOf.optional hread.commitCharacters,
    Shape.prints_anything.optional hread.data, prints_number.listOf.optional hread.tags]

/-- The names of the fields are in their order. -/
theorem pairwise_fields (item : Item) : (item.fields.map Prod.fst).Pairwise (· < ·) := by
  simp [fields, -String.lt_iff_ltb]

theorem toJson_eq [UriReading] (hread : ofJson? value = some item) :
    item.toJson = itemShape.relevant value := by
  rw [itemShape, Shape.relevant_record, toJson, (ofJson?_eq_some_iff.mp hread).fields_eq]
  rfl

/-- An item is read again from what is written for it, also with another explanation. -/
theorem IsReadFrom.again [UriReading] (hread : IsReadFrom value item) (detail : Option String)
    (documentation : Option Documentation) :
    let changed : Item := { item with detail, documentation }
    IsReadFrom changed.toJson changed := by
  intro changed
  have hfield (name : String) : changed.toJson.field? name = (changed.fields.lookup name).join :=
    Json.field?_ofOptionalFields ((pairwise_fields changed).imp ne_of_lt) name
  exact
    { label := Shape.prints_string.required_again hread.label (hfield _)
      labelDetails := LabelDetails.prints.optional_again hread.labelDetails (hfield _)
      kind := prints_number.optional_again hread.kind (hfield _)
      -- Any text and any explanation can be written, so these two do not need `hread`.
      detail := Json.optional?_of_field? (hfield _) (fun _ _ => rfl) (fun _ _ => nofun)
      documentation := Json.optional?_of_field? (hfield _)
        (fun documentation _ => documentation.ofJson?_toJson)
        (fun documentation _ => documentation.toJson_ne_null)
      deprecated := Shape.prints_boolean.optional_again hread.deprecated (hfield _)
      preselect := Shape.prints_boolean.optional_again hread.preselect (hfield _)
      sortText := Shape.prints_string.optional_again hread.sortText (hfield _)
      filterText := Shape.prints_string.optional_again hread.filterText (hfield _)
      insertText := Shape.prints_string.optional_again hread.insertText (hfield _)
      insertTextFormat := prints_number.optional_again hread.insertTextFormat (hfield _)
      insertTextMode := prints_number.optional_again hread.insertTextMode (hfield _)
      textEdit := MainEdit.prints.optional_again hread.textEdit (hfield _)
      additionalTextEdits :=
        TextEdit.prints.listOf.optional_again hread.additionalTextEdits (hfield _)
      command := Command.prints.optional_again hread.command (hfield _)
      commitCharacters :=
        Shape.prints_string.listOf.optional_again hread.commitCharacters (hfield _)
      data := Shape.prints_anything.optional_again hread.data
        ((hfield _).trans (congrFun Option.map_id item.data).symm)
      tags := prints_number.listOf.optional_again hread.tags (hfield _) }

theorem prints [UriReading] : itemShape.Prints ofJson? toJson where
  isSome_read := isSome_ofJson?
  write_eq := toJson_eq
  read_write {_ item} hread := ofJson?_eq_some_iff.mpr <|
    (ofJson?_eq_some_iff.mp hread).again item.detail item.documentation

end Item

end Completion

end PolicyEditing
