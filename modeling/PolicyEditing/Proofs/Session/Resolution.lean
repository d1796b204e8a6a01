import PolicyEditing.Proofs.Completion.Exchange
import PolicyEditing.Proofs.Session.Calls
import PolicyEditing.Wire.Answer

/-!
# Later details of completions

When an editor shows an item, it sends the item and asks for more.  The help for functions and the
functions that are offered are two tables; that they have the same names
(`Vocabulary.perm_functionHelps`) is why the help is added to the items of functions only, and to
all of them.

What comes back is told on the side of JSON, where the help takes two fields
(`Completion.Item.toJson_resolve`).  That the same comes back the second time rests on two facts: an
item with its help is read again from what is written for it (`ofJson?_toJson_resolve`), and the
help is the same for it (`resolve_resolve`).
-/

namespace PolicyEditing

/-! ## The functions with help -/

namespace Vocabulary

/-- Every function has help, and there is help for nothing else. -/
theorem perm_functionHelps : (functionHelps.map (·.name)).Perm functions := by
  decide

theorem mem_functions_iff {name : String} :
    name ∈ functions ↔ ∃ help, functionHelp? name = some help := by
  rw [← perm_functionHelps.mem_iff, functionHelp?, ← Option.isSome_iff_exists, Option.isSome_map,
    List.find?_isSome]
  simp

end Vocabulary

namespace Completion.Item

variable {item : Item} {help : String}

theorem resolve_of_none (hhelp : Vocabulary.functionHelp? item.label = none) :
    item.resolve = item := by
  rw [resolve, hhelp]

theorem resolve_of_some (hhelp : Vocabulary.functionHelp? item.label = some help) :
    item.resolve = { item with
      detail := some Vocabulary.functionDetail
      documentation := some (.markup .markdown help) } := by
  rw [resolve, hhelp]

/-- An item with help is no different with the help once more. -/
theorem resolve_resolve (item : Item) : item.resolve.resolve = item.resolve := by
  cases hhelp : Vocabulary.functionHelp? item.label with
  | none => rw [resolve_of_none hhelp, resolve_of_none hhelp]
  | some help =>
      rw [resolve_of_some hhelp]
      exact resolve_of_some hhelp

/-- What the explanation of a function is written as. -/
def helpJson (help : String) : Json :=
  .object [("kind", .string "markdown"), ("value", .string help)]

theorem fields_resolve (hhelp : Vocabulary.functionHelp? item.label = some help) :
    item.resolve.fields = Json.setField "detail" (.string Vocabulary.functionDetail)
      (Json.setField "documentation" (helpJson help) item.fields) := by
  rw [resolve_of_some hhelp]
  simp [fields, Json.setField, Documentation.toJson, MarkupKind.name, helpJson]

/-- The help takes two fields of what is written for an item. -/
theorem toJson_resolve (hhelp : Vocabulary.functionHelp? item.label = some help) :
    item.resolve.toJson = .object
      (Json.insertField "detail" (.string Vocabulary.functionDetail)
        (Json.insertField "documentation" (helpJson help) (Json.present item.fields))) := by
  have hsorted := pairwise_fields item
  have hnames := Json.map_fst_setField "documentation" (helpJson help) item.fields
  calc item.resolve.toJson
      = .object (Json.present item.resolve.fields) := rfl
    _ = .object (Json.present (Json.setField "detail" (.string Vocabulary.functionDetail)
          (Json.setField "documentation" (helpJson help) item.fields))) := by
        rw [fields_resolve hhelp]
    _ = .object (Json.insertField "detail" (.string Vocabulary.functionDetail)
          (Json.present (Json.setField "documentation" (helpJson help) item.fields))) := by
        rw [Json.insertField_present (hnames ▸ hsorted) (by rw [hnames]; simp [fields])]
    _ = .object (Json.insertField "detail" (.string Vocabulary.functionDetail)
          (Json.insertField "documentation" (helpJson help) (Json.present item.fields))) := by
        rw [Json.insertField_present hsorted (by simp [fields])]

/-- An item is read again from what is written for it with its help. -/
theorem ofJson?_toJson_resolve [UriReading] {value : Json} (hread : ofJson? value = some item) :
    ofJson? item.resolve.toJson = some item.resolve := by
  have hagain := (ofJson?_eq_some_iff.mp hread).again
  refine ofJson?_eq_some_iff.mpr ?_
  cases hhelp : Vocabulary.functionHelp? item.label with
  | none =>
      -- The item is left alone, which is to exchange its explanation for the one that it has.
      rw [resolve_of_none hhelp]
      exact hagain item.detail item.documentation
  | some help =>
      rw [resolve_of_some hhelp]
      exact hagain _ _

theorem field?_label [UriReading] {value : Json} (hread : ofJson? value = some item) :
    (value.named fieldNames).field? "label" = some (.string item.label) := by
  obtain ⟨label, hfield, hlabel⟩ :=
    Option.bind_eq_some_iff.mp (ofJson?_eq_some_iff.mp hread).label
  rw [hfield, Shape.prints_string.write_eq hlabel]
  simp [Shape.relevant]

end Completion.Item

namespace Server

/-- The call that asks for the later details of an item. -/
def resolveCall (value : Json) : Call := ⟨.request, "completionItem/resolve", some value⟩

section

variable [UriReading] {server : Server} {asked : Step} {value : Json} {item : Completion.Item}

theorem request?_resolveCall (hitem : Completion.Item.ofJson? value = some item) :
    (resolveCall value).request? = some (.resolve item) := by
  have hmethod : Method.ofName? "completionItem/resolve" = some (.request Params.resolve?) := rfl
  simp [Call.request?, resolveCall, hmethod, Params.resolve?, hitem]

theorem step_resolve (hready : server.phase = .ready) (hasked : asked.call = resolveCall value)
    (hitem : Completion.Item.ofJson? value = some item) :
    server.step asked = ⟨.responded (.ok (.resolved item.resolve)), server, []⟩ := by
  have hrequest : asked.call.request? = some (.resolve item) := by
    rw [hasked, request?_resolveCall hitem]
  rw [step_of_request hready hrequest]
  rfl

/-- **Later details are added to what matters of an item, and adding them again changes nothing.**
Asked for the details of an item, a server between the first and the last message answers and does
nothing else.  What it sends is what matters of what it got: for an object with its names in order,
what is left when the unknown fields and those that are `null` are dropped, at every level of the
shape of items.  Exactly if the label is the name of a built-in function, the detail and the
explanation are those of the function instead.  What is sent is an item again, and asked for its
details the server sends the same. -/
theorem resolved_of_item (hready : server.phase = .ready)
    (hasked : asked.call = resolveCall value)
    (hitem : Completion.Item.ofJson? value = some item) :
    ∃ answer fields,
      server.step asked = ⟨.responded (.ok answer), server, []⟩ ∧
      Completion.itemShape.relevant value = .object fields ∧
      (∀ given, value = .object given → (given.map Prod.fst).Pairwise (· < ·) →
        fields = given.filterMap (Shape.relevantField? Completion.itemFields)) ∧
      (value.named Completion.Item.fieldNames).field? "label" = some (.string item.label) ∧
      (item.label ∉ Vocabulary.functions → answer.toJson = .object fields) ∧
      (item.label ∈ Vocabulary.functions →
        ∃ help, Vocabulary.functionHelp? item.label = some help ∧
          answer.toJson = .object
            (Json.insertField "detail" (.string Vocabulary.functionDetail)
              (Json.insertField "documentation" (Completion.Item.helpJson help) fields))) ∧
      (Completion.Item.ofJson? answer.toJson).isSome ∧
      ∀ again : Step, again.call = resolveCall answer.toJson →
        server.step again = ⟨.responded (.ok answer), server, []⟩ := by
  have hrelevant : Completion.itemShape.relevant value = .object (Json.present item.fields) :=
    (Completion.Item.prints.write_eq hitem).symm
  have hreread := Completion.Item.ofJson?_toJson_resolve hitem
  refine ⟨.resolved item.resolve, Json.present item.fields, step_resolve hready hasked hitem,
    hrelevant, ?_, Completion.Item.field?_label hitem, ?_, ?_, ?_, ?_⟩
  · rintro given rfl hgiven
    rw [Completion.itemShape, Shape.relevant_object (by decide) hgiven] at hrelevant
    exact (Json.object.inj hrelevant).symm
  · intro hno
    have hhelp : Vocabulary.functionHelp? item.label = none := by
      cases hhelp : Vocabulary.functionHelp? item.label with
      | none => rfl
      | some help => exact absurd (Vocabulary.mem_functions_iff.mpr ⟨help, hhelp⟩) hno
    rw [Answer.toJson, Completion.Item.resolve_of_none hhelp]
    rfl
  · intro hfunction
    obtain ⟨help, hhelp⟩ := Vocabulary.mem_functions_iff.mp hfunction
    exact ⟨help, hhelp, Completion.Item.toJson_resolve hhelp⟩
  · rw [Answer.toJson, hreread]
    rfl
  · intro again hagain
    rw [step_resolve hready hagain hreread, Completion.Item.resolve_resolve]

end

/-- The item of a function, with an unknown color beside its label, and with nothing as its kind. -/
theorem resolved_of_item_now :
    let server : Server := { Server.fresh with phase := .ready }
    let value : Json := .object
      [("data", .array [.null, .nat 1]), ("kind", .null), ("label", .string "now"),
        ("labelDetails", .object [("color", .string "red"), ("detail", .string "()")])]
    let asked : Step := ⟨resolveCall value, fun _ => .result .null⟩
    ∃ answer,
      (server.step asked).value = .responded (.ok answer) ∧
      answer.toJson = .object
        [("data", .array [.null, .nat 1]), ("detail", .string "Guard built-in function"),
          ("documentation", .object
            [("kind", .string "markdown"),
              ("value", .string "Get current epoch timestamp\n\nUsage: `let ts = now()`")]),
          ("label", .string "now"), ("labelDetails", .object [("detail", .string "()")])] := by
  intro server value asked
  have hitem : Completion.Item.ofJson? value = some
      { label := "now", labelDetails := some ⟨some "()", none⟩,
        data := some (.array [.null, .nat 1]) } := rfl
  obtain ⟨answer, fields, hstep, hfields, -, -, -, hfunction, -, -⟩ :=
    @resolved_of_item _ server asked value _ rfl rfl hitem
  rw [← Completion.Item.prints.write_eq hitem] at hfields
  obtain ⟨help, hhelp, hanswer⟩ := hfunction (by decide)
  obtain rfl := Json.object.inj hfields
  obtain rfl : "Get current epoch timestamp\n\nUsage: `let ts = now()`" = help :=
    Option.some.inj hhelp
  exact ⟨answer, congrArg Outcome.value hstep, hanswer⟩

end Server

end PolicyEditing
