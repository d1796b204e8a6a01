import PolicyEditing.Proofs.Json.Fields
import PolicyEditing.Shape.Basic

/-!
# What matters of a value

A record names its fields, so that unknown fields of a value do not matter, and neither does a field
that is `null`.  `relevant` keeps what does matter, at every level of the value that the shape goes
down to.  Of an object that is what is left when such fields are dropped (`relevant_object`); an
array that stands for an object is made into one.

That a value is admitted depends on the same fields, whichever of the two it is (`admits_record`).
-/

namespace PolicyEditing

namespace Shape

variable [UriReading]

mutual

/-- What matters of a value that has a shape.  Of a record, these are the fields that it names, as
far as they are there and not `null`, in the order of their names; of a choice, what matters for the
first shape that the value has.  A name out of a list is a string.  All else is kept as it is. -/
def relevant (shape : Shape) (value : Json) : Json :=
  match shape with
  | oneOf _ => (value.asName?.map Json.string).getD value
  | listOf item =>
    match value with
    | .array items => .array (items.map fun value => relevant item value)
    | _ => value
  | optional inner =>
    match value with
    | .null => .null
    | value => relevant inner value
  | defaulted inner => relevant inner value
  | either first second =>
    if first.admits value then relevant first value else relevant second value
  | record fields =>
    .ofOptionalFields <| Json.sortNames <|
      relevantFields fields (value.named (fields.map Prod.fst))
  | _ => value

/-- What matters of the fields of a record. -/
def relevantFields (fields : List (String × Shape)) (value : Json) :
    List (String × Option Json) :=
  match fields with
  | [] => []
  | (name, shape) :: rest =>
    (name, (value.given? name).map fun value => relevant shape value) :: relevantFields rest value

end

variable {fields : List (String × Shape)} {shape : Shape} {name : String} {value : Json}

theorem relevantFields_eq (fields : List (String × Shape)) (value : Json) :
    relevantFields fields value =
      fields.map fun field => (field.1, (value.given? field.1).map field.2.relevant) := by
  induction fields with
  | nil => rfl
  | cons field rest ih => rw [relevantFields, ih]; rfl

theorem relevant_record (fields : List (String × Shape)) (value : Json) :
    (record fields).relevant value = .ofOptionalFields (Json.sortNames (fields.map fun field =>
      (field.1, ((value.named (fields.map Prod.fst)).given? field.1).map field.2.relevant))) := by
  rw [relevant, relevantFields_eq]

/-- What matters of a field of an object, if it has a known name and is not `null`. -/
def relevantField? (fields : List (String × Shape)) (given : String × Json) :
    Option (String × Json) :=
  match given.2 with
  | .null => none
  | value => (fields.lookup given.1).map fun shape => (given.1, shape.relevant value)

theorem relevantField?_eq_some_iff {given kept : String × Json} :
    relevantField? fields given = some kept ↔ given.2 ≠ .null ∧
      ∃ shape, fields.lookup given.1 = some shape ∧ (given.1, shape.relevant given.2) = kept := by
  obtain ⟨name, value⟩ := given
  cases value <;> simp [relevantField?]

/-- What matters of an object whose names are in order is what is left of it without the fields that
are unknown or `null`. -/
theorem relevant_object {given : List (String × Json)} (hnames : (fields.map Prod.fst).Nodup)
    (hgiven : (given.map Prod.fst).Pairwise (· < ·)) :
    (record fields).relevant (.object given) =
      .object (given.filterMap (relevantField? fields)) := by
  rw [relevant_record, Json.ofOptionalFields_eq, Json.named_object]
  -- The names are in order on both sides, so that the fields can be compared one by one.
  refine congrArg Json.object (Json.eq_of_mem_iff ?_ ?_ ?_)
  · refine Json.pairwise_filterMap ?_ (Json.pairwise_sortNames ?_)
    · rintro ⟨name, _ | value⟩ kept hkept <;> cases hkept
      rfl
    · rwa [List.map_map]
  · refine Json.pairwise_filterMap (fun entry kept hkept => ?_) hgiven
    obtain ⟨-, shape, -, rfl⟩ := relevantField?_eq_some_iff.mp hkept
    rfl
  · rintro ⟨name, kept⟩
    simp only [Json.mem_present, (Json.perm_sortNames _).mem_iff, List.mem_map, List.mem_filterMap,
      Prod.exists, Prod.mk.injEq, Option.map_eq_some_iff, Json.given?_eq_some_iff, Json.field?,
      relevantField?_eq_some_iff, Json.lookup_eq_some_iff hnames,
      Json.lookup_eq_some_iff (hgiven.imp ne_of_lt)]
    constructor
    · rintro ⟨_, shape, hshape, rfl, value, ⟨hvalue, hnull⟩, rfl⟩
      exact ⟨_, value, hvalue, hnull, shape, hshape, rfl, rfl⟩
    · rintro ⟨_, value, hvalue, hnull, shape, hshape, rfl, rfl⟩
      exact ⟨_, shape, hshape, rfl, value, ⟨hvalue, hnull⟩, rfl⟩

/-- Nothing but `null` becomes `null`. -/
theorem relevant_ne_null : ∀ (shape : Shape) {value : Json}, value ≠ .null →
    shape.relevant value ≠ .null
  | oneOf _, value, hvalue => by
      rw [relevant]
      cases value.asName? with
      | none => exact hvalue
      | some _ => exact Json.noConfusion
  | listOf _, value, hvalue => by
      cases value <;> simp_all [relevant]
  | optional inner, value, hvalue => by
      have hinner := relevant_ne_null inner hvalue
      cases value <;> simp_all [relevant]
  | defaulted inner, value, hvalue => by
      rw [relevant]
      exact relevant_ne_null inner hvalue
  | either first second, value, hvalue => by
      rw [relevant]
      split
      · exact relevant_ne_null first hvalue
      · exact relevant_ne_null second hvalue
  | record _, _, _ => by simp [relevant, Json.ofOptionalFields]
  | anything, _, hvalue | boolean, _, hvalue | whole _ _, _, hvalue | number, _, hvalue
  | string, _, hvalue | exactly _, _, hvalue | uri, _, hvalue | twoOf _, _, hvalue
  | byUri _, _, hvalue | openRecord _ _, _, hvalue => by
      simpa [relevant] using hvalue

/-- Whether a field is as a record wants it. -/
def admitsGiven (shape : Shape) : Option Json → Bool
  | some value => shape.admits value
  | none => shape.mayBeMissing

theorem admitsFields_eq (fields : List (String × Shape)) (given : List (String × Json)) :
    admitsFields fields given =
      fields.all fun field => field.2.admitsGiven (given.lookup field.1) := by
  induction fields with
  | nil => rfl
  | cons field rest ih =>
      obtain ⟨name, shape⟩ := field
      rw [admitsFields, ih, List.all_cons]
      cases given.lookup name <;> rfl

/-- A field that no shape is for does not matter. -/
theorem admitsFields_cons_of_notMem {given : List (String × Json)}
    (hname : name ∉ fields.map Prod.fst) :
    admitsFields fields ((name, value) :: given) = admitsFields fields given := by
  rw [admitsFields_eq, admitsFields_eq, Bool.eq_iff_iff, List.all_eq_true, List.all_eq_true]
  refine forall₂_congr fun field hfield => ?_
  have hne : (field.1 == name) = false :=
    beq_false_of_ne fun hsame => hname (hsame ▸ List.mem_map_of_mem hfield)
  rw [List.lookup_cons, hne]

/-- The values of all fields in a row are as good as the object that they stand for. -/
theorem admitsItems_eq {items : List Json} (hnames : (fields.map Prod.fst).Nodup)
    (hwhole : ∀ field ∈ fields, field.2.mayBeCut = false) :
    admitsItems fields items = (decide (items.length = fields.length) &&
      admitsFields fields ((fields.map Prod.fst).zip items)) := by
  induction fields generalizing items with
  | nil => cases items <;> rfl
  | cons field rest ih =>
      obtain ⟨name, shape⟩ := field
      obtain ⟨hname, hrest⟩ := List.nodup_cons.mp hnames
      cases items with
      | nil => simp [admitsItems, hwhole (name, shape) List.mem_cons_self]
      | cons value items =>
          have hbehind := @ih items hrest fun field hfield =>
            hwhole field (List.mem_cons_of_mem _ hfield)
          rw [admitsItems, hbehind, List.map_cons, List.zip_cons_cons, admitsFields,
            List.lookup_cons_self, admitsFields_cons_of_notMem hname]
          simp only [List.length_cons, Nat.add_right_cancel_iff]
          exact Bool.and_left_comm _ _ _

/-- An object, or an array that stands for one, is admitted by its fields. -/
theorem admits_record (hnames : (fields.map Prod.fst).Nodup)
    (hwhole : ∀ field ∈ fields, field.2.mayBeCut = false) :
    (record fields).admits value =
      ((value.named (fields.map Prod.fst)).asObject?.isSome && fields.all fun field =>
        field.2.admitsGiven ((value.named (fields.map Prod.fst)).field? field.1)) := by
  cases value with
  | object given => exact admitsFields_eq fields given
  | array items =>
      rw [admits, admitsItems_eq hnames hwhole, Json.named, List.length_map]
      by_cases hlength : items.length = fields.length
      · rw [if_pos hlength, decide_eq_true hlength, admitsFields_eq]
        rfl
      · rw [if_neg hlength, decide_eq_false hlength]
        rfl
  | _ => rfl

/-- If one of the fields has to be there, nothing but an object can have it. -/
theorem admits_record_of_needed (hnames : (fields.map Prod.fst).Nodup)
    (hwhole : ∀ field ∈ fields, field.2.mayBeCut = false)
    (hneeded : ∃ field ∈ fields, field.2.mayBeMissing = false) :
    (record fields).admits value = fields.all fun field =>
      field.2.admitsGiven ((value.named (fields.map Prod.fst)).field? field.1) := by
  rw [admits_record hnames hwhole]
  cases hobject : (value.named (fields.map Prod.fst)).asObject? with
  | some _ => exact Bool.true_and _
  | none =>
      -- What is no object has no fields at all, and lacks the one that has to be there.
      obtain ⟨field, hfield, hmissing⟩ := hneeded
      have hnone : (value.named (fields.map Prod.fst)).field? field.1 = none := by
        cases hnamed : value.named (fields.map Prod.fst) <;> simp_all [Json.asObject?, Json.field?]
      refine (List.all_eq_false.mpr ⟨field, hfield, ?_⟩).symm
      rw [hnone, admitsGiven, hmissing]
      exact Bool.false_ne_true

end Shape

end PolicyEditing
