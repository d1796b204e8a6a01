import PolicyEditing.Proofs.Shape.Relevant

/-!
# Readers and writers

A shape, a reader and a writer belong together if the reader takes the values of the shape and the
writer gives back what mattered of them (`Prints`).  A reader of a record is put together from those
of its fields, so each law is stated for a field that is needed and for one that is optional: what
is written for it (`Prints.required`, `Prints.optional`), that it is read again from there
(`Prints.required_again`, `Prints.optional_again`), and that a reader that goes on behind it takes
what the shapes of the fields admit (`Prints.isSome_required`, `Prints.isSome_optional`).

Lists (`Prints.listOf`) and choices (`Prints.either`) keep the laws of their parts.
-/

namespace PolicyEditing.Shape

variable [UriReading] {shape : Shape} {name : String} {value : Json}

/-! ## Readers and writers -/

/-- Whether a reader takes the values of a shape, and a writer makes from the result what mattered
of the value, in a form that gives the same result again. -/
structure Prints {α : Type} (shape : Shape) (read : Json → Option α) (write : α → Json) : Prop where
  isSome_read : ∀ value, (read value).isSome = shape.admits value
  write_eq : ∀ {value result}, read value = some result → write result = shape.relevant value
  read_write : ∀ {value result}, read value = some result → read (write result) = some result

namespace Prints

variable {α : Type} {read : Json → Option α} {write : α → Json} {result : α}
  {given : Option α} {other : Json}

/-- What mattered of a field that is needed is what is written for it. -/
theorem required (hprints : shape.Prints read write) (hnull : read .null = none)
    (hread : value.required? read name = some result) :
    (value.given? name).map shape.relevant = some (write result) := by
  rw [Json.required?_eq hnull] at hread
  obtain ⟨present, hgiven, hpresent⟩ := Option.bind_eq_some_iff.mp hread
  rw [hgiven, Option.map_some, hprints.write_eq hpresent]

theorem relevant_optional (hvalue : value ≠ .null) :
    (optional shape).relevant value = shape.relevant value := by
  cases value <;> simp_all [relevant]

theorem optional (hprints : shape.Prints read write)
    (hread : value.optional? read name = some given) :
    (value.given? name).map (optional shape).relevant = given.map write := by
  obtain ⟨hgiven, rfl⟩ | ⟨present, result, hgiven, hpresent, rfl⟩ :=
    Json.optional?_eq_some_iff.mp hread
  · rw [hgiven]
    rfl
  · rw [hgiven, Option.map_some, relevant_optional ((Json.given?_eq_some_iff.mp hgiven).2),
      ← hprints.write_eq hpresent, Option.map_some]

/-- A field that is needed is read again from an object that has what is written for it. -/
theorem required_again (hprints : shape.Prints read write)
    (hread : value.required? read name = some result)
    (hfield : other.field? name = some (write result)) :
    other.required? read name = some result := by
  obtain ⟨present, -, hpresent⟩ := Option.bind_eq_some_iff.mp hread
  exact Option.bind_eq_some_iff.mpr ⟨_, hfield, hprints.read_write hpresent⟩

theorem optional_again (hprints : shape.Prints read write)
    (hread : value.optional? read name = some given)
    (hfield : other.field? name = given.map write) :
    other.optional? read name = some given := by
  obtain ⟨-, rfl⟩ | ⟨present, result, hgiven, hpresent, rfl⟩ := Json.optional?_eq_some_iff.mp hread
  · exact Json.optional?_of_field? hfield nofun nofun
  · refine Json.optional?_of_field? hfield ?_ ?_
    · rintro _ ⟨⟩
      exact hprints.read_write hpresent
    · rintro _ ⟨⟩
      rw [hprints.write_eq hpresent]
      exact relevant_ne_null shape ((Json.given?_eq_some_iff.mp hgiven).2)

omit [UriReading] in
theorem isSome_bind {β : Type} {first : Option α} {next : α → Option β} {behind : Bool}
    (hnext : ∀ result, (next result).isSome = behind) :
    (first >>= next).isSome = (first.isSome && behind) := by
  cases first with
  | none => rfl
  | some result => exact hnext result

/-- A reader that goes on behind a field that is needed. -/
theorem isSome_required {β : Type} {next : α → Option β} {behind : Bool}
    (hprints : shape.Prints read write) (hneeded : shape.mayBeMissing = false)
    (hnext : ∀ result, (next result).isSome = behind) :
    (value.required? read name >>= next).isSome =
      (shape.admitsGiven (value.field? name) && behind) := by
  rw [isSome_bind hnext, Json.required?]
  cases value.field? name with
  | none => rw [admitsGiven, hneeded]; rfl
  | some present => exact congrArg (· && behind) (hprints.isSome_read present)

theorem isSome_optional {β : Type} {next : Option α → Option β} {behind : Bool}
    (hprints : shape.Prints read write) (hnext : ∀ given, (next given).isSome = behind) :
    (value.optional? read name >>= next).isSome =
      ((Shape.optional shape).admitsGiven (value.field? name) && behind) := by
  rw [isSome_bind hnext, Json.optional?]
  cases value.field? name with
  | none => rfl
  | some present => cases present <;> simp [admitsGiven, admits, ← hprints.isSome_read]

end Prints

/-! ## Words and lists -/

theorem prints_anything : anything.Prints some id where
  isSome_read _ := rfl
  write_eq := by rintro value _ ⟨⟩; simp [relevant]
  read_write _ := rfl

theorem prints_boolean : boolean.Prints Json.asBool? .bool where
  isSome_read _ := by simp [admits]
  write_eq {value _} hread := by cases value <;> cases hread; simp [relevant]
  read_write _ := rfl

theorem prints_string : string.Prints Json.asString? .string where
  isSome_read _ := by simp [admits]
  write_eq {value _} hread := by cases value <;> cases hread; simp [relevant]
  read_write _ := rfl

omit [UriReading] in
theorem asIntWithin?_eq_some_iff {low high whole : Int} :
    value.asIntWithin? low high = some whole ↔ value = .int whole ∧ low ≤ whole ∧ whole < high := by
  unfold Json.asIntWithin?
  split
  · rename_i written
    simp only [Option.ite_none_right_eq_some, Option.some.injEq, Json.int, Json.number.injEq,
      Number.integer.injEq]
    constructor
    · rintro ⟨hwithin, rfl⟩
      exact ⟨rfl, hwithin⟩
    · rintro ⟨rfl, hwithin⟩
      exact ⟨hwithin, rfl⟩
  · rename_i hother
    simp only [reduceCtorEq, false_iff]
    rintro ⟨rfl, -⟩
    exact hother whole rfl

theorem prints_whole (low high : Int) :
    (whole low high).Prints (Json.asIntWithin? low high) .int where
  isSome_read _ := by simp [admits]
  write_eq hread := by
    rw [(asIntWithin?_eq_some_iff.mp hread).1]
    simp [relevant]
  read_write hread :=
    asIntWithin?_eq_some_iff.mpr ⟨rfl, (asIntWithin?_eq_some_iff.mp hread).2⟩

theorem prints_nonneg (high : Int) :
    (whole 0 high).Prints (fun value => (value.asIntWithin? 0 high).map Int.toNat) .nat where
  isSome_read _ := by simp [admits]
  write_eq {value result} hread := by
    obtain ⟨written, hwritten, rfl⟩ := Option.map_eq_some_iff.mp hread
    obtain ⟨rfl, hnonneg, -⟩ := asIntWithin?_eq_some_iff.mp hwritten
    simp [relevant, Json.nat, Int.toNat_of_nonneg hnonneg]
  read_write {value result} hread := by
    obtain ⟨written, hwritten, rfl⟩ := Option.map_eq_some_iff.mp hread
    obtain ⟨rfl, hnonneg, hlt⟩ := asIntWithin?_eq_some_iff.mp hwritten
    rw [Json.nat, Int.toNat_of_nonneg hnonneg, hwritten]
    rfl

section Lists

variable {α : Type} {read : Json → Option α} {write : α → Json} {results : List α}
  {items : List Json}

theorem Prints.isSome_mapM (hprints : shape.Prints read write) :
    (items.mapM read).isSome = items.all shape.admits := by
  induction items with
  | nil => rfl
  | cons item rest ih =>
      rw [List.mapM_cons, List.all_cons, ← ih, ← hprints.isSome_read]
      cases read item with
      | none => rfl
      | some _ => cases rest.mapM read <;> rfl

theorem Prints.of_mapM (hprints : shape.Prints read write)
    (hread : items.mapM read = some results) :
    results.map write = items.map shape.relevant ∧
      (results.map write).mapM read = some results := by
  induction items generalizing results with
  | nil =>
      cases hread
      exact ⟨rfl, rfl⟩
  | cons item rest ih =>
      rw [List.mapM_cons] at hread
      obtain ⟨result, hitem, hread⟩ := Option.bind_eq_some_iff.mp hread
      obtain ⟨behind, hrest, hread⟩ := Option.bind_eq_some_iff.mp hread
      cases hread
      obtain ⟨hwrite, hagain⟩ := ih hrest
      constructor
      · rw [List.map_cons, List.map_cons, hprints.write_eq hitem, hwrite]
      · rw [List.map_cons, List.mapM_cons, hprints.read_write hitem, hagain]
        rfl

theorem Prints.listOf (hprints : shape.Prints read write) :
    (listOf shape).Prints (Json.asListOf? read) fun results => .array (results.map write) where
  isSome_read value := by
    cases value with
    | array items => rw [admits]; exact hprints.isSome_mapM
    | _ => rfl
  write_eq {value _} hread := by
    cases value with
    | array items =>
        rw [(hprints.of_mapM hread).1]
        simp [relevant]
    | _ => cases hread
  read_write {value _} hread := by
    cases value with
    | array items => exact (hprints.of_mapM hread).2
    | _ => cases hread

end Lists

theorem prints_array : (listOf anything).Prints Json.asArray? .array where
  isSome_read value := by cases value <;> simp [admits, Json.asArray?]
  write_eq {value _} hread := by cases value <;> cases hread; simp [relevant]
  read_write _ := rfl

/-! ## Choices -/

/-- A result in another form. -/
theorem Prints.map {α β : Type} {read : Json → Option α} {write : α → Json} {write' : β → Json}
    (hprints : shape.Prints read write) (f : α → β)
    (hwrite : ∀ result, write' (f result) = write result) :
    shape.Prints (fun value => (read value).map f) write' where
  isSome_read value := by rw [Option.isSome_map, hprints.isSome_read]
  write_eq hread := by
    obtain ⟨result, hresult, rfl⟩ := Option.map_eq_some_iff.mp hread
    rw [hwrite, hprints.write_eq hresult]
  read_write hread := by
    obtain ⟨result, hresult, rfl⟩ := Option.map_eq_some_iff.mp hread
    rw [hwrite, hprints.read_write hresult]
    rfl

/-- A choice between two shapes, if what is written in the second one is not taken for the first. -/
theorem Prints.either {α : Type} {first second : Shape} {readFirst readSecond : Json → Option α}
    {write : α → Json} (hfirst : first.Prints readFirst write)
    (hsecond : second.Prints readSecond write)
    (hapart : ∀ value result, readSecond value = some result → readFirst (write result) = none) :
    (either first second).Prints (fun value => (readFirst value).or (readSecond value)) write where
  isSome_read value := by
    rw [Option.isSome_or, hfirst.isSome_read, hsecond.isSome_read, admits]
  write_eq {value result} hread := by
    rw [relevant, ← hfirst.isSome_read]
    rcases Option.or_eq_some_iff.mp hread with hleft | ⟨hnone, hright⟩
    · rw [if_pos (Option.isSome_of_mem hleft), hfirst.write_eq hleft]
    · rw [hnone, Option.isSome_none, if_neg Bool.false_ne_true, hsecond.write_eq hright]
  read_write {value result} hread := by
    rcases Option.or_eq_some_iff.mp hread with hleft | ⟨-, hright⟩
    · rw [hfirst.read_write hleft, Option.some_or]
    · rw [hapart value result hright, hsecond.read_write hright, Option.none_or]

end PolicyEditing.Shape
