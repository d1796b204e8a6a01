import Mathlib.Data.List.Sort
import Mathlib.Data.String.Basic
import PolicyEditing.Json.Basic

/-!
# The fields of objects

An object is written from a list of names with optional values.  What is found under a name in the
object is what the list has there (`field?_ofOptionalFields`), and a value that is added to the
object takes the place of the one in the list (`insertField_present`).  The names of such a list are
different from each other and in their order, and then the entries alone tell what the list is
(`eq_of_mem_iff`).
-/

namespace PolicyEditing.Json

variable {α : Type} {fields : List (String × Option Json)} {name : String} {value : Json}

/-- The fields that have a value. -/
def present (fields : List (String × Option Json)) : List (String × Json) :=
  fields.filterMap fun (name, value) => value.map (name, ·)

theorem ofOptionalFields_eq (fields : List (String × Option Json)) :
    ofOptionalFields fields = .object (present fields) := rfl

@[simp] theorem present_nil : present [] = [] := rfl

@[simp] theorem present_none_cons (name : String) (rest : List (String × Option Json)) :
    present ((name, none) :: rest) = present rest := rfl

@[simp] theorem present_some_cons (name : String) (value : Json)
    (rest : List (String × Option Json)) :
    present ((name, some value) :: rest) = (name, value) :: present rest := rfl

theorem mem_present {field : String × Json} :
    field ∈ present fields ↔ (field.1, some field.2) ∈ fields := by
  obtain ⟨name, value⟩ := field
  simp [present, List.mem_filterMap]

/-! ## Looking up -/

theorem lookup_eq_none_of_notMem {entries : List (String × α)}
    (hname : name ∉ entries.map Prod.fst) : entries.lookup name = none := by
  refine List.lookup_eq_none_iff.mpr fun entry hentry => bne_iff_ne.mpr fun hsame => hname ?_
  rw [hsame]
  exact List.mem_map_of_mem hentry

theorem lookup_present (hnames : (fields.map Prod.fst).Nodup) (name : String) :
    (present fields).lookup name = (fields.lookup name).join := by
  induction fields with
  | nil => rfl
  | cons field rest ih =>
      obtain ⟨other, given⟩ := field
      obtain ⟨hother, hrest⟩ := List.nodup_cons.mp hnames
      by_cases hsame : name = other
      · subst hsame
        cases given with
        | some value => simp
        | none => simp [ih hrest, lookup_eq_none_of_notMem hother]
      · have hne : (name == other) = false := beq_false_of_ne hsame
        cases given <;> simp [List.lookup_cons, hne, ih hrest]

theorem field?_ofOptionalFields (hnames : (fields.map Prod.fst).Nodup) (name : String) :
    (ofOptionalFields fields).field? name = (fields.lookup name).join :=
  lookup_present hnames name

theorem lookup_eq_some_iff {entries : List (String × α)} {found : α}
    (hnames : (entries.map Prod.fst).Nodup) :
    entries.lookup name = some found ↔ (name, found) ∈ entries := by
  induction entries with
  | nil => simp
  | cons entry rest ih =>
      obtain ⟨other, given⟩ := entry
      obtain ⟨hother, hrest⟩ := List.nodup_cons.mp hnames
      by_cases hsame : name = other
      · subst hsame
        have hnotMem : (name, found) ∉ rest := fun hmem => hother (List.mem_map.mpr ⟨_, hmem, rfl⟩)
        simp [hnotMem, eq_comm]
      · have hne : (name == other) = false := beq_false_of_ne hsame
        simp [List.lookup_cons, hne, ih hrest, hsame]

/-! ## Reading a field -/

section Reading

variable {read : Json → Option α} {write : α → Json} {result : Option α}

/-- The value of a field, unless it is missing or `null`. -/
def given? (name : String) (value : Json) : Option Json :=
  match value.field? name with
  | some .null => none
  | given => given

theorem given?_eq_some_iff {present : Json} :
    value.given? name = some present ↔ value.field? name = some present ∧ present ≠ .null := by
  unfold given?
  cases value.field? name with
  | none => simp
  | some found => cases found <;> simp +contextual [eq_comm]

theorem required?_eq (hnull : read .null = none) :
    value.required? read name = (value.given? name).bind read := by
  unfold required? given?
  split <;> simp_all

theorem optional?_eq_some_iff : value.optional? read name = some result ↔
    value.given? name = none ∧ result = none ∨
      ∃ present found, value.given? name = some present ∧ read present = some found ∧
        result = some found := by
  unfold optional? given?
  cases value.field? name with
  | none => simp [eq_comm]
  | some present => cases present <;> simp [eq_comm]

theorem optional?_of_field? (hfield : value.field? name = result.map write)
    (hread : ∀ found ∈ result, read (write found) = some found)
    (hnull : ∀ found ∈ result, write found ≠ .null) :
    value.optional? read name = some result := by
  rw [optional?, hfield]
  cases result with
  | none => rfl
  | some found =>
      have hne := hnull found rfl
      rw [Option.map_some]
      simp [hread found rfl]

end Reading

/-! ## The order of names -/

/-- A list of fields with the names in their order. -/
def sortNames (fields : List (String × α)) : List (String × α) :=
  fields.insertionSort fun first second => first.1 ≤ second.1

theorem perm_sortNames (fields : List (String × α)) : (sortNames fields).Perm fields :=
  List.perm_insertionSort _ _

theorem pairwise_sortNames {fields : List (String × α)} (hnames : (fields.map Prod.fst).Nodup) :
    ((sortNames fields).map Prod.fst).Pairwise (· < ·) := by
  have hsorted : (sortNames fields).map Prod.fst = (fields.map Prod.fst).insertionSort (· ≤ ·) :=
    List.map_insertionSort _ _ _ _ fun _ _ _ _ => Iff.rfl
  have hnodup : ((sortNames fields).map Prod.fst).Nodup :=
    ((perm_sortNames fields).map Prod.fst).nodup_iff.mpr hnames
  rw [hsorted] at hnodup ⊢
  exact (List.pairwise_insertionSort (· ≤ ·) _).imp₂ (fun _ _ => lt_of_le_of_ne) hnodup

/-- A part of the entries has a part of the names. -/
theorem pairwise_filterMap {β : Type} {entries : List (String × α)}
    {part : String × α → Option (String × β)}
    (hpart : ∀ entry kept, part entry = some kept → kept.1 = entry.1)
    (hnames : (entries.map Prod.fst).Pairwise (· < ·)) :
    ((entries.filterMap part).map Prod.fst).Pairwise (· < ·) := by
  rw [List.pairwise_map] at hnames ⊢
  refine hnames.filterMap part fun first second hlt kept hkept other hother => ?_
  rw [hpart first kept hkept, hpart second other hother]
  exact hlt

/-- Two lists with their names in order are the same if they have the same entries. -/
theorem eq_of_mem_iff {first second : List (String × α)}
    (hfirst : (first.map Prod.fst).Pairwise (· < ·))
    (hsecond : (second.map Prod.fst).Pairwise (· < ·))
    (hmem : ∀ entry, entry ∈ first ↔ entry ∈ second) : first = second := by
  have hperm : first.Perm second :=
    (List.perm_ext_iff_of_nodup (List.Nodup.of_map _ (hfirst.imp ne_of_lt))
      (List.Nodup.of_map _ (hsecond.imp ne_of_lt))).mpr hmem
  exact hperm.eq_of_pairwise (fun _ _ _ _ hlt hgt => absurd hgt (lt_asymm hlt))
    (List.pairwise_map.mp hfirst) (List.pairwise_map.mp hsecond)

/-! ## Adding a field -/

/-- The fields with a new value under one of the names. -/
def setField (name : String) (value : Json) (fields : List (String × Option Json)) :
    List (String × Option Json) :=
  fields.map fun field => if field.1 = name then (name, some value) else field

theorem map_fst_setField (name : String) (value : Json) (fields : List (String × Option Json)) :
    (setField name value fields).map Prod.fst = fields.map Prod.fst := by
  rw [setField, List.map_map]
  refine List.map_congr_left fun field _ => ?_
  by_cases hsame : field.1 = name <;> simp [hsame]

theorem setField_of_notMem (hname : name ∉ fields.map Prod.fst) :
    setField name value fields = fields := by
  have hid : setField name value fields = fields.map id := by
    refine List.map_congr_left fun field hfield => if_neg fun hsame => hname ?_
    exact hsame ▸ List.mem_map_of_mem hfield
  rw [hid, List.map_id]

theorem insertField_of_forall_lt {entries : List (String × Json)}
    (hlt : ∀ entry ∈ entries, name < entry.1) :
    insertField name value entries = (name, value) :: entries := by
  cases entries with
  | nil => rfl
  | cons entry rest => rw [insertField, if_pos (hlt entry List.mem_cons_self)]

theorem insertField_present (hsorted : (fields.map Prod.fst).Pairwise (· < ·))
    (hname : name ∈ fields.map Prod.fst) :
    insertField name value (present fields) = present (setField name value fields) := by
  induction fields with
  | nil => cases hname
  | cons field rest ih =>
      obtain ⟨other, given⟩ := field
      obtain ⟨hlt, hrest⟩ := List.pairwise_cons.mp hsorted
      -- The first name is the one that is set, or it comes before it.
      by_cases hsame : other = name
      · subst hsame
        have hset : setField other value ((other, given) :: rest) =
            (other, some value) :: rest := by
          have hnotMem : other ∉ rest.map Prod.fst := fun hmem => lt_irrefl _ (hlt _ hmem)
          rw [setField, List.map_cons, if_pos rfl, ← setField, setField_of_notMem hnotMem]
        have hbehind : ∀ entry ∈ present rest, other < entry.1 := fun entry hentry =>
          hlt _ (List.mem_map_of_mem (mem_present.mp hentry))
        rw [hset, present_some_cons]
        cases given with
        | none => exact insertField_of_forall_lt hbehind
        | some old => rw [present_some_cons, insertField, if_neg (lt_irrefl _), if_pos rfl]
      · have hmem : name ∈ rest.map Prod.fst :=
          (List.mem_cons.mp hname).resolve_left fun heq => hsame heq.symm
        have hset : setField name value ((other, given) :: rest) =
            (other, given) :: setField name value rest := by
          rw [setField, List.map_cons, if_neg hsame, ← setField]
        rw [hset]
        cases given with
        | none => exact ih hrest hmem
        | some old =>
            rw [present_some_cons, present_some_cons, insertField,
              if_neg (lt_asymm (hlt name hmem)), if_neg (Ne.symm hsame), ih hrest hmem]

end PolicyEditing.Json
