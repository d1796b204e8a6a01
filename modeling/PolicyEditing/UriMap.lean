import PolicyEditing.Uri

/-!
# Maps from addresses

A finite map from document addresses, in the order in which the addresses came in.  Each address
has at most one value, which is part of the type.
-/

namespace PolicyEditing

/-- A finite map from addresses. -/
structure UriMap (α : Type) where
  entries : List (Uri × α)
  distinct : (entries.map Prod.fst).Nodup

namespace UriMap

variable {α : Type}

def empty : UriMap α := ⟨[], List.nodup_nil⟩

def uris (map : UriMap α) : List Uri :=
  map.entries.map Prod.fst

def get? (map : UriMap α) (uri : Uri) : Option α :=
  map.entries.lookup uri

def erase (map : UriMap α) (uri : Uri) : UriMap α where
  entries := map.entries.filter fun entry => entry.1 ≠ uri
  distinct := map.distinct.sublist (List.filter_sublist.map _)

/-- The map with a value for an address, in place of the one it had. -/
def insert (map : UriMap α) (uri : Uri) (value : α) : UriMap α where
  entries := (map.erase uri).entries ++ [(uri, value)]
  distinct := by
    rw [List.map_append, List.nodup_append]
    refine ⟨(map.erase uri).distinct, by simp, ?_⟩
    intro other hother uri' huri'
    simp only [erase, List.mem_map, List.mem_filter, decide_eq_true_eq] at hother
    obtain ⟨entry, ⟨-, hne⟩, rfl⟩ := hother
    simp only [List.map_cons, List.map_nil, List.mem_singleton] at huri'
    exact huri' ▸ hne

/-! ## Look-up after a change -/

private theorem lookup_filter_self (uri : Uri) (entries : List (Uri × α)) :
    (entries.filter fun entry => entry.1 ≠ uri).lookup uri = none := by
  induction entries with
  | nil => rfl
  | cons entry rest ih =>
      by_cases h : entry.1 = uri
      · rw [List.filter_cons_of_neg (by simpa using h), ih]
      · have hne : (uri == entry.1) = false := by simpa using Ne.symm h
        rw [List.filter_cons_of_pos (by simpa using h), List.lookup_cons, hne, ih]

private theorem lookup_filter_of_ne {uri other : Uri} (hne : other ≠ uri)
    (entries : List (Uri × α)) :
    (entries.filter fun entry => entry.1 ≠ uri).lookup other = entries.lookup other := by
  induction entries with
  | nil => rfl
  | cons entry rest ih =>
      by_cases h : entry.1 = uri
      · have hother : (other == entry.1) = false := by simpa [h] using hne
        rw [List.filter_cons_of_neg (by simpa using h), List.lookup_cons, hother, ih]
      · rw [List.filter_cons_of_pos (by simpa using h), List.lookup_cons, List.lookup_cons, ih]

@[simp] theorem get?_empty (uri : Uri) : (empty : UriMap α).get? uri = none := rfl

@[simp] theorem get?_erase_self (map : UriMap α) (uri : Uri) : (map.erase uri).get? uri = none :=
  lookup_filter_self uri map.entries

theorem get?_erase_of_ne (map : UriMap α) {uri other : Uri} (hne : other ≠ uri) :
    (map.erase uri).get? other = map.get? other :=
  lookup_filter_of_ne hne map.entries

@[simp] theorem get?_insert_self (map : UriMap α) (uri : Uri) (value : α) :
    (map.insert uri value).get? uri = some value := by
  have : (map.erase uri).entries.lookup uri = none := get?_erase_self map uri
  simp [get?, insert, List.lookup_append, this]

theorem get?_insert_of_ne (map : UriMap α) {uri other : Uri} (hne : other ≠ uri) (value : α) :
    (map.insert uri value).get? other = map.get? other := by
  have hfalse : (other == uri) = false := by simpa using hne
  have : (map.erase uri).entries.lookup other = map.get? other := get?_erase_of_ne map hne
  simp [get?, insert, List.lookup_append, List.lookup_cons, hfalse, this]

/-- The addresses of a map are those that have a value. -/
theorem mem_uris_iff {map : UriMap α} {uri : Uri} : uri ∈ map.uris ↔ map.get? uri ≠ none := by
  rw [uris, get?]
  induction map.entries with
  | nil => simp
  | cons entry rest ih =>
      rw [List.map_cons, List.mem_cons, List.lookup_cons, ih]
      by_cases h : uri = entry.1
      · simp [h]
      · have hne : (uri == entry.1) = false := by simpa using h
        simp [h, hne]

end UriMap

end PolicyEditing
