import Mathlib.Tactic.SplitIfs
import PolicyEditing.Settings.Reading

/-!
# Which settings can be read

A field holds a count or a flag.  Its reader gives what the field accepts and, for any other value,
the one fault that the value has there (`Reads`, `FieldKind.Fault.unique`); the two readers are
treated alike from then on.  Both shapes of settings are read field by field, so that a read fails
at a field or, if the field is good, behind it (`Reads.bind_eq_error_iff`).

The fields of an object are looked at in another order than the values of a list stand in.  Where
two of them are bad, the two shapes can report different faults; what they read without a fault is
the same.
-/

namespace PolicyEditing.Settings

/-! ## What settings have to be -/

/-- What a field holds. -/
inductive FieldKind where
  | count
  | flag
deriving DecidableEq, Repr

/-- Whether a value is a count of at most 64 bits, or a flag. -/
inductive FieldKind.Accepts : FieldKind → Json → Prop
  | count {count : Nat} (hfits : count < wordSize 64) : Accepts .count (.nat count)
  | flag {flag : Bool} : Accepts .flag (.bool flag)

/-- What is wrong with a value that is not accepted. -/
inductive FieldKind.Fault : FieldKind → Json → ReadFault → Prop
  | negative {value : Json} {count : Int} (hfound : Found.ofJson value = .integer count)
      (hnegative : count < 0) : Fault .count value (.negativeCount count)
  | noCount {value : Json} (hvalue : ¬ FieldKind.count.Accepts value)
      (hnonneg : ∀ count, Found.ofJson value = .integer count → 0 ≤ count) :
      Fault .count value (.wrongType (Found.ofJson value) .count)
  | noFlag {value : Json} (hvalue : ¬ FieldKind.flag.Accepts value) :
      Fault .flag value (.wrongType (Found.ofJson value) .flag)

/-- The count of a field that may be left out. -/
inductive CountOr (otherwise : Nat) : Option Json → Nat → Prop
  | leftOut : CountOr otherwise none otherwise
  | given {count : Nat} (hfits : count < wordSize 64) : CountOr otherwise (some (.nat count)) count

/-- The flag of a field that may be left out. -/
inductive FlagOr (otherwise : Bool) : Option Json → Bool → Prop
  | leftOut : FlagOr otherwise none otherwise
  | given {flag : Bool} : FlagOr otherwise (some (.bool flag)) flag

/-- The default settings with what is given in the place of the defaults. -/
structure Overrides (maxProblems formattingEnabled indentSize : Option Json)
    (settings : Settings) : Prop where
  maxProblems : CountOr default.maxProblems maxProblems settings.maxProblems
  formattingEnabled : FlagOr default.formattingEnabled formattingEnabled settings.formattingEnabled
  indentSize : CountOr default.indentSize indentSize settings.indentSize

/-- A field with what is given for it. -/
abbrev Place := FieldKind × Option Json

/-- Whether a field is left out or has a value that is accepted. -/
def Place.Good (place : Place) : Prop := ∀ value, place.2 = some value → place.1.Accepts value

/-- The fault of the first bad value of the fields. -/
inductive FirstFault : List Place → ReadFault → Prop
  | here {kind : FieldKind} {value : Json} {fault : ReadFault} {places : List Place}
      (hfault : kind.Fault value fault) : FirstFault ((kind, some value) :: places) fault
  | later {place : Place} {fault : ReadFault} {places : List Place} (hgood : place.Good)
      (hfault : FirstFault places fault) : FirstFault (place :: places) fault

/-- The names of the fields. -/
def fieldNames : List String := ["maxNumberOfProblems", "formattingEnabled", "indentSize"]

/-- The fields of an object, in the order in which they are looked at. -/
def fieldPlaces (fields : List (String × Json)) : List Place :=
  [(.flag, fields.lookup "formattingEnabled"), (.count, fields.lookup "indentSize"),
    (.count, fields.lookup "maxNumberOfProblems")]

/-- The values of a list, in the order in which they are looked at. -/
def itemPlaces (items : List Json) : List Place :=
  [(.count, items[0]?), (.flag, items[1]?), (.count, items[2]?)]

variable {kind : FieldKind} {value : Json} {fault : ReadFault} {settings : Settings}

/-! ## Counts and flags -/

theorem eq_of_stored {number : Number} {whole : Int} (hstored : number.stored = .integer whole) :
    number = .integer whole := by
  cases number with
  | integer written =>
      by_cases hfits : Number.fitsWord written = true
      · rwa [Number.stored, if_pos hfits] at hstored
      · rw [Number.stored, if_neg hfits] at hstored
        cases hlarge : Binary64.ofInt? written with
        | none => rwa [hlarge] at hstored
        | some _ => exact absurd (hlarge ▸ hstored) Number.noConfusion
  | fraction _ => exact absurd hstored Number.noConfusion

theorem found_number (number : Number) : Found.ofJson (.number number) = Found.ofNumber number :=
  rfl

theorem eq_int_of_found {whole : Int} (hfound : Found.ofJson value = .integer whole) :
    value = .int whole := by
  cases value with
  | number number =>
      have hstored : number.stored = .integer whole := by
        simp only [Found.ofJson, Found.ofNumber] at hfound
        split at hfound
        · rename_i hstored
          rw [hstored, Found.integer.inj hfound]
        · exact absurd hfound Found.noConfusion
      rw [eq_of_stored hstored]
      rfl
  | _ => exact absurd hfound Found.noConfusion

theorem found_nat {count : Nat} (hfits : count < wordSize 64) :
    Found.ofJson (.nat count) = .integer count := by
  -- The powers of two stay closed: compared as they are written out, they are far too large.
  have hlow : -(wordSize 63 : Int) ≤ count :=
    Int.le_trans (Int.neg_nonpos_of_nonneg (Int.natCast_nonneg _)) (Int.natCast_nonneg _)
  have hword : Number.fitsWord count = true := by
    simp only [Number.fitsWord, Bool.and_eq_true, decide_eq_true_eq]
    exact ⟨hlow, Int.ofNat_lt.mpr hfits⟩
  rw [Json.nat, Json.int, found_number, Found.ofNumber, Number.stored, if_pos hword]

theorem readCount_eq_ok_iff {count : Nat} :
    readCount value = .ok count ↔ count < wordSize 64 ∧ value = .nat count := by
  constructor
  · intro hread
    unfold readCount at hread
    split at hread
    · rename_i whole hfound
      split_ifs at hread with hnegative hfits
      obtain ⟨natural, rfl⟩ := Int.eq_ofNat_of_zero_le (Int.not_lt.mp hnegative)
      cases hread
      exact ⟨Int.ofNat_lt.mp hfits, eq_int_of_found hfound⟩
    · cases hread
  · rintro ⟨hfits, rfl⟩
    rw [readCount, found_nat hfits]
    simp [hfits]

theorem readFlag_eq_ok_iff {flag : Bool} : readFlag value = .ok flag ↔ value = .bool flag := by
  cases value <;> simp [readFlag]

theorem count_accepts_iff :
    FieldKind.count.Accepts value ↔ ∃ count, readCount value = .ok count := by
  constructor
  · rintro ⟨hfits⟩
    exact ⟨_, readCount_eq_ok_iff.mpr ⟨hfits, rfl⟩⟩
  · rintro ⟨count, hread⟩
    obtain ⟨hfits, rfl⟩ := readCount_eq_ok_iff.mp hread
    exact .count hfits

theorem flag_accepts_iff : FieldKind.flag.Accepts value ↔ ∃ flag, readFlag value = .ok flag := by
  constructor
  · rintro ⟨⟩
    exact ⟨_, rfl⟩
  · rintro ⟨flag, hread⟩
    rw [readFlag_eq_ok_iff.mp hread]
    exact .flag

/-! ## Faults -/

theorem FieldKind.Fault.not_accepts (hfault : kind.Fault value fault) : ¬ kind.Accepts value := by
  cases hfault with
  | negative hfound hnegative =>
      rintro ⟨hfits⟩
      rw [found_nat hfits] at hfound
      cases hfound
      exact absurd hnegative (Int.not_lt.mpr (Int.natCast_nonneg _))
  | noCount hvalue _ => exact hvalue
  | noFlag hvalue => exact hvalue

theorem FieldKind.Fault.unique {other : ReadFault} (hfault : kind.Fault value fault)
    (hother : kind.Fault value other) : fault = other := by
  cases hfault with
  | negative hfound hnegative =>
      cases hother with
      | negative hagain _ =>
          rw [hfound] at hagain
          cases hagain
          rfl
      | noCount _ hnonneg => exact absurd hnegative (Int.not_lt.mpr (hnonneg _ hfound))
  | noCount _ hnonneg =>
      cases hother with
      | negative hfound hnegative => exact absurd hnegative (Int.not_lt.mpr (hnonneg _ hfound))
      | noCount _ _ => rfl
  | noFlag _ => cases hother; rfl

theorem count_fault_of_error (hread : readCount value = .error fault) :
    FieldKind.count.Fault value fault := by
  have hvalue : ¬ FieldKind.count.Accepts value := by
    rw [count_accepts_iff, hread]
    simp
  unfold readCount at hread
  split at hread
  · rename_i whole hfound
    split_ifs at hread with hnegative <;> cases hread
    · exact .negative hfound hnegative
    · rw [← hfound]
      refine .noCount hvalue fun count hcount => ?_
      rw [hfound] at hcount
      cases hcount
      exact Int.not_lt.mp hnegative
  · rename_i hnoInteger
    cases hread
    exact .noCount hvalue fun count hcount => absurd hcount (hnoInteger count)

theorem flag_fault_of_error (hread : readFlag value = .error fault) :
    FieldKind.flag.Fault value fault := by
  have hvalue : ¬ FieldKind.flag.Accepts value := by
    rw [flag_accepts_iff, hread]
    simp
  unfold readFlag at hread
  split at hread <;> cases hread
  exact .noFlag hvalue

/-- Whether a reader gives what a field accepts, and a fault of the field for any other value. -/
structure Reads {α : Type} (kind : FieldKind) (read : Json → Except ReadFault α) : Prop where
  accepts_iff : ∀ {value}, kind.Accepts value ↔ ∃ result, read value = .ok result
  fault_of_error : ∀ {value fault}, read value = .error fault → kind.Fault value fault

theorem reads_count : Reads .count readCount := ⟨count_accepts_iff, count_fault_of_error⟩

theorem reads_flag : Reads .flag readFlag := ⟨flag_accepts_iff, flag_fault_of_error⟩

namespace Reads

variable {α β : Type} {read : Json → Except ReadFault α} {otherwise : α} {given : Option Json}

theorem eq_error_iff (hreads : Reads kind read) :
    read value = .error fault ↔ kind.Fault value fault := by
  refine ⟨hreads.fault_of_error, fun hfault => ?_⟩
  cases hread : read value with
  | ok result => exact absurd (hreads.accepts_iff.mpr ⟨result, hread⟩) hfault.not_accepts
  | error other => rw [(hreads.fault_of_error hread).unique hfault]

/-- A read that goes on behind a field fails at the field, or behind it if the field is good. -/
theorem bind_eq_error_iff {rest : α → Except ReadFault β} {Behind : Prop} (hreads : Reads kind read)
    (hrest : ∀ result, rest result = .error fault ↔ Behind) :
    readOr read otherwise given >>= rest = .error fault ↔
      (∃ value, given = some value ∧ kind.Fault value fault) ∨
        Place.Good (kind, given) ∧ Behind := by
  cases given with
  | none =>
      -- A field that is left out is good, and what is behind it does not depend on its default.
      simpa [Place.Good, readOr, bind, Except.bind] using hrest otherwise
  | some value =>
      simp only [Place.Good, Option.some.injEq, exists_eq_left', forall_eq', hreads.accepts_iff,
        ← hreads.eq_error_iff, readOr]
      cases hread : read value with
      | ok result => simpa [bind, Except.bind] using hrest result
      | error other => simp [bind, Except.bind]

end Reads

/-! ## Objects and lists -/

theorem firstFault_cons {given : Option Json} {places : List Place} :
    FirstFault ((kind, given) :: places) fault ↔
      (∃ value, given = some value ∧ kind.Fault value fault) ∨
        Place.Good (kind, given) ∧ FirstFault places fault := by
  constructor
  · rintro (⟨hfault⟩ | ⟨hgood, hfault⟩)
    · exact .inl ⟨_, rfl, hfault⟩
    · exact .inr ⟨hgood, hfault⟩
  · rintro (⟨value, rfl, hfault⟩ | ⟨hgood, hfault⟩)
    · exact .here hfault
    · exact .later hgood hfault

theorem not_firstFault_nil : ¬ FirstFault [] fault := nofun

theorem readFields_eq_error_iff {fields : List (String × Json)} :
    readFields (.object fields) = .error fault ↔ FirstFault (fieldPlaces fields) fault := by
  simp only [fieldPlaces, firstFault_cons, not_firstFault_nil]
  exact reads_flag.bind_eq_error_iff fun _ => reads_count.bind_eq_error_iff fun _ =>
    reads_count.bind_eq_error_iff fun _ => by simp [pure, Except.pure]

theorem readItems_eq_error_iff {items : List Json} :
    readItems items = .error fault ↔ FirstFault (itemPlaces items) fault ∨
      (∀ place ∈ itemPlaces items, place.Good) ∧ 3 < items.length ∧
        fault = .tooManyItems items.length := by
  refine (reads_count.bind_eq_error_iff fun _ => reads_flag.bind_eq_error_iff fun _ =>
    reads_count.bind_eq_error_iff fun _ =>
      (?_ : _ ↔ 3 < items.length ∧ fault = .tooManyItems items.length)).trans ?_
  · split_ifs with hlong
    · simp [hlong, throw, throwThe, MonadExceptOf.throw, bind, Except.bind, eq_comm]
    · simp [hlong, pure, Except.pure]
  · simp only [itemPlaces, firstFault_cons, not_firstFault_nil, List.forall_mem_cons]
    simp [and_or_left, or_assoc, and_assoc]

theorem readOr_count_eq_ok_iff {given : Option Json} {otherwise count : Nat} :
    readOr readCount otherwise given = .ok count ↔ CountOr otherwise given count := by
  constructor
  · intro hread
    cases given with
    | none => cases hread; exact .leftOut
    | some value =>
        obtain ⟨hfits, rfl⟩ := readCount_eq_ok_iff.mp hread
        exact .given hfits
  · rintro (_ | hfits)
    · rfl
    · rw [readOr, readCount_eq_ok_iff]
      exact ⟨hfits, rfl⟩

theorem readOr_flag_eq_ok_iff {given : Option Json} {otherwise flag : Bool} :
    readOr readFlag otherwise given = .ok flag ↔ FlagOr otherwise given flag := by
  constructor
  · intro hread
    cases given with
    | none => cases hread; exact .leftOut
    | some value =>
        rw [readFlag_eq_ok_iff.mp hread]
        exact .given
  · rintro (_ | _) <;> rfl

theorem bind_eq_ok_iff {α β : Type} {first : Except ReadFault α} {next : α → Except ReadFault β}
    {result : β} :
    first >>= next = .ok result ↔ ∃ value, first = .ok value ∧ next value = .ok result := by
  cases first <;> simp [bind, Except.bind]

theorem readFields_eq_ok_iff {fields : List (String × Json)} :
    readFields (.object fields) = .ok settings ↔
      Overrides (fields.lookup "maxNumberOfProblems") (fields.lookup "formattingEnabled")
        (fields.lookup "indentSize") settings := by
  simp only [readFields, bind_eq_ok_iff, readOr_flag_eq_ok_iff, readOr_count_eq_ok_iff, Json.field?]
  constructor
  · rintro ⟨flag, hflag, indent, hindent, problems, hproblems, hread⟩
    cases hread
    exact ⟨hproblems, hflag, hindent⟩
  · rintro ⟨hproblems, hflag, hindent⟩
    exact ⟨_, hflag, _, hindent, _, hproblems, rfl⟩

theorem readItems_eq_ok_iff {items : List Json} :
    readItems items = .ok settings ↔
      items.length ≤ 3 ∧ Overrides items[0]? items[1]? items[2]? settings := by
  simp only [readItems, bind_eq_ok_iff, readOr_flag_eq_ok_iff, readOr_count_eq_ok_iff]
  constructor
  · rintro ⟨problems, hproblems, flag, hflag, indent, hindent, hread⟩
    split_ifs at hread with hlong
    · cases hread
    · cases hread
      exact ⟨Nat.not_lt.mp hlong, hproblems, hflag, hindent⟩
  · rintro ⟨hlength, hproblems, hflag, hindent⟩
    refine ⟨_, hproblems, _, hflag, _, hindent, ?_⟩
    rw [if_neg (Nat.not_lt.mpr hlength)]
    rfl

theorem lookup_append_cons {α : Type} {before after : List (String × α)} {name other : String}
    {value : α} (hname : other ≠ name) :
    (before ++ (name, value) :: after).lookup other = (before ++ after).lookup other := by
  rw [List.lookup_append, List.lookup_append, List.lookup_cons, beq_false_of_ne hname]

/-- A field whose name has no meaning changes nothing, and neither does its absence. -/
theorem readFields_append_cons {before after : List (String × Json)} {name : String}
    (hname : name ∉ fieldNames) :
    readFields (.object (before ++ (name, value) :: after)) =
      readFields (.object (before ++ after)) := by
  have hlookup {other : String} (hother : other ∈ fieldNames) :
      (before ++ (name, value) :: after).lookup other = (before ++ after).lookup other :=
    lookup_append_cons fun hsame => hname (hsame ▸ hother)
  simp only [readFields, Json.field?]
  rw [hlookup (by simp [fieldNames]), hlookup (by simp [fieldNames]),
    hlookup (by simp [fieldNames])]

/-! ## Any value -/

/-- Settings are read from nothing, from an object whose known fields are good and from a list of at
most three good values, and they are the defaults with what is given in their place.  Any other
value has a fault: the first bad field of an object, the first bad value of a list or, if there is
none, its length.  So a list and an object that give the same values have the same settings, and a
field with another name makes no difference. -/
theorem readSection_exact :
    (∀ value settings, readSection value = .ok settings ↔
      value = .null ∧ settings = default ∨
      (∃ fields, value = .object fields ∧
        Overrides (fields.lookup "maxNumberOfProblems") (fields.lookup "formattingEnabled")
          (fields.lookup "indentSize") settings) ∨
      ∃ items, value = .array items ∧ items.length ≤ 3 ∧
        Overrides items[0]? items[1]? items[2]? settings) ∧
    (∀ value fault, readSection value = .error fault ↔
      (∃ fields, value = .object fields ∧ FirstFault (fieldPlaces fields) fault) ∨
      (∃ items, value = .array items ∧
        (FirstFault (itemPlaces items) fault ∨
          (∀ place ∈ itemPlaces items, place.Good) ∧ 3 < items.length ∧
            fault = .tooManyItems items.length)) ∨
      value ≠ .null ∧ (∀ fields, value ≠ .object fields) ∧ (∀ items, value ≠ .array items) ∧
        fault = .wrongType (Found.ofJson value) .settings) ∧
    (∀ items fields settings, items.length ≤ 3 →
      fields.lookup "maxNumberOfProblems" = items[0]? →
      fields.lookup "formattingEnabled" = items[1]? →
      fields.lookup "indentSize" = items[2]? →
      (readSection (.array items) = .ok settings ↔ readSection (.object fields) = .ok settings)) ∧
    ∀ before name value after, name ∉ fieldNames →
      readSection (.object (before ++ (name, value) :: after)) =
        readSection (.object (before ++ after)) := by
  refine ⟨?_, ?_, ?_, ?_⟩
  · intro value settings
    cases value with
    | null => simp [readSection, eq_comm]
    | object fields => simpa [readSection, read] using readFields_eq_ok_iff
    | array items => simpa [readSection, read] using readItems_eq_ok_iff
    | _ => simp [readSection, read]
  · intro value fault
    cases value with
    | null => simp [readSection]
    | object fields => simpa [readSection, read] using readFields_eq_error_iff
    | array items => simpa [readSection, read] using readItems_eq_error_iff
    | _ => simp [readSection, read, eq_comm]
  · intro items fields settings hlength hproblems hformatting hindent
    simp only [readSection, read, readFields_eq_ok_iff, readItems_eq_ok_iff, hproblems, hformatting,
      hindent, hlength, true_and]
  · intro before name value after hname
    exact readFields_append_cons hname

/-- A list of two values, an object with the same values and a field more, and a list whose second
value is bad. -/
theorem readSection_exact_two :
    readSection (.array [.nat 5, .bool false]) =
        .ok { maxProblems := 5, formattingEnabled := false } ∧
      readSection (.object ([("formattingEnabled", .bool false)] ++
          ("lineWidth", .null) :: [("maxNumberOfProblems", .nat 5)])) =
        .ok { maxProblems := 5, formattingEnabled := false } ∧
      readSection (.array [.nat 5, .null]) = .error (.wrongType .null .flag) := by
  obtain ⟨hok, herror, hsame, hunknown⟩ := readSection_exact
  have hlist : readSection (.array [.nat 5, .bool false]) =
      .ok { maxProblems := 5, formattingEnabled := false } :=
    (hok _ _).mpr (.inr (.inr ⟨_, rfl, by decide, .given (by decide), .given, .leftOut⟩))
  refine ⟨hlist, ?_, ?_⟩
  · rw [hunknown _ _ _ _ (by decide)]
    exact (hsame _ _ _ (by decide) rfl rfl rfl).mp hlist
  · refine (herror _ _).mpr (.inr (.inl ⟨_, rfl, .inl (.later ?_ (.here (.noFlag nofun)))⟩))
    rintro value ⟨⟩
    exact .count (by decide)

end PolicyEditing.Settings
