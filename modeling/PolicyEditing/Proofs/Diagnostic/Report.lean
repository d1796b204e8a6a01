import Mathlib.Data.List.Forall2
import PolicyEditing.Proofs.Diagnostic.Scan

/-!
# What a scan reports, columns apart

A scan looks at a line in three ways: whether a string is left open on it, which names it refers to,
and, for names used further down, whether it defines them.  Lines for which the answers are the same
are `Alike`, and texts whose lines are alike, one by one, have the same reports, which are their
problems without the columns (`map_report_listing_congr`).
-/

namespace PolicyEditing.Diagnostic

/-! ## Reports -/

/-- What a diagnostic says apart from its columns. -/
structure Report where
  firstLine : Nat
  lastLine : Nat
  severity : Severity
  message : String
deriving DecidableEq, Repr

def report (diagnostic : Diagnostic) : Report where
  firstLine := diagnostic.range.start.line
  lastLine := diagnostic.range.stop.line
  severity := diagnostic.problem.severity
  message := diagnostic.problem.message

/-- The report of a problem on a line. -/
def reportOn (number : Nat) (problem : Problem) : Report :=
  ⟨number, number, problem.severity, problem.message⟩

/-! ## Names -/

theorem continuesName_of_startsName {c : Char} (hc : startsName c = true) :
    continuesName c = true := by
  simp [continuesName, hc]

/-- A name: at least one character, and every one can stand in a name. -/
structure IsName (name : Text) : Prop where
  ne_nil : name ≠ []
  continues : ∀ c ∈ name, continuesName c = true

/-- The names that a line refers to, from left to right. -/
def names : Text → List Text
  | [] => []
  | c :: rest =>
    if c = '%' ∧ rest.head?.any startsName then rest.takeWhile continuesName :: names rest
    else names rest

theorem isName_of_mem_names {line name : Text} (hname : name ∈ names line) : IsName name := by
  induction line with
  | nil => simp [names] at hname
  | cons c rest ih =>
      rw [names] at hname
      split at hname
      · rename_i hrefers
        rcases List.mem_cons.mp hname with rfl | hname
        · refine ⟨?_, fun _ hc => List.mem_takeWhile_imp hc⟩
          obtain ⟨first, hhead, hfirst⟩ := Option.any_eq_true _ _ |>.mp hrefers.2
          obtain ⟨more, rfl⟩ := List.head?_eq_some_iff.mp hhead
          rw [List.takeWhile_cons_of_pos (continuesName_of_startsName hfirst)]
          exact List.cons_ne_nil _ _
        · exact ih hname
      · exact ih hname

/-- The references of a line have the names of the line. -/
theorem map_name_references (column : Nat) (line : Text) :
    (references column line).map Reference.name = names line := by
  rw [references_eq]
  induction line generalizing column with
  | nil => rfl
  | cons c rest ih =>
      have hrefers :
          refersAt (c :: rest) 0 = true ↔ c = '%' ∧ rest.head?.any startsName = true := by
        simp [refersAt, List.head?_eq_getElem?]
      rw [allReferences_cons, List.map_append, ih, names]
      by_cases hc : c = '%' ∧ rest.head?.any startsName = true
      · rw [if_pos hc, referenceAt?, if_pos (hrefers.mpr hc)]
        rfl
      · rw [if_neg hc, referenceAt?, if_neg (mt hrefers.mp hc)]
        rfl

theorem isName_of_mem_references {column : Nat} {line : Text} {reference : Reference}
    (hreference : reference ∈ references column line) : IsName reference.name := by
  have hname : reference.name ∈ names line := by
    rw [← map_name_references column]
    exact List.mem_map_of_mem hreference
  exact isName_of_mem_names hname

/-! ## Lines that a scan cannot tell apart -/

/-- Two lines that look the same to a scan, columns apart. -/
structure Alike (first second : Text) : Prop where
  opens : hasUnterminatedString first = hasUnterminatedString second
  names : names first = names second
  defines {name : Text} (hname : IsName name) : defines first name = defines second name

/-! ## Reports of alike lines -/

theorem newline_notMem_of_isName {name : Text} (hname : IsName name) : '\n' ∉ name := by
  intro hmem
  exact absurd (hname.continues '\n' hmem) (by decide)

theorem defines_endLines (earlier : List Text) {name : Text} (hname : IsName name) :
    defines (Text.endLines earlier) name = earlier.any (defines · name) := by
  rw [Bool.eq_iff_iff, defines_iff (newline_notMem_of_isName hname), List.any_eq_true]
  simp only [defines, Text.includes_iff]

/-- What is reported on a line: whether a string is open on it, and the names on it that the lines
before do not define. -/
theorem map_report_lineListing (earlier : List Text) (number : Nat) (line : Text) :
    (lineListing earlier number line).map report =
      (if hasUnterminatedString line then [reportOn number .unterminatedString] else []) ++
        ((names line).filter fun name => !earlier.any (defines · name)).map
          fun name => reportOn number (.undefinedVariable name) := by
  have hdefined : ((names line).filter fun name => !earlier.any (defines · name)) =
      ((references 0 line).filter fun reference =>
        !defines (Text.endLines earlier) reference.name).map Reference.name := by
    rw [← map_name_references 0, List.filter_map]
    congr 1
    refine List.filter_congr fun reference hreference => ?_
    rw [Function.comp_apply, defines_endLines earlier (isName_of_mem_references hreference)]
  rw [lineListing_eq, List.map_append, hdefined, List.map_map, List.map_map]
  congr 1
  split <;> rfl

theorem any_defines_congr {first second : List Text} (hlines : List.Forall₂ Alike first second)
    {name : Text} (hname : IsName name) :
    first.any (defines · name) = second.any (defines · name) := by
  induction hlines with
  | nil => rfl
  | cons hline _ ih => rw [List.any_cons, List.any_cons, hline.defines hname, ih]

theorem map_report_lineListing_congr {first second : List Text}
    (hearlier : List.Forall₂ Alike first second) {line other : Text} (hline : Alike line other)
    (number : Nat) :
    (lineListing first number line).map report = (lineListing second number other).map report := by
  rw [map_report_lineListing, map_report_lineListing, hline.opens, hline.names]
  congr 2
  refine List.filter_congr fun name hname => ?_
  rw [any_defines_congr hearlier (isName_of_mem_names hname)]

/-- Lines that are alike can be taken for each other wherever each line is looked at with its
number. -/
theorem flatMap_zipIdx_congr {α : Type} {first second : List Text}
    (hlines : List.Forall₂ Alike first second) {onFirst onSecond : Text × Nat → List α}
    (hsame : ∀ number line other, Alike line other →
      onFirst (line, number) = onSecond (other, number)) (start : Nat) :
    (first.zipIdx start).flatMap onFirst = (second.zipIdx start).flatMap onSecond := by
  induction hlines generalizing start with
  | nil => rfl
  | cons hline _ ih =>
      rw [List.zipIdx_cons, List.zipIdx_cons, List.flatMap_cons, List.flatMap_cons, ih,
        hsame start _ _ hline]

theorem map_report_listing_congr {first second : Text}
    (hlines : List.Forall₂ Alike (Text.lines first) (Text.lines second)) :
    (listing first).map report = (listing second).map report := by
  rw [listing, listing, List.map_flatMap, List.map_flatMap]
  refine flatMap_zipIdx_congr hlines ?_ 0
  intro number line other hline
  exact map_report_lineListing_congr (List.forall₂_take number hlines) hline number

end PolicyEditing.Diagnostic
