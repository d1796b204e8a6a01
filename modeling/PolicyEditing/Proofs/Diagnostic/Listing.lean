import Mathlib.Data.List.Infix
import Mathlib.Data.List.TakeWhile
import PolicyEditing.Diagnostic.Scan

/-!
# The list of all problems

What a scan is to find, said without a scan: no limit, no place up to which a line has been read,
no text that grows from line to line.  Every place of every line is looked at on its own, and a
name is looked for in each earlier line on its own.

The references of a line are listed here as well.  The scan skips the name behind a percent sign
when it looks for the next one; nothing is lost, because no name holds a percent sign
(`references_eq`).
-/

namespace PolicyEditing.Diagnostic

/-! ## The list -/

/-- Whether a character can begin a name. -/
def startsName (c : Char) : Bool :=
  ('a' ≤ c && c ≤ 'z') || ('A' ≤ c && c ≤ 'Z') || c = '_'

/-- Whether a character can go on with a name. -/
def continuesName (c : Char) : Bool :=
  startsName c || ('0' ≤ c && c ≤ '9')

/-- Whether a percent sign stands at a place of a line, and the beginning of a name behind it. -/
def refersAt (text : Text) (index : Nat) : Bool :=
  text[index]? = some '%' && text[index + 1]?.any startsName

/-- The longest name at a place of a line. -/
def nameAt (line : Text) (index : Nat) : Text :=
  (line.drop index).takeWhile continuesName

/-- The warning about a place of a line, given the lines before. -/
def warningAt? (earlier : List Text) (number : Nat) (line : Text) (index : Nat) :
    Option Diagnostic :=
  let name := nameAt line (index + 1)
  if refersAt line index ∧ ∀ other ∈ earlier, ¬ "let ".toList ++ name <:+: other then
    some
      { range :=
          ⟨⟨number, Text.unitCount (line.take index)⟩,
            ⟨number, Text.unitCount (line.take (index + 1 + name.length))⟩⟩
        problem := .undefinedVariable name }
  else none

/-- The problems of a line, given the lines before. -/
def lineListing (earlier : List Text) (number : Nat) (line : Text) : List Diagnostic :=
  (if hasUnterminatedString line then
      [{ range := ⟨⟨number, 0⟩, ⟨number, Text.unitCount line⟩⟩, problem := .unterminatedString }]
    else []) ++
    (List.range line.length).filterMap (warningAt? earlier number line)

/-- The problems of a text. -/
def listing (text : Text) : List Diagnostic :=
  (Text.lines text).zipIdx.flatMap fun (line, number) =>
    lineListing ((Text.lines text).take number) number line

/-! ## Names -/

theorem isUpper_eq (c : Char) : c.isUpper = ('A' ≤ c && c ≤ 'Z') :=
  Bool.decide_and _ _

theorem isLower_eq (c : Char) : c.isLower = ('a' ≤ c && c ≤ 'z') := rfl

theorem isDigit_eq (c : Char) : c.isDigit = ('0' ≤ c && c ≤ '9') := rfl

theorem isNameStart_eq (c : Char) : isNameStart c = startsName c := by
  have halpha : c.isAlpha = (c.isUpper || c.isLower) := rfl
  rw [isNameStart, startsName, halpha, isUpper_eq, isLower_eq, Bool.or_comm ('A' ≤ c && c ≤ 'Z')]

theorem isNameChar_eq (c : Char) : isNameChar c = continuesName c := by
  have halphanum : c.isAlphanum = (c.isAlpha || c.isDigit) := rfl
  rw [isNameChar, halphanum, Bool.or_right_comm, ← isNameStart, isNameStart_eq, isDigit_eq,
    continuesName]

theorem startsName_of_ne {c : Char} (hc : continuesName c = true) : c ≠ '%' := by
  rintro rfl
  exact absurd hc (by decide)

/-- The characters up to the end of a reference. -/
theorem take_reference {line : Text} {index : Nat} (hrefers : refersAt line index = true) :
    line.take (index + 1 + (nameAt line (index + 1)).length) =
      line.take index ++ '%' :: nameAt line (index + 1) := by
  simp only [refersAt, Bool.and_eq_true, decide_eq_true_eq] at hrefers
  obtain ⟨hlt, hpercent⟩ := List.getElem?_eq_some_iff.mp hrefers.1
  have hname : (line.drop (index + 1)).take (nameAt line (index + 1)).length =
      nameAt line (index + 1) :=
    (List.prefix_iff_eq_take.mp (List.takeWhile_prefix _)).symm
  rw [Nat.add_assoc, Nat.add_comm 1, List.take_add, List.drop_eq_getElem_cons hlt, hpercent,
    List.take_succ_cons, hname]

/-! ## References -/

/-- The reference at a place of a line that begins at `column`. -/
def referenceAt? (column : Nat) (line : Text) (index : Nat) : Option Reference :=
  if refersAt line index then
    some ⟨column + Text.unitCount (line.take index), nameAt line (index + 1)⟩
  else none

/-- The references at all places of a line, each looked at on its own. -/
def allReferences (column : Nat) (line : Text) : List Reference :=
  (List.range line.length).filterMap (referenceAt? column line)

theorem refersAt_cons_succ (c : Char) (line : Text) (index : Nat) :
    refersAt (c :: line) (index + 1) = refersAt line index := by
  simp [refersAt]

theorem referenceAt?_cons_succ (column : Nat) (c : Char) (line : Text) (index : Nat) :
    referenceAt? column (c :: line) (index + 1) =
      referenceAt? (column + Text.units c) line index := by
  simp [referenceAt?, refersAt_cons_succ, nameAt, Nat.add_assoc]

theorem allReferences_cons (column : Nat) (c : Char) (line : Text) :
    allReferences column (c :: line) =
      (referenceAt? column (c :: line) 0).toList ++
        allReferences (column + Text.units c) line := by
  unfold allReferences
  rw [List.length_cons, List.range_succ_eq_map, List.filterMap_cons, List.filterMap_map]
  have hrest : (List.range line.length).filterMap
        (referenceAt? column (c :: line) ∘ Nat.succ) =
      (List.range line.length).filterMap (referenceAt? (column + Text.units c) line) := by
    congr 1
    funext index
    exact referenceAt?_cons_succ column c line index
  rw [hrest]
  cases referenceAt? column (c :: line) 0 <;> rfl

theorem allReferences_cons_of_ne {c : Char} (hc : c ≠ '%') (column : Nat) (line : Text) :
    allReferences column (c :: line) = allReferences (column + Text.units c) line := by
  have hnone : referenceAt? column (c :: line) 0 = none := by
    simp [referenceAt?, refersAt, hc]
  rw [allReferences_cons, hnone]
  rfl

/-- No reference begins inside of a name. -/
theorem allReferences_append {name : Text} (hname : ∀ c ∈ name, continuesName c = true)
    (column : Nat) (line : Text) :
    allReferences column (name ++ line) = allReferences (column + Text.unitCount name) line := by
  induction name generalizing column with
  | nil => rfl
  | cons c name ih =>
      have hc : c ≠ '%' := startsName_of_ne (hname c List.mem_cons_self)
      rw [List.cons_append, allReferences_cons_of_ne hc,
        ih fun other hother => hname other (List.mem_cons_of_mem _ hother), Text.unitCount_cons,
        Nat.add_assoc]

/-- The scan finds the reference at every place. -/
theorem references_eq (column : Nat) (line : Text) :
    references column line = allReferences column line := by
  have hchar : isNameChar = continuesName := funext isNameChar_eq
  have hstart : isNameStart = startsName := funext isNameStart_eq
  induction column, line using references.induct with
  | case1 column => simp [references, allReferences]
  | case2 column c rest hc reference ih =>
      obtain ⟨rfl, hhead⟩ := hc
      have hzero : referenceAt? column ('%' :: rest) 0 = some reference := by
        have hrest : rest[0]?.any startsName = true := by
          rwa [← List.head?_eq_getElem?, ← hstart]
        simp [referenceAt?, refersAt, hrest, nameAt, reference, hchar]
      -- the search goes on behind the name, in which no reference begins
      have hskip : allReferences (column + Text.units '%') rest =
          allReferences reference.endColumn (rest.dropWhile isNameChar) := by
        conv_lhs => rw [← List.takeWhile_append_dropWhile (p := isNameChar) (l := rest)]
        rw [allReferences_append]
        · rw [Reference.endColumn, Text.unitCount_cons, ← Nat.add_assoc]
        · intro c hc
          rw [← hchar]
          exact List.mem_takeWhile_imp hc
      rw [references, if_pos ⟨rfl, hhead⟩, allReferences_cons, hzero, hskip, ← ih]
      rfl
  | case3 column c rest hc ih =>
      have hnone : referenceAt? column (c :: rest) 0 = none := by
        rw [hstart, List.head?_eq_getElem?] at hc
        simpa [referenceAt?, refersAt] using hc
      rw [references, if_neg hc, allReferences_cons, hnone, ih]
      rfl

end PolicyEditing.Diagnostic
