import Mathlib.Computability.Language
import PolicyEditing.Proofs.Diagnostic.Marks

/-!
# Lines that leave a string open

The lines that leave a string open are a regular language (`openString`): characters that are
neither a quote nor a `#`, and closed strings, in any order; then a quote; then no further quote.

The scan decides the language with one bit, whether it is inside of a string.  Reading a part of
such a line brings the bit back to where it was (`opensString_parts_append`).  The converse is an
induction on the line, and the bit tells what is to be proved: outside of strings that the rest of
the line is in the language, inside of one that the string is never closed or that what follows its
closing quote is in the language (`opensString_sound`).

A scan reports these lines and no others, until the limit is reached.  The problems of a line stand
in one place of the list of all problems, its error in front (`listing_eq_append`); so the error is
left out only if the problems of the lines before take all the room.
-/

namespace PolicyEditing.Diagnostic

open Computability

/-! ## The language -/

/-- One character with a property. -/
def charClass (accepts : Char → Prop) : Language Char :=
  {text : Text | ∃ c, accepts c ∧ text = [c]}

def quote : Language Char := charClass (· = '"')

/-- Any character but a quote. -/
def unquoted : Language Char := charClass (· ≠ '"')

/-- Any character but a quote and the beginning of a comment. -/
def plain : Language Char := charClass fun c => c ≠ '"' ∧ c ≠ '#'

/-- A string with both of its quotes. -/
def closedString : Language Char := quote * unquoted∗ * quote

/-- The lines that leave a string open: `([^"#] | "[^"]*")* "[^"]*` as a regular expression. -/
def openString : Language Char := (plain + closedString)∗ * quote * unquoted∗

theorem mem_quote_iff {text : Text} : text ∈ quote ↔ text = ['"'] := by
  constructor
  · rintro ⟨c, rfl, rfl⟩
    rfl
  · rintro rfl
    exact ⟨'"', rfl, rfl⟩

theorem mem_kstar_unquoted_iff {text : Text} : text ∈ unquoted∗ ↔ '"' ∉ text := by
  constructor
  · intro hmem hquote
    obtain ⟨parts, rfl, hparts⟩ := Language.mem_kstar.mp hmem
    obtain ⟨part, hpart, hquote⟩ := List.mem_flatten.mp hquote
    obtain ⟨c, hc, rfl⟩ := hparts part hpart
    exact hc (List.mem_singleton.mp hquote).symm
  · intro hquote
    have htext : text = (text.map List.singleton).flatten := by
      rw [← List.flatMap_def]
      exact (List.flatMap_singleton' text).symm
    refine Language.mem_kstar.mpr ⟨text.map List.singleton, htext, ?_⟩
    intro part hpart
    obtain ⟨c, hc, rfl⟩ := List.mem_map.mp hpart
    exact ⟨c, ne_of_mem_of_not_mem hc hquote, rfl⟩

theorem mem_closedString_iff {text : Text} :
    text ∈ closedString ↔ ∃ inside, '"' ∉ inside ∧ text = '"' :: (inside ++ ['"']) := by
  simp only [closedString, Language.mem_mul, mem_quote_iff, mem_kstar_unquoted_iff]
  constructor
  · rintro ⟨-, ⟨-, rfl, inside, hinside, rfl⟩, -, rfl, rfl⟩
    exact ⟨inside, hinside, rfl⟩
  · rintro ⟨inside, hinside, rfl⟩
    exact ⟨_, ⟨_, rfl, inside, hinside, rfl⟩, _, rfl, rfl⟩

/-- A line that leaves a string open has a last quote, behind plain characters and closed
strings. -/
theorem mem_openString_iff {line : Text} :
    line ∈ openString ↔
      ∃ front ∈ (plain + closedString)∗, ∃ rest, '"' ∉ rest ∧ line = front ++ '"' :: rest := by
  simp only [openString, Language.mem_mul, mem_quote_iff, mem_kstar_unquoted_iff]
  constructor
  · rintro ⟨-, ⟨front, hfront, -, rfl, rfl⟩, rest, hrest, rfl⟩
    exact ⟨front, hfront, rest, hrest, by simp⟩
  · rintro ⟨front, hfront, rest, hrest, rfl⟩
    exact ⟨_, ⟨front, hfront, _, rfl, rfl⟩, rest, hrest, by simp⟩

/-- A part in front of a line that leaves a string open. -/
theorem append_mem_openString {part line : Text} (hpart : part ∈ plain + closedString)
    (hline : line ∈ openString) : part ++ line ∈ openString := by
  obtain ⟨front, hfront, rest, hrest, rfl⟩ := mem_openString_iff.mp hline
  obtain ⟨parts, rfl, hparts⟩ := Language.mem_kstar.mp hfront
  refine mem_openString_iff.mpr ⟨(part :: parts).flatten, ?_, rest, hrest, by simp⟩
  exact Language.join_mem_kstar (List.forall_mem_cons.mpr ⟨hpart, hparts⟩)

/-! ## Reading a line -/

theorem opensString_quote_cons (inString : Bool) (line : Text) :
    opensString inString ('"' :: line) = opensString (!inString) line := by
  simp [opensString]

/-- Inside of a string, everything up to the next quote is passed over. -/
theorem opensString_unquoted_append {inside : Text} (hinside : '"' ∉ inside) (rest : Text) :
    opensString true (inside ++ rest) = opensString true rest := by
  induction inside with
  | nil => rfl
  | cons c inside ih =>
      rw [List.mem_cons, not_or] at hinside
      rw [List.cons_append, opensString, if_neg (Ne.symm hinside.1), if_neg (by simp),
        ih hinside.2]

theorem opensString_part_append {part : Text} (hpart : part ∈ plain + closedString)
    (rest : Text) : opensString false (part ++ rest) = opensString false rest := by
  rcases (Language.mem_add _ _ _).mp hpart with ⟨c, ⟨hquote, hcomment⟩, rfl⟩ | hclosed
  · simp [opensString, hquote, hcomment]
  · obtain ⟨inside, hinside, rfl⟩ := mem_closedString_iff.mp hclosed
    rw [List.cons_append, opensString_quote_cons, List.append_assoc, List.singleton_append,
      Bool.not_false, opensString_unquoted_append hinside, opensString_quote_cons, Bool.not_true]

/-- Plain characters and closed strings leave no string open. -/
theorem opensString_parts_append {front : Text} (hfront : front ∈ (plain + closedString)∗)
    (rest : Text) : opensString false (front ++ rest) = opensString false rest := by
  obtain ⟨parts, rfl, hparts⟩ := Language.mem_kstar.mp hfront
  induction parts with
  | nil => rfl
  | cons part parts ih =>
      obtain ⟨hpart, hparts⟩ := List.forall_mem_cons.mp hparts
      rw [List.flatten_cons, List.append_assoc, opensString_part_append hpart,
        ih hparts (Language.join_mem_kstar hparts)]

/-- What is to be proved of the rest of a line depends on whether a string is open. -/
theorem opensString_sound (line : Text) :
    (opensString false line = true → line ∈ openString) ∧
    (opensString true line = true →
      '"' ∉ line ∨ ∃ inside rest, '"' ∉ inside ∧ rest ∈ openString ∧
        line = inside ++ '"' :: rest) := by
  induction line with
  | nil => exact ⟨fun hopens => absurd hopens (by decide), fun _ => .inl List.not_mem_nil⟩
  | cons c line ih =>
      obtain ⟨houtside, hinside⟩ := ih
      by_cases hquote : c = '"'
      · subst hquote
        constructor
        · intro hopens
          rw [opensString_quote_cons] at hopens
          rcases hinside hopens with hnone | ⟨inside, rest, hclean, hrest, rfl⟩
          · exact mem_openString_iff.mpr ⟨[], Language.nil_mem_kstar _, line, hnone, rfl⟩
          · -- the string that the quote opens is closed before the rest
            have hpart : '"' :: (inside ++ ['"']) ∈ plain + closedString :=
              (Language.mem_add _ _ _).mpr
                (.inr (mem_closedString_iff.mpr ⟨inside, hclean, rfl⟩))
            simpa using append_mem_openString hpart hrest
        · intro hopens
          rw [opensString_quote_cons] at hopens
          exact .inr ⟨[], line, List.not_mem_nil, houtside hopens, rfl⟩
      · constructor
        · intro hopens
          rw [opensString, if_neg hquote] at hopens
          by_cases hcomment : c = '#'
          · simp [hcomment] at hopens
          · rw [if_neg fun h => hcomment h.1] at hopens
            have hpart : [c] ∈ plain + closedString :=
              (Language.mem_add _ _ _).mpr (.inl ⟨c, ⟨hquote, hcomment⟩, rfl⟩)
            exact append_mem_openString hpart (houtside hopens)
        · intro hopens
          rw [opensString, if_neg hquote, if_neg (by simp)] at hopens
          rcases hinside hopens with hnone | ⟨inside, rest, hclean, hrest, rfl⟩
          · exact .inl (List.not_mem_cons_of_ne_of_not_mem (Ne.symm hquote) hnone)
          · exact .inr ⟨c :: inside, rest,
              List.not_mem_cons_of_ne_of_not_mem (Ne.symm hquote) hclean, hrest, rfl⟩

theorem hasUnterminatedString_iff (line : Text) :
    hasUnterminatedString line = true ↔ line ∈ openString := by
  constructor
  · exact (opensString_sound line).1
  · intro hmem
    obtain ⟨front, hfront, rest, hrest, rfl⟩ := mem_openString_iff.mp hmem
    have hlast := opensString_unquoted_append hrest []
    rw [List.append_nil] at hlast
    rw [hasUnterminatedString, opensString_parts_append hfront, opensString_quote_cons,
      Bool.not_false, hlast]
    rfl

/-! ## Errors in a scan -/

/-- The problems of a line stand between those of the lines before and behind. -/
theorem listing_eq_append {text line : Text} {number : Nat}
    (hline : (Text.lines text)[number]? = some line) :
    ∃ earlier later,
      listing text =
        earlier ++ (lineListing ((Text.lines text).take number) number line ++ later) ∧
      (∀ diagnostic ∈ earlier, diagnostic.range.start.line < number) ∧
      ∀ diagnostic ∈ later, number < diagnostic.range.start.line := by
  have hlength : ((Text.lines text).take number).length = number :=
    List.length_take_of_le (Nat.le_of_lt (List.getElem?_eq_some_iff.mp hline).1)
  have hentries : (Text.lines text).zipIdx = ((Text.lines text).take number).zipIdx ++
      (line, number) :: ((Text.lines text).drop (number + 1)).zipIdx (number + 1) := by
    conv_lhs => rw [Text.lines_eq_of_getElem? hline, List.zipIdx_append, hlength, Nat.zero_add,
      List.zipIdx_cons]
  refine ⟨_, _, by rw [listing, hentries, List.flatMap_append, List.flatMap_cons], ?_, ?_⟩
  · intro diagnostic hmem
    obtain ⟨entry, hentry, hmem⟩ := List.mem_flatMap.mp hmem
    rw [line_eq_of_mem hmem]
    have hbefore := (List.mem_zipIdx hentry).2.1
    omega
  · intro diagnostic hmem
    obtain ⟨entry, hentry, hmem⟩ := List.mem_flatMap.mp hmem
    rw [line_eq_of_mem hmem]
    exact (List.mem_zipIdx hentry).1

/-- Only a line that leaves a string open has an error. -/
theorem hasUnterminatedString_of_error {earlier : List Text} {number : Nat} {line : Text}
    {diagnostic : Diagnostic} (hmem : diagnostic ∈ lineListing earlier number line)
    (herror : diagnostic.problem.severity = .error) : hasUnterminatedString line = true := by
  rcases cases_of_mem_lineListing hmem with ⟨hopens, -⟩ | ⟨index, hwarning⟩
  · exact hopens
  · rw [(warningAt?_eq_some hwarning).2] at herror
    exact Severity.noConfusion herror

/-- The error of a line is in front of its warnings, so that it needs the least room. -/
theorem unterminatedString_mem_take {line : Text} (hopens : hasUnterminatedString line = true)
    (earlier : List Text) (number room : Nat) (later : List Diagnostic) :
    unterminatedString number line ∈
      (lineListing earlier number line ++ later).take (room + 1) := by
  rw [lineListing, if_pos hopens, List.singleton_append, List.cons_append, List.take_succ_cons]
  exact List.mem_cons_self

/-- The problems that a scan finds on the lines before a line leave room for that line exactly if
there are fewer of them than the limit. -/
theorem filter_take_append {earlier rest : List Diagnostic} {number : Nat}
    (hbefore : ∀ diagnostic ∈ earlier, diagnostic.range.start.line < number)
    (hbehind : ∀ diagnostic ∈ rest, number ≤ diagnostic.range.start.line) (limit : Nat) :
    (((earlier ++ rest).take limit).filter fun diagnostic =>
        diagnostic.range.start.line < number).length < limit ↔ earlier.length < limit := by
  have hearlier : ((earlier ++ rest).take limit).filter
      (fun diagnostic => diagnostic.range.start.line < number) = earlier.take limit := by
    rw [List.take_append, List.filter_append, List.filter_eq_self.mpr, List.filter_eq_nil_iff.mpr,
      List.append_nil]
    · intro diagnostic hmem
      simpa using hbehind diagnostic (List.mem_of_mem_take hmem)
    · intro diagnostic hmem
      simpa using hbefore diagnostic (List.mem_of_mem_take hmem)
  rw [hearlier, List.length_take]
  omega

/-- A scan has an error on a line if the line leaves a string open and there is room for it. -/
theorem error_reported_iff {text line : Text} {number : Nat}
    (hline : (Text.lines text)[number]? = some line) (limit : Nat) :
    (∃ diagnostic ∈ scan text limit, diagnostic.range.start.line = number ∧
        diagnostic.problem.severity = .error ∧
        diagnostic.problem.message = "Unterminated string") ↔
      hasUnterminatedString line = true ∧
        ((scan text limit).filter fun diagnostic =>
          diagnostic.range.start.line < number).length < limit := by
  obtain ⟨earlier, later, hlisting, hbefore, hbehind⟩ := listing_eq_append hline
  have hrest : ∀ diagnostic ∈ lineListing ((Text.lines text).take number) number line ++ later,
      number ≤ diagnostic.range.start.line := by
    intro diagnostic hmem
    rcases List.mem_append.mp hmem with hmem | hmem
    · exact Nat.le_of_eq (line_eq_of_mem hmem).symm
    · exact Nat.le_of_lt (hbehind diagnostic hmem)
  rw [scan_eq, hlisting, filter_take_append hbefore hrest, List.take_append]
  constructor
  · rintro ⟨diagnostic, hmem, hnumber, herror, -⟩
    rcases List.mem_append.mp hmem with hmem | hmem
    · exact absurd hnumber (Nat.ne_of_lt (hbefore diagnostic (List.mem_of_mem_take hmem)))
    · have hlt : earlier.length < limit := by
        by_contra hfull
        rw [Nat.sub_eq_zero_of_le (Nat.le_of_not_lt hfull), List.take_zero] at hmem
        exact List.not_mem_nil hmem
      rcases List.mem_append.mp (List.mem_of_mem_take hmem) with hmem | hmem
      · exact ⟨hasUnterminatedString_of_error hmem herror, hlt⟩
      · exact absurd hnumber (Nat.ne_of_gt (hbehind diagnostic hmem))
  · rintro ⟨hopens, hlt⟩
    obtain ⟨room, hroom⟩ := Nat.exists_eq_succ_of_ne_zero (Nat.sub_ne_zero_of_lt hlt)
    refine ⟨unterminatedString number line, ?_, rfl, rfl, rfl⟩
    rw [hroom]
    exact List.mem_append_right _ (unterminatedString_mem_take hopens _ number room later)

/-- **The scan reports the lines that leave a string open, and no others.**  A line leaves a string
open exactly if it is in the language: plain characters and closed strings, then a quote, then no
further quote.  A scan reports an error on exactly the lines of the language, up to the limit: as
long as the problems on the lines before leave room. -/
theorem open_strings_reported :
    (∀ line : Text, hasUnterminatedString line = true ↔ line ∈ openString) ∧
    ∀ (text : Text) (limit number : Nat),
      (∃ diagnostic ∈ scan text limit, diagnostic.range.start.line = number ∧
        diagnostic.problem.severity = .error ∧
        diagnostic.problem.message = "Unterminated string") ↔
      (∃ line, (Text.lines text)[number]? = some line ∧ line ∈ openString) ∧
        ((scan text limit).filter fun diagnostic =>
          diagnostic.range.start.line < number).length < limit := by
  refine ⟨hasUnterminatedString_iff, fun text limit number => ?_⟩
  cases hline : (Text.lines text)[number]? with
  | none =>
      refine iff_of_false ?_ (by simp)
      rintro ⟨diagnostic, hmem, rfl, -, -⟩
      rw [scan_eq] at hmem
      obtain ⟨entry, hentry, hmem⟩ := List.mem_flatMap.mp (List.mem_of_mem_take hmem)
      rw [line_eq_of_mem hmem, List.mem_zipIdx_iff_getElem?.mp hentry] at hline
      exact Option.some_ne_none _ hline
  | some line =>
      rw [error_reported_iff hline limit, hasUnterminatedString_iff]
      simp only [Option.some.injEq, exists_eq_left']

end PolicyEditing.Diagnostic
