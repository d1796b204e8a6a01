import PolicyEditing.Proofs.Document.Whole
import PolicyEditing.Proofs.Text.Offset

/-!
# A position in a document and in its text

The editor's changes go to the place that `indexAt` finds for a position, and its questions to the
one that `Text.offsetAt` finds.  The first breaks lines at carriage returns, the second does not.
Where every carriage return stands before a line feed, the lines are the same, except that for the
second the return still belongs to its line.

The two places are then the same with two exceptions (`AgreesAt`).  A column between the two units
of a character is before that character in the document and behind it, four bytes on, in the text.
A column past the end of a line with both characters in its break is before the return in the
document and behind it, one byte on, in the text.

The proof follows the text from break to break: what stands in front shifts both places alike
(`AgreesAt.shift`), so that the exceptions come up at the beginning of the text only.
-/

namespace PolicyEditing.Document

/-- Whether every carriage return stands directly before a line feed. -/
def JoinsReturns (text : Text) : Prop :=
  ∀ index, text[index]? = some '\r' → text[index + 1]? = some '\n'

instance (text : Text) : Decidable (JoinsReturns text) :=
  decidable_of_iff
    (∀ index < text.length, text[index]? = some '\r' → text[index + 1]? = some '\n')
    ⟨fun h index hindex => h index (List.getElem?_eq_some_iff.mp hindex).1 hindex,
      fun h index _ => h index⟩

/-- The bytes before a position, as the document finds it. -/
def bytesBefore (text : Text) (position : Position) : Nat :=
  Text.byteCount (text.take (indexAt text position))

/-- Whether a position falls between the two units of a character. -/
def FallsInCharacter (text : Text) (position : Position) : Prop :=
  ∃ line, (lines text)[position.line]? = some line ∧
    Text.SplitsCharacter (content line) position.character

/-- Whether a position is past what stands on a line that ends with a carriage return and a line
feed. -/
def PassesReturn (text : Text) (position : Position) : Prop :=
  ∃ line, (lines text)[position.line]? = some line ∧ ending line = ['\r', '\n'] ∧
    Text.unitCount (content line) < position.character

/-- The text finds a position where the document does, up to two ways of rounding. -/
structure AgreesAt (text : Text) (position : Position) : Prop where
  /-- The document goes back to the beginning of a character, and the text on to its end. -/
  inCharacter : FallsInCharacter text position →
    Text.offsetAt text position = bytesBefore text position + 4
  /-- The document goes back before the break, and the text only before the line feed. -/
  pastReturn : PassesReturn text position →
    Text.offsetAt text position = bytesBefore text position + 1
  /-- Everywhere else the two agree. -/
  elsewhere : ¬ FallsInCharacter text position → ¬ PassesReturn text position →
    Text.offsetAt text position = bytesBefore text position

/-! ## Carriage returns -/

theorem JoinsReturns.tail {c : Char} {rest : Text} (hreturns : JoinsReturns (c :: rest)) :
    JoinsReturns rest := by
  intro index hindex
  have hnext := hreturns (index + 1)
  rw [List.getElem?_cons_succ, List.getElem?_cons_succ] at hnext
  exact hnext hindex

theorem JoinsReturns.head?_eq {rest : Text} (hreturns : JoinsReturns ('\r' :: rest)) :
    rest.head? = some '\n' := by
  rw [List.head?_eq_getElem?]
  exact hreturns 0 rfl

/-! ## What stands in front -/

theorem bytesBefore_of_indexAt {front rest : Text} {position later : Position}
    (hindex : indexAt (front ++ rest) position = front.length + indexAt rest later) :
    bytesBefore (front ++ rest) position = Text.byteCount front + bytesBefore rest later := by
  rw [bytesBefore, hindex, List.take_length_add_append, Text.byteCount_append, bytesBefore]

/-- What shifts both places by as many bytes changes nothing else. -/
theorem AgreesAt.shift {text rest : Text} {position later : Position} {shift : Nat}
    (hrest : AgreesAt rest later)
    (hoffset : Text.offsetAt text position = shift + Text.offsetAt rest later)
    (hbytes : bytesBefore text position = shift + bytesBefore rest later)
    (hfalls : FallsInCharacter text position ↔ FallsInCharacter rest later)
    (hpasses : PassesReturn text position ↔ PassesReturn rest later) :
    AgreesAt text position where
  inCharacter h := by
    have hplace := hrest.inCharacter (hfalls.mp h)
    omega
  pastReturn h := by
    have hplace := hrest.pastReturn (hpasses.mp h)
    omega
  elsewhere h h' := by
    have hplace := hrest.elsewhere (mt hfalls.mpr h) (mt hpasses.mpr h')
    omega

/-- A line in front moves every position down by one line. -/
theorem agreesAt_below {front rest : Text} (hlines : lines (front ++ rest) = front :: lines rest)
    {position : Position}
    (hoffset : Text.offsetAt (front ++ rest) ⟨position.line + 1, position.character⟩ =
      Text.byteCount front + Text.offsetAt rest position)
    (hrest : AgreesAt rest position) :
    AgreesAt (front ++ rest) ⟨position.line + 1, position.character⟩ := by
  have hindex : indexAt (front ++ rest) ⟨position.line + 1, position.character⟩ =
      front.length + indexAt rest position := by
    rw [indexAt, hlines]
    rfl
  refine hrest.shift hoffset (bytesBefore_of_indexAt hindex) ?_ ?_
  · simp only [FallsInCharacter, hlines, List.getElem?_cons_succ]
  · simp only [PassesReturn, hlines, List.getElem?_cons_succ]

/-- A character that breaks no line moves the positions on the first line by its units. -/
theorem agreesAt_behind {c : Char} {rest : Text} (hfeed : c ≠ '\n') (hreturn : c ≠ '\r')
    {position : Position} (hrest : AgreesAt rest position) :
    AgreesAt (c :: rest) (Position.followedBy ⟨0, Text.units c⟩ position) := by
  have hbytes := @bytesBefore_of_indexAt [c] rest _ position (indexAt_plain hfeed hreturn position)
  obtain ⟨line, more, hlines⟩ := List.exists_cons_of_ne_nil (lines_ne_nil rest)
  have hbreak : isBreak c = false := by simp [isBreak, hfeed, hreturn]
  have hplain := lines_plain hfeed hreturn hlines
  obtain ⟨number, column⟩ := position
  refine hrest.shift (Text.offsetAt_plain hfeed rest _) hbytes ?_ ?_
  · cases number with
    | zero =>
        simp [FallsInCharacter, Position.followedBy, hplain, hlines, content_cons hbreak,
          Text.splitsCharacter_cons_iff]
    | succ number => simp [FallsInCharacter, hplain, hlines]
  · cases number with
    | zero =>
        simp [PassesReturn, Position.followedBy, hplain, hlines, content_cons hbreak,
          ending_cons hbreak]
    | succ number => simp [PassesReturn, hplain, hlines]

/-! ## The beginning of a text -/

theorem agreesAt_nil (position : Position) : AgreesAt [] position := by
  have hoffset : Text.offsetAt [] position = 0 := by
    obtain ⟨number, column⟩ := position
    cases number <;> rfl
  have hline : ∀ line, (lines [])[position.line]? = some line → line = [] := by
    intro line hline
    exact List.mem_singleton.mp (List.mem_of_getElem? hline)
  refine ⟨?_, ?_, fun _ _ => ?_⟩
  · rintro ⟨line, hget, hsplits⟩
    rw [hline line hget] at hsplits
    exact absurd hsplits (Text.not_splitsCharacter_nil _)
  · rintro ⟨line, hget, hending, -⟩
    rw [hline line hget] at hending
    simp [ending] at hending
  · rw [hoffset, bytesBefore, List.take_nil, Text.byteCount_nil]

theorem agreesAt_feed (rest : Text) (column : Nat) : AgreesAt ('\n' :: rest) ⟨0, column⟩ := by
  have hline : (lines ('\n' :: rest))[0]? = some ['\n'] := by rw [lines_feed]; rfl
  have hoffset : Text.offsetAt ('\n' :: rest) ⟨0, column⟩ = 0 := by
    rw [Text.offsetAt, Text.lines_newline_cons]
    rfl
  have hindex : indexAt ('\n' :: rest) ⟨0, column⟩ = 0 := by
    rw [indexAt, lines_feed]
    rfl
  refine ⟨?_, ?_, fun _ _ => ?_⟩
  · rintro ⟨line, hget, hsplits⟩
    obtain rfl := Option.some.inj (hline.symm.trans hget)
    exact absurd hsplits (Text.not_splitsCharacter_nil column)
  · rintro ⟨line, hget, hending, -⟩
    obtain rfl := Option.some.inj (hline.symm.trans hget)
    exact absurd hending (by decide)
  · rw [hoffset, bytesBefore, hindex, List.take_zero, Text.byteCount_nil]

/-- In front of a joint break the text counts the carriage return to the line. -/
theorem agreesAt_joint (rest : Text) (column : Nat) :
    AgreesAt ('\r' :: '\n' :: rest) ⟨0, column⟩ := by
  have hline : (lines ('\r' :: '\n' :: rest))[0]? = some ['\r', '\n'] := by
    rw [lines_joint]
    rfl
  have hoffset :
      Text.offsetAt ('\r' :: '\n' :: rest) ⟨0, column⟩ = if column = 0 then 0 else 1 := by
    have hlines := Text.lines_cons_of_ne (c := '\r') (by decide) (Text.lines_newline_cons rest)
    rw [Text.offsetAt, hlines]
    rfl
  have hindex : indexAt ('\r' :: '\n' :: rest) ⟨0, column⟩ = 0 := by
    rw [indexAt, lines_joint]
    rfl
  have hbytes : bytesBefore ('\r' :: '\n' :: rest) ⟨0, column⟩ = 0 := by
    rw [bytesBefore, hindex, List.take_zero, Text.byteCount_nil]
  refine ⟨?_, ?_, fun _ hpasses => ?_⟩
  · rintro ⟨line, hget, hsplits⟩
    obtain rfl := Option.some.inj (hline.symm.trans hget)
    exact absurd hsplits (Text.not_splitsCharacter_nil column)
  · rintro ⟨line, hget, -, hpast⟩
    obtain rfl := Option.some.inj (hline.symm.trans hget)
    have hpos : 0 < column := hpast
    rw [hoffset, hbytes, if_neg (Nat.ne_of_gt hpos)]
  · have hzero : column = 0 := by
      by_contra hpos
      exact hpasses ⟨_, hline, rfl, Nat.pos_of_ne_zero hpos⟩
    rw [hoffset, hbytes, if_pos hzero]

/-- Only a character beyond the basic plane has two units, and it has four bytes. -/
theorem utf8Size_of_units {c : Char} (hunits : 1 < Text.units c) : c.utf8Size = 4 := by
  have hbeyond : ¬ c.toNat < 0x10000 := by
    intro hbasic
    rw [Text.units, if_pos hbasic] at hunits
    omega
  rw [Char.utf8Size_eq_four_iff, UInt32.lt_iff_toNat_lt]
  change 65535 < c.toNat
  omega

/-- Before the end of the first character. -/
theorem agreesAt_of_lt {c : Char} {rest : Text} (hfeed : c ≠ '\n') (hreturn : c ≠ '\r')
    {column : Nat} (hcolumn : column < Text.units c) : AgreesAt (c :: rest) ⟨0, column⟩ := by
  have hbytes : bytesBefore (c :: rest) ⟨0, column⟩ = 0 := by
    rw [bytesBefore, indexAt_plain_of_lt hfeed hreturn hcolumn, List.take_zero,
      Text.byteCount_nil]
  have hbreak : isBreak c = false := by simp [isBreak, hfeed, hreturn]
  obtain ⟨line, more, hlines⟩ := List.exists_cons_of_ne_nil (lines_ne_nil rest)
  have hline : (lines (c :: rest))[0]? = some (c :: line) := by
    rw [lines_plain hfeed hreturn hlines]
    rfl
  have hpasses : ¬ PassesReturn (c :: rest) ⟨0, column⟩ := by
    rintro ⟨line', hget, -, hpast⟩
    obtain rfl := Option.some.inj (hline.symm.trans hget)
    rw [content_cons hbreak, Text.unitCount_cons] at hpast
    dsimp only at hpast
    omega
  obtain ⟨textLine, textMore, htextLines⟩ := List.exists_cons_of_ne_nil (Text.lines_ne_nil rest)
  have hoffset : Text.offsetAt (c :: rest) ⟨0, column⟩ =
      Text.columnOffset (c :: textLine) column := by
    rw [Text.offsetAt, Text.lines_cons_of_ne hfeed htextLines]
    rfl
  rcases Nat.eq_zero_or_pos column with rfl | hpos
  · have hfalls : ¬ FallsInCharacter (c :: rest) ⟨0, 0⟩ := by
      rintro ⟨line', -, before, d, -, hfirst, -⟩
      exact absurd hfirst (Nat.not_lt_zero _)
    refine ⟨fun h => absurd h hfalls, fun h => absurd h hpasses, fun _ _ => ?_⟩
    rw [hoffset, hbytes, Text.columnOffset_zero]
  · have hfalls : FallsInCharacter (c :: rest) ⟨0, column⟩ := by
      refine ⟨c :: line, hline, [], c, ?_, hpos, ?_⟩
      · rw [content_cons hbreak]
        exact List.cons_prefix_cons.mpr ⟨rfl, List.nil_prefix⟩
      · simpa using hcolumn
    refine ⟨fun _ => ?_, fun h => absurd h hpasses, fun h => absurd hfalls h⟩
    -- inside of the first character, which therefore has two units
    have hend : Text.columnOffset (c :: textLine) column = Text.byteCount ([] ++ [c]) :=
      Text.columnOffset_of_lt (List.cons_prefix_cons.mpr ⟨rfl, List.nil_prefix⟩) hpos
        (by simpa using Nat.le_of_lt hcolumn)
    rw [hoffset, hbytes, hend, List.nil_append, Text.byteCount_cons, Text.byteCount_nil,
      utf8Size_of_units (by omega)]

/-! ## All positions -/

/-- A joint break in front moves every position down by one line. -/
theorem agreesAt_below_joint {rest : Text} {position : Position} (hrest : AgreesAt rest position) :
    AgreesAt ('\r' :: '\n' :: rest) ⟨position.line + 1, position.character⟩ := by
  -- in the text, the carriage return only stands in front of a line
  have hreturn := @Text.offsetAt_plain '\r' (by decide) ('\n' :: rest)
    ⟨position.line + 1, position.character⟩
  rw [Position.followedBy_succ, Nat.zero_add, Text.offsetAt_feed, ← Nat.add_assoc] at hreturn
  exact @agreesAt_below ['\r', '\n'] rest (lines_joint rest) position hreturn hrest

/-- A character that breaks no line keeps all positions where they agree. -/
theorem agreesAt_plain {c : Char} {rest : Text} (hfeed : c ≠ '\n') (hreturn : c ≠ '\r')
    (hrest : ∀ position, AgreesAt rest position) (position : Position) :
    AgreesAt (c :: rest) position := by
  obtain ⟨number, column⟩ := position
  cases number with
  | zero =>
      rcases Nat.lt_or_ge column (Text.units c) with hlt | hge
      · exact agreesAt_of_lt hfeed hreturn hlt
      · obtain ⟨later, rfl⟩ := Nat.exists_eq_add_of_le hge
        exact agreesAt_behind hfeed hreturn (hrest ⟨0, later⟩)
  | succ number =>
      have hbehind := agreesAt_behind hfeed hreturn (hrest ⟨number + 1, column⟩)
      rwa [Position.followedBy_succ, Nat.zero_add] at hbehind

/-- **The text finds positions where the document does.**  If every carriage return stands directly
before a line feed, then at every position, on a line of the text or not, the place that
`Text.offsetAt` finds is the one of `indexAt`; only between the units of a character it is four
bytes on, and past the end of a line that ends with both characters one byte on. -/
theorem agreesAt_of_joinsReturns {text : Text} (hreturns : JoinsReturns text)
    (position : Position) : AgreesAt text position := by
  induction text using breakInduction generalizing position with
  | nil => exact agreesAt_nil position
  | joint rest ih =>
      obtain ⟨number, column⟩ := position
      cases number with
      | zero => exact agreesAt_joint rest column
      | succ number => exact agreesAt_below_joint (ih hreturns.tail.tail ⟨number, column⟩)
  | feed rest ih =>
      obtain ⟨number, column⟩ := position
      cases number with
      | zero => exact agreesAt_feed rest column
      | succ number =>
          exact @agreesAt_below ['\n'] rest (lines_feed rest) ⟨number, column⟩
            (Text.offsetAt_feed rest _) (ih hreturns.tail _)
  | lone rest hhead _ => exact absurd hreturns.head?_eq hhead
  | plain c rest hfeed hreturn ih => exact agreesAt_plain hfeed hreturn (ih hreturns.tail) position

/-- Both exceptions on one line. -/
theorem agreesAt_emoji_return :
    let text : Text := ['é', '😀', '\r', '\n', 'x']
    JoinsReturns text ∧
      Text.offsetAt text ⟨0, 2⟩ = bytesBefore text ⟨0, 2⟩ + 4 ∧
      Text.offsetAt text ⟨0, 4⟩ = bytesBefore text ⟨0, 4⟩ + 1 ∧
      Text.offsetAt text ⟨2, 0⟩ = bytesBefore text ⟨2, 0⟩ := by
  intro text
  have hreturns : JoinsReturns text := by decide
  refine ⟨hreturns, ?_, ?_, ?_⟩
  · refine (agreesAt_of_joinsReturns hreturns ⟨0, 2⟩).inCharacter ?_
    exact ⟨['é', '😀', '\r', '\n'], rfl, ['é'], '😀', by decide, by decide, by decide⟩
  · refine (agreesAt_of_joinsReturns hreturns ⟨0, 4⟩).pastReturn ?_
    exact ⟨['é', '😀', '\r', '\n'], rfl, by decide, by decide⟩
  · refine (agreesAt_of_joinsReturns hreturns ⟨2, 0⟩).elsewhere ?_ ?_
    · rintro ⟨line, hline, -⟩
      cases hline
    · rintro ⟨line, hline, -⟩
      cases hline

end PolicyEditing.Document
