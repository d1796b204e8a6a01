import PolicyEditing.Proofs.Session.Calls
import PolicyEditing.Proofs.Word

/-!
# Explanations

A request for an explanation names a place by its line and its column.  The server turns the place
into bytes, looks for the word that touches them, looks the word up, and turns the ends of the word
back into columns.  What comes out is told by the cut of the text around the place
(`Hover.at?_of_cut`): the explanation of its word, and the range of that word on its line
(`Word.Cut.range`).

The places in the range touch the word (`Word.Cut.touches_of_mem_range`), and the text has the same
cut around all of them, so the answer is the same wherever in the range it is asked for.
-/

namespace PolicyEditing

open Text (byteCount endPosition offsetAt positionAt)

/-! ## The explained words -/

theorem Vocabulary.exists_of_explanation? {word help : String}
    (hhelp : explanation? word = some help) :
    ∃ entry ∈ explained, entry.word = word ∧ help = entry.help := by
  obtain ⟨entry, hfind, rfl⟩ := Option.map_eq_some_iff.mp hhelp
  have hword : entry.word = word := by simpa using List.find?_some hfind
  exact ⟨entry, List.mem_of_find?_eq_some hfind, hword, rfl⟩

theorem Vocabulary.word_ne_empty : ∀ entry ∈ explained, entry.word ≠ "" := by
  decide

theorem Vocabulary.isSome_explanation?_iff {word : String} :
    (explanation? word).isSome ↔ ∃ entry ∈ explained, entry.word = word := by
  rw [explanation?, Option.isSome_map, List.find?_isSome]
  simp only [decide_eq_true_eq]

namespace Word.Cut

variable {text : Text} {offset : Nat}

/-! ## The range of a word -/

/-- Where the word stands. -/
def range (cut : Cut text offset) : Range :=
  ⟨endPosition cut.before, endPosition (cut.before ++ cut.word)⟩

theorem covers_range (cut : Cut text offset) : Text.Covers text cut.range cut.word cut.after :=
  Text.covers_of_split cut.text_eq (newline_notMem_of_isWord cut.isWord)

/-- Each character of the word takes one column. -/
theorem endPosition_append (cut : Cut text offset) {first second : Text}
    (hsplit : cut.word = first ++ second) :
    endPosition (cut.before ++ first) =
      ⟨cut.range.start.line, cut.range.start.character + first.length⟩ := by
  have hfirst : ∀ c ∈ first, isWordChar c = true := fun c hc =>
    cut.isWord c (hsplit ▸ List.mem_append_left second hc)
  rw [Text.endPosition_append, Text.endPosition_of_notMem (newline_notMem_of_isWord hfirst),
    unitCount_of_isWord hfirst]
  rfl

theorem stop_range (cut : Cut text offset) : cut.range.stop =
    ⟨cut.range.start.line, cut.range.start.character + cut.word.length⟩ :=
  cut.endPosition_append (List.append_nil _).symm

/-- The beginnings of the word stand in the text. -/
theorem append_isPrefix (cut : Cut text offset) {first second : Text}
    (hsplit : cut.word = first ++ second) : cut.before ++ first <+: text := by
  have hfirst : first <+: cut.word := ⟨second, hsplit.symm⟩
  exact ((List.prefix_append_right_inj _).mpr hfirst).trans cut.behind_isPrefix

/-- The place of the cut is in the range of its word. -/
theorem mem_range (cut : Cut text offset) :
    cut.range.start.line = (positionAt text offset).line ∧
      cut.range.start ≤ positionAt text offset ∧ positionAt text offset ≤ cut.range.stop := by
  obtain ⟨first, second, hsplit, hoffset⟩ := cut.exists_split
  have hposition : positionAt text offset =
      ⟨cut.range.start.line, cut.range.start.character + first.length⟩ := by
    rw [← cut.endPosition_append hsplit, ← Text.positionAt_of_prefix (cut.append_isPrefix hsplit),
      hoffset]
  have hlength : first.length ≤ cut.word.length := by
    rw [hsplit, List.length_append]
    exact Nat.le_add_right _ _
  rw [hposition, cut.stop_range, Position.le_iff, Position.le_iff]
  refine ⟨rfl, Or.inr ⟨rfl, Nat.le_add_right _ _⟩, Or.inr ⟨rfl, ?_⟩⟩
  exact Nat.add_le_add_left hlength _

/-- Whatever stands in the range of the word touches the word. -/
theorem touches_of_mem_range (cut : Cut text offset) {position : Position}
    (hstart : cut.range.start ≤ position) (hstop : position ≤ cut.range.stop) :
    byteCount cut.before ≤ offsetAt text position ∧
      offsetAt text position ≤ byteCount (cut.before ++ cut.word) := by
  simp only [cut.stop_range, Position.le_iff] at hstart hstop
  have hline : position.line = cut.range.start.line := by omega
  obtain ⟨count, hcount⟩ : ∃ count, position.character = cut.range.start.character + count :=
    Nat.exists_eq_add_of_le (by omega)
  have hsplit : cut.word = cut.word.take count ++ cut.word.drop count :=
    (List.take_append_drop count cut.word).symm
  have hposition : position = endPosition (cut.before ++ cut.word.take count) := by
    rw [cut.endPosition_append hsplit, List.length_take, Nat.min_eq_left (by omega), ← hline,
      ← hcount]
  rw [hposition, Text.offsetAt_endPosition (cut.append_isPrefix hsplit)]
  constructor
  · exact Text.byteCount_le_of_prefix (List.prefix_append _ _)
  · exact Text.byteCount_le_of_prefix
      ((List.prefix_append_right_inj _).mpr (List.take_prefix count cut.word))

end Word.Cut

/-! ## The answer -/

/-- What comes out is told by the cut around the place. -/
theorem Hover.at?_of_cut {text : Text} {offset : Nat} (cut : Word.Cut text offset) :
    Hover.at? text offset = (Vocabulary.explanation? (String.ofList cut.word)).map fun content =>
      ⟨content, cut.range⟩ := by
  have hrange : (⟨positionAt text (byteCount cut.before),
      positionAt text (byteCount (cut.before ++ cut.word))⟩ : Range) = cut.range := by
    rw [Text.positionAt_of_prefix cut.before_isPrefix,
      Text.positionAt_of_prefix cut.behind_isPrefix]
    rfl
  rw [at?, Word.rangeAt_of_cut cut]
  by_cases hempty : cut.word = []
  · -- no word that is explained is empty
    rw [if_pos hempty, hempty]
    rfl
  · rw [if_neg hempty]
    simp only [Option.bind_eq_bind, Option.bind_some, Text.slice_of_split cut.text_eq, hrange]
    cases Vocabulary.explanation? (String.ofList cut.word) <;> rfl

/-- The same comes out for all places in the range. -/
theorem Hover.at?_of_mem_range {text : Text} {offset : Nat} (cut : Word.Cut text offset)
    {position : Position} (hstart : cut.range.start ≤ position)
    (hstop : position ≤ cut.range.stop) :
    Hover.at? text (offsetAt text position) = Hover.at? text offset := by
  obtain ⟨hfirst, hlast⟩ := cut.touches_of_mem_range hstart hstop
  rw [Hover.at?_of_cut cut, Hover.at?_of_cut (cut.seenFrom hfirst hlast)]
  rfl

namespace Server

section

variable [UriReading] {server : Server} {uri : Uri} {document : Document}

/-- A request for an explanation is answered, and nothing else happens. -/
theorem step_hover {position : Position} {asked : Step} (hready : server.phase = .ready)
    (hopen : server.documents.get? uri = some document)
    (hasked : asked.call.request? = some (.hover uri position)) :
    server.step asked = ⟨.responded (.ok (.explanation
      (Hover.at? document.text (offsetAt document.text position)))), server, []⟩ := by
  rw [step_of_request hready hasked]
  simp [serve, hover?, hopen]

/-- **An explanation is about the word at the place that was asked for, and about nothing else.**
Asked about a place on a line of an open document, a server between the first and the last message
answers and does nothing else.  The text can be cut around the place in one way.  There is an
explanation exactly if the word of this cut is one of the explained words; it is the help for that
word, and its range stands for that word in the text, on the line of the place, with the place
inside and one column for each character.  Every other place in the range gets the same answer. -/
theorem explanation_of_word {position : Position} {asked : Step} {line : Text}
    (hready : server.phase = .ready) (hopen : server.documents.get? uri = some document)
    (hasked : asked.call.request? = some (.hover uri position))
    (hline : (Text.lines document.text)[position.line]? = some line)
    (hcolumn : position.character ≤ Text.unitCount line)
    (hwhole : ¬ Text.SplitsCharacter line position.character) :
    ∃ answer, ∃ cut : Word.Cut document.text (offsetAt document.text position),
      (server.step asked).value = .responded (.ok (.explanation answer)) ∧
      (server.step asked).server = server ∧
      (∀ other : Word.Cut document.text (offsetAt document.text position), other = cut) ∧
      (answer.isSome ↔ cut.word ≠ [] ∧
        ∃ entry ∈ Vocabulary.explained, entry.word = String.ofList cut.word) ∧
      ∀ hover, answer = some hover →
        (∃ entry ∈ Vocabulary.explained, entry.word = String.ofList cut.word ∧
          hover.content = entry.help) ∧
        Text.Covers document.text hover.range cut.word cut.after ∧
        hover.range.start.line = position.line ∧
        hover.range.start ≤ position ∧ position ≤ hover.range.stop ∧
        hover.range.stop.character = hover.range.start.character + cut.word.length ∧
        ∀ within, hover.range.start ≤ within → within ≤ hover.range.stop →
          ∀ again : Step, again.call.request? = some (.hover uri within) →
            (server.step again).value = (server.step asked).value := by
  have hplace : Text.IsColumn line position.character :=
    (Text.isColumn_or_splitsCharacter hcolumn).resolve_right hwhole
  have hposition := Text.positionAt_offsetAt hline hplace
  have hboundary : Text.IsBoundary document.text (offsetAt document.text position) := by
    have hgreatest := Text.isGreatest_offsetAt_positionAt document.text
      (offsetAt document.text position)
    rw [hposition] at hgreatest
    exact hgreatest.1.1
  obtain ⟨cut⟩ := Word.nonempty_cut hboundary
  have hstep := step_hover hready hopen hasked
  have hanswer := Hover.at?_of_cut cut
  refine ⟨Hover.at? document.text (offsetAt document.text position), cut, by rw [hstep],
    by rw [hstep], fun other => other.unique cut, ?_, ?_⟩
  · rw [hanswer, Option.isSome_map, Vocabulary.isSome_explanation?_iff]
    constructor
    · rintro ⟨entry, hentry, hword⟩
      refine ⟨?_, entry, hentry, hword⟩
      intro hempty
      rw [hempty] at hword
      exact Vocabulary.word_ne_empty entry hentry hword
    · rintro ⟨-, hexplained⟩
      exact hexplained
  · intro hover hhover
    rw [hanswer] at hhover
    obtain ⟨content, hcontent, rfl⟩ := Option.map_eq_some_iff.mp hhover
    obtain ⟨hsame, hstart, hstop⟩ := cut.mem_range
    rw [hposition] at hsame hstart hstop
    refine ⟨Vocabulary.exists_of_explanation? hcontent, cut.covers_range, hsame, hstart, hstop, ?_,
      ?_⟩
    · exact congrArg Position.character cut.stop_range
    · intro within hfirst hlast again hagain
      rw [hstep, step_hover hready hopen hagain, Hover.at?_of_mem_range cut hfirst hlast]

end

/-- A word behind an emoji, asked for at the end of its line and again in front of it. -/
theorem explanation_of_word_behind_emoji :
    let uri : Uri := ⟨"file:///a"⟩
    let text : Text := ['x', '\n', 'é', '😀', 'l', 'e', 't']
    let server : Server :=
      { Server.fresh with phase := .ready, documents := UriMap.empty.insert uri ⟨text, 1⟩ }
    let asked (character : Nat) : Step :=
      ⟨⟨.request, "textDocument/hover", some <| .object
        [("textDocument", .object [("uri", .string "file:///a")]),
          ("position", .object [("line", .nat 1), ("character", .nat character)])]⟩,
        fun _ => .result .null⟩
    let explained : ExplainedWord :=
      ⟨"let", "let", "Variable assignment", "Syntax: `let variable_name = value`"⟩
    let hover : Hover := ⟨explained.help, ⟨⟨1, 3⟩, ⟨1, 6⟩⟩⟩
    (server.step (asked 6)).value = .responded (.ok (.explanation (some hover))) ∧
      Text.Covers text hover.range ['l', 'e', 't'] [] ∧
      (server.step (asked 3)).value = (server.step (asked 6)).value := by
  intro uri text server asked explained hover
  have hfound : Hover.at? text (offsetAt text ⟨1, 6⟩) = some hover := by decide
  have hanswer : (server.step (asked 6)).value =
      .responded (.ok (.explanation (some hover))) := by
    rw [@step_hover _ server uri ⟨text, 1⟩ ⟨1, 6⟩ (asked 6) rfl rfl rfl, hfound]
  have hwhole : ¬ Text.SplitsCharacter ['é', '😀', 'l', 'e', 't'] 6 := fun hsplits =>
    Text.not_isColumn_of_splitsCharacter hsplits ⟨_, List.prefix_rfl, rfl⟩
  obtain ⟨answer, cut, hvalue, -, hunique, -, habout⟩ :=
    @explanation_of_word _ server uri ⟨text, 1⟩ ⟨1, 6⟩ (asked 6) ['é', '😀', 'l', 'e', 't']
      rfl rfl rfl rfl (by decide) hwhole
  obtain rfl := hunique ⟨['x', '\n', 'é', '😀'], ['l', 'e', 't'], [], rfl,
    List.all_eq_true.mp rfl, rfl, rfl, by decide, by decide⟩
  rw [hanswer] at hvalue
  obtain rfl : some hover = answer := by simpa using hvalue
  obtain ⟨-, hcovers, -, -, -, -, hagain⟩ := habout hover rfl
  exact ⟨hanswer, hcovers, hagain ⟨1, 3⟩ (by decide) (by decide) (asked 3) rfl⟩

end Server

end PolicyEditing
