import Mathlib.Data.List.Nodup
import PolicyEditing.Proofs.Session.Lateness

/-!
# Calls that overlap

While a call waits for a reply, others are handled.  `Accounted` says of one document what holds
between any two moves: who asked after the last news of the document has it as it is, and unless a
scan of it still waits, what is shown fits the document or came too late.

A move tells something (`Tells`), takes up a call that waits (`TakesUp`), or does nothing to the
document.  Each of the three keeps account (`Accounted.told`, `Accounted.replied`,
`Accounted.unchanged`).  News of a document make all questions old that were asked before them, so
what is known of the document has to be found out anew; a reply takes away one call that waits, so a
scan may have ended and must have shown something.
-/

namespace PolicyEditing

variable {Caller : Type}

/-! ## The invariant -/

/-- What a call that waits has left to do. -/
def Waiting.Is (waiting : Waiting Caller) (remainder : Remainder) : Prop :=
  waiting.question = remainder.question ∧ waiting.resume = remainder.resume

/-- A scan of a document waits that was begun after some questions. -/
def Rescanning (uri : Uri) (conversation : Conversation Caller) (mark : Nat) : Prop :=
  ∃ waiting ∈ conversation.waiting, mark ≤ waiting.number ∧
    ∃ document others, waiting.Is (.scans uri document others)

theorem Rescanning.mono {uri : Uri} {conversation next : Conversation Caller} {mark : Nat}
    (hscans : Rescanning uri conversation mark)
    (hwaits : ∀ waiting ∈ conversation.waiting, waiting ∈ next.waiting) :
    Rescanning uri next mark := by
  obtain ⟨waiting, hwaiting, hscans⟩ := hscans
  exact ⟨waiting, hwaits waiting hwaiting, hscans⟩

/-- Diagnostics are those of a document as it is, at some limit.  There are none, and no version,
for a document that is not open. -/
def Fits (document : Option Document) (shown : List Diagnostic × Option Int) : Prop :=
  match document with
  | some document => ∃ limit, shown = (Diagnostic.scan document.text limit, some document.version)
  | none => shown = ([], none)

/-- What is shown and kept for a document is accounted for by what was told and what came too
late. -/
structure Accounted (uri : Uri) (conversation : Conversation Caller) (late : Lateness)
    (news : List Notification) (sent : List Message) : Prop where
  /-- A server that asks has begun its session. -/
  begun : conversation.server.asksForSettings = true → conversation.server.phase ≠ .uninitialized
  /-- Nothing waits and nothing is kept where nobody asks. -/
  quiet : conversation.server.asksForSettings = false →
    conversation.waiting = [] ∧ conversation.server.settings.cached? uri = none
  mark_le : late.mark ≤ conversation.asked
  document_eq : conversation.server.documents.get? uri = currentDocument uri news
  /-- Who asked after the last news has the document as it is. -/
  known : ∀ waiting ∈ conversation.waiting, ∃ remainder, waiting.Is remainder ∧
    ∀ document, remainder.document? uri = some document → late.mark ≤ waiting.number →
      conversation.server.documents.get? uri = some document
  fits : late.shown = false → Rescanning uri conversation late.mark ∨
    ∀ shown, shown? uri sent = some shown →
      Fits (conversation.server.documents.get? uri) shown
  shown_of_opened : (∃ document, .opened uri document ∈ news) →
    Rescanning uri conversation late.mark ∨ shown? uri sent ≠ none
  not_fits : late.shown = true → conversation.server.documents.get? uri = none →
    ∃ shown, shown? uri sent = some shown ∧ shown ≠ ([], none)
  kept_eq : conversation.server.documents.get? uri = none →
    (conversation.server.settings.cached? uri).isSome = late.kept

/-- The calls that wait in a conversation, given those that waited before and what is left to do. -/
structure GoesOn (earlier : List (Waiting Caller)) (asked : Nat) (next : Conversation Caller)
    (rest : Option Remainder) : Prop where
  asked_le : asked ≤ next.asked
  earlier_mem : ∀ waiting ∈ earlier, waiting ∈ next.waiting
  cases_mem : ∀ waiting ∈ next.waiting, waiting ∈ earlier ∨
    ∃ remainder ∈ rest, waiting.number = asked ∧ waiting.Is remainder
  exists_mem : ∀ remainder ∈ rest, ∃ waiting ∈ next.waiting,
    waiting.number = asked ∧ waiting.Is remainder

/-- Where nothing waited and nothing is left to do, nothing waits. -/
theorem GoesOn.waiting_eq_nil {earlier : List (Waiting Caller)} {asked : Nat}
    {next : Conversation Caller} {rest : Option Remainder} (hgoes : GoesOn earlier asked next rest)
    (hearlier : earlier = []) (hrest : rest = none) : next.waiting = [] := by
  rw [List.eq_nil_iff_forall_not_mem]
  intro waiting hwaiting
  rcases hgoes.cases_mem waiting hwaiting with hmem | ⟨remainder, hremainder, -⟩
  · simp [hearlier] at hmem
  · simp [hrest] at hremainder

/-- A server that does not ask has nothing left to do. -/
theorem eq_none_of_quiet {server : Server} {rest : Option Remainder}
    (hfits : ∀ remainder ∈ rest, remainder.FitsTo server)
    (hquiet : server.asksForSettings = false) : rest = none := by
  rw [Option.eq_none_iff_forall_not_mem]
  intro remainder hremainder
  exact absurd ((hfits remainder hremainder).asks.symm.trans hquiet) (by decide)

namespace Conversation

variable (conversation : Conversation Caller)

theorem goesOn_proceed (caller : Caller) (reaction : Reaction) (server : Server)
    (events : List Event) (rest : Option Remainder) :
    let turn := conversation.proceed caller (halt reaction server events rest)
    turn.conversation.server = server ∧ turn.events = events ∧
      GoesOn conversation.waiting conversation.asked turn.conversation rest := by
  cases rest with
  | none =>
      refine ⟨rfl, rfl, Nat.le_refl _, fun _ h => h, fun _ h => .inl h, ?_⟩
      intro remainder hremainder
      simp at hremainder
  | some remainder =>
      have hmem : (⟨conversation.asked, remainder.question, caller, remainder.resume⟩ :
          Waiting Caller) ∈ conversation.waiting ++
            [⟨conversation.asked, remainder.question, caller, remainder.resume⟩] :=
        List.mem_append_right _ List.mem_cons_self
      refine ⟨rfl, rfl, Nat.le_succ _, fun _ h => List.mem_append_left _ h, ?_, ?_⟩
      · intro waiting hwaiting
        rcases List.mem_append.mp hwaiting with hearlier | hlast
        · exact .inl hearlier
        · obtain rfl := List.mem_singleton.mp hlast
          exact .inr ⟨remainder, rfl, rfl, rfl, rfl⟩
      · intro other hother
        obtain rfl := Option.some.inj hother
        exact ⟨_, hmem, rfl, rfl, rfl⟩

/-- No two calls wait for the reply to one question. -/
theorem eq_of_number_eq {first second : Waiting Caller} (hfirst : first ∈ conversation.waiting)
    (hsecond : second ∈ conversation.waiting) (hnumber : first.number = second.number) :
    first = second := by
  obtain ⟨hnumbers, -, -⟩ := List.pairwise_append.mp conversation.numbered
  have hnodup : (conversation.waiting.map Waiting.number).Nodup :=
    hnumbers.imp fun hlt => Nat.ne_of_lt hlt
  exact List.inj_on_of_nodup_map hnodup hfirst hsecond hnumber

end Conversation

/-! ## Something is told -/

section

variable {uri : Uri} {conversation next : Conversation Caller} {late : Lateness}
  {news : List Notification} {sent : List Message} {events : List Event} {rest : Option Remainder}

/-- One more thing is told: who waits then, and what is sent and asked. -/
structure Tells (conversation : Conversation Caller) (notification : Notification)
    (next : Conversation Caller) (events : List Event) (rest : Option Remainder) : Prop where
  goesOn : GoesOn conversation.waiting conversation.asked next rest
  server_eq : next.server = conversation.server.told notification
  noted : Noted notification next.server events rest

namespace Tells

variable {notification : Notification}

theorem document_eq (htells : Tells conversation notification next events rest) (uri : Uri) :
    next.server.documents.get? uri =
      notification.documentAfter uri (conversation.server.documents.get? uri) := by
  have hview := congrArg View.document (Server.view_told uri notification conversation.server)
  rw [View.document_told, ← htells.server_eq] at hview
  exact hview

/-- Without news of a document, it stays as it is. -/
theorem same_document (htells : Tells conversation notification next events rest)
    (hother : notification.uri? ≠ some uri) :
    next.server.documents.get? uri = conversation.server.documents.get? uri :=
  (htells.document_eq uri).trans (Notification.documentAfter_of_uri?_ne hother)

/-- What is sent fits the documents as they are then. -/
theorem fits_of_shown (htells : Tells conversation notification next events rest)
    {shown : List Diagnostic × Option Int} (hshown : shown? uri (messages events) = some shown) :
    Fits (next.server.documents.get? uri) shown := by
  by_cases hclosed : ∃ other, notification = .closed other
  · obtain ⟨other, rfl⟩ := hclosed
    rw [htells.noted.farewell other rfl, shown?_singleton, Message.diagnostics?] at hshown
    split at hshown
    · rename_i h
      obtain rfl := Option.some.inj hshown
      simp [htells.server_eq, h, Server.told, Server.forget, Fits]
    · simp at hshown
  · obtain ⟨document, limit, hopen, rfl⟩ :=
      htells.noted.scans (not_exists.mp hclosed) uri shown hshown
    rw [hopen]
    exact ⟨limit, rfl⟩

/-- A document that something is told about is shown or scanned, or it was and is not open. -/
theorem rescanning (htells : Tells conversation notification next events rest)
    (hown : notification.uri? = some uri) (hsilent : shown? uri (messages events) = none) :
    (next.server.documents.get? uri ≠ none ∧ Rescanning uri next conversation.asked) ∨
      next.server.documents.get? uri = none ∧ conversation.server.documents.get? uri = none ∧
        ∀ content, notification ≠ .opened uri content := by
  cases hopen : next.server.documents.get? uri with
  | some document =>
      rcases htells.noted.own uri document hown hopen with hshown | hrest
      · exact absurd hsilent hshown
      · obtain ⟨waiting, hwaiting, hnumber, his⟩ := htells.goesOn.exists_mem _ hrest
        exact .inl ⟨Option.some_ne_none document, waiting, hwaiting, Nat.le_of_eq hnumber.symm,
          document, [], his⟩
  | none =>
      have hafter := (htells.document_eq uri).symm.trans hopen
      rcases Notification.of_documentAfter_eq_none hafter with rfl | ⟨hbefore, hother⟩
      · rw [htells.noted.farewell uri rfl, shown?_singleton, Message.diagnostics?,
          if_pos rfl] at hsilent
        exact absurd hsilent (Option.some_ne_none _)
      · exact .inr ⟨rfl, hbefore, hother⟩

end Tells

theorem Lateness.mark_told (late : Lateness) (uri : Uri) (asked : Nat)
    (notification : Notification) (events : List Event) :
    (late.told uri asked notification events).mark =
      if notification.uri? = some uri then asked else late.mark :=
  rfl

namespace Accounted

variable {notification : Notification}

/-- Who scans has an open document. -/
theorem open_of_rescanning (haccounted : Accounted uri conversation late news sent)
    (hscans : Rescanning uri conversation late.mark) :
    conversation.server.documents.get? uri ≠ none := by
  obtain ⟨waiting, hwaiting, hmark, document, others, his⟩ := hscans
  obtain ⟨remainder, hremainder, hknown⟩ := haccounted.known waiting hwaiting
  have hquestion : remainder.question = .settings uri := hremainder.1.symm.trans his.1
  obtain ⟨found, hfound⟩ := (remainder.question_eq_iff uri).mp hquestion
  rw [hknown found hfound hmark]
  exact Option.some_ne_none found

/-- News of a document make earlier questions old, and news of another one leave it as it is. -/
theorem known_told (haccounted : Accounted uri conversation late news sent)
    (htells : Tells conversation notification next events rest) :
    ∀ waiting ∈ next.waiting, ∃ remainder, waiting.Is remainder ∧
      ∀ document, remainder.document? uri = some document →
        (late.told uri conversation.asked notification events).mark ≤ waiting.number →
        next.server.documents.get? uri = some document := by
  intro waiting hwaiting
  rcases htells.goesOn.cases_mem waiting hwaiting with hearlier | ⟨remainder, hremainder, -, his⟩
  · obtain ⟨remainder, his, hknown⟩ := haccounted.known waiting hearlier
    refine ⟨remainder, his, fun document hfound hlater => ?_⟩
    rw [late.mark_told] at hlater
    split at hlater
    · exact absurd (Conversation.number_lt hearlier) (Nat.not_lt.mpr hlater)
    · rename_i hother
      rw [htells.same_document hother]
      exact hknown document hfound hlater
  · exact ⟨remainder, his, fun document hfound _ =>
      (htells.noted.fits remainder hremainder).current uri document hfound⟩

theorem fits_told (haccounted : Accounted uri conversation late news sent)
    (htells : Tells conversation notification next events rest)
    (hlate : (late.told uri conversation.asked notification events).shown = false) :
    Rescanning uri next (late.told uri conversation.asked notification events).mark ∨
      ∀ shown, shown? uri (sent ++ messages events) = some shown →
        Fits (next.server.documents.get? uri) shown := by
  cases hnew : shown? uri (messages events) with
  | some shown =>
      right
      intro other hother
      rw [shown?_append, hnew, Option.some_or] at hother
      obtain rfl := Option.some.inj hother
      exact htells.fits_of_shown hnew
  | none =>
      have hbefore : late.shown = false := by simpa [Lateness.told, hnew] using hlate
      rw [shown?_append, hnew, Option.none_or, late.mark_told]
      by_cases hown : notification.uri? = some uri
      · rw [if_pos hown]
        refine (htells.rescanning hown hnew).imp And.right ?_
        rintro ⟨hclosed, hearlier, -⟩
        rw [hclosed, ← hearlier]
        exact (haccounted.fits hbefore).resolve_left fun hscans =>
          haccounted.open_of_rescanning hscans hearlier
      · rw [if_neg hown, htells.same_document hown]
        exact (haccounted.fits hbefore).imp_left (·.mono htells.goesOn.earlier_mem)

theorem shown_of_opened_told (haccounted : Accounted uri conversation late news sent)
    (htells : Tells conversation notification next events rest)
    (hopened : ∃ document, .opened uri document ∈ news ++ [notification]) :
    Rescanning uri next (late.told uri conversation.asked notification events).mark ∨
      shown? uri (sent ++ messages events) ≠ none := by
  obtain ⟨document, hopened⟩ := hopened
  rw [shown?_append]
  cases hnew : shown? uri (messages events) with
  | some shown => exact .inr (Option.some_ne_none shown)
  | none =>
      rw [Option.none_or, late.mark_told]
      by_cases hown : notification.uri? = some uri
      · rw [if_pos hown]
        refine (htells.rescanning hown hnew).imp And.right ?_
        rintro ⟨-, hearlier, hother⟩
        rcases List.mem_append.mp hopened with hopened | hlast
        · exact (haccounted.shown_of_opened ⟨document, hopened⟩).resolve_left fun hscans =>
            haccounted.open_of_rescanning hscans hearlier
        · exact absurd (List.mem_singleton.mp hlast).symm (hother document)
      · rw [if_neg hown]
        rcases List.mem_append.mp hopened with hopened | hlast
        · exact (haccounted.shown_of_opened ⟨document, hopened⟩).imp_left
            (·.mono htells.goesOn.earlier_mem)
        · exact absurd (by rw [← List.mem_singleton.mp hlast]; rfl) hown

theorem not_fits_told (haccounted : Accounted uri conversation late news sent)
    (htells : Tells conversation notification next events rest)
    (hlate : (late.told uri conversation.asked notification events).shown = true)
    (hclosed : next.server.documents.get? uri = none) :
    ∃ shown, shown? uri (sent ++ messages events) = some shown ∧ shown ≠ ([], none) := by
  obtain ⟨hbefore, hnew⟩ : late.shown = true ∧ shown? uri (messages events) = none := by
    simpa [Lateness.told] using hlate
  rw [shown?_append, hnew, Option.none_or]
  by_cases hown : notification.uri? = some uri
  · rcases htells.rescanning hown hnew with ⟨hopen, -⟩ | ⟨-, hearlier, -⟩
    · exact absurd hclosed hopen
    · exact haccounted.not_fits hbefore hearlier
  · rw [htells.same_document hown] at hclosed
    exact haccounted.not_fits hbefore hclosed

theorem told (haccounted : Accounted uri conversation late news sent)
    (htells : Tells conversation notification next events rest) :
    Accounted uri next (late.told uri conversation.asked notification events)
      (news ++ [notification]) (sent ++ messages events) := by
  have hview := Server.view_told uri notification conversation.server
  rw [← htells.server_eq] at hview
  have hphase : next.server.phase = conversation.server.phase := by
    rw [htells.server_eq, Server.phase_told]
  have hasks : next.server.asksForSettings = conversation.server.asksForSettings :=
    (congrArg View.asksForSettings hview).trans (View.asksForSettings_told uri _ notification)
  have hcached : next.server.settings.cached? uri =
      if notification.drops uri then none else conversation.server.settings.cached? uri :=
    (congrArg View.cached hview).trans
      (View.cached_told_of_quiet uri (fun h => (haccounted.quiet h).2) notification)
  constructor
  case begun =>
    rw [hphase, hasks]
    exact haccounted.begun
  case quiet =>
    rw [hasks, hcached]
    intro hquiet
    obtain ⟨hnone, hkept⟩ := haccounted.quiet hquiet
    have hrest := eq_none_of_quiet htells.noted.fits (hasks.trans hquiet)
    exact ⟨htells.goesOn.waiting_eq_nil hnone hrest, by simp [hkept]⟩
  case mark_le =>
    refine Nat.le_trans ?_ htells.goesOn.asked_le
    rw [late.mark_told]
    split
    · exact Nat.le_refl _
    · exact haccounted.mark_le
  case document_eq =>
    rw [htells.document_eq, currentDocument_append_singleton, haccounted.document_eq]
  case known => exact haccounted.known_told htells
  case fits => exact haccounted.fits_told htells
  case shown_of_opened => exact haccounted.shown_of_opened_told htells
  case not_fits => exact haccounted.not_fits_told htells
  case kept_eq =>
    intro hclosed
    rw [hcached]
    rw [htells.document_eq] at hclosed
    cases hdrops : notification.drops uri with
    | true => simp [Lateness.told, hdrops]
    | false =>
        rcases Notification.of_documentAfter_eq_none hclosed with rfl | ⟨hearlier, -⟩
        · simp [Notification.drops] at hdrops
        · simp [Lateness.told, hdrops, haccounted.kept_eq hearlier]

end Accounted

end

/-! ## Handling is taken up -/

section

variable {uri : Uri} {conversation next : Conversation Caller} {late : Lateness}
  {news : List Notification} {sent : List Message} {events : List Event} {rest : Option Remainder}
  {waiting : Waiting Caller} {remainder : Remainder} {reply : Reply}

/-- A call that waits is taken up: who waits then, and what is sent and asked. -/
structure TakesUp (conversation : Conversation Caller) (waiting : Waiting Caller)
    (remainder : Remainder) (reply : Reply) (next : Conversation Caller) (events : List Event)
    (rest : Option Remainder) : Prop where
  mem : waiting ∈ conversation.waiting
  is : waiting.Is remainder
  goesOn : GoesOn (conversation.drop waiting.number).waiting conversation.asked next rest
  server_eq : next.server = remainder.keep reply conversation.server
  fits : ∀ remainder ∈ rest, remainder.FitsTo next.server
  /-- Documents are shown as they are, or as they were when the question was asked. -/
  shows : ∀ uri shown, shown? uri (messages events) = some shown →
    ∃ document limit, (conversation.server.documents.get? uri = some document ∨
        remainder.document? uri = some document) ∧
      shown = (Diagnostic.scan document.text limit, some document.version)
  own : ∀ uri document others, waiting.Is (.scans uri document others) →
    shown? uri (messages events) ≠ none

namespace TakesUp

theorem documents_eq (htakes : TakesUp conversation waiting remainder reply next events rest) :
    next.server.documents = conversation.server.documents := by
  obtain ⟨settings, hkeep⟩ := remainder.exists_keep_eq reply conversation.server
  rw [htakes.server_eq, hkeep]

/-- A document that was asked about is as it was, or the reply is late. -/
theorem document_of_not_late
    (htakes : TakesUp conversation waiting remainder reply next events rest)
    (hknown : ∀ document, remainder.document? uri = some document →
      late.mark ≤ waiting.number → conversation.server.documents.get? uri = some document)
    {document : Document} (hfound : remainder.document? uri = some document)
    (hlate : waiting.isLate uri late.mark = false) :
    conversation.server.documents.get? uri = some document := by
  have hquestion : waiting.question = .settings uri :=
    htakes.is.1.trans ((remainder.question_eq_iff uri).mpr ⟨document, hfound⟩)
  exact hknown document hfound (by simpa [Waiting.isLate, hquestion] using hlate)

/-- Another scan still waits. -/
theorem rescanning (htakes : TakesUp conversation waiting remainder reply next events rest)
    (hsilent : shown? uri (messages events) = none) {mark : Nat}
    (hscans : Rescanning uri conversation mark) : Rescanning uri next mark := by
  obtain ⟨other, hother, hmark, document, others, hscans⟩ := hscans
  refine ⟨other, htakes.goesOn.earlier_mem other ?_, hmark, document, others, hscans⟩
  rw [Conversation.drop, List.mem_filter, decide_eq_true_eq]
  refine ⟨hother, fun hnumber => ?_⟩
  obtain rfl := conversation.eq_of_number_eq hother htakes.mem hnumber
  exact htakes.own uri document others hscans hsilent

end TakesUp

namespace Accounted

/-- A reply shows a document as it was when the question was asked, which is as it is unless the
reply is late, and documents as they are. -/
theorem replied (haccounted : Accounted uri conversation late news sent)
    (htakes : TakesUp conversation waiting remainder reply next events rest)
    (hknown : ∀ document, remainder.document? uri = some document →
      late.mark ≤ waiting.number → conversation.server.documents.get? uri = some document) :
    Accounted uri next (late.replied uri waiting reply events) news (sent ++ messages events) := by
  obtain ⟨settings, hkeep⟩ := remainder.exists_keep_eq reply conversation.server
  constructor
  case begun =>
    rw [htakes.server_eq, hkeep]
    exact haccounted.begun
  case quiet =>
    intro hquiet
    rw [htakes.server_eq, hkeep] at hquiet
    have hwaiting := htakes.mem
    rw [(haccounted.quiet hquiet).1] at hwaiting
    exact absurd hwaiting List.not_mem_nil
  case mark_le => exact Nat.le_trans haccounted.mark_le htakes.goesOn.asked_le
  case document_eq => rw [htakes.documents_eq, haccounted.document_eq]
  case known =>
    intro other hother
    rcases htakes.goesOn.cases_mem other hother with hearlier | ⟨remainder, hremainder, -, hother⟩
    · obtain ⟨remainder, hother, hearlier⟩ :=
        haccounted.known other (List.mem_of_mem_filter hearlier)
      refine ⟨remainder, hother, ?_⟩
      rw [htakes.documents_eq]
      exact hearlier
    · exact ⟨remainder, hother, fun document hfound _ =>
        (htakes.fits remainder hremainder).current uri document hfound⟩
  case fits =>
    rw [htakes.documents_eq]
    intro hlate
    cases hnew : shown? uri (messages events) with
    | some shown =>
        have hlate : waiting.isLate uri late.mark = false := by
          simpa [Lateness.replied, hnew] using hlate
        obtain ⟨document, limit, hdocument, rfl⟩ := htakes.shows uri shown hnew
        have hopen : conversation.server.documents.get? uri = some document :=
          hdocument.elim id fun hfound => htakes.document_of_not_late hknown hfound hlate
        right
        intro other hother
        rw [shown?_append, hnew, Option.some_or] at hother
        rw [← Option.some.inj hother, hopen]
        exact ⟨limit, rfl⟩
    | none =>
        have hlate : late.shown = false := by simpa [Lateness.replied, hnew] using hlate
        rw [shown?_append, hnew, Option.none_or]
        exact (haccounted.fits hlate).imp_left (htakes.rescanning hnew)
  case shown_of_opened =>
    intro hopened
    rw [shown?_append]
    cases hnew : shown? uri (messages events) with
    | some shown => exact .inr (Option.some_ne_none shown)
    | none => exact (haccounted.shown_of_opened hopened).imp_left (htakes.rescanning hnew)
  case not_fits =>
    rw [htakes.documents_eq, shown?_append]
    intro hlate hclosed
    cases hnew : shown? uri (messages events) with
    | some shown =>
        obtain ⟨document, limit, -, rfl⟩ := htakes.shows uri shown hnew
        exact ⟨_, rfl, by simp⟩
    | none =>
        have hlate : late.shown = true := by simpa [Lateness.replied, hnew] using hlate
        exact haccounted.not_fits hlate hclosed
  case kept_eq =>
    rw [htakes.documents_eq, htakes.server_eq, remainder.cached?_keep, ← htakes.is.1]
    intro hclosed
    have hkept := haccounted.kept_eq hclosed
    by_cases hquestion : waiting.question = .settings uri
    · -- whoever asked about a closed document did so before it was closed
      obtain ⟨document, hfound⟩ :=
        (remainder.question_eq_iff uri).mp (htakes.is.1.symm.trans hquestion)
      have hlate : waiting.isLate uri late.mark = true := by
        by_contra h
        have hopen := htakes.document_of_not_late hknown hfound (by simpa using h)
        exact absurd (hclosed.symm.trans hopen) (Option.some_ne_none document).symm
      rw [if_pos hquestion, Lateness.replied, Option.isSome_or, hkept, hlate, Bool.true_and,
        Bool.or_comm]
    · have hlate : waiting.isLate uri late.mark = false := by simp [Waiting.isLate, hquestion]
      rw [if_neg hquestion, Lateness.replied, hkept, hlate, Bool.false_and, Bool.or_false]

/-! ## Nothing is told -/

/-- A call that tells nothing changes nothing of a document. -/
theorem unchanged [UriReading] {call : Call}
    (haccounted : Accounted uri conversation late news sent)
    (hgoes : GoesOn conversation.waiting conversation.asked next rest)
    (hdocuments : next.server.documents = conversation.server.documents)
    (hsettings : next.server.settings = conversation.server.settings)
    (hphase : next.server.phase = conversation.server.phase.after call)
    (hasks : ¬ (conversation.server.phase = .uninitialized ∧ next.server.phase = .ready) →
      next.server.asksForSettings = conversation.server.asksForSettings)
    (hfits : ∀ remainder ∈ rest, remainder.FitsTo next.server) :
    Accounted uri next late news sent := by
  have hstill (hscans : Rescanning uri conversation late.mark) : Rescanning uri next late.mark :=
    hscans.mono hgoes.earlier_mem
  constructor
  case begun =>
    intro hask hnew
    have hold : conversation.server.asksForSettings = true := by
      rw [← hasks fun h => by simp [hnew] at h]
      exact hask
    rw [hphase] at hnew
    exact Phase.after_ne_uninitialized (haccounted.begun hold) call hnew
  case quiet =>
    intro hquiet
    have hold : conversation.server.asksForSettings = false := by
      by_contra hask
      have hbegun := haccounted.begun (by simpa using hask)
      rw [hasks fun h => hbegun h.1] at hquiet
      exact hask hquiet
    rw [hsettings]
    exact ⟨hgoes.waiting_eq_nil (haccounted.quiet hold).1 (eq_none_of_quiet hfits hquiet),
      (haccounted.quiet hold).2⟩
  case mark_le => exact Nat.le_trans haccounted.mark_le hgoes.asked_le
  case document_eq => rw [hdocuments, haccounted.document_eq]
  case known =>
    intro waiting hwaiting
    rw [hdocuments]
    rcases hgoes.cases_mem waiting hwaiting with hearlier | ⟨remainder, hremainder, -, his⟩
    · exact haccounted.known waiting hearlier
    · refine ⟨remainder, his, fun document hfound _ => ?_⟩
      rw [← hdocuments]
      exact (hfits remainder hremainder).current uri document hfound
  case fits =>
    rw [hdocuments]
    exact fun hlate => (haccounted.fits hlate).imp_left hstill
  case shown_of_opened => exact fun hopened => (haccounted.shown_of_opened hopened).imp_left hstill
  case not_fits =>
    rw [hdocuments]
    exact haccounted.not_fits
  case kept_eq =>
    rw [hdocuments, hsettings]
    exact haccounted.kept_eq

end Accounted

end

end PolicyEditing
