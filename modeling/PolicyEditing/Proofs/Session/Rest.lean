import PolicyEditing.Proofs.Session.Overlap

/-!
# Conversations at rest

An editor may edit and close documents while it still owes replies, and it may reply in any order.
When all calls are handled to their end, what is shown for a document is what the editor told last,
with one exception: a reply that came too late shows the document as it was, and may leave settings
behind for one that is closed (`shown_after_close`).  `fits_at_rest` says that there is no other.
-/

namespace PolicyEditing

variable {Caller : Type}

/-! ## One move -/

theorem events_eq_of_halt_eq {reaction reaction' : Reaction} {server server' : Server}
    {events events' : List Event} {rest rest' : Option Remainder}
    (h : halt reaction server events rest = halt reaction' server' events' rest') :
    events = events' := by
  cases rest <;> cases rest' <;> simp_all [halt]

namespace Conversation

variable {uri : Uri} {conversation : Conversation Caller} {late : Lateness}
  {news : List Notification} {sent : List Message}

theorem of_waitingFor?_eq_some {number : Nat} {waiting : Waiting Caller}
    (hfound : conversation.waitingFor? number = some waiting) :
    waiting ∈ conversation.waiting ∧ waiting.number = number := by
  unfold waitingFor? at hfound
  split at hfound
  · simp at hfound
  · exact ⟨List.mem_of_find?_eq_some hfound, by simpa using List.find?_some hfound⟩

theorem accounted_fresh (uri : Uri) :
    Accounted uri (fresh : Conversation Caller) .none [] [] where
  begun := by simp [fresh, Server.fresh]
  quiet _ := ⟨rfl, rfl⟩
  mark_le := Nat.le_refl 0
  document_eq := rfl
  known := by simp [fresh]
  fits _ := .inr (by simp [shown?])
  shown_of_opened := by simp
  not_fits := by simp [Lateness.none]
  kept_eq _ := rfl

section

variable [UriReading]

/-- A move keeps account of a document, and moves the phase on. -/
def KeepsAccount (uri : Uri) (conversation : Conversation Caller) (late : Lateness)
    (news : List Notification) (sent : List Message) (next : Move Caller) : Prop :=
  Accounted uri (conversation.move next).conversation (conversation.lateAfter uri late next)
      (news ++ (next.tells? conversation.server.phase).toList)
      (sent ++ messages (conversation.move next).events) ∧
    (conversation.move next).conversation.server.phase = next.phaseAfter conversation.server.phase

theorem keepsAccount_of_hears (haccounted : Accounted uri conversation late news sent)
    (caller : Caller) {call : Call} {notification : Notification}
    (hhears : conversation.server.phase.hears? call = some notification) :
    KeepsAccount uri conversation late news sent (.call caller call) := by
  obtain ⟨events, rest, hreceive, hnoted⟩ := Server.receive_eq_halt_of_hears hhears
  have hmove : conversation.move (.call caller call) = conversation.proceed caller
      (halt .silent (conversation.server.told notification) events rest) := by
    rw [move, hreceive]
  obtain ⟨hserver, hevents, hgoes⟩ := conversation.goesOn_proceed caller .silent
    (conversation.server.told notification) events rest
  rw [← hmove] at hserver hevents hgoes
  have hlate : conversation.lateAfter uri late (.call caller call) =
      late.told uri conversation.asked notification events := by
    simp only [lateAfter, hhears, hevents]
  have htold : (Move.call caller call).tells? conversation.server.phase = some notification :=
    hhears
  rw [KeepsAccount, hlate, hevents, htold]
  refine ⟨haccounted.told ⟨hgoes, hserver, hserver ▸ hnoted⟩, ?_⟩
  obtain ⟨-, hcall⟩ := Phase.hears?_eq_some hhears
  rw [hserver, Move.phaseAfter, Phase.after_of_notification hcall, Server.phase_told]

theorem keepsAccount_of_unheard (haccounted : Accounted uri conversation late news sent)
    (caller : Caller) {call : Call} (hhears : conversation.server.phase.hears? call = none) :
    KeepsAccount uri conversation late news sent (.call caller call) := by
  obtain ⟨reaction, phase, asksForSettings, hasFolders, events, rest, hreceive, hsilent,
    hasks, hphase, hfits⟩ := Server.receive_eq_halt hhears
  have hmove : conversation.move (.call caller call) = conversation.proceed caller (halt reaction
      { conversation.server with phase, asksForSettings, hasFolders } events rest) := by
    rw [move, hreceive]
  obtain ⟨hserver, hevents, hgoes⟩ := conversation.goesOn_proceed caller reaction
    { conversation.server with phase, asksForSettings, hasFolders } events rest
  rw [← hmove] at hserver hevents hgoes
  have hlate : conversation.lateAfter uri late (.call caller call) = late := by
    simp only [lateAfter, hhears]
  have htold : (Move.call caller call).tells? conversation.server.phase = none := hhears
  rw [KeepsAccount, hlate, hevents, htold, hsilent, Option.toList_none, List.append_nil,
    List.append_nil]
  have hafter : (conversation.move (.call caller call)).conversation.server.phase =
      conversation.server.phase.after call := by rw [hserver, hphase]
  refine ⟨haccounted.unchanged hgoes ?_ ?_ hafter ?_ ?_, hafter⟩
  · rw [hserver]
  · rw [hserver]
  · rw [hserver]
    exact hasks
  · rw [hserver]
    exact hfits

theorem keepsAccount_of_reply (haccounted : Accounted uri conversation late news sent)
    (reply : Reply) {waiting : Waiting Caller}
    (hfound : conversation.waitingFor? waiting.number = some waiting) :
    KeepsAccount uri conversation late news sent (.reply waiting.number reply) := by
  obtain ⟨hwaiting, -⟩ := of_waitingFor?_eq_some hfound
  obtain ⟨remainder, his, hknown⟩ := haccounted.known waiting hwaiting
  obtain ⟨reaction, events, rest, hresume, hfits, hshows, -⟩ :=
    remainder.resume_eq_halt reply conversation.server
  have hmove : conversation.move (.reply waiting.number reply) =
      (conversation.drop waiting.number).proceed waiting.caller
        (halt reaction (remainder.keep reply conversation.server) events rest) := by
    rw [move, hfound]
    dsimp only
    rw [his.2, hresume]
  obtain ⟨hserver, hevents, hgoes⟩ := (conversation.drop waiting.number).goesOn_proceed
    waiting.caller reaction (remainder.keep reply conversation.server) events rest
  rw [← hmove] at hserver hevents hgoes
  have hown : ∀ uri document others, waiting.Is (.scans uri document others) →
      shown? uri (messages events) ≠ none := by
    intro uri document others hscans
    obtain ⟨_, events', _, hresume', -, -, hshown⟩ :=
      (Remainder.scans uri document others).resume_eq_halt reply conversation.server
    rw [← hscans.2, his.2, hresume] at hresume'
    rw [events_eq_of_halt_eq hresume']
    exact hshown uri document others rfl
  have hlate : conversation.lateAfter uri late (.reply waiting.number reply) =
      late.replied uri waiting reply events := by
    simp only [lateAfter, hfound, hevents]
  rw [KeepsAccount, hlate, hevents, Move.tells?, Option.toList_none, List.append_nil]
  have htakes : TakesUp conversation waiting remainder reply _ events rest :=
    ⟨hwaiting, his, hgoes, hserver, hserver ▸ hfits, hshows, hown⟩
  refine ⟨haccounted.replied htakes hknown, ?_⟩
  obtain ⟨settings, hkeep⟩ := remainder.exists_keep_eq reply conversation.server
  rw [hserver, hkeep, Move.phaseAfter]

/-- A reply that nobody waits for changes nothing. -/
theorem keepsAccount_of_unasked (haccounted : Accounted uri conversation late news sent)
    (reply : Reply) {number : Nat} (hfound : conversation.waitingFor? number = none) :
    KeepsAccount uri conversation late news sent (.reply number reply) := by
  have hmove : conversation.move (.reply number reply) = ⟨conversation, [], .unchanged⟩ := by
    rw [move, hfound]
  have hlate : conversation.lateAfter uri late (.reply number reply) = late := by
    simp only [lateAfter, hfound]
  have hnothing : messages ([] : List Event) = [] := rfl
  rw [KeepsAccount, hmove, hlate, hnothing, Move.tells?, Option.toList_none, List.append_nil,
    List.append_nil]
  exact ⟨haccounted, rfl⟩

theorem keepsAccount (haccounted : Accounted uri conversation late news sent)
    (next : Move Caller) : KeepsAccount uri conversation late news sent next := by
  cases next with
  | call caller call =>
      cases hhears : conversation.server.phase.hears? call with
      | some notification => exact keepsAccount_of_hears haccounted caller hhears
      | none => exact keepsAccount_of_unheard haccounted caller hhears
  | reply number reply =>
      cases hfound : conversation.waitingFor? number with
      | some waiting =>
          obtain ⟨-, rfl⟩ := of_waitingFor?_eq_some hfound
          exact keepsAccount_of_reply haccounted reply hfound
      | none => exact keepsAccount_of_unasked haccounted reply hfound

theorem accounted_run (haccounted : Accounted uri conversation late news sent)
    (moves : List (Move Caller)) :
    Accounted uri (conversation.afterMoves moves) (conversation.lateness uri late moves)
      (news ++ toldIn conversation.server.phase moves)
      (sent ++ messages ((conversation.turns moves).flatMap Turn.events)) := by
  induction moves generalizing conversation late news sent with
  | nil => simpa [afterMoves, lateness, toldIn, turns, messages] using haccounted
  | cons next rest ih =>
      obtain ⟨hmove, hphase⟩ := keepsAccount haccounted next
      have hrest := ih hmove
      rw [hphase] at hrest
      simpa [afterMoves, lateness, toldIn, turns] using hrest

/-- **At rest, what is shown is what was told, unless a reply came too late.**  Whatever the editor
tells, and in whatever order it replies, when no call waits any more: the server holds each document
as it was opened and edited.  What is shown for a document that was ever opened is a scan of its
current text at its current version, or nothing if it was closed, unless the reply that led to it
was to a question from before the last news of the document.  For a closed document such a reply
always does show something else, and settings are kept for it exactly if one brought some since they
were last dropped. -/
theorem fits_at_rest {moves : List (Move Caller)} (hrest : (fresh.afterMoves moves).waiting = [])
    (uri : Uri) :
    let news := toldIn .uninitialized moves
    let server := (fresh.afterMoves moves).server
    let document := currentDocument uri news
    let late := fresh.lateness uri .none moves
    server.documents.get? uri = document ∧
      ((∃ content, .opened uri content ∈ news) →
        ∃ shown, shown? uri (messages ((fresh.turns moves).flatMap Turn.events)) = some shown ∧
          (late.shown = false → Fits document shown) ∧
          (document = none → Fits document shown → late.shown = false)) ∧
      (document = none → (server.settings.cached? uri = none ↔ late.kept = false)) := by
  intro news server document late
  have haccounted := accounted_run (accounted_fresh uri) moves
  rw [List.nil_append, List.nil_append] at haccounted
  have hscans : ¬ Rescanning uri (fresh.afterMoves moves) late.mark := by
    rintro ⟨waiting, hwaiting, -⟩
    rw [hrest] at hwaiting
    exact absurd hwaiting List.not_mem_nil
  have hdocument : server.documents.get? uri = document := haccounted.document_eq
  refine ⟨hdocument, ?_, ?_⟩
  · intro hopened
    have hne := (haccounted.shown_of_opened hopened).resolve_left hscans
    obtain ⟨shown, hshown⟩ := Option.ne_none_iff_exists'.mp hne
    refine ⟨shown, hshown, fun hlate => ?_, fun hclosed hfits => ?_⟩
    · rw [← hdocument]
      exact (haccounted.fits hlate).resolve_left hscans shown hshown
    · by_contra hlate
      obtain ⟨other, hother, hne⟩ :=
        haccounted.not_fits (by simpa using hlate) (hdocument.trans hclosed)
      rw [hclosed] at hfits
      exact hne ((Option.some.inj (hother.symm.trans hshown)).trans hfits)
  · intro hclosed
    rw [← haccounted.kept_eq (hdocument.trans hclosed)]
    exact Option.isSome_eq_false_iff.trans Option.isNone_iff_eq_none |>.symm

end

/-- Two documents whose questions are answered in the other order, one of them closed after that. -/
theorem fits_after_crossed_replies :
    let first : Uri := ⟨"file:///a"⟩
    let second : Uri := ⟨"file:///b"⟩
    let opened (uri : String) : Call :=
      ⟨.notification, "textDocument/didOpen", some <| .object
        [("textDocument", .object [("uri", .string uri), ("languageId", .string "guard"),
          ("version", .nat 1), ("text", .string "\"")])]⟩
    let moves : List (Move Unit) :=
      [.call () ⟨.request, "initialize", some <| .object [("capabilities", .object
          [("workspace", .object [("configuration", .bool true)])])]⟩,
        .call () (opened "file:///a"), .call () (opened "file:///b"),
        .reply 1 (.result (.array [.null])), .reply 0 (.result (.array [.null])),
        .call () ⟨.notification, "textDocument/didClose", some <| .object
          [("textDocument", .object [("uri", .string "file:///b")])]⟩]
    let sent := messages ((fresh.turns moves).flatMap Turn.events)
    (fresh.afterMoves moves).waiting = [] ∧
      fresh.lateness first .none moves = ⟨0, false, false⟩ ∧
      fresh.lateness second .none moves = ⟨2, false, false⟩ ∧
      (∃ limit, shown? first sent = some (Diagnostic.scan ['"'] limit, some 1)) ∧
      shown? second sent = some ([], none) := by
  intro first second opened moves sent
  have hrest : (fresh.afterMoves moves).waiting = [] :=
    List.isEmpty_iff.mp (by decide +kernel)
  have hnews : toldIn .uninitialized moves =
      [.opened first ⟨['"'], 1⟩, .opened second ⟨['"'], 1⟩, .closed second] := rfl
  have hopen : currentDocument first (toldIn .uninitialized moves) = some ⟨['"'], 1⟩ := rfl
  have hclosed : currentDocument second (toldIn .uninitialized moves) = none := rfl
  have hfirst : fresh.lateness first .none moves = ⟨0, false, false⟩ := by decide +kernel
  have hsecond : fresh.lateness second .none moves = ⟨2, false, false⟩ := by decide +kernel
  refine ⟨hrest, hfirst, hsecond, ?_, ?_⟩
  · have hopened : ∃ content, .opened first content ∈ toldIn .uninitialized moves := by
      rw [hnews]
      exact ⟨_, List.mem_cons_self⟩
    obtain ⟨shown, hshown, hfits, -⟩ := (fits_at_rest hrest first).2.1 hopened
    rw [hopen, hfirst] at hfits
    obtain ⟨limit, hscan⟩ := hfits rfl
    exact ⟨limit, hshown.trans (congrArg some hscan)⟩
  · have hopened : ∃ content, .opened second content ∈ toldIn .uninitialized moves := by
      rw [hnews]
      exact ⟨_, List.mem_cons_of_mem _ List.mem_cons_self⟩
    obtain ⟨shown, hshown, hfits, -⟩ := (fits_at_rest hrest second).2.1 hopened
    rw [hclosed, hsecond] at hfits
    exact hshown.trans (congrArg some (hfits rfl))

/-- A document that is closed while the editor still owes the reply to its first question: nothing
waits in the end, but its diagnostics come back, and settings are kept for it. -/
theorem shown_after_close :
    let uri : Uri := ⟨"file:///a.guard"⟩
    let moves : List (Move Unit) :=
      [.call () ⟨.request, "initialize", some <| .object [("capabilities", .object
          [("workspace", .object [("configuration", .bool true)])])]⟩,
        .call () ⟨.notification, "textDocument/didOpen", some <| .object
          [("textDocument", .object [("uri", .string "file:///a.guard"),
            ("languageId", .string "guard"), ("version", .nat 1), ("text", .string "\"")])]⟩,
        .call () ⟨.notification, "textDocument/didClose", some <| .object
          [("textDocument", .object [("uri", .string "file:///a.guard")])]⟩,
        .reply 0 (.result (.array [.null]))]
    let news := toldIn .uninitialized moves
    let server := (fresh.afterMoves moves).server
    let sent := messages ((fresh.turns moves).flatMap Turn.events)
    (fresh.afterMoves moves).waiting = [] ∧ server.asksForSettings = true ∧
      news = [.opened uri ⟨['"'], 1⟩, .closed uri] ∧ currentDocument uri news = none ∧
      shown? uri sent = some ([⟨⟨⟨0, 0⟩, ⟨0, 1⟩⟩, .unterminatedString⟩], some 1) ∧
      server.settings.cached? uri = some .default := by
  intro uri moves news server sent
  exact ⟨rfl, rfl, rfl, rfl, by decide +kernel, rfl⟩

end Conversation

end PolicyEditing
