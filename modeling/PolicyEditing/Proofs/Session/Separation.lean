import PolicyEditing.Proofs.Session.Steps

/-!
# Documents do not meet

A run with many documents is, for each of them, the run without the others: if all calls about other
documents are left out, the calls that remain get the same responses, and the messages about the
document are the same (`run_filter_concerns`).

A call that is left out does not change the view of the document (`view_step_of_other`), and what is
seen of every other step depends on nothing but that view (`sight_step_congr`).  So the two runs
keep agreeing on the view, although their servers hold different documents.
-/

namespace PolicyEditing

variable [UriReading]

/-- Whether something that is told is more than news about another document. -/
def Notification.concerns (uri : Uri) : Notification → Bool
  | .opened other _ | .edited other _ _ | .closed other => other = uri
  | .initialized | .configurationChanged _ | .foldersChanged .. | .ignored => true

/-- Whether a request counts for a document.  Explanations and completions are given without leaving
a trace. -/
def Request.concerns (uri : Uri) : Request → Bool
  | .format other _ => other = uri
  | .hover _ _ | .complete | .resolve _ => false
  | .unsupported => true

/-- Whether a call is to be kept when only one document counts. -/
def Call.concerns (uri : Uri) (call : Call) : Bool :=
  call.notification?.all (·.concerns uri) && call.request?.all (·.concerns uri)

/-- What can be seen of a handled call: the reaction to it, and the messages about a document. -/
def Outcome.seen (uri : Uri) (outcome : Outcome Reaction) : Reaction × List Message :=
  (outcome.value, messagesAbout uri outcome.events)

namespace Server

variable {server other : Server} {next : Step} {uri : Uri}

/-! ## Steps that are left out -/

/-- News about another document is not seen. -/
theorem view_step_of_news {notification : Notification}
    (hcall : next.call.notification? = some notification)
    (hother : notification.concerns uri = false) :
    (server.step next).server.view uri = server.view uri := by
  by_cases hready : server.phase = .ready
  · have hhears : server.phase.hears? next.call = some notification := by
      simp [Phase.hears?, hready, hcall]
    obtain ⟨about, habout, hne⟩ : ∃ about, notification.uri? = some about ∧ about ≠ uri := by
      cases notification <;> simp_all [Notification.concerns, Notification.uri?]
    have hsight := sight_step_of_hears uri hhears
    rw [View.note_of_ne hne habout] at hsight
    exact congrArg Sight.view hsight
  · have hafter : server.phase.after next.call = server.phase := Phase.after_of_notification hcall
    have hbegun : ¬ (server.phase = .uninitialized ∧ server.phase.after next.call = .ready) := by
      simp [hafter, hready]
    have hhears : server.phase.hears? next.call = none := by simp [Phase.hears?, hready]
    have hserves : ∀ tabSize, server.phase.serves? next.call ≠ some (.format uri tabSize) := by
      simp [Phase.serves?, hready]
    rw [(view_step_of_unseen uri hbegun hhears hserves).1, hafter]
    rfl

/-- A request that does not count for a document is not seen from it. -/
theorem view_step_of_inquiry {request : Request} (hcall : next.call.request? = some request)
    (hother : request.concerns uri = false) :
    (server.step next).server.view uri = server.view uri := by
  have hafter : server.phase.after next.call = server.phase := Phase.after_of_request hcall
  have hbegun : ¬ (server.phase = .uninitialized ∧ server.phase.after next.call = .ready) := by
    rw [hafter]
    rintro ⟨hbefore, hready⟩
    simp [hbefore] at hready
  have hserves : ∀ tabSize, server.phase.serves? next.call ≠ some (.format uri tabSize) := by
    intro tabSize hformat
    obtain ⟨-, hformat⟩ := Phase.serves?_eq_some hformat
    obtain rfl : request = .format uri tabSize := by simpa [hcall] using hformat
    simp [Request.concerns] at hother
  have hhears : server.phase.hears? next.call = none := Phase.hears?_of_request hcall
  rw [(view_step_of_unseen uri hbegun hhears hserves).1, hafter]
  rfl

theorem view_step_of_other (hother : next.call.concerns uri = false) :
    (server.step next).server.view uri = server.view uri := by
  rw [Call.concerns, Bool.and_eq_false_iff] at hother
  rcases hother with hnews | hinquiry
  · cases hcall : next.call.notification? with
    | none => simp [hcall] at hnews
    | some notification => exact view_step_of_news hcall (by simpa [hcall] using hnews)
  · cases hcall : next.call.request? with
    | none => simp [hcall] at hinquiry
    | some request => exact view_step_of_inquiry hcall (by simpa [hcall] using hinquiry)

/-! ## Steps that remain -/

theorem sight_step_congr_of_idle (hview : server.view uri = other.view uri)
    (hhears : server.phase.hears? next.call = none)
    (hserves : server.phase.serves? next.call = none) :
    (server.step next).sight uri = (other.step next).sight uri := by
  obtain ⟨reaction, asksForSettings, hasFolders, events, -, -, hstep⟩ := step_of_idle hhears hserves
  -- the view fixes everything of a server but its documents and settings
  have hother : ({ server with documents := other.documents, settings := other.settings } :
      Server) = other := by
    cases server
    cases other
    simp_all [view]
  have hfirst := hstep server.documents server.settings
  have hsecond := hstep other.documents other.settings
  rw [hother] at hsecond
  rw [hsecond, show server.step next = _ from hfirst]
  simp_all [Outcome.sight, view]

/-- What is seen of a step that remains depends only on what was seen before. -/
theorem sight_step_congr (hview : server.view uri = other.view uri)
    (hconcerns : next.call.concerns uri = true) :
    (server.step next).sight uri = (other.step next).sight uri := by
  have hphase : other.phase = server.phase := congrArg View.phase hview.symm
  cases hhears : server.phase.hears? next.call with
  | some notification =>
      have hhears' : other.phase.hears? next.call = some notification := by rw [hphase, hhears]
      rw [sight_step_of_hears uri hhears, sight_step_of_hears uri hhears', hview]
  | none =>
      cases hserves : server.phase.serves? next.call with
      | none => exact sight_step_congr_of_idle hview hhears hserves
      | some request =>
          have hserves' : other.phase.serves? next.call = some request := by rw [hphase, hserves]
          obtain ⟨hready, hcall⟩ := Phase.serves?_eq_some hserves
          have hrequest : request.concerns uri = true := by
            simp only [Call.concerns, hcall, Bool.and_eq_true] at hconcerns
            exact hconcerns.2
          cases request with
          | hover _ _ | complete | resolve _ => simp [Request.concerns] at hrequest
          | format about tabSize =>
              obtain rfl : about = uri := by simpa [Request.concerns] using hrequest
              rw [sight_step_of_format about hserves, sight_step_of_format about hserves', hview]
          | unsupported =>
              rw [step_of_request hready hcall, step_of_request (hphase.trans hready) hcall]
              simp [serve, Outcome.sight, hview]

/-! ## Runs -/

theorem seen_run_congr (hview : server.view uri = other.view uri) (steps : List Step) :
    ((steps.zip (server.run steps)).filter fun (next, _) => next.call.concerns uri).map
        (fun (_, outcome) => outcome.seen uri) =
      (other.run (steps.filter (·.call.concerns uri))).map (Outcome.seen uri) := by
  induction steps generalizing server other with
  | nil => rfl
  | cons next rest ih =>
      cases hconcerns : next.call.concerns uri with
      | false =>
          have hkept : (server.step next).server.view uri = other.view uri :=
            (view_step_of_other hconcerns).trans hview
          have hrest := ih hkept
          rw [run_cons, List.zip_cons_cons, List.filter_cons_of_neg (by simpa using hconcerns),
            List.filter_cons_of_neg (by simpa using hconcerns)]
          exact hrest
      | true =>
          have hsight := sight_step_congr hview hconcerns
          have hvalue := congrArg Sight.value hsight
          have hmessages := congrArg Sight.messages hsight
          have hrest := ih (congrArg Sight.view hsight)
          dsimp only [Outcome.sight] at hvalue hmessages
          rw [run_cons, List.zip_cons_cons, List.filter_cons_of_pos (by simpa using hconcerns),
            List.filter_cons_of_pos (by simpa using hconcerns), run_cons, List.map_cons,
            List.map_cons, hrest]
          dsimp only [Outcome.seen]
          rw [hvalue, hmessages]

/-- **Documents do not meet.**  Leave all calls out of a run that tell or ask something about other
documents, and all requests for explanations and completions: every step that remains gets the same
response and sends the same messages about the document. -/
theorem run_filter_concerns (uri : Uri) (server : Server) (steps : List Step) :
    ((steps.zip (server.run steps)).filter fun (next, _) => next.call.concerns uri).map
        (fun (_, outcome) => outcome.seen uri) =
      (server.run (steps.filter (·.call.concerns uri))).map (Outcome.seen uri) :=
  seen_run_congr rfl steps

end Server

end PolicyEditing
