import PolicyEditing.Proofs.Session.Phases

/-!
# A step, seen from one document

Three things can happen to a document in a step: the server takes note of something, the document is
laid out, or nothing is to be seen (`step_cases`).  Whatever holds of a document in a whole run is
shown by an induction along these three.
-/

namespace PolicyEditing

namespace Phase

variable [UriReading] {phase : Phase} {call : Call}

theorem hears?_eq_some {notification : Notification}
    (hhears : phase.hears? call = some notification) :
    phase = .ready ∧ call.notification? = some notification := by
  unfold hears? at hhears
  split at hhears
  · rename_i hready
    exact ⟨hready, hhears⟩
  · simp at hhears

theorem serves?_eq_some {request : Request} (hserves : phase.serves? call = some request) :
    phase = .ready ∧ call.request? = some request := by
  unfold serves? at hserves
  split at hserves
  · rename_i hready
    exact ⟨hready, hserves⟩
  · simp at hserves

theorem after_of_notification {notification : Notification}
    (hcall : call.notification? = some notification) : phase.after call = phase := by
  obtain ⟨read, hmethod, -, -⟩ := Call.notification?_eq_some hcall
  simp [after, hmethod]

theorem after_of_request {request : Request} (hcall : call.request? = some request) :
    phase.after call = phase := by
  obtain ⟨read, hmethod, -, -⟩ := Call.request?_eq_some hcall
  simp [after, hmethod]

/-- A call that asks for something tells nothing. -/
theorem hears?_of_request {request : Request} (hcall : call.request? = some request) :
    phase.hears? call = none := by
  obtain ⟨read, hmethod, -, -⟩ := Call.request?_eq_some hcall
  simp [hears?, Call.notification?, hmethod]

end Phase

namespace Server

variable [UriReading] {server : Server} {next : Step} (uri : Uri)

/-! ## The three cases -/

theorem sight_step_of_hears {notification : Notification}
    (hhears : server.phase.hears? next.call = some notification) :
    (server.step next).sight uri =
      let noted := (server.view uri).note uri (next.replies (.settings uri)) notification
      ⟨.silent, noted.view, noted.messages⟩ := by
  obtain ⟨hready, hcall⟩ := Phase.hears?_eq_some hhears
  rw [step_of_notification hready hcall, ← sight_note]
  rfl

theorem sight_step_of_format {tabSize : Nat}
    (hserves : server.phase.serves? next.call = some (.format uri tabSize)) :
    (server.step next).sight uri =
      let laidOut := (server.view uri).format uri tabSize (next.replies (.settings uri))
      ⟨.responded (.ok (.layout laidOut.value)), laidOut.view, laidOut.messages⟩ := by
  obtain ⟨hready, hcall⟩ := Phase.serves?_eq_some hserves
  rw [step_of_request hready hcall, ← sight_format, serve, Activity.map, Activity.run_andThen]
  simp [Outcome.sight]

/-- A step in which nothing is to be seen. -/
theorem view_step_of_unseen
    (hbegun : ¬ (server.phase = .uninitialized ∧ server.phase.after next.call = .ready))
    (hhears : server.phase.hears? next.call = none)
    (hserves : ∀ tabSize, server.phase.serves? next.call ≠ some (.format uri tabSize)) :
    (server.step next).server.view uri =
        { server.view uri with phase := server.phase.after next.call } ∧
      messagesAbout uri (server.step next).events = [] := by
  cases hrequest : server.phase.serves? next.call with
  | none =>
      obtain ⟨reaction, asksForSettings, hasFolders, events, hsilent, hkept, hstep⟩ :=
        step_of_idle hhears hrequest
      obtain ⟨rfl, rfl⟩ := hkept hbegun
      have hsame := hstep server.documents server.settings
      rw [show ({ server with documents := server.documents, settings := server.settings } :
        Server) = server from rfl] at hsame
      rw [hsame]
      exact ⟨rfl, messagesAbout_of_silent uri hsilent⟩
  | some request =>
      obtain ⟨hready, hcall⟩ := Phase.serves?_eq_some hrequest
      have hother : ∀ tabSize, request ≠ .format uri tabSize := by
        rintro tabSize rfl
        exact hserves tabSize hrequest
      rw [step_of_request hready hcall, Phase.after_of_request hcall]
      exact view_serve_of_ne next.replies uri server hother

/-- The ways in which a step can be seen from a document. -/
inductive StepCase (uri : Uri) (server : Server) (next : Step) : Prop where
  /-- The server takes note of something. -/
  | told (notification : Notification)
    (hhears : server.phase.hears? next.call = some notification)
    (hview : (server.step next).server.view uri =
      ((server.view uri).note uri (next.replies (.settings uri)) notification).view)
    (hmessages : messagesAbout uri (server.step next).events =
      ((server.view uri).note uri (next.replies (.settings uri)) notification).messages)
  /-- The document is laid out. -/
  | laidOut (tabSize : Nat) (hhears : server.phase.hears? next.call = none)
    (hserves : server.phase.serves? next.call = some (.format uri tabSize))
    (hvalue : (server.step next).value = .responded (.ok (.layout
      ((server.view uri).format uri tabSize (next.replies (.settings uri))).value)))
    (hview : (server.step next).server.view uri =
      ((server.view uri).format uri tabSize (next.replies (.settings uri))).view)
    (hmessages : messagesAbout uri (server.step next).events =
      ((server.view uri).format uri tabSize (next.replies (.settings uri))).messages)
  /-- Nothing is to be seen. -/
  | unseen (hhears : server.phase.hears? next.call = none)
    (hserves : ∀ tabSize, server.phase.serves? next.call ≠ some (.format uri tabSize))
    (hview : (server.step next).server.view uri =
      { server.view uri with phase := server.phase.after next.call })
    (hmessages : messagesAbout uri (server.step next).events = [])

/-- Every step of a session that has begun is seen in one of these ways. -/
theorem step_cases (hbegun : server.phase ≠ .uninitialized) : StepCase uri server next := by
  have hbegun : ¬ (server.phase = .uninitialized ∧ server.phase.after next.call = .ready) :=
    fun h => hbegun h.1
  cases hhears : server.phase.hears? next.call with
  | some notification =>
      have hsight := sight_step_of_hears uri hhears
      exact .told notification hhears (congrArg Sight.view hsight) (congrArg Sight.messages hsight)
  | none =>
      by_cases hserves : ∃ tabSize, server.phase.serves? next.call = some (.format uri tabSize)
      · obtain ⟨tabSize, hserves⟩ := hserves
        have hsight := sight_step_of_format uri hserves
        exact .laidOut tabSize hhears hserves (congrArg Sight.value hsight)
          (congrArg Sight.view hsight) (congrArg Sight.messages hsight)
      · have hserves : ∀ tabSize, server.phase.serves? next.call ≠ some (.format uri tabSize) :=
          not_exists.mp hserves
        obtain ⟨hview, hmessages⟩ := view_step_of_unseen uri hbegun hhears hserves
        exact .unseen hhears hserves hview hmessages

end Server

end PolicyEditing
