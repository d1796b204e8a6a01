import PolicyEditing.Proofs.Session.Calls
import PolicyEditing.Proofs.Session.Sight

/-!
# The phases of a session

Which calls are carried out depends on the phase of the session, and that on the calls alone
(`Phase.after`).  A server between the first and the last message takes note of what it is told and
serves what it is asked; every other step is idle: it moves the session along or refuses a call, the
same whatever the documents and the settings are, which it leaves alone, and it sends nothing
(`step_of_idle`).
-/

namespace PolicyEditing

/-- What an editor is able to do, if a call begins a session: whether it answers questions about
settings, and whether it has workspace folders. -/
def Call.connects? [UriReading] (call : Call) : Option (Bool × Bool) :=
  match Method.ofName? call.method, call.kind with
  | some .connect, .request => call.params.bind Params.abilities?
  | _, _ => none

theorem Call.connects?_eq_some [UriReading] {call : Call} {abilities : Bool × Bool}
    (hcall : call.connects? = some abilities) :
    Method.ofName? call.method = some .connect ∧ call.kind = .request ∧
      call.params.bind Params.abilities? = some abilities := by
  unfold connects? at hcall
  split at hcall
  · rename_i hmethod hkind
    exact ⟨hmethod, hkind, hcall⟩
  · simp at hcall

namespace Phase

variable [UriReading]

/-- The phase after a call. -/
def after (phase : Phase) (call : Call) : Phase :=
  match Method.ofName? call.method with
  | some .exit => .exited
  | some .connect =>
    if phase = .uninitialized ∧ call.connects?.isSome then .ready else phase
  | some .shutDown => if phase = .ready then .shutDown else phase
  | _ => phase

/-- What a server in a phase takes note of. -/
def hears? (phase : Phase) (call : Call) : Option Notification :=
  if phase = .ready then call.notification? else none

/-- What a server in a phase serves. -/
def serves? (phase : Phase) (call : Call) : Option Request :=
  if phase = .ready then call.request? else none

@[simp] theorem after_exited (call : Call) : exited.after call = .exited := by
  unfold after
  split <;> simp

end Phase

namespace Server

variable {server : Server} {next : Step}

/-! ## Idle steps -/

/-- Handling something ends at once in a phase.  It is the same whatever the documents and the
settings are, leaves them alone and sends nothing; and what is known of the editor stays, unless
the session begins. -/
def Idle (server : Server) (phase : Phase) (handle : Server → Activity Reaction) : Prop :=
  ∃ reaction asksForSettings hasFolders events,
    messages events = [] ∧
    (¬ (server.phase = .uninitialized ∧ phase = .ready) →
      asksForSettings = server.asksForSettings ∧ hasFolders = server.hasFolders) ∧
    ∀ documents settings,
      handle { server with documents, settings } =
        .done reaction { phase, asksForSettings, hasFolders, documents, settings } events

theorem idle_done (server : Server) (reaction : Reaction) :
    server.Idle server.phase fun server => .done reaction server [] :=
  ⟨reaction, _, _, [], rfl, fun _ => ⟨rfl, rfl⟩, fun _ _ => rfl⟩

theorem idle_respond (server : Server) (kind : CallKind) (response : Response) :
    server.Idle server.phase (respond kind response) := by
  cases kind with
  | request => exact idle_done server (.responded response)
  | notification => exact idle_done server .silent

theorem idle_refusePhase (server : Server) (kind : CallKind) :
    server.Idle server.phase (refusePhase kind) :=
  idle_respond server kind (.error <|
    if server.phase = .uninitialized then .notInitialized else .invalidRequest)

theorem Idle.of_eq {phase : Phase} {handle other : Server → Activity Reaction}
    (hidle : server.Idle phase handle)
    (heq : ∀ documents settings,
      other { server with documents, settings } = handle { server with documents, settings }) :
    server.Idle phase other := by
  obtain ⟨reaction, asksForSettings, hasFolders, events, hsilent, hkept, hdone⟩ := hidle
  exact ⟨reaction, asksForSettings, hasFolders, events, hsilent, hkept,
    fun documents settings => (heq documents settings).trans (hdone documents settings)⟩

theorem exists_connect_eq (asksForSettings hasFolders : Bool) :
    ∃ events, (∀ server : Server, server.connect asksForSettings hasFolders =
      .done () { server with phase := .ready, asksForSettings, hasFolders } events) ∧
        messages events = [] :=
  ⟨_, fun _ => rfl, rfl⟩

variable [UriReading]

theorem idle_receiveConnect (server : Server) {call : Call}
    (hmethod : Method.ofName? call.method = some .connect) :
    server.Idle (server.phase.after call) (receiveConnect call) := by
  have hafter : server.phase.after call =
      if server.phase = .uninitialized ∧ call.connects?.isSome then .ready else server.phase := by
    simp only [Phase.after, hmethod]
  by_cases hbegun : server.phase = .uninitialized
  · cases hkind : call.kind with
    | notification =>
        have hconnects : call.connects? = none := by simp [Call.connects?, hmethod, hkind]
        rw [hafter, hconnects, if_neg (by simp)]
        refine (idle_done server .silent).of_eq fun documents settings => ?_
        rw [receiveConnect, if_pos hbegun, hkind]
        cases call.params.bind Params.abilities? <;> rfl
    | request =>
        have hconnects : call.connects? = call.params.bind Params.abilities? := by
          simp [Call.connects?, hmethod, hkind]
        rw [hafter, hconnects]
        cases hparams : call.params.bind Params.abilities? with
        | none =>
            rw [if_neg (by simp)]
            refine (idle_respond server call.kind (.error .invalidParams)).of_eq
              fun documents settings => ?_
            rw [receiveConnect, if_pos hbegun, hparams]
        | some abilities =>
            rw [if_pos ⟨hbegun, rfl⟩]
            obtain ⟨asksForSettings, hasFolders⟩ := abilities
            obtain ⟨events, hconnect, hsilent⟩ := exists_connect_eq asksForSettings hasFolders
            refine ⟨.responded (.ok (.capabilities hasFolders)), asksForSettings, hasFolders,
              events, hsilent, fun h => absurd ⟨hbegun, rfl⟩ h, fun documents settings => ?_⟩
            rw [receiveConnect, if_pos hbegun, hparams, hkind]
            dsimp only
            rw [hconnect]
            simp [Activity.map, Activity.andThen, Activity.after]
  · rw [hafter, if_neg fun h => hbegun h.1]
    refine (idle_respond server call.kind (.error .invalidRequest)).of_eq
      fun documents settings => ?_
    rw [receiveConnect, if_neg hbegun]

theorem idle_receiveShutDown (server : Server) {call : Call}
    (hmethod : Method.ofName? call.method = some .shutDown) :
    server.Idle (server.phase.after call) (receiveShutDown call) := by
  have hafter : server.phase.after call =
      if server.phase = .ready then .shutDown else server.phase := by
    simp only [Phase.after, hmethod]
  rw [hafter]
  by_cases hready : server.phase = .ready
  · rw [if_pos hready]
    cases hkind : call.kind with
    | notification =>
        refine ⟨.silent, _, _, [], rfl, fun _ => ⟨rfl, rfl⟩, fun documents settings => ?_⟩
        rw [receiveShutDown, if_pos hready, hkind]
    | request =>
        cases hparams : call.params with
        | none =>
            refine ⟨.responded (.ok .nothing), _, _, [.log .info "Shutdown requested"], rfl,
              fun _ => ⟨rfl, rfl⟩, fun documents settings => ?_⟩
            rw [receiveShutDown, if_pos hready, hkind, hparams]
        | some params =>
            refine ⟨.responded (.error .invalidParams), _, _, [], rfl, fun _ => ⟨rfl, rfl⟩,
              fun documents settings => ?_⟩
            rw [receiveShutDown, if_pos hready, hkind, hparams]
  · rw [if_neg hready]
    refine (idle_refusePhase server call.kind).of_eq fun documents settings => ?_
    rw [receiveShutDown, if_neg hready]

theorem idle_receiveReady (server : Server) {method : Method} {call : Call}
    (hmethod : Method.ofName? call.method = some method)
    (hhears : call.notification? = none) (hserves : call.request? = none) :
    server.Idle server.phase (receiveReady method call) := by
  have hrefused := idle_respond server call.kind (.error .invalidRequest)
  cases hkind : call.kind with
  | request =>
      rw [hkind] at hrefused
      cases method with
      | request read =>
          have hparams : call.params.bind read = none := by
            simpa [Call.request?, hmethod, hkind] using hserves
          refine (idle_done server (.responded (.error .invalidParams))).of_eq
            fun documents settings => ?_
          simp [receiveReady, hkind, hparams]
      | connect | shutDown | exit | notification read =>
          refine hrefused.of_eq fun documents settings => ?_
          simp [receiveReady, hkind]
  | notification =>
      rw [hkind] at hrefused
      cases method with
      | notification read =>
          have hparams : call.params.bind read = none := by
            simpa [Call.notification?, hmethod, hkind] using hhears
          refine (idle_done server .silent).of_eq fun documents settings => ?_
          simp [receiveReady, hkind, hparams]
      | connect | shutDown | exit | request read =>
          refine hrefused.of_eq fun documents settings => ?_
          simp [receiveReady, hkind]

/-- A call that tells nothing and asks nothing of a server is handled without documents and
settings. -/
theorem idle_receive (server : Server) {call : Call} (hhears : server.phase.hears? call = none)
    (hserves : server.phase.serves? call = none) :
    server.Idle (server.phase.after call) (receive call) := by
  by_cases hexited : server.phase = .exited
  · rw [hexited, Phase.after_exited, ← hexited]
    refine (idle_done server .gone).of_eq fun documents settings => ?_
    rw [receive, if_pos hexited]
  · cases hmethod : Method.ofName? call.method with
    | none =>
        have hafter : server.phase.after call = server.phase := by simp [Phase.after, hmethod]
        rw [hafter]
        by_cases hoptional : Method.isOptional call.method = true
        · refine (idle_done server .silent).of_eq fun documents settings => ?_
          simp [receive, accept, hexited, hmethod, hoptional]
        · refine (idle_respond server call.kind (.error (.unknownMethod call.method))).of_eq
            fun documents settings => ?_
          simp [receive, accept, hexited, hmethod, hoptional]
    | some method =>
        cases method with
        | exit =>
            have hafter : server.phase.after call = .exited := by simp [Phase.after, hmethod]
            rw [hafter]
            refine ⟨.silent, _, _, [], rfl, fun _ => ⟨rfl, rfl⟩, fun documents settings => ?_⟩
            simp [receive, accept, hexited, hmethod]
        | connect =>
            refine (idle_receiveConnect server hmethod).of_eq fun documents settings => ?_
            simp [receive, accept, hexited, hmethod]
        | shutDown =>
            refine (idle_receiveShutDown server hmethod).of_eq fun documents settings => ?_
            simp [receive, accept, hexited, hmethod]
        | request read | notification read =>
            have hafter : server.phase.after call = server.phase := by simp [Phase.after, hmethod]
            rw [hafter]
            by_cases hready : server.phase = .ready
            · have hnotification : call.notification? = none := by
                simpa [Phase.hears?, hready] using hhears
              have hrequest : call.request? = none := by simpa [Phase.serves?, hready] using hserves
              refine (idle_receiveReady server hmethod hnotification hrequest).of_eq
                fun documents settings => ?_
              simp [receive, accept, hmethod, hready]
            · refine (idle_refusePhase server call.kind).of_eq fun documents settings => ?_
              simp [receive, accept, hexited, hmethod, hready]

/-- An idle step changes nothing but the phase, and what is known of the editor's abilities. -/
theorem step_of_idle {server : Server} {next : Step}
    (hhears : server.phase.hears? next.call = none)
    (hserves : server.phase.serves? next.call = none) :
    ∃ reaction asksForSettings hasFolders events,
      messages events = [] ∧
      (¬ (server.phase = .uninitialized ∧ server.phase.after next.call = .ready) →
        asksForSettings = server.asksForSettings ∧ hasFolders = server.hasFolders) ∧
      ∀ documents settings,
        ({ server with documents, settings } : Server).step next =
          ⟨reaction,
            { phase := server.phase.after next.call, asksForSettings, hasFolders, documents,
              settings },
            events⟩ := by
  obtain ⟨reaction, asksForSettings, hasFolders, events, hsilent, hkept, hdone⟩ :=
    idle_receive server hhears hserves
  refine ⟨reaction, asksForSettings, hasFolders, events, hsilent, hkept, ?_⟩
  intro documents settings
  rw [step, hdone, Activity.run_done]

end Server

end PolicyEditing
