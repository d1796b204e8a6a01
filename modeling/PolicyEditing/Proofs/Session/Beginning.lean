import PolicyEditing.Proofs.Session.History

/-!
# Before a session begins

What the editor says of itself (`abilities?`) stands in the call that begins the session.  A call
that comes before it changes nothing, unless it ends everything (`exists_step_fresh_eq`); so a run
can be followed from the call on that begins the session (`step_fresh_of_abilities?`).
-/

namespace PolicyEditing

variable [UriReading]

/-- What an editor says of itself in the call that begins the session, if it is among some steps:
whether it answers questions about settings, and whether it has workspace folders. -/
def abilities? (phase : Phase) : List Step → Option (Bool × Bool)
  | [] => none
  | next :: rest =>
    if phase = .uninitialized ∧ phase.after next.call = .ready then next.call.connects?
    else abilities? (phase.after next.call) rest

namespace Phase

/-- A session that has begun does not begin again. -/
theorem abilities?_of_begun {phase : Phase} (hbegun : phase ≠ .uninitialized)
    (steps : List Step) : abilities? phase steps = none := by
  induction steps generalizing phase with
  | nil => rfl
  | cons next rest ih =>
      rw [abilities?, if_neg fun h => hbegun h.1]
      exact ih (after_ne_uninitialized hbegun next.call)

end Phase

namespace Server

/-- A call to a server that waits for the beginning of the session sends nothing, and changes
nothing of it if the session does not begin. -/
theorem exists_step_fresh_eq (next : Step) :
    ∃ reaction asksForSettings hasFolders events, messages events = [] ∧
      (Phase.uninitialized.after next.call ≠ .ready →
        asksForSettings = false ∧ hasFolders = false) ∧
      fresh.step next =
        ⟨reaction,
          { fresh with
            phase := Phase.uninitialized.after next.call, asksForSettings, hasFolders },
          events⟩ := by
  have hhears : fresh.phase.hears? next.call = none := if_neg Phase.noConfusion
  have hserves : fresh.phase.serves? next.call = none := if_neg Phase.noConfusion
  obtain ⟨reaction, asksForSettings, hasFolders, events, hsilent, hkept, hstep⟩ :=
    step_of_idle hhears hserves
  exact ⟨reaction, asksForSettings, hasFolders, events, hsilent,
    fun hnot => hkept fun h => hnot h.2, hstep fresh.documents fresh.settings⟩

/-- A call up to the one that begins the session sends and tells nothing; after it the session has
begun, or the server waits for it as before. -/
theorem step_fresh_of_abilities? {next : Step} {rest : List Step}
    {asksForSettings hasFolders : Bool}
    (habilities :
      abilities? .uninitialized (next :: rest) = some (asksForSettings, hasFolders)) :
    messages (fresh.step next).events = [] ∧
      heard .uninitialized (next :: rest) = heard (fresh.step next).server.phase rest ∧
      ((fresh.step next).server = { fresh with phase := .ready, asksForSettings, hasFolders } ∨
        (fresh.step next).server = fresh ∧
          abilities? .uninitialized rest = some (asksForSettings, hasFolders)) := by
  obtain ⟨reaction, asks, folders, events, hsilent, hkept, hstep⟩ := exists_step_fresh_eq next
  have hheard : heard .uninitialized (next :: rest) =
      heard (Phase.uninitialized.after next.call) rest := rfl
  have hphase : (fresh.step next).server.phase = Phase.uninitialized.after next.call := by
    rw [hstep]
  refine ⟨by rw [hstep, hsilent], by rw [hheard, hphase], ?_⟩
  rw [abilities?] at habilities
  split at habilities
  · -- the session begins
    obtain ⟨_, _, -, hbegun⟩ := step_begin habilities
    exact .inl (by rw [hbegun])
  · rename_i hnot
    by_cases hwaits : Phase.uninitialized.after next.call = .uninitialized
    · obtain ⟨rfl, rfl⟩ := hkept fun h => hnot ⟨rfl, h⟩
      rw [hwaits] at habilities
      exact .inr ⟨by rw [hstep, hwaits]; rfl, habilities⟩
    · -- the server has exited
      rw [Phase.abilities?_of_begun hwaits] at habilities
      simp at habilities

end Server

end PolicyEditing
