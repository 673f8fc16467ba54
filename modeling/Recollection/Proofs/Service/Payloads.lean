import Recollection.Proofs.Service.Transcript
/-!
# What payloads are like

A live memory has the payload of the command that wrote it. So whatever is true of all payloads that
are written is true of all that are kept, whichever calls come in between.
-/

set_option autoImplicit false

namespace Recollection

/-- Every live memory of a store has a payload with some property. -/
def Store.EveryPayload (holds : Json → Prop) (store : Store) : Prop :=
  ∀ key memory, store.get? key = some memory → holds memory.payload

namespace Store.EveryPayload

variable {holds : Json → Prop} {store : Store}

theorem empty (holds : Json → Prop) : Store.empty.EveryPayload holds := by
  intro key memory hlive
  cases hlive

theorem put (hstore : store.EveryPayload holds) {payload : Json} (hpayload : holds payload)
    (key : MemoryKey) (layer : MemoryLayer) (now : EpochMillis) :
    (store.put key layer payload now).2.EveryPayload holds := by
  intro other memory hlive
  rw [Store.get?_put] at hlive
  split at hlive
  · obtain rfl := Option.some.inj hlive
    exact hpayload
  · exact hstore other memory hlive

theorem remove (hstore : store.EveryPayload holds) (key : MemoryKey) :
    (store.remove key).2.EveryPayload holds := by
  intro other memory hlive
  rw [Store.get?_remove] at hlive
  split at hlive
  · cases hlive
  · exact hstore other memory hlive

end Store.EveryPayload

namespace InMemory

/-- The payloads that a command would write. -/
def Command.payloads : Command → List Json
  | .upsert request => [request.payload]
  | .ingest request => request.records.map Ingestion.Record.payload
  | _ => []

section Payloads

variable {holds : Json → Prop} {state : State}

theorem everyPayload_foldl_acceptRecord (idempotencyKey : String) (now : EpochMillis)
    {entries : List (Ingestion.Record × String)}
    (hentries : ∀ entry ∈ entries, holds entry.1.payload)
    (hstate : state.store.EveryPayload holds) :
    (entries.foldl (acceptRecord idempotencyKey now) state).store.EveryPayload holds := by
  induction entries generalizing state with
  | nil => exact hstate
  | cons entry entries ih =>
    rw [List.forall_mem_cons] at hentries
    exact ih hentries.2 (hstate.put hentries.1 _ _ _)

theorem everyPayload_takeIn {request : Ingestion.Request}
    (hrequest : ∀ record ∈ request.records, holds record.payload) (now : EpochMillis)
    (hstate : state.store.EveryPayload holds) :
    (takeIn now request state).store.EveryPayload holds := by
  refine everyPayload_foldl_acceptRecord _ _ ?_ hstate
  intro entry hentry
  obtain ⟨record, hrecord, rfl⟩ := List.mem_map.1 hentry
  exact hrequest record (mem_recordsOf.1 hrecord).1

/-- What is true of the payloads of a command and of all that are kept stays true when it is carried
out. -/
theorem everyPayload_perform (settings : Settings) (clock : Clock) {call : Invocation}
    (hcommand : ∀ payload ∈ call.command.payloads, holds payload)
    (hstate : state.store.EveryPayload holds) :
    (perform settings clock call state).2.store.EveryPayload holds := by
  obtain ⟨timeOfDay, command⟩ := call
  cases command with
  | upsert request =>
    show (upsert clock timeOfDay request state).2.store.EveryPayload holds
    rcases upsert_cases clock timeOfDay request state with ⟨_, _, hupsert⟩ | ⟨_, hupsert⟩
    · rw [hupsert]
      exact hstate
    · rw [hupsert]
      exact hstate.put (hcommand _ List.mem_cons_self) _ _ _
  | delete request => exact hstate.remove request.key
  | query request => exact hstate
  | evaluate request => exact hstate
  | decide request => exact hstate
  | ingest request =>
    show (ingest clock timeOfDay request state).2.store.EveryPayload holds
    have hrecords : ∀ record ∈ request.records, holds record.payload := fun record hrecord =>
      hcommand _ (List.mem_map_of_mem hrecord)
    rcases ingest_cases clock timeOfDay request state with
      ⟨_, _, hingest⟩ | ⟨_, _, hingest⟩ | ⟨_, _, hingest⟩
    · rw [hingest]
      exact hstate
    · rw [hingest]
      exact hstate
    · rw [hingest]
      exact everyPayload_takeIn hrecords _ hstate

end Payloads

end InMemory

end Recollection
