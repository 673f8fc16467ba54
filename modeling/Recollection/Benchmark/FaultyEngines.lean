import Recollection.Benchmark.Engine
/-!
# Faulty engines

Engines that are wrong in a known way, on which a benchmark can be tried out: one forgets everything
it takes in, and one refuses every call whose number is a multiple of a given one.
-/

set_option autoImplicit false

namespace Recollection.Benchmark.Engine

variable {σ : Type}

/-- An engine that takes every event for a new one, and answers every query with the same number of
bytes. -/
def forgetful (identity : EngineIdentity) (payloadBytes : UInt64) : Engine σ where
  identity := identity
  ingest _ state := (.ok ⟨0, []⟩, state)
  recollect _ state := (.ok ⟨none, some payloadBytes, []⟩, state)

/-- Counts a call, and refuses it or passes it on. -/
def countCall {α : Type} (every : Nat) (operation : Operation) (store : String)
    (call : σ → Except EngineFault α × σ) (state : Nat × σ) :
    Except EngineFault α × (Nat × σ) :=
  let number := state.1 + 1
  if number % every = 0 then
    (.error ⟨operation, store, "call " ++ toString number ++ " refused"⟩, (number, state.2))
  else
    let (outcome, inner) := call state.2
    (outcome, (number, inner))

/-- An engine that counts its calls from one, refuses every call whose number is a multiple of
`every`, and passes the others on. -/
def flaky (identity : EngineIdentity) (every : Nat) (engine : Engine σ) : Engine (Nat × σ) where
  identity := identity
  ingest event := countCall every .ingest event.storeId (engine.ingest event)
  recollect query := countCall every .recollect query.storeId (engine.recollect query)

end Recollection.Benchmark.Engine
