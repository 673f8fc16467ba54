import Recollection.Memory.Store
/-!
# The state of the in-memory services

The services share one store of memories. Ingestion also keeps a ledger: under every idempotency
key, the records that were accepted and the fingerprints of their contents.
-/

set_option autoImplicit false

namespace Recollection.InMemory

/-- The records accepted under one idempotency key, with the fingerprints of their contents. -/
abbrev Accepted := SortedMap MemoryId String

/-- The accepted records, by idempotency key. -/
abbrev Ledger := SortedMap String Accepted

/-- What the services share. -/
structure State where
  /-- The memories. -/
  store : Store
  /-- The accepted records. -/
  ledger : Ledger

namespace State

/-- Nothing was ever written or accepted. -/
def empty : State :=
  ⟨.empty, .empty⟩

instance : Inhabited State := ⟨empty⟩

end State

end Recollection.InMemory
