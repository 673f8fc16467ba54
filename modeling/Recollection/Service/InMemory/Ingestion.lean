import Recollection.Digest.Canonical
import Recollection.Service.Basic
import Recollection.Service.Clock
import Recollection.Service.InMemory.State
/-!
# Ingestion in memory

Every record that is accepted under an idempotency key is remembered with the fingerprint of its
content. Sent again under that key, the record is a duplicate if its content has the same
fingerprint; if not, the batch fails as a whole and none of its records is stored.
-/

set_option autoImplicit false

namespace Recollection.InMemory

/-- The digest of what a record holds: its space, its layer and its payload. -/
def fingerprint (record : Ingestion.Record) : String :=
  (Json.object [("spaceId", .string record.spaceId.text), ("layer", .string record.layer.name),
    ("payload", record.payload)]).digest

/-- What a record is in the light of the records accepted before. -/
inductive Standing
  /-- It was not accepted before. -/
  | new
  /-- It was accepted before with the same content. -/
  | duplicate
  /-- It was accepted before with another content. -/
  | changed
deriving DecidableEq, Repr

/-- The standing of a record with a fingerprint. -/
def standing (accepted : Accepted) (id : MemoryId) (print : String) : Standing :=
  match accepted.get? id with
  | none => .new
  | some previous => if previous = print then .duplicate else .changed

/-- Some records with their fingerprints and standings. -/
def classify (accepted : Accepted) (records : List Ingestion.Record) :
    List (Ingestion.Record × String × Standing) :=
  records.map fun record =>
    let print := fingerprint record
    (record, print, standing accepted record.recordId print)

/-- The records of one standing. -/
def ofStanding (kind : Standing) (classified : List (Ingestion.Record × String × Standing)) :
    List (Ingestion.Record × String) :=
  classified.filterMap fun (record, print, standing) =>
    if standing = kind then some (record, print) else none

/-- The identifiers of some records. -/
def idsOf (records : List (Ingestion.Record × String)) : List MemoryId :=
  records.map fun (record, _) => record.recordId

/-- Accepts a record under a key. -/
def acceptRecord (idempotencyKey : String) (now : EpochMillis) (state : State)
    (entry : Ingestion.Record × String) : State :=
  let (record, print) := entry
  let accepted := (state.ledger.get? idempotencyKey).getD .empty
  let (_, store) := state.store.put ⟨record.spaceId, record.recordId⟩ record.layer record.payload
    now
  ⟨store, state.ledger.insert idempotencyKey (accepted.insert record.recordId print)⟩

/-- The state with an entry for a key in the ledger. -/
def openEntry (state : State) (idempotencyKey : String) : State :=
  ⟨state.store,
    state.ledger.insert idempotencyKey ((state.ledger.get? idempotencyKey).getD .empty)⟩

/-- Takes in a batch that keeps its contract. -/
def ingestValid (now : EpochMillis) (request : Ingestion.Request) (state : State) :
    Except Ingestion.Fault Ingestion.Response × State :=
  let key := request.idempotencyKey
  let accepted := (state.ledger.get? key).getD .empty
  let state := openEntry state key
  let classified := classify accepted request.records
  let changed := idsOf (ofStanding .changed classified)
  if changed.isEmpty then
    let fresh := ofStanding .new classified
    (.ok ⟨idsOf fresh, idsOf (ofStanding .duplicate classified), now⟩,
      fresh.foldl (acceptRecord key now) state)
  else (.error (.diverged ⟨key, changed⟩), state)

/-- Takes in a batch. -/
def ingest (clock : Clock) : Call State Ingestion.Request Ingestion.Fault Ingestion.Response :=
  fun timeOfDay request state =>
    match Ingestion.Request.contract.validate request with
    | .error rejection => (.error (.rejected rejection), state)
    | .ok () => ingestValid (clock.read timeOfDay) request state

/-- Ingestion into the shared store. -/
def ingestion (clock : Clock) : IngestionService State :=
  ⟨ingest clock⟩

end Recollection.InMemory
