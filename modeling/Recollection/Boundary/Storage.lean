import Recollection.Contract.Basic
import Recollection.Identity.Identifier
import Recollection.Memory.Layer
/-!
# The storage boundary

One memory is written or removed at a time. A write may carry the version that the caller last saw:
zero says that the memory does not exist yet, and any other version must be the one that is stored.
A response answers a request if it is about the same memory and, for a write, the version has moved
past the expected one.
-/

set_option autoImplicit false

namespace Recollection.Storage

/-- Write one memory. -/
structure UpsertRequest where
  /-- The space the memory lives in. -/
  spaceId : SpaceId
  /-- The memory to write. -/
  memoryId : MemoryId
  /-- The layer it belongs to. -/
  layer : MemoryLayer
  /-- The content. -/
  payload : Json
  /-- The version the caller last saw, zero for none. -/
  expectedVersion : Option UInt64
deriving DecidableEq

/-- The outcome of a write. -/
structure UpsertResponse where
  /-- The space written to. -/
  spaceId : SpaceId
  /-- The memory written. -/
  memoryId : MemoryId
  /-- Whether the write took place. -/
  accepted : Bool
  /-- When it took place. -/
  persistedAtMillis : EpochMillis
  /-- The version it made. -/
  version : UInt64
deriving DecidableEq

/-- Remove one memory. -/
structure DeleteRequest where
  /-- The space the memory lives in. -/
  spaceId : SpaceId
  /-- The memory to remove. -/
  memoryId : MemoryId
deriving DecidableEq

/-- The outcome of a removal; to remove what is not there is no fault. -/
structure DeleteResponse where
  /-- The space addressed. -/
  spaceId : SpaceId
  /-- The memory addressed. -/
  memoryId : MemoryId
  /-- Whether a memory was removed. -/
  deleted : Bool
deriving DecidableEq

/-! ## Contracts -/

/-- The contract of requests to write. -/
def UpsertRequest.contract : Contract UpsertRequest where
  name := "StorageUpsertRequest"
  shape := .record
    (.required "spaceId" (.leaf (Identifier.leaf .space)) <|
      .required "memoryId" (.leaf (Identifier.leaf .memory)) <|
      .required "layer" (.leaf MemoryLayer.leaf) <|
      .required "payload" (.leaf .document) <|
      .optional "expectedVersion" .omitted (.leaf .word64) .done)
    (fun (spaceId, memoryId, layer, payload, expectedVersion, ()) =>
      ⟨spaceId, memoryId, layer, payload, expectedVersion⟩)
    (fun request => (request.spaceId, request.memoryId, request.layer, request.payload,
      request.expectedVersion, ()))
  check _ := .ok ()

/-- The contract of answers to a write: a write that took place made a version. -/
def UpsertResponse.contract : Contract UpsertResponse where
  name := "StorageUpsertResponse"
  shape := .record
    (.required "spaceId" (.leaf (Identifier.leaf .space)) <|
      .required "memoryId" (.leaf (Identifier.leaf .memory)) <|
      .required "accepted" (.leaf .flag) <|
      .required "persistedAtMillis" (.leaf .word64) <|
      .required "version" (.leaf .word64) .done)
    (fun (spaceId, memoryId, accepted, persistedAtMillis, version, ()) =>
      ⟨spaceId, memoryId, accepted, persistedAtMillis, version⟩)
    (fun response => (response.spaceId, response.memoryId, response.accepted,
      response.persistedAtMillis, response.version, ()))
  check response :=
    if response.accepted && response.version == 0 then
      .error ⟨Path.root.member "version", "a version of at least 1 for an accepted write", "0"⟩
    else .ok ()

/-- The contract of requests to remove. -/
def DeleteRequest.contract : Contract DeleteRequest where
  name := "StorageDeleteRequest"
  shape := .record
    (.required "spaceId" (.leaf (Identifier.leaf .space)) <|
      .required "memoryId" (.leaf (Identifier.leaf .memory)) .done)
    (fun (spaceId, memoryId, ()) => ⟨spaceId, memoryId⟩)
    (fun request => (request.spaceId, request.memoryId, ()))
  check _ := .ok ()

/-- The contract of answers to a removal. -/
def DeleteResponse.contract : Contract DeleteResponse where
  name := "StorageDeleteResponse"
  shape := .record
    (.required "spaceId" (.leaf (Identifier.leaf .space)) <|
      .required "memoryId" (.leaf (Identifier.leaf .memory)) <|
      .required "deleted" (.leaf .flag) .done)
    (fun (spaceId, memoryId, deleted, ()) => ⟨spaceId, memoryId, deleted⟩)
    (fun response => (response.spaceId, response.memoryId, response.deleted, ()))
  check _ := .ok ()

/-! ## Answers to requests -/

/-- A response must be about the memory that was requested. -/
def requireTarget (spaceId requestedSpace : SpaceId) (memoryId requestedMemory : MemoryId) :
    Except Mismatch Unit :=
  if spaceId ≠ requestedSpace then
    .error ⟨Path.root.member "spaceId", "the requested space " ++ requestedSpace.text,
      spaceId.text⟩
  else if memoryId ≠ requestedMemory then
    .error ⟨Path.root.member "memoryId", "the requested memory " ++ requestedMemory.text,
      memoryId.text⟩
  else .ok ()

/-- A write that took place must have moved past the expected version. -/
def requireAdvance (response : UpsertResponse) (expectedVersion : Option UInt64) :
    Except Mismatch Unit :=
  match response.accepted, expectedVersion with
  | true, some expected =>
    if response.version ≤ expected then
      .error ⟨Path.root.member "version",
        "a version above the expected " ++ toString expected.toNat,
        toString response.version.toNat⟩
    else .ok ()
  | _, _ => .ok ()

/-- Whether a response answers a request to write. -/
def UpsertResponse.conformsTo (response : UpsertResponse) (request : UpsertRequest) :
    Except Rejection Unit :=
  Except.mapError UpsertResponse.contract.pairingRejection do
    requireTarget response.spaceId request.spaceId response.memoryId request.memoryId
    requireAdvance response request.expectedVersion

/-- Whether a response answers a request to remove. -/
def DeleteResponse.conformsTo (response : DeleteResponse) (request : DeleteRequest) :
    Except Rejection Unit :=
  Except.mapError DeleteResponse.contract.pairingRejection do
    requireTarget response.spaceId request.spaceId response.memoryId request.memoryId

end Recollection.Storage
