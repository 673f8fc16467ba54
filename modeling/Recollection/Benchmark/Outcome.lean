import Recollection.Json.Record
import Recollection.Json.Writer
/-!
# Outcomes of calls

What an engine answers. An engine may add members of its own to either outcome; they are kept, and
they count for the size of an answer that lists no items and gives no size itself.
-/

set_option autoImplicit false

namespace Recollection.Benchmark

/-- The members that are not among some names. -/
def membersBeyond (names : List String) (members : List (String × Json)) :
    List (String × Json) :=
  members.filter fun entry => !names.contains entry.1

/-- The answer to an event. -/
structure IngestOutcome where
  /-- How many records were known before. -/
  duplicates : UInt64
  /-- What the engine adds. -/
  extra : List (String × Json)
deriving DecidableEq, Repr

namespace IngestOutcome

/-- Loads an outcome, which is an object. -/
def load : Load IngestOutcome
  | .object members => do
    let record ← Record.ofJson ["duplicates"] (.object members)
    return ⟨← record.required "duplicates" .word64, membersBeyond ["duplicates"] members⟩
  | _ => .error .shape

/-- The document of an outcome. -/
def encode (outcome : IngestOutcome) : Json :=
  .object (("duplicates", .ofUInt64 outcome.duplicates) :: outcome.extra)

end IngestOutcome

/-- The answer to a query. -/
structure RecallOutcome where
  /-- What was recalled. -/
  items : Option (List Json)
  /-- The size in bytes, if the engine measures it itself. -/
  payloadBytes : Option UInt64
  /-- What the engine adds. -/
  extra : List (String × Json)
deriving DecidableEq, Repr

namespace RecallOutcome

/-- Loads an outcome, which is an object. -/
def load : Load RecallOutcome
  | .object members => do
    let record ← Record.ofJson ["items", "payloadBytes"] (.object members)
    return ⟨← record.optional "items" (.list .document), ← record.optional "payloadBytes" .word64,
      membersBeyond ["items", "payloadBytes"] members⟩
  | _ => .error .shape

/-- The document of an outcome; what it does not have is left out. -/
def encode (outcome : RecallOutcome) : Json :=
  .object ((outcome.items.map fun items => ("items", .array items)).toList ++
    (outcome.payloadBytes.map fun bytes => ("payloadBytes", .ofUInt64 bytes)).toList ++
    outcome.extra)

/-- The size of an answer in bytes: as the engine gives it, or else that of the items, or else that
of the whole outcome. -/
def measuredBytes (outcome : RecallOutcome) : Nat :=
  match outcome.payloadBytes, outcome.items with
  | some bytes, _ => bytes.toNat
  | none, some items => (Json.array items).compactSize
  | none, none => outcome.encode.compactSize

end RecallOutcome

end Recollection.Benchmark
