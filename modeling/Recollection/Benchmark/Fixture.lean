import Recollection.Digest.Canonical
import Recollection.Json.Record
import Recollection.Text.Blank
import Recollection.Text.Lowercase
import Recollection.Text.Quoted
/-!
# A fixture for adapters

The fixture stands in for an adapter process. It knows two operations, answers each always alike,
and gives a digest of the normalized call, so that equal calls can be told from different ones. A
body that is no object counts as an empty one.
-/

set_option autoImplicit false

namespace Recollection.Benchmark.Fixture

/-- A call of the fixture. -/
structure Request where
  /-- The operation, in any case and with any white space around it. -/
  operation : String
  /-- The body. -/
  requestBody : Json
  /-- The state file that an adapter would use. -/
  stateFile : String
deriving DecidableEq, Repr

/-- Loads a call. -/
def Request.load : Load Request := fun document => do
  let record ← Record.ofJson ["operation", "requestBody", "stateFile"] document
  return ⟨← record.required "operation" .text,
    ← record.withDefault "requestBody" .null .document,
    ← record.withDefault "stateFile" "" .text⟩

/-- The operations that the fixture knows. -/
inductive Operation
  /-- Asks for context. -/
  | context
  /-- Hands something over. -/
  | ingest
deriving DecidableEq, Repr

namespace Operation

/-- Every operation. -/
def all : List Operation :=
  [.context, .ingest]

/-- The name of an operation. -/
def name : Operation → String
  | context => "context"
  | ingest => "ingest"

/-- What the fixture answers to an operation. -/
def response : Operation → Json
  | context => .object [("items", .array []), ("tokens", .integer 0)]
  | ingest => .object [("accepted", .bool true), ("duplicates", .integer 0)]

end Operation

/-- An operation that the fixture does not know. -/
structure UnsupportedOperation where
  /-- The normalized name. -/
  operation : String
deriving DecidableEq, Repr

namespace UnsupportedOperation

/-- The code of the fault. -/
def code : String := "UNSUPPORTED_OPERATION"

/-- The text of the fault. -/
def message (fault : UnsupportedOperation) : String :=
  "unsupported operation " ++ Text.quoted fault.operation

/-- The document of the fault. -/
def encode (fault : UnsupportedOperation) : Json :=
  .object [("code", .string code), ("message", .string fault.message)]

end UnsupportedOperation

/-- The answer to a call. -/
structure Answer where
  /-- The operation. -/
  operation : Operation
  /-- The normalized body. -/
  request : Json
  /-- The state file, as given. -/
  stateFile : String
  /-- The digest of the normalized call. -/
  requestDigest : String
  /-- What the fixture answers to the operation. -/
  response : Json
deriving DecidableEq, Repr

/-- The document of an answer. -/
def Answer.encode (answer : Answer) : Json :=
  .object [("operation", .string answer.operation.name), ("request", answer.request),
    ("stateFile", .string answer.stateFile), ("requestDigest", .string answer.requestDigest),
    ("response", answer.response)]

/-- The body as it counts. -/
def normalBody : Json → Json
  | .object members => .object members
  | _ => .object []

/-- The digest of a normalized call. -/
def digest (operation : Operation) (body : Json) (stateFile : String) : String :=
  (Json.object [("operation", .string operation.name), ("request", body),
    ("stateFile", .string stateFile)]).digest

/-- Answers a call. -/
def invoke (request : Request) : Except UnsupportedOperation Answer :=
  let name := Text.lower (Text.trim request.operation)
  match Operation.all.find? fun operation => operation.name == name with
  | none => .error ⟨name⟩
  | some operation =>
    let body := normalBody request.requestBody
    .ok ⟨operation, body, request.stateFile, digest operation body request.stateFile,
      operation.response⟩

end Recollection.Benchmark.Fixture
