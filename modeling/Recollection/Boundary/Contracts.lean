import Recollection.Boundary.Evaluation
import Recollection.Boundary.Ingestion
import Recollection.Boundary.Policy
import Recollection.Boundary.Retrieval
import Recollection.Boundary.Storage
/-!
# The contracts

The twelve contracts of the five boundaries, and how one is found by its name.
-/

set_option autoImplicit false

namespace Recollection

/-- A contract of some type. -/
structure SomeContract where
  /-- The type of values. -/
  Value : Type
  /-- The contract. -/
  contract : Contract Value

/-- Every contract. -/
def SomeContract.all : List SomeContract :=
  [⟨_, Storage.UpsertRequest.contract⟩, ⟨_, Storage.UpsertResponse.contract⟩,
    ⟨_, Storage.DeleteRequest.contract⟩, ⟨_, Storage.DeleteResponse.contract⟩,
    ⟨_, Retrieval.Request.contract⟩, ⟨_, Retrieval.Response.contract⟩,
    ⟨_, Evaluation.Request.contract⟩, ⟨_, Evaluation.Response.contract⟩,
    ⟨_, Policy.Request.contract⟩, ⟨_, Policy.Response.contract⟩,
    ⟨_, Ingestion.Request.contract⟩, ⟨_, Ingestion.Response.contract⟩]

/-- The contract with a given name. -/
def SomeContract.ofName? (name : String) : Option SomeContract :=
  all.find? fun some => some.contract.name == name

end Recollection
