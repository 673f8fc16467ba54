import Recollection.Contract.Leaf
import Recollection.Json.Record
/-!
# Memory layers

Every memory belongs to one of three layers. Instants are milliseconds since 1970 began.
-/

set_option autoImplicit false

namespace Recollection

/-- An instant, in milliseconds since 1970 began. -/
abbrev EpochMillis := UInt64

/-- The layer a memory belongs to. -/
inductive MemoryLayer
  /-- What happened. -/
  | episodic
  /-- The context of a task, for a short time. -/
  | working
  /-- How something is done. -/
  | procedural
deriving DecidableEq, Repr, Inhabited

namespace MemoryLayer

/-- Every layer. -/
def all : List MemoryLayer :=
  [.episodic, .working, .procedural]

/-- The name of a layer. -/
def name : MemoryLayer → String
  | .episodic => "episodic"
  | .working => "working"
  | .procedural => "procedural"

/-- The layer with a given name. -/
def ofName? (text : String) : Option MemoryLayer :=
  all.find? fun layer => layer.name == text

/-- Layers in documents. -/
def leaf : Leaf MemoryLayer :=
  .named name all

/-- Loads a layer by its name. -/
def load : Load MemoryLayer :=
  .named name all

end MemoryLayer

end Recollection
