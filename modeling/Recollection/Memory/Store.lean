import Recollection.Boundary.Fault
import Recollection.Boundary.Storage
import Recollection.Memory.Terms
/-!
# The store of memories

The store keeps a slot for every memory that was ever written. A slot holds the number of writes to
it, and the memory itself while it is live. Removing a memory keeps the number, so no version is
used twice: a caller that saw a version before a removal cannot mistake a later memory for it.
-/

set_option autoImplicit false

namespace Recollection

/-- What names a memory: its space and its identifier. -/
structure MemoryKey where
  /-- The space. -/
  spaceId : SpaceId
  /-- The memory. -/
  memoryId : MemoryId
deriving DecidableEq

namespace MemoryKey

/-- Compares the spaces and then the memories. -/
def compare : MemoryKey → MemoryKey → Ordering :=
  compareLex (compareOn MemoryKey.spaceId) (compareOn MemoryKey.memoryId)

instance : Ord MemoryKey := ⟨compare⟩

instance : Std.TransOrd MemoryKey :=
  inferInstanceAs
    (Std.TransCmp (compareLex (compareOn MemoryKey.spaceId) (compareOn MemoryKey.memoryId)))

instance : Std.LawfulEqOrd MemoryKey where
  eq_of_compare {a b} h := by
    obtain ⟨spaces, memories⟩ := Ordering.then_eq_eq.1 h
    cases a
    cases b
    simp only [mk.injEq]
    exact ⟨Std.LawfulEqOrd.eq_of_compare spaces, Std.LawfulEqOrd.eq_of_compare memories⟩

end MemoryKey

/-- A live memory. -/
structure StoredMemory where
  /-- Its layer. -/
  layer : MemoryLayer
  /-- Its content. -/
  payload : Json
  /-- The version that its write made. -/
  version : UInt64
  /-- When it was written. -/
  persistedAtMillis : EpochMillis
  /-- The words in its content. -/
  terms : Terms

/-- The place of a memory. -/
structure Slot where
  /-- The version of the last write. -/
  version : UInt64
  /-- The memory, while it is live. -/
  live : Option StoredMemory

namespace Slot

/-- A place that was never written to. -/
def fresh : Slot :=
  ⟨0, none⟩

/-- The memory that the next write to a place makes. -/
def next (slot : Slot) (layer : MemoryLayer) (payload : Json) (now : EpochMillis) :
    StoredMemory where
  layer := layer
  payload := payload
  version := slot.version + 1
  persistedAtMillis := now
  terms := .ofDocument payload

end Slot

/-- The memories, by space and identifier. -/
structure Store where
  /-- The place of every memory that was ever written. -/
  slots : SortedMap MemoryKey Slot

namespace Store

/-- A store in which nothing was ever written. -/
def empty : Store :=
  ⟨.empty⟩

instance : Inhabited Store := ⟨empty⟩

/-- The place of a memory, if it was ever written. -/
def slot? (store : Store) (key : MemoryKey) : Option Slot :=
  store.slots.get? key

/-- The live memory with a key. -/
def get? (store : Store) (key : MemoryKey) : Option StoredMemory :=
  (store.slot? key).bind Slot.live

/-- Writes a memory, whatever is there. -/
def put (store : Store) (key : MemoryKey) (layer : MemoryLayer) (payload : Json)
    (now : EpochMillis) : StoredMemory × Store :=
  let memory := ((store.slot? key).getD .fresh).next layer payload now
  (memory, ⟨store.slots.insert key ⟨memory.version, some memory⟩⟩)

/-- Whether a write may go ahead: without an expected version always, with version zero if the
memory is not live, and with any other version if it is the live one. -/
def checkVersion (key : MemoryKey) (expected live : Option UInt64) : Except Storage.Fault Unit :=
  match expected, live with
  | none, _ => .ok ()
  | some version, none =>
    if version = 0 then .ok () else .error (.notFound ⟨key.spaceId, key.memoryId⟩)
  | some version, some actual =>
    if version = actual then .ok ()
    else .error (.conflict ⟨key.spaceId, key.memoryId, version, actual⟩)

/-- Writes a memory if its live version is the expected one. -/
def write (store : Store) (key : MemoryKey) (layer : MemoryLayer) (payload : Json)
    (expected : Option UInt64) (now : EpochMillis) : Except Storage.Fault StoredMemory × Store :=
  match checkVersion key expected ((store.get? key).map StoredMemory.version) with
  | .error fault => (.error fault, store)
  | .ok () =>
    let (memory, store) := store.put key layer payload now
    (.ok memory, store)

/-- Removes a memory, and says whether it was live. -/
def remove (store : Store) (key : MemoryKey) : Bool × Store :=
  match store.slot? key with
  | some ⟨version, some _⟩ => (true, ⟨store.slots.insert key ⟨version, none⟩⟩)
  | _ => (false, store)

/-- Every live memory with its key, in the order of the keys. -/
def entries (store : Store) : List (MemoryKey × StoredMemory) :=
  store.slots.entries.filterMap fun (key, slot) => slot.live.map fun memory => (key, memory)

/-- The live memories of one space, in the order of their identifiers. -/
def inSpace (store : Store) (spaceId : SpaceId) : List (MemoryId × StoredMemory) :=
  store.entries.filterMap fun (key, memory) =>
    if key.spaceId = spaceId then some (key.memoryId, memory) else none

/-- The live memory with an identifier: in a given space, or else in the first space that has
one. -/
def find? (store : Store) (spaceId : Option SpaceId) (memoryId : MemoryId) : Option StoredMemory :=
  match spaceId with
  | some spaceId => store.get? ⟨spaceId, memoryId⟩
  | none => (store.entries.find? fun (key, _) => key.memoryId = memoryId).map Prod.snd

/-- The number of live memories. -/
def size (store : Store) : Nat :=
  store.entries.length

/-- Whether no memory is live. -/
def isEmpty (store : Store) : Bool :=
  store.size == 0

theorem slot?_put (store : Store) (key other : MemoryKey) (layer : MemoryLayer) (payload : Json)
    (now : EpochMillis) :
    (store.put key layer payload now).2.slot? other =
      if other = key then
        some ⟨(store.put key layer payload now).1.version,
          some (store.put key layer payload now).1⟩
      else store.slot? other :=
  SortedMap.get?_insert _ _ _ _

theorem slot?_remove (store : Store) (key other : MemoryKey) :
    (store.remove key).2.slot? other =
      if other = key then (store.slot? key).map fun slot => ⟨slot.version, none⟩
      else store.slot? other := by
  unfold remove
  split
  · rename_i version memory found
    simp only [slot?, SortedMap.get?_insert]
    split
    · simp only [slot?] at found
      simp [found]
    · rfl
  · rename_i absent
    split
    · rename_i same
      subst same
      cases found : store.slot? other with
      | none => rfl
      | some slot =>
        obtain ⟨version, live⟩ := slot
        cases live with
        | none => rfl
        | some memory => exact absurd found (absent version memory)
    · rfl

end Store

end Recollection
