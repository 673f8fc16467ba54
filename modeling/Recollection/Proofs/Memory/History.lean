import Recollection.Proofs.Memory.Store
/-!
# Histories of a store

A history is the log of what was done to a store: every committed write and every removal, in their
order. It knows nothing of slots: a key's version is the number of writes to it, and its memory is
live if the last change under the key is a write.

`Store.Follows` says that a store is what its history makes of it. Writes and removals keep it so.
-/

set_option autoImplicit false

namespace Recollection

/-- A committed write. -/
structure Write where
  /-- The memory that is written. -/
  key : MemoryKey
  /-- Its layer. -/
  layer : MemoryLayer
  /-- Its content. -/
  payload : Json
  /-- When it is written. -/
  instant : EpochMillis
deriving DecidableEq

/-- The memory that a write makes under a version. -/
def Write.stamped (write : Write) (version : UInt64) : StoredMemory where
  layer := write.layer
  payload := write.payload
  version := version
  persistedAtMillis := write.instant
  terms := .ofDocument write.payload

/-- A change to a store. -/
inductive Change
  /-- A write was committed. -/
  | write (write : Write)
  /-- A memory was to be removed, live or not. -/
  | removal (key : MemoryKey)
deriving DecidableEq

namespace Change

/-- The memory that is changed. -/
def key : Change → MemoryKey
  | .write committed => committed.key
  | .removal removed => removed

/-- Whether a change is a write to a key. -/
def writes (key : MemoryKey) : Change → Bool
  | .write committed => committed.key = key
  | .removal _ => false

/-- The key that is written to, if the change is a write. -/
def written? : Change → Option MemoryKey
  | .write committed => some committed.key
  | .removal _ => none

@[simp] theorem key_write (write : Write) : (Change.write write).key = write.key :=
  rfl

@[simp] theorem key_removal (removed : MemoryKey) : (Change.removal removed).key = removed :=
  rfl

end Change

/-- The changes to a store, in their order. -/
abbrev History := List Change

namespace History

/-! ## Numbers of writes -/

/-- The number of writes to a key. -/
def writesTo (history : History) (key : MemoryKey) : Nat :=
  history.countP (Change.writes key)

/-- The version of a key: the number of writes to it. -/
def version (history : History) (key : MemoryKey) : UInt64 :=
  .ofNat (writesTo history key)

theorem writesTo_append (history more : History) (key : MemoryKey) :
    writesTo (history ++ more) key = writesTo history key + writesTo more key :=
  List.countP_append

theorem writesTo_mono {history whole : History} (hearly : history <+: whole)
    (key : MemoryKey) : writesTo history key ≤ writesTo whole key := by
  obtain ⟨more, rfl⟩ := hearly
  rw [writesTo_append]
  exact Nat.le_add_right _ _

theorem writesTo_concat_write (history : History) (write : Write) (key : MemoryKey) :
    writesTo (history ++ [.write write]) key =
      writesTo history key + if write.key = key then 1 else 0 := by
  simp [writesTo, Change.writes]

theorem writesTo_concat_removal (history : History) (removed key : MemoryKey) :
    writesTo (history ++ [.removal removed]) key = writesTo history key := by
  simp [writesTo, Change.writes]

/-- Changes to other keys are no writes to a key. -/
theorem writesTo_eq_zero_of_others {history : History} {key : MemoryKey}
    (hothers : ∀ change ∈ history, change.key ≠ key) : writesTo history key = 0 := by
  rw [writesTo, List.countP_eq_zero]
  intro change hchange
  have hother := hothers change hchange
  cases change with
  | write write => simpa [Change.writes] using hother
  | removal removed => simp [Change.writes]

/-- The keys of all writes, in their order. -/
def writtenKeys (history : History) : List MemoryKey :=
  history.filterMap Change.written?

theorem length_writtenKeys_mono {history whole : History} (hearly : history <+: whole) :
    (writtenKeys history).length ≤ (writtenKeys whole).length :=
  (hearly.sublist.filterMap _).length_le

theorem writesTo_eq_count (history : History) (key : MemoryKey) :
    writesTo history key = (writtenKeys history).count key := by
  rw [writtenKeys, List.count, List.countP_filterMap, writesTo]
  congr 1
  funext change
  cases change with
  | write write => simp [Change.writes, Change.written?, beq_eq_decide]
  | removal removed => rfl

theorem writesTo_le_length (history : History) (key : MemoryKey) :
    writesTo history key ≤ (writtenKeys history).length := by
  rw [writesTo_eq_count]
  exact List.count_le_length

/-- As long as the writes to a key can be counted, the version tells their number. -/
theorem toNat_version {history : History} {key : MemoryKey}
    (hfew : writesTo history key < UInt64.size) :
    (version history key).toNat = writesTo history key :=
  UInt64.toNat_ofNat_of_lt' hfew

/-! ## The last change -/

/-- The last change under a key. -/
def last? (history : History) (key : MemoryKey) : Option Change :=
  history.reverse.find? fun change => change.key = key

theorem last?_concat (history : History) (change : Change) (key : MemoryKey) :
    last? (history ++ [change]) key =
      if change.key = key then some change else last? history key := by
  by_cases hkey : change.key = key <;> simp [last?, hkey]

theorem last?_append (history more : History) (key : MemoryKey) :
    last? (history ++ more) key = (last? more key).or (last? history key) := by
  rw [last?, List.reverse_append, List.find?_append]
  rfl

/-- The last change under a key splits a history, and nothing after it is under the key. -/
theorem last?_eq_some_iff {history : History} {key : MemoryKey} {change : Change} :
    last? history key = some change ↔
      change.key = key ∧ ∃ earlier since, history = earlier ++ change :: since ∧
        ∀ later ∈ since, later.key ≠ key := by
  rw [last?, List.find?_eq_some_iff_append]
  constructor
  · rintro ⟨hkey, since, earlier, hsplit, hothers⟩
    refine ⟨by simpa using hkey, earlier.reverse, since.reverse, ?_, ?_⟩
    · rw [← List.reverse_reverse history, hsplit]
      simp
    · intro later hlater
      simpa using hothers later (List.mem_reverse.1 hlater)
  · rintro ⟨hkey, earlier, since, rfl, hothers⟩
    refine ⟨by simpa using hkey, since.reverse, earlier.reverse, by simp, ?_⟩
    intro later hlater
    simpa using hothers later (List.mem_reverse.1 hlater)

/-! ## What a history makes of a key -/

/-- The live memory under a key: the last write to it, unless a removal came later. -/
def live? (history : History) (key : MemoryKey) : Option StoredMemory :=
  match last? history key with
  | some (.write write) => some (write.stamped (version history key))
  | _ => none

/-- The place of a key: there is none before the first write. -/
def slot? (history : History) (key : MemoryKey) : Option Slot :=
  if writesTo history key = 0 then none else some ⟨version history key, live? history key⟩

theorem live?_eq_some_iff {history : History} {key : MemoryKey} {memory : StoredMemory} :
    live? history key = some memory ↔
      ∃ write, last? history key = some (.write write) ∧
        write.stamped (version history key) = memory := by
  unfold live?
  split
  · rename_i write hlast
    simp [hlast]
  · rename_i hnot
    simp only [reduceCtorEq, false_iff]
    rintro ⟨write, hlast, -⟩
    exact hnot write hlast

/-- A live memory carries the version of its key. -/
theorem version_of_live? {history : History} {key : MemoryKey} {memory : StoredMemory}
    (hlive : live? history key = some memory) : memory.version = version history key := by
  obtain ⟨write, -, rfl⟩ := live?_eq_some_iff.1 hlive
  rfl

/-- A live memory is the write that was stamped with its version, and nothing happened under the key
since. -/
theorem exists_write_of_live? {history : History} {key : MemoryKey} {memory : StoredMemory}
    (hlive : live? history key = some memory) :
    ∃ earlier write since, history = earlier ++ .write write :: since ∧ write.key = key ∧
      (∀ later ∈ since, later.key ≠ key) ∧
      writesTo history key = writesTo earlier key + 1 ∧
      memory = write.stamped (version history key) := by
  obtain ⟨write, hlast, rfl⟩ := live?_eq_some_iff.1 hlive
  obtain ⟨hkey, earlier, since, rfl, hothers⟩ := last?_eq_some_iff.1 hlast
  rw [Change.key_write] at hkey
  refine ⟨earlier, write, since, rfl, hkey, hothers, ?_, rfl⟩
  have hsince := writesTo_eq_zero_of_others hothers
  rw [List.append_cons, writesTo_append, writesTo_concat_write, hsince, if_pos hkey]

/-- What is live is the last write to a key, stamped with the number of writes up to it, as long as
no removal came later. -/
theorem live?_eq_some_iff_split {history : History} {key : MemoryKey} {memory : StoredMemory}
    (hfew : writesTo history key < UInt64.size) :
    live? history key = some memory ↔
      ∃ before write since, history = before ++ .write write :: since ∧ write.key = key ∧
        (∀ change ∈ since, change.key ≠ key) ∧ memory = write.stamped memory.version ∧
        memory.version.toNat = writesTo before key + 1 := by
  constructor
  · intro hlive
    obtain ⟨before, write, since, hsplit, hkey, hothers, hwrites, rfl⟩ :=
      exists_write_of_live? hlive
    refine ⟨before, write, since, hsplit, hkey, hothers, rfl, ?_⟩
    rw [Write.stamped, toNat_version hfew, hwrites]
  · rintro ⟨before, write, since, rfl, rfl, hothers, hmemory, hversion⟩
    have hlast : last? (before ++ .write write :: since) write.key = some (.write write) :=
      last?_eq_some_iff.2 ⟨rfl, before, since, rfl, hothers⟩
    have hlive := live?_eq_some_iff.2 ⟨write, hlast, rfl⟩
    have hsame : memory.version = version (before ++ .write write :: since) write.key := by
      rw [← UInt64.toNat_inj, hversion, toNat_version hfew, List.append_cons, writesTo_append,
        writesTo_concat_write, if_pos rfl, writesTo_eq_zero_of_others hothers]
    rw [hmemory, hsame]
    exact hlive

/-- The last change is counted: where it is a write, there is one. -/
theorem writesTo_pos_of_last? {history : History} {key : MemoryKey} {write : Write}
    (hlast : last? history key = some (.write write)) : 0 < writesTo history key := by
  obtain ⟨hkey, earlier, since, rfl, -⟩ := last?_eq_some_iff.1 hlast
  rw [Change.key_write] at hkey
  rw [List.append_cons, writesTo_append, writesTo_concat_write, if_pos hkey]
  omega

theorem writesTo_pos_of_live? {history : History} {key : MemoryKey} {memory : StoredMemory}
    (hlive : live? history key = some memory) : 0 < writesTo history key := by
  obtain ⟨write, hlast, -⟩ := live?_eq_some_iff.1 hlive
  exact writesTo_pos_of_last? hlast

theorem slot?_bind_live (history : History) (key : MemoryKey) :
    (slot? history key).bind Slot.live = live? history key := by
  unfold slot?
  split
  · rename_i hzero
    cases hlive : live? history key with
    | none => rfl
    | some memory =>
      have hpos := writesTo_pos_of_live? hlive
      omega
  · rfl

theorem slot?_getD_version (history : History) (key : MemoryKey) :
    ((slot? history key).getD .fresh).version = version history key := by
  unfold slot?
  split
  · rename_i hzero
    rw [version, hzero]
    rfl
  · rfl

/-- Where each key is changed at most once, what is written is live, one version further. -/
theorem live?_append_of_nodup (history : History) {more : History} {write : Write}
    (hnodup : (more.map Change.key).Nodup) (hwrite : .write write ∈ more) :
    writesTo (history ++ more) write.key = writesTo history write.key + 1 ∧
      live? (history ++ more) write.key =
        some (write.stamped (version (history ++ more) write.key)) := by
  obtain ⟨earlier, since, rfl⟩ := List.append_of_mem hwrite
  rw [List.map_append, List.map_cons, List.nodup_append, List.nodup_cons] at hnodup
  obtain ⟨-, ⟨hsince, -⟩, hearlier⟩ := hnodup
  have hbefore : ∀ change ∈ earlier, change.key ≠ write.key := by
    intro change hchange
    exact hearlier _ (List.mem_map_of_mem hchange) _ List.mem_cons_self
  have hafter : ∀ change ∈ since, change.key ≠ write.key := by
    intro change hchange hsame
    exact hsince (List.mem_map.2 ⟨change, hchange, hsame⟩)
  constructor
  · rw [List.append_cons, writesTo_append, writesTo_append, writesTo_concat_write, if_pos rfl,
      writesTo_eq_zero_of_others hbefore, writesTo_eq_zero_of_others hafter]
  · rw [live?_eq_some_iff]
    refine ⟨write, last?_eq_some_iff.2 ⟨rfl, history ++ earlier, since, ?_, hafter⟩, rfl⟩
    rw [List.append_assoc]

/-- No version comes twice: what is live at a version stays what it was. -/
theorem eq_of_live?_of_version_eq {history more : History} {key : MemoryKey}
    {first second : StoredMemory} (hfew : writesTo (history ++ more) key < UInt64.size)
    (hfirst : live? history key = some first)
    (hsecond : live? (history ++ more) key = some second)
    (hversion : first.version = second.version) : first = second := by
  -- equal versions mean that nothing was written in between
  have hcount : writesTo history key = writesTo (history ++ more) key := by
    have hle := writesTo_mono (List.prefix_append history more) key
    rw [← toNat_version (Nat.lt_of_le_of_lt hle hfew), ← toNat_version hfew,
      ← version_of_live? hfirst, ← version_of_live? hsecond, hversion]
  obtain ⟨old, hold, rfl⟩ := live?_eq_some_iff.1 hfirst
  obtain ⟨new, hnew, rfl⟩ := live?_eq_some_iff.1 hsecond
  rw [last?_append] at hnew
  cases hmore : last? more key with
  | none =>
    rw [hmore, Option.none_or, hold] at hnew
    obtain rfl := Change.write.inj (Option.some.inj hnew)
    rw [version, version, hcount]
  | some change =>
    rw [hmore, Option.some_or] at hnew
    obtain rfl := Option.some.inj hnew
    have hpos := writesTo_pos_of_last? hmore
    rw [writesTo_append] at hcount
    omega

end History

/-! ## Stores and their histories -/

namespace Store

/-- A store is what a history makes of it. -/
def Follows (store : Store) (history : History) : Prop :=
  ∀ key, store.slot? key = history.slot? key

namespace Follows

variable {store : Store} {history : History}

theorem empty : Store.empty.Follows [] := by
  intro key
  rfl

theorem get?_eq (hfollows : store.Follows history) (key : MemoryKey) :
    store.get? key = history.live? key := by
  rw [get?, hfollows, History.slot?_bind_live]

/-- The version of a live memory is the number of writes to its key, which is not zero. -/
theorem toNat_liveVersion? (hfollows : store.Follows history) {key : MemoryKey} {version : UInt64}
    (hfew : history.writesTo key < UInt64.size)
    (hlive : store.liveVersion? key = some version) :
    version.toNat = history.writesTo key ∧ version ≠ 0 := by
  rw [liveVersion?, hfollows.get?_eq] at hlive
  obtain ⟨memory, hmemory, rfl⟩ := Option.map_eq_some_iff.1 hlive
  have hcount : memory.version.toNat = history.writesTo key := by
    rw [History.version_of_live? hmemory, History.toNat_version hfew]
  refine ⟨hcount, ?_⟩
  intro hzero
  have hpos := History.writesTo_pos_of_live? hmemory
  rw [← hcount, hzero] at hpos
  exact absurd hpos (Nat.lt_irrefl 0)

/-- No more memories are live than were ever written. -/
theorem size_le_length (hfollows : store.Follows history) :
    store.size ≤ history.writtenKeys.length := by
  have hwritten : store.entries.map Prod.fst ⊆ history.writtenKeys := by
    intro key hkey
    obtain ⟨⟨_, memory⟩, hmem, rfl⟩ := List.mem_map.1 hkey
    have hlive := (mem_entries_iff _ _ _).1 hmem
    rw [hfollows.get?_eq] at hlive
    have hpos := History.writesTo_pos_of_live? hlive
    rw [History.writesTo_eq_count] at hpos
    exact List.count_pos_iff.1 hpos
  have hlength := (store.nodup_entries_keys.subperm hwritten).length_le
  rwa [List.length_map] at hlength

/-- A write is stamped with the number of writes before it and itself. -/
theorem put_fst (hfollows : store.Follows history) (write : Write) :
    (store.put write.key write.layer write.payload write.instant).1 =
      write.stamped (History.version (history ++ [.write write]) write.key) := by
  have hversion := History.slot?_getD_version history write.key
  rw [put, Slot.next, hfollows, hversion, History.version, History.version,
    History.writesTo_concat_write, if_pos rfl, UInt64.ofNat_add]
  rfl

/-- A write to the store is a write in its history. -/
theorem put (hfollows : store.Follows history) (write : Write) :
    (store.put write.key write.layer write.payload write.instant).2.Follows
      (history ++ [.write write]) := by
  intro key
  rw [slot?_put, hfollows.put_fst]
  by_cases hkey : key = write.key
  · subst hkey
    simp [History.slot?, History.live?, History.last?_concat,
      History.writesTo_concat_write, Write.stamped]
  · have hne : write.key ≠ key := fun hsame => hkey hsame.symm
    rw [if_neg hkey, hfollows]
    simp [History.slot?, History.live?, History.last?_concat, History.version,
      History.writesTo_concat_write, hne]

/-- A removal from the store is a removal in its history. -/
theorem remove (hfollows : store.Follows history) (removed : MemoryKey) :
    (store.remove removed).2.Follows (history ++ [.removal removed]) := by
  intro key
  rw [slot?_remove]
  by_cases hkey : key = removed
  · subst hkey
    rw [if_pos rfl, hfollows]
    by_cases hzero : history.writesTo key = 0
    · simp [History.slot?, History.writesTo_concat_removal, hzero]
    · simp [History.slot?, History.live?, History.last?_concat, History.version,
        History.writesTo_concat_removal, hzero]
  · have hne : removed ≠ key := fun hsame => hkey hsame.symm
    rw [if_neg hkey, hfollows]
    simp [History.slot?, History.live?, History.last?_concat, History.version,
      History.writesTo_concat_removal, hne]

end Follows

end Store

end Recollection
