/-
  XenGpuProxy.HandleTable.Basic — the handle table of `handle_table.c`: a
  chained hash table of `HASH_TABLE_SIZE` buckets from opaque 64-bit handles
  to (owner zone, device pointer, size), with the handle counter and the two
  statistics counters.

  A bucket's chain is a list, head first; `insert` pushes at the head and the
  walks of `lookup` and `remove` stop at the first entry carrying the handle.
  Pointers are 64-bit addresses, `NULL` is `0`.  The mutex is not modelled:
  every operation holds it throughout, so each is one atomic step.

  Main results:
    * `find?_handle_eq_some_iff` — in a chain with distinct handles the walk
      finds exactly the entry carrying the handle.
    * `eraseP_of_find?_eq_some` — the unlink of `remove` takes out exactly the
      entry the walk found.
-/
import XenGpuProxy.Wire.Bytes
import Mathlib.Logic.Function.Basic
import Mathlib.Data.List.Nodup

namespace XenGpuProxy

/-! ## §1. State. -/

/-- `struct handle_entry`, its `next` link being the bucket list. -/
structure HandleEntry where
  handle : UInt64
  zoneId : UInt32
  ptr : UInt64
  size : UInt64
  deriving DecidableEq, Repr

/-- `HASH_TABLE_SIZE`. -/
def hashTableSize : Nat := 1024

/-- The table's static state: `hash_table`, `next_handle`, `total_handles`,
    `total_memory`. -/
structure HandleTable where
  hashTable : Fin hashTableSize → List HandleEntry
  nextHandle : UInt64
  totalHandles : UInt64
  totalMemory : UInt64

/-- `hash_handle`: the bucket of a handle. -/
def hashHandle (handle : UInt64) : Fin hashTableSize :=
  ⟨handle.toNat % hashTableSize, Nat.mod_lt _ (by decide)⟩

/-- `handle_table_init`, and what `handle_table_cleanup` leaves. -/
def handleTableInit : HandleTable :=
  { hashTable := fun _ => [], nextHandle := 1, totalHandles := 0, totalMemory := 0 }

/-- The chain walk shared by lookup and remove: the first entry of the
    handle's bucket that carries it. -/
def HandleTable.find (t : HandleTable) (handle : UInt64) : Option HandleEntry :=
  (t.hashTable (hashHandle handle)).find? (·.handle == handle)

/-! ## §2. Operations. -/

/-- `handle_table_insert`: refuse a `NULL` pointer, allocate the entry
    (`mallocOk`), give it `next_handle++`, push it on its bucket, count it. -/
def handleTableInsert (t : HandleTable) (zoneId : UInt32) (ptr size : UInt64) (mallocOk : Bool) :
    UInt64 × HandleTable :=
  if ptr = 0 then (0, t)
  else if !mallocOk then (0, t)
  else
    let entry : HandleEntry := { handle := t.nextHandle, zoneId, ptr, size }
    let idx := hashHandle entry.handle
    (entry.handle,
      { hashTable := Function.update t.hashTable idx (entry :: t.hashTable idx),
        nextHandle := t.nextHandle + 1,
        totalHandles := t.totalHandles + 1,
        totalMemory := t.totalMemory + size })

/-- `handle_table_lookup`: the pointer, and the size stored through
    `size_out`.  A handle that is absent or owned by another zone gives `NULL`;
    `size_out` is then left unwritten, shown as `0` (no caller reads it). -/
def handleTableLookup (t : HandleTable) (zoneId : UInt32) (handle : UInt64) : UInt64 × UInt64 :=
  match t.find handle with
  | some e => if e.zoneId ≠ zoneId then (0, 0) else (e.ptr, e.size)
  | none => (0, 0)

/-- `handle_table_remove`: on an owned handle, unlink the first entry carrying
    it, uncount it and return its pointer; otherwise `NULL` and no change. -/
def handleTableRemove (t : HandleTable) (zoneId : UInt32) (handle : UInt64) :
    UInt64 × HandleTable :=
  match t.find handle with
  | some e =>
    if e.zoneId ≠ zoneId then (0, t)
    else
      let idx := hashHandle handle
      (e.ptr,
        { t with
          hashTable := Function.update t.hashTable idx ((t.hashTable idx).eraseP (·.handle == handle)),
          totalHandles := t.totalHandles - 1,
          totalMemory := t.totalMemory - e.size })
  | none => (0, t)

/-- A handle the table does not find is not removed. -/
theorem handleTableRemove_of_find_eq_none {t : HandleTable} {zoneId : UInt32} {handle : UInt64}
    (h : t.find handle = none) : handleTableRemove t zoneId handle = (0, t) := by
  unfold handleTableRemove
  rw [h]

/-- `handle_table_stats`. -/
def handleTableStats (t : HandleTable) : UInt64 × UInt64 := (t.totalHandles, t.totalMemory)

/-- `handle_table_cleanup`: every entry freed, the counters reset. -/
def handleTableCleanup (_t : HandleTable) : HandleTable := handleTableInit

/-! ## §3. Chain walks. -/

/-- In a chain whose handles are distinct, the walk finds exactly the entry
    carrying the handle. -/
theorem find?_handle_eq_some_iff {l : List HandleEntry} (hl : (l.map (·.handle)).Nodup)
    {handle : UInt64} {e : HandleEntry} :
    l.find? (·.handle == handle) = some e ↔ e ∈ l ∧ e.handle = handle := by
  constructor
  · intro h
    exact ⟨List.mem_of_find?_eq_some h, by simpa using List.find?_some h⟩
  · rintro ⟨he, rfl⟩
    cases hf : l.find? (·.handle == e.handle) with
    | none =>
      rw [List.find?_eq_none] at hf
      exact absurd (beq_self_eq_true e.handle) (hf e he)
    | some e' =>
      have hh : e'.handle = e.handle := by simpa using List.find?_some hf
      rw [List.inj_on_of_nodup_map hl (List.mem_of_find?_eq_some hf) he hh]

/-- The entry found for a handle splits the list around it; erasing by the
    handle removes exactly it. -/
theorem eraseP_of_find?_eq_some {l : List HandleEntry} {handle : UInt64} {e : HandleEntry}
    (h : l.find? (·.handle == handle) = some e) :
    ∃ as bs, l = as ++ e :: bs ∧ l.eraseP (·.handle == handle) = as ++ bs ∧
      e.handle = handle ∧ ∀ a ∈ as, a.handle ≠ handle := by
  obtain ⟨he, as, bs, rfl, has⟩ := List.find?_eq_some.mp h
  refine ⟨as, bs, rfl, ?_, by simpa using he, fun a ha => by simpa using has a ha⟩
  rw [List.eraseP_append_right _ (fun b hb => by simpa using has b hb), List.eraseP_cons_of_pos (by exact he)]

end XenGpuProxy
