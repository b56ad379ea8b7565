/-
  XenGpuProxy.HandleTable.Refinement — the chained hash table of
  `HandleTable.Basic` refines a finite map.

  The abstract model `HandleMap` is the table's purpose: a finite map from
  handle to (owner zone, pointer, size), kept as an association list with
  pairwise distinct handles, together with the next handle to hand out and
  the ghost list of every handle handed out so far.  The relation `Refines`
  says that bucket `i` is the sublist of the map's entries that hash to `i`
  and that the counters are the map's size and byte total mod 2^64.

  Main results:
    * `Refines.apply` — one call: the table and the map return the same result
      and stay related (the step lemma).
    * `Refines.run` — every run of calls, by induction (the run lemma).
    * `handleTable_refines_handleMap` — from `handle_table_init`, every run of
      fewer than 2^64 - 1 inserts: same results as the map, the representation
      invariant `TableInv` holds, and the handles the inserts return are
      pairwise distinct.
-/
import XenGpuProxy.HandleTable.Basic
import Mathlib.Algebra.BigOperators.Group.List

namespace XenGpuProxy

/-! ## §1. The finite map the table implements. -/

/-- Live entries (newest first), the next handle, and every handle issued. -/
structure HandleMap where
  entries : List HandleEntry
  next : Nat
  issued : List UInt64

/-- The empty map. -/
def HandleMap.init : HandleMap := { entries := [], next := 1, issued := [] }

/-- The entry a handle maps to. -/
def HandleMap.get (m : HandleMap) (handle : UInt64) : Option HandleEntry :=
  m.entries.find? (·.handle == handle)

/-- Insert: a non-`NULL` pointer whose entry can be allocated is bound to a
    fresh handle; otherwise `0` and no change. -/
def HandleMap.insert (m : HandleMap) (zoneId : UInt32) (ptr size : UInt64) (mallocOk : Bool) :
    UInt64 × HandleMap :=
  if ptr = 0 ∨ mallocOk = false then (0, m)
  else
    let handle := UInt64.ofNat m.next
    (handle, { entries := { handle, zoneId, ptr, size } :: m.entries, next := m.next + 1,
               issued := m.issued ++ [handle] })

/-- Lookup: pointer and size of a live handle the zone owns, else `(0, 0)`. -/
def HandleMap.lookup (m : HandleMap) (zoneId : UInt32) (handle : UInt64) : UInt64 × UInt64 :=
  match m.get handle with
  | some e => if e.zoneId = zoneId then (e.ptr, e.size) else (0, 0)
  | none => (0, 0)

/-- Remove: a live handle the zone owns is unbound and its pointer returned;
    otherwise `0` and no change. -/
def HandleMap.remove (m : HandleMap) (zoneId : UInt32) (handle : UInt64) : UInt64 × HandleMap :=
  match m.get handle with
  | some e =>
    if e.zoneId = zoneId then (e.ptr, { m with entries := m.entries.eraseP (·.handle == handle) })
    else (0, m)
  | none => (0, m)

/-- Statistics: the number of live entries and their byte total, mod 2^64. -/
def HandleMap.stats (m : HandleMap) : UInt64 × UInt64 :=
  (UInt64.ofNat m.entries.length, UInt64.ofNat (m.entries.map (·.size.toNat)).sum)

/-- The map's well-formedness: handles are distinct, nonzero, issued and below
    `next`; no entry has a `NULL` pointer. -/
structure HandleMap.Inv (m : HandleMap) : Prop where
  handles_nodup : (m.entries.map (·.handle)).Nodup
  live_issued : ∀ e ∈ m.entries, e.handle ∈ m.issued
  issued_nodup : m.issued.Nodup
  issued_range : ∀ h ∈ m.issued, 0 < h.toNat ∧ h.toNat < m.next
  ptr_ne : ∀ e ∈ m.entries, e.ptr ≠ 0
  next_pos : 0 < m.next

theorem HandleMap.inv_init : HandleMap.init.Inv where
  handles_nodup := List.nodup_nil
  live_issued := by simp [HandleMap.init]
  issued_nodup := List.nodup_nil
  issued_range := by simp [HandleMap.init]
  ptr_ne := by simp [HandleMap.init]
  next_pos := Nat.one_pos

/-- Insert keeps the map well-formed while `next` stays below 2^64: the new
    handle is `next`, above every handle issued so far. -/
theorem HandleMap.Inv.insert {m : HandleMap} (hi : m.Inv) (hn : m.next + 1 < 2 ^ 64)
    (z : UInt32) (p s : UInt64) (ok : Bool) : (m.insert z p s ok).2.Inv := by
  dsimp only [HandleMap.insert]
  split_ifs with hp
  · exact hi
  have hnext : (UInt64.ofNat m.next).toNat = m.next := by
    rw [UInt64.toNat_ofNat', Nat.mod_eq_of_lt (by omega)]
  have hfresh : UInt64.ofNat m.next ∉ m.issued := fun hh => by
    have := (hi.issued_range _ hh).2
    rw [hnext] at this
    exact Nat.lt_irrefl _ this
  refine ⟨?_, ?_, ?_, ?_, ?_, Nat.succ_pos _⟩
  · simp only [List.map_cons, List.nodup_cons, hi.handles_nodup, and_true, List.mem_map]
    rintro ⟨e, he, heq⟩
    exact hfresh (heq ▸ hi.live_issued e he)
  · rw [List.forall_mem_cons]
    exact ⟨List.mem_append_right _ (List.mem_singleton_self _),
      fun e he => List.mem_append_left _ (hi.live_issued e he)⟩
  · exact List.nodup_append_comm.mp (List.nodup_cons.mpr ⟨hfresh, hi.issued_nodup⟩)
  · intro x hx
    dsimp only at hx ⊢
    rcases List.mem_append.mp hx with hx | hx
    · have := hi.issued_range x hx
      omega
    · rw [List.mem_singleton.mp hx, hnext]
      exact ⟨hi.next_pos, Nat.lt_succ_self _⟩
  · rw [List.forall_mem_cons]
    exact ⟨(not_or.mp hp).1, hi.ptr_ne⟩

/-- Removing keeps the map's invariant: the entries left are a sublist. -/
theorem HandleMap.Inv.remove {m : HandleMap} (hi : m.Inv) (z : UInt32) (h : UInt64) :
    (m.remove z h).2.Inv := by
  have hsub : (m.entries.eraseP (·.handle == h)).Sublist m.entries := List.eraseP_sublist _
  dsimp only [HandleMap.remove]
  split
  · split_ifs
    · exact ⟨(hsub.map _).nodup hi.handles_nodup, fun a ha => hi.live_issued a (hsub.subset ha),
        hi.issued_nodup, hi.issued_range, fun a ha => hi.ptr_ne a (hsub.subset ha), hi.next_pos⟩
    · exact hi
  · exact hi

/-! ## §2. Calls and runs. -/

/-- A call into the table. -/
inductive TableOp
  | insert (zoneId : UInt32) (ptr size : UInt64) (mallocOk : Bool)
  | lookup (zoneId : UInt32) (handle : UInt64)
  | remove (zoneId : UInt32) (handle : UInt64)
  | stats
  deriving DecidableEq, Repr

/-- What a call returns: one word (insert's handle, remove's pointer) or two
    (lookup's pointer and size, the two statistics). -/
inductive TableRet
  | word (w : UInt64)
  | pair (a b : UInt64)
  deriving DecidableEq, Repr

def TableOp.isInsert : TableOp → Bool
  | .insert .. => true
  | _ => false

/-- One call on the table. -/
def HandleTable.apply (t : HandleTable) : TableOp → TableRet × HandleTable
  | .insert z p s ok => Prod.map .word id (handleTableInsert t z p s ok)
  | .lookup z h => (Function.uncurry .pair (handleTableLookup t z h), t)
  | .remove z h => Prod.map .word id (handleTableRemove t z h)
  | .stats => (Function.uncurry .pair (handleTableStats t), t)

/-- One call on the map. -/
def HandleMap.apply (m : HandleMap) : TableOp → TableRet × HandleMap
  | .insert z p s ok => Prod.map .word id (m.insert z p s ok)
  | .lookup z h => (Function.uncurry .pair (m.lookup z h), m)
  | .remove z h => Prod.map .word id (m.remove z h)
  | .stats => (Function.uncurry .pair m.stats, m)

/-- A run of calls on the table: the results in call order, and the last state. -/
def HandleTable.run (t : HandleTable) : List TableOp → List TableRet × HandleTable
  | [] => ([], t)
  | op :: ops =>
    let r := (t.apply op).2.run ops
    ((t.apply op).1 :: r.1, r.2)

/-- A run of calls on the map. -/
def HandleMap.run (m : HandleMap) : List TableOp → List TableRet × HandleMap
  | [] => ([], m)
  | op :: ops =>
    let r := (m.apply op).2.run ops
    ((m.apply op).1 :: r.1, r.2)

/-- The handle a call handed out: a nonzero result of an insert. -/
def insertResult : TableOp × TableRet → Option UInt64
  | (.insert .., .word h) => if h = 0 then none else some h
  | _ => none

/-- The handles the inserts of a run handed out, in call order. -/
def issuedHandles (ops : List TableOp) (rs : List TableRet) : List UInt64 :=
  (ops.zip rs).filterMap insertResult

/-! ## §3. The relation and the representation invariant. -/

/-- The table represents the map: each bucket holds, in order, the map's
    entries that hash to it, and the counters are the map's. -/
structure Refines (t : HandleTable) (m : HandleMap) : Prop where
  buckets : ∀ i, t.hashTable i = m.entries.filter (fun e => hashHandle e.handle = i)
  next_handle : t.nextHandle.toNat = m.next
  total_handles : t.totalHandles = UInt64.ofNat m.entries.length
  total_memory : t.totalMemory = UInt64.ofNat (m.entries.map (·.size.toNat)).sum

/-- The table's representation invariant: every entry sits in the bucket of
    its handle, no bucket holds a handle twice (so, with placement, handles are
    pairwise distinct across the table), every handle is nonzero and below
    `next_handle`, and no entry has a `NULL` pointer. -/
structure TableInv (t : HandleTable) : Prop where
  placed : ∀ i, ∀ e ∈ t.hashTable i, hashHandle e.handle = i
  handles_nodup : ∀ i, ((t.hashTable i).map (·.handle)).Nodup
  handle_range : ∀ i, ∀ e ∈ t.hashTable i, 0 < e.handle.toNat ∧ e.handle.toNat < t.nextHandle.toNat
  ptr_ne : ∀ i, ∀ e ∈ t.hashTable i, e.ptr ≠ 0

theorem refines_init : Refines handleTableInit HandleMap.init where
  buckets _ := rfl
  next_handle := rfl
  total_handles := rfl
  total_memory := rfl

/-- The representation invariant follows from the relation to a well-formed map. -/
theorem Refines.tableInv {t : HandleTable} {m : HandleMap} (hr : Refines t m) (hi : m.Inv) :
    TableInv t where
  placed i e he := by
    rw [hr.buckets, List.mem_filter] at he
    simpa using he.2
  handles_nodup i := by
    rw [hr.buckets]
    exact ((List.filter_sublist _).map _).nodup hi.handles_nodup
  handle_range i e he := by
    rw [hr.buckets, List.mem_filter] at he
    rw [hr.next_handle]
    exact hi.issued_range _ (hi.live_issued e he.1)
  ptr_ne i e he := hi.ptr_ne e (List.mem_filter.mp (hr.buckets i ▸ he)).1

/-- A handle `handle_table_remove` unbound is no longer found: within a
    bucket the handles are distinct. -/
theorem TableInv.find_remove_self {t : HandleTable} (hinv : TableInv t) {z : UInt32} {h : UInt64}
    (h0 : (handleTableRemove t z h).1 ≠ 0) : (handleTableRemove t z h).2.find h = none := by
  unfold handleTableRemove at h0 ⊢
  cases hf : t.find h with
  | none => simp [hf] at h0
  | some e =>
    simp only [hf] at h0 ⊢
    split_ifs at h0 ⊢
    · exact absurd rfl h0
    · obtain ⟨as, bs, hl, herase, heh, has⟩ := eraseP_of_find?_eq_some hf
      have hnd := hinv.handles_nodup (hashHandle h)
      rw [hl, List.map_append, List.map_cons] at hnd
      have hnot := (List.nodup_cons.mp (List.Nodup.of_append_right hnd)).1
      simp only [HandleTable.find, Function.update_same, herase, List.find?_eq_none, List.mem_append,
        beq_iff_eq]
      rintro x (hx | hx) rfl
      · exact has x hx rfl
      · exact hnot (heh ▸ List.mem_map_of_mem _ hx)

/-! ## §4. Each call keeps the relation. -/

section Step

variable {t : HandleTable} {m : HandleMap}

theorem ofNat_add_toNat (a : Nat) (b : UInt64) : UInt64.ofNat a + b = UInt64.ofNat (a + b.toNat) := by
  apply UInt64.toNat.inj
  rw [UInt64.toNat_add', UInt64.toNat_ofNat', UInt64.toNat_ofNat', Nat.mod_add_mod]

theorem ofNat_sub_toNat (a : Nat) (b : UInt64) (h : b.toNat ≤ a) :
    UInt64.ofNat a - b = UInt64.ofNat (a - b.toNat) := by
  apply UInt64.toNat.inj
  have hb : b.toNat < 2 ^ 64 := b.toBitVec.isLt
  simp only [UInt64.toNat_sub', UInt64.toNat_ofNat', Nat.reducePow] at hb ⊢
  omega

/-- The chain walk finds what the map's `get` finds. -/
theorem Refines.find_eq (hr : Refines t m) (handle : UInt64) : t.find handle = m.get handle := by
  simp only [HandleTable.find, HandleMap.get, hr.buckets, List.find?_filter]
  congr 1
  funext e
  by_cases he : e.handle = handle <;> simp [he]

theorem Refines.insert (hr : Refines t m) (hi : m.Inv) (hn : m.next + 1 < 2 ^ 64)
    (z : UInt32) (p s : UInt64) (ok : Bool) :
    (handleTableInsert t z p s ok).1 = (m.insert z p s ok).1 ∧
      Refines (handleTableInsert t z p s ok).2 (m.insert z p s ok).2 ∧ (m.insert z p s ok).2.Inv := by
  have hinv := hi.insert hn z p s ok
  by_cases hp : p = 0 ∨ ok = false
  · have hc : handleTableInsert t z p s ok = (0, t) := by
      rcases hp with rfl | rfl <;> simp [handleTableInsert]
    rw [hc, HandleMap.insert, if_pos hp]
    exact ⟨rfl, hr, hi⟩
  · simp only [not_or, Bool.not_eq_false] at hp
    obtain ⟨hp, rfl⟩ := hp
    have hnext : t.nextHandle = UInt64.ofNat m.next := by
      apply UInt64.toNat.inj
      rw [hr.next_handle, UInt64.toNat_ofNat', Nat.mod_eq_of_lt (by omega)]
    rw [HandleMap.insert, if_neg (by simp [hp])] at hinv ⊢
    simp only [handleTableInsert, hp, if_false, Bool.not_true, Bool.false_eq_true]
    have hone : (1 : UInt64).toNat = 1 := rfl
    refine ⟨hnext, ⟨fun i => ?_, ?_, ?_, ?_⟩, hinv⟩
    · rw [hnext]
      by_cases hi' : hashHandle (UInt64.ofNat m.next) = i
      · subst hi'
        simp [hr.buckets]
      · simp [Function.update_noteq (Ne.symm hi'), hr.buckets, List.filter_cons, hi']
    · rw [UInt64.toNat_add', hr.next_handle, hone, Nat.mod_eq_of_lt hn]
    · rw [hr.total_handles, ofNat_add_toNat, List.length_cons, hone]
    · rw [hr.total_memory, ofNat_add_toNat, List.map_cons, List.sum_cons, Nat.add_comm]

theorem Refines.lookup (hr : Refines t m) (z : UInt32) (h : UInt64) :
    handleTableLookup t z h = m.lookup z h := by
  simp only [handleTableLookup, HandleMap.lookup, hr.find_eq]
  cases m.get h with
  | none => rfl
  | some e => by_cases hz : e.zoneId = z <;> simp [hz]

theorem Refines.remove (hr : Refines t m) (hi : m.Inv) (z : UInt32) (h : UInt64) :
    (handleTableRemove t z h).1 = (m.remove z h).1 ∧
      Refines (handleTableRemove t z h).2 (m.remove z h).2 ∧ (m.remove z h).2.Inv := by
  have hinv := hi.remove z h
  simp only [handleTableRemove, HandleMap.remove, hr.find_eq] at hinv ⊢
  revert hinv
  cases hget : m.get h with
  | none => exact fun _ => ⟨by trivial, hr, hi⟩
  | some e =>
    by_cases hz : e.zoneId = z
    · simp only [hz, ne_eq, not_true_eq_false, if_false, if_true]
      obtain ⟨as, bs, hl, herase, heh, has⟩ := eraseP_of_find?_eq_some hget
      rw [herase]
      refine fun hinv => ⟨trivial, ⟨fun i => ?_, hr.next_handle, ?_, ?_⟩, hinv⟩
      · by_cases hi' : hashHandle h = i
        · subst hi'
          simp only [Function.update_same, hr.buckets, hl, List.filter_append, List.filter_cons, heh,
            decide_True, if_true]
          rw [List.eraseP_append_right _ (fun b hb => by simp_all [List.mem_filter]),
            List.eraseP_cons_of_pos (by simpa using heh)]
        · simp [Function.update_noteq (Ne.symm hi'), hr.buckets, hl, List.filter_append,
            List.filter_cons, heh, hi']
      · rw [hr.total_handles, hl, ofNat_sub_toNat _ _ (by simp; omega), (rfl : (1 : UInt64).toNat = 1)]
        simp
      · rw [hr.total_memory, hl, ofNat_sub_toNat _ _ (by simp [List.sum_append]; omega)]
        simp only [List.map_append, List.map_cons, List.sum_append, List.sum_cons]
        congr 1
        omega
    · simp only [hz, ne_eq, not_false_eq_true, if_true, if_false]
      exact fun _ => ⟨by trivial, hr, hi⟩

/-- **One call**: the table and the map return the same result and stay
    related (the step lemma). -/
theorem Refines.apply (hr : Refines t m) (hi : m.Inv) (op : TableOp)
    (hn : op.isInsert → m.next + 1 < 2 ^ 64) :
    (t.apply op).1 = (m.apply op).1 ∧ Refines (t.apply op).2 (m.apply op).2 ∧ (m.apply op).2.Inv := by
  cases op with
  | insert z p s ok =>
    obtain ⟨h1, h2, h3⟩ := hr.insert hi (hn rfl) z p s ok
    exact ⟨by simp [HandleTable.apply, HandleMap.apply, h1], h2, h3⟩
  | lookup z h => exact ⟨by simp [HandleTable.apply, HandleMap.apply, hr.lookup], hr, hi⟩
  | remove z h =>
    obtain ⟨h1, h2, h3⟩ := hr.remove hi z h
    exact ⟨by simp [HandleTable.apply, HandleMap.apply, h1], h2, h3⟩
  | stats =>
    exact ⟨by simp [HandleTable.apply, HandleMap.apply, handleTableStats, HandleMap.stats,
      hr.total_handles, hr.total_memory], hr, hi⟩

end Step

/-! ## §5. Runs. -/

section Run

variable {m : HandleMap}

/-- Only an insert moves the map's handle counter, by one at most. -/
theorem HandleMap.next_apply_le (op : TableOp) :
    (m.apply op).2.next ≤ m.next + if op.isInsert then 1 else 0 := by
  cases op with
  | insert z p s ok =>
    simp only [HandleMap.apply, HandleMap.insert, Prod.map, TableOp.isInsert, if_true]
    split <;> simp
  | lookup | stats => simp [HandleMap.apply, TableOp.isInsert]
  | remove z h =>
    simp only [HandleMap.apply, HandleMap.remove, Prod.map, TableOp.isInsert]
    split
    · split <;> simp
    · simp

/-- A call records in `issued` exactly the handle it hands out. -/
theorem HandleMap.issued_apply (hi : m.Inv) (op : TableOp) (hn : m.next < 2 ^ 64) :
    (m.apply op).2.issued = m.issued ++ (insertResult (op, (m.apply op).1)).toList := by
  cases op with
  | insert z p s ok =>
    simp only [HandleMap.apply, HandleMap.insert, Prod.map]
    split
    · simp [insertResult]
    · have h0 : UInt64.ofNat m.next ≠ 0 := fun h => by
        have := congrArg UInt64.toNat h
        rw [UInt64.toNat_ofNat', Nat.mod_eq_of_lt hn] at this
        exact absurd this (Nat.pos_iff_ne_zero.mp hi.next_pos)
      simp [insertResult, h0]
  | lookup | stats => simp [HandleMap.apply, insertResult]
  | remove z h =>
    simp only [HandleMap.apply, HandleMap.remove, Prod.map]
    split
    · split <;> simp [insertResult]
    · simp [insertResult]

/-- **Every run** keeps the relation, returns what the map returns, and keeps
    the map well-formed; the map's `issued` grows by the handles handed out
    (the run lemma). -/
theorem Refines.run {t : HandleTable} (hr : Refines t m) (hi : m.Inv) (ops : List TableOp)
    (hn : m.next + ops.countP TableOp.isInsert < 2 ^ 64) :
    (t.run ops).1 = (m.run ops).1 ∧ Refines (t.run ops).2 (m.run ops).2 ∧ (m.run ops).2.Inv ∧
      (m.run ops).2.issued = m.issued ++ issuedHandles ops (m.run ops).1 := by
  induction ops generalizing t m with
  | nil => exact ⟨rfl, hr, hi, by simp [HandleMap.run, issuedHandles]⟩
  | cons op ops ih =>
    have hcount := List.countP_cons (p := TableOp.isInsert) op ops
    have hstep := hr.apply hi op fun hop => by simp only [hop, if_true] at hcount; omega
    have hnext := HandleMap.next_apply_le (m := m) op
    obtain ⟨h1, h2, h3, h4⟩ := ih hstep.2.1 hstep.2.2 (by split at hnext <;> split at hcount <;> omega)
    refine ⟨by simp [HandleTable.run, HandleMap.run, hstep.1, h1], h2, h3, ?_⟩
    simp only [HandleMap.run, h4, HandleMap.issued_apply hi op (by omega), issuedHandles,
      List.zip_cons_cons, List.filterMap_cons, List.append_assoc]
    cases insertResult (op, (m.apply op).1) <;> rfl

end Run

/-- **The handle table refines a finite map.**  From `handle_table_init`,
    after any run of fewer than 2^64 - 1 inserts mixed with lookups, removes
    and statistics: every call has returned what the map's call returns, the
    table represents the map, the representation invariant holds, the map is
    well-formed, and the handles the inserts returned are pairwise distinct. -/
theorem handleTable_refines_handleMap (ops : List TableOp)
    (hops : ops.countP TableOp.isInsert < 2 ^ 64 - 1) :
    (handleTableInit.run ops).1 = (HandleMap.init.run ops).1 ∧
      Refines (handleTableInit.run ops).2 (HandleMap.init.run ops).2 ∧
      TableInv (handleTableInit.run ops).2 ∧ (HandleMap.init.run ops).2.Inv ∧
      (issuedHandles ops (handleTableInit.run ops).1).Nodup := by
  obtain ⟨h1, h2, h3, h4⟩ := refines_init.run HandleMap.inv_init ops
    (by simp only [HandleMap.init]; omega)
  refine ⟨h1, h2, h2.tableInv h3, h3, ?_⟩
  have hnd := h3.issued_nodup
  rw [h4] at hnd
  rw [h1]
  exact hnd

/-- The refinement at a run that allocates, looks up from the wrong zone,
    frees, and allocates again. -/
theorem handleTable_refines_handleMap_sample :
    let ops := [TableOp.insert 1 0x1000 4096 true, .lookup 2 1, .remove 1 1, .insert 1 0x2000 64 true]
    (handleTableInit.run ops).1 = (HandleMap.init.run ops).1 ∧
      Refines (handleTableInit.run ops).2 (HandleMap.init.run ops).2 ∧
      TableInv (handleTableInit.run ops).2 ∧ (HandleMap.init.run ops).2.Inv ∧
      (issuedHandles ops (handleTableInit.run ops).1).Nodup :=
  handleTable_refines_handleMap _ (by decide)

/-- A call of the table that the map must answer with a fresh handle gets `0`
    instead: the entry's `malloc` failed. -/
theorem insert_nonnull_returns_zero :
    (handleTableInit.run [.insert 1 0x7f0000000000 4096 false]).1 = [.word 0] := rfl

end XenGpuProxy
