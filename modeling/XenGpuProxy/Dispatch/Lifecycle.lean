/-
  XenGpuProxy.Dispatch.Lifecycle — handles and device allocations over whole
  runs of the dispatcher.

  The CUDA driver's side is a list of live allocations (pointer, size): a
  successful `cuMemAlloc` adds a fresh one, a successful `cuMemFree` removes
  it, a failed call changes nothing.  As a ghost, the allocations whose
  `cuMemFree` failed are kept apart: `handle_gpu_free` unbinds the handle
  before it frees, and `handle_gpu_alloc` frees again when no handle could be
  made, so a failed free leaves an allocation that no entry refers to.

  Main results:
    * `LifeInv.alloc`, `LifeInv.free`, `LifeInv.step` — one request keeps
      the invariant (the step lemmas).
    * `lifecycle_lifeInv` — every reachable state satisfies it (the run lemma).
    * `lifecycle_allocations` — in every state reached with fewer than
      2^64 - 1 allocation requests, each entry is a live allocation of its
      size, no allocation backs two entries, every other live allocation is
      one whose free failed, and an error answer changes the table only when
      `cuMemFree` failed in `handle_gpu_free`.
-/
import XenGpuProxy.Dispatch.Noninterference
import XenGpuProxy.Dispatch.Bounds

namespace XenGpuProxy

/-! ## §1. The driver's allocations. -/

/-- The live device allocations, and those of them whose `cuMemFree` failed. -/
structure Device where
  live : List (UInt64 × UInt64)
  leaked : List (UInt64 × UInt64)

/-- What a driver call does to the allocations. -/
def Device.call (dv : Device) : CudaCall → Device
  | .memAlloc size res ptr => if res = cudaSuccess then { dv with live := (ptr, size) :: dv.live } else dv
  | .memFree ptr res =>
    if res = cudaSuccess then { dv with live := dv.live.filter (·.1 ≠ ptr) }
    else { dv with leaked := dv.leaked ++ dv.live.filter (·.1 = ptr) }
  | _ => dv

/-- The driver's contract: a successful `cuMemAlloc` returns a non-`NULL`
    pointer that no live allocation has. -/
def Device.Fresh (dv : Device) (o : Outcome) : Prop :=
  o.allocResult = cudaSuccess → o.allocPtr ≠ 0 ∧ ∀ a ∈ dv.live, a.1 ≠ o.allocPtr

/-- States reachable from `handle_table_init` with no allocation, by
    requests from any zones under any outcomes the driver's contract allows;
    `n` counts the `GPU_ALLOC` requests. -/
inductive Lifecycle : HandleTable → Device → Nat → Prop
  | init : Lifecycle handleTableInit ⟨[], []⟩ 0
  | step {t : HandleTable} {dv : Device} {n : Nat} (msg : IdmMessage) (o : Outcome) (h : Handled) :
      Lifecycle t dv n → dv.Fresh o → dispatch t o msg = some h →
      Lifecycle h.table (h.calls.foldl Device.call dv)
        (if msg.header.msgType = idmGpuAlloc then n + 1 else n)

/-- The allocation an entry stands for. -/
def allocOf (e : HandleEntry) : UInt64 × UInt64 := (e.ptr, e.size)

/-- The invariant, through the map the table refines: the live allocations
    are the entries' and the leaked ones, each pointer once. -/
structure LifeInv (t : HandleTable) (dv : Device) (n : Nat) (m : HandleMap) : Prop where
  refines : Refines t m
  inv : m.Inv
  next_le : m.next ≤ n + 1
  live_perm : dv.live.Perm (m.entries.map allocOf ++ dv.leaked)
  live_nodup : (dv.live.map Prod.fst).Nodup

theorem lifeInv_init : LifeInv handleTableInit ⟨[], []⟩ 0 HandleMap.init :=
  ⟨refines_init, HandleMap.inv_init, le_refl _, List.Perm.nil, List.nodup_nil⟩

/-! ## §2. Pointer bookkeeping. -/

/-- In allocations with distinct pointers, filtering by one allocation's
    pointer takes out exactly that allocation. -/
theorem perm_filter_fst {L A B : List (UInt64 × UInt64)} {a : UInt64 × UInt64}
    (hn : (L.map Prod.fst).Nodup) (hp : L.Perm (A ++ a :: B)) :
    (L.filter fun x => x.1 ≠ a.1).Perm (A ++ B) ∧ L.filter (fun x => x.1 = a.1) = [a] := by
  have hn' := (hp.map Prod.fst).nodup_iff.mp hn
  simp only [List.map_append, List.map_cons, List.nodup_middle, List.nodup_cons, List.mem_append,
    List.mem_map, not_or, not_exists, not_and] at hn'
  obtain ⟨⟨hA, hB⟩, -⟩ := hn'
  constructor
  · refine (hp.filter _).trans ?_
    rw [List.filter_append, List.filter_cons_of_neg (by simp),
      List.filter_eq_self.mpr fun x hx => by simpa using hA x hx,
      List.filter_eq_self.mpr fun x hx => by simpa using hB x hx]
  · apply List.perm_singleton.mp
    refine (hp.filter _).trans ?_
    rw [List.filter_append, List.filter_cons_of_pos (by simp),
      List.filter_eq_nil_iff.mpr fun x hx => by simpa using hA x hx,
      List.filter_eq_nil_iff.mpr fun x hx => by simpa using hB x hx]
    rfl

/-- A fresh allocation keeps the live pointers distinct. -/
theorem nodup_cons_fresh {L : List (UInt64 × UInt64)} {p : UInt64} (hn : (L.map Prod.fst).Nodup)
    (hf : ∀ x ∈ L, x.1 ≠ p) : (p :: L.map Prod.fst).Nodup :=
  List.nodup_cons.mpr ⟨fun hm => by
    obtain ⟨x, hx, he⟩ := List.mem_map.mp hm
    exact hf x hx he, hn⟩

/-! ## §3. Each request keeps the invariant. -/

section Step

variable {t : HandleTable} {dv : Device} {n : Nat} {m : HandleMap} {o : Outcome}

/-- An insert of a non-`NULL` pointer that hands out no handle is one whose
    entry's malloc failed, and it changes nothing: an allocated entry gets the
    table's counter, which is the map's, which is positive. -/
theorem Refines.insert_eq_of_fst_eq_zero (hr : Refines t m) (hi : m.Inv) {z : UInt32} {p s : UInt64}
    {ok : Bool} (hp : p ≠ 0) (h0 : (handleTableInsert t z p s ok).1 = 0) :
    ok = false ∧ handleTableInsert t z p s ok = (0, t) := by
  cases ok
  · simp [handleTableInsert, hp]
  · simp only [handleTableInsert, hp, if_false, Bool.not_true, Bool.false_eq_true] at h0
    have := hr.next_handle
    rw [h0] at this
    exact absurd this.symm (Nat.pos_iff_ne_zero.mp hi.next_pos)

/-- `handle_table_remove` returning `NULL` changed nothing: an owned entry has a
    non-`NULL` pointer. -/
theorem TableInv.remove_of_fst_eq_zero (hinv : TableInv t) {z : UInt32} {h : UInt64}
    (h0 : (handleTableRemove t z h).1 = 0) : (handleTableRemove t z h).2 = t := by
  rw [hinv.remove_fst_eq_zero_iff, HandleTable.ownedSize] at h0
  unfold handleTableRemove
  split
  · split_ifs with hz
    · rfl
    · simp_all
  · rfl

theorem LifeInv.alloc (hl : LifeInv t dv n m) (hf : dv.Fresh o) (hn : n + 1 < 2 ^ 64 - 1)
    (msg : IdmMessage) :
    ∃ m', LifeInv (handleGpuAlloc t o msg).table
      ((handleGpuAlloc t o msg).calls.foldl Device.call dv) (n + 1) m' := by
  have hnext : m.next + 1 < 2 ^ 64 := by have := hl.next_le; omega
  unfold handleGpuAlloc
  dsimp only
  split_ifs with hs hins
  · -- `cuMemAlloc` failed: nothing changes
    simp only [List.foldl, Device.call, if_neg hs]
    exact ⟨m, { hl with next_le := by have := hl.next_le; omega }⟩
  · -- no handle could be made: the entry's malloc failed, the allocation is freed again
    obtain ⟨hp0, hfresh⟩ := hf (not_not.mp hs)
    obtain ⟨-, htab⟩ := hl.refines.insert_eq_of_fst_eq_zero hl.inv hp0 hins
    set a := (o.allocPtr, (IdmGpuAlloc.read msg.payload).size)
    have hdel : (a :: dv.live).filter (fun x => x.1 ≠ o.allocPtr) = dv.live := by
      rw [List.filter_cons_of_neg (by simp [a])]
      exact List.filter_eq_self.mpr fun x hx => by simpa using hfresh x hx
    have hkeep : (a :: dv.live).filter (fun x => x.1 = o.allocPtr) = [a] := by
      rw [List.filter_cons_of_pos (by simp [a]), List.filter_eq_nil_iff.mpr fun x hx => by simpa using hfresh x hx]
    rw [htab]
    refine ⟨m, hl.refines, hl.inv, by have := hl.next_le; omega, ?_, ?_⟩ <;>
      by_cases hfr : o.freeResult = cudaSuccess <;>
      simp only [List.foldl, Device.call, if_pos (not_not.mp hs), hfr, if_true, if_false, hdel, hkeep]
    · exact hl.live_perm
    · rw [← List.append_assoc]
      exact (hl.live_perm.cons a).trans (List.perm_append_singleton a _).symm
    · exact hl.live_nodup
    · exact nodup_cons_fresh hl.live_nodup hfresh
  · -- a new entry for a new allocation
    obtain ⟨hp0, hfresh⟩ := hf (not_not.mp hs)
    obtain ⟨h1, h2, h3⟩ := hl.refines.insert hl.inv hnext msg.header.srcZone o.allocPtr
      (IdmGpuAlloc.read msg.payload).size o.entryMallocOk
    have hok : o.entryMallocOk = true := by
      cases hok : o.entryMallocOk
      · simp [handleTableInsert, hp0, hok] at hins
      · rfl
    refine ⟨_, h2, h3, ?_, ?_, ?_⟩
    · simp only [HandleMap.insert, hp0, hok, false_or, Bool.true_eq_false, if_false]
      have := hl.next_le
      omega
    · simp only [List.foldl, Device.call, if_pos (not_not.mp hs), HandleMap.insert, hp0, hok,
        false_or, Bool.true_eq_false, if_false, List.map_cons, List.cons_append]
      exact hl.live_perm.cons _
    · simp only [List.foldl, Device.call, if_pos (not_not.mp hs), List.map_cons]
      exact nodup_cons_fresh hl.live_nodup hfresh

theorem LifeInv.free (hl : LifeInv t dv n m) (msg : IdmMessage) :
    ∃ m', LifeInv (handleGpuFree t o msg).table
      ((handleGpuFree t o msg).calls.foldl Device.call dv) n m' := by
  obtain ⟨h1, h2, h3⟩ := hl.refines.remove hl.inv msg.header.srcZone (IdmGpuFree.read msg.payload).handle
  unfold handleGpuFree
  dsimp only
  simp only [HandleMap.remove] at h1 h2 h3
  cases hget : m.get (IdmGpuFree.read msg.payload).handle with
  | some e =>
    simp only [hget] at h1 h2 h3
    split_ifs at h1 h2 h3 with hz
    · -- owned by the requester: unbound, then freed
      obtain ⟨as, bs, hls, herase, -, -⟩ := eraseP_of_find?_eq_some hget
      have hmem : e ∈ m.entries := by rw [hls]; simp
      rw [h1, if_neg (hl.inv.ptr_ne e hmem)]
      have hp : dv.live.Perm (as.map allocOf ++ allocOf e :: (bs.map allocOf ++ dv.leaked)) := by
        simpa [hls] using hl.live_perm
      obtain ⟨hdel, hkeep⟩ := perm_filter_fst hl.live_nodup hp
      refine ⟨_, h2, h3, hl.next_le, ?_, ?_⟩ <;>
        by_cases hfr : o.freeResult = cudaSuccess <;>
        simp only [List.foldl, Device.call, hfr, if_true, if_false, herase]
      · simpa using hdel
      · have hkeep' : dv.live.filter (fun x => x.1 = e.ptr) = [allocOf e] := hkeep
        rw [hkeep', List.map_append]
        exact hp.trans (List.perm_middle.trans
          ((List.perm_append_singleton _ _).symm.trans (List.Perm.of_eq (by simp))))
      · exact ((List.filter_sublist _).map _).nodup hl.live_nodup
      · exact hl.live_nodup
    · -- owned by another zone: nothing changes
      rw [if_pos h1]
      exact ⟨m, h2, h3, hl.next_le, hl.live_perm, hl.live_nodup⟩
  | none =>
    simp only [hget] at h1 h2 h3
    rw [if_pos h1]
    exact ⟨m, h2, h3, hl.next_le, hl.live_perm, hl.live_nodup⟩

/-- The copy handlers leave the table and the allocations as they were. -/
theorem copy_keeps (t : HandleTable) (o : Outcome) (dv : Device) (msg : IdmMessage) :
    (handleGpuCopyH2d t o msg).table = t ∧ (handleGpuCopyH2d t o msg).calls.foldl Device.call dv = dv ∧
      (handleGpuCopyD2h t o msg).table = t ∧ (handleGpuCopyD2h t o msg).calls.foldl Device.call dv = dv := by
  unfold handleGpuCopyH2d handleGpuCopyD2h
  dsimp only
  refine ⟨?_, ?_, ?_, ?_⟩ <;> split <;> (try split_ifs) <;> rfl

/-- **One request keeps the invariant** (the step lemma). -/
theorem LifeInv.step (hl : LifeInv t dv n m) (hf : dv.Fresh o) {msg : IdmMessage} {h : Handled}
    (hd : dispatch t o msg = some h)
    (hn : (if msg.header.msgType = idmGpuAlloc then n + 1 else n) < 2 ^ 64 - 1) :
    ∃ m', LifeInv h.table (h.calls.foldl Device.call dv)
      (if msg.header.msgType = idmGpuAlloc then n + 1 else n) m' := by
  simp only [dispatch] at hd
  split_ifs at hd hn ⊢ <;> obtain rfl := Option.some.inj hd
  · exact hl.alloc hf hn msg
  · exact hl.free msg
  · obtain ⟨h1, h2, -⟩ := copy_keeps t o dv msg
    rw [h1, h2]
    exact ⟨m, hl⟩
  · obtain ⟨-, -, h1, h2⟩ := copy_keeps t o dv msg
    rw [h1, h2]
    exact ⟨m, hl⟩
  · exact ⟨m, hl⟩

/-- `RESPONSE_ERROR` is the answer. -/
def Reply.isError : Reply → Bool
  | .error .. => true
  | .ok _ => false

/-- A request answered with an error leaves the table as it was, unless it is
    a `GPU_FREE` whose `cuMemFree` failed after the handle was unbound. -/
theorem LifeInv.error_keeps_table (hl : LifeInv t dv n m) (hf : dv.Fresh o) {msg : IdmMessage}
    {h : Handled} (hd : dispatch t o msg = some h) (he : h.reply.isError) :
    h.table = t ∨ (msg.header.msgType = idmGpuFree ∧ o.freeResult ≠ cudaSuccess) := by
  rcases dispatch_cases msg with ⟨-, he⟩ | ⟨hty, he⟩ | ⟨-, he⟩ | ⟨-, he⟩ | ⟨-, he⟩ | ⟨-, he⟩ <;>
    rw [he] at hd <;> cases hd
  · left
    unfold handleGpuAlloc at he ⊢
    dsimp only at he ⊢
    split_ifs at he ⊢ with hs hins
    · rfl
    · obtain ⟨hp0, -⟩ := hf (not_not.mp hs)
      rw [(hl.refines.insert_eq_of_fst_eq_zero hl.inv hp0 hins).2]
    · simp [Reply.isError] at he
  · unfold handleGpuFree at he ⊢
    dsimp only at he ⊢
    split_ifs at he ⊢ with h0
    · exact .inl ((hl.refines.tableInv hl.inv).remove_of_fst_eq_zero h0)
    · refine .inr ⟨hty, fun hfr => ?_⟩
      simp [cudaReply, hfr, Reply.isError] at he
  · exact .inl (copy_keeps t o dv msg).1
  · exact .inl (copy_keeps t o dv msg).2.2.1
  · exact .inl rfl

end Step

/-! ## §4. Runs. -/

/-- **Every reachable state** with fewer than 2^64 - 1 allocation requests
    satisfies the invariant (the run lemma). -/
theorem lifecycle_lifeInv {t : HandleTable} {dv : Device} {n : Nat} (hl : Lifecycle t dv n)
    (hn : n < 2 ^ 64 - 1) : ∃ m, LifeInv t dv n m := by
  induction hl with
  | init => exact ⟨_, lifeInv_init⟩
  | @step t dv n msg o h _ hf hd ih =>
    have hle : n ≤ if msg.header.msgType = idmGpuAlloc then n + 1 else n := by split <;> omega
    obtain ⟨m, hm⟩ := ih (by omega)
    exact hm.step hf hd hn

/-- An entry of the table is an entry of the map it refines, and back. -/
theorem Refines.mem_iff {t : HandleTable} {m : HandleMap} (hr : Refines t m) {e : HandleEntry} :
    (∃ i, e ∈ t.hashTable i) ↔ e ∈ m.entries := by
  simp only [hr.buckets, List.mem_filter, decide_eq_true_eq]
  exact ⟨fun ⟨_, he, _⟩ => he, fun he => ⟨_, he, rfl⟩⟩

/-- **Handles and allocations over every run.**  In every state reached from
    `handle_table_init` with fewer than 2^64 - 1 `GPU_ALLOC` requests, from any
    zones and under any driver and allocator outcomes the driver's contract
    allows: each entry's pointer is a live allocation of the entry's size; no
    two entries share a pointer; every live allocation is an entry's or one
    whose `cuMemFree` failed; the latter are live and no entry's; pointers are
    live once; and a request answered with `RESPONSE_ERROR` leaves the table
    as it was, except a `GPU_FREE` whose `cuMemFree` failed. -/
theorem lifecycle_allocations {t : HandleTable} {dv : Device} {n : Nat} (hl : Lifecycle t dv n)
    (hn : n < 2 ^ 64 - 1) :
    (∀ i, ∀ e ∈ t.hashTable i, (e.ptr, e.size) ∈ dv.live) ∧
      (∀ i j, ∀ e ∈ t.hashTable i, ∀ e' ∈ t.hashTable j, e.ptr = e'.ptr → e = e') ∧
      (∀ a ∈ dv.live, (∃ i, ∃ e ∈ t.hashTable i, (e.ptr, e.size) = a) ∨ a ∈ dv.leaked) ∧
      (∀ a ∈ dv.leaked, a ∈ dv.live ∧ ∀ i, ∀ e ∈ t.hashTable i, e.ptr ≠ a.1) ∧
      (dv.live.map Prod.fst).Nodup ∧
      (∀ (msg : IdmMessage) (o : Outcome) (h : Handled), dv.Fresh o → dispatch t o msg = some h →
        h.reply.isError → h.table = t ∨ (msg.header.msgType = idmGpuFree ∧ o.freeResult ≠ cudaSuccess)) := by
  obtain ⟨m, hm⟩ := lifecycle_lifeInv hl hn
  have hmem : ∀ i, ∀ e ∈ t.hashTable i, e ∈ m.entries := fun i e he => hm.refines.mem_iff.mp ⟨i, he⟩
  have hnd : ((m.entries.map allocOf ++ dv.leaked).map Prod.fst).Nodup :=
    (hm.live_perm.map Prod.fst).nodup_iff.mp hm.live_nodup
  rw [List.map_append, List.nodup_append] at hnd
  obtain ⟨hptr, -, hdisj⟩ := hnd
  have hptr' : (m.entries.map (·.ptr)).Nodup := by simpa [List.map_map, allocOf] using hptr
  refine ⟨fun i e he => hm.live_perm.mem_iff.mpr (List.mem_append_left _ (List.mem_map_of_mem _ (hmem i e he))),
    fun i j e he e' he' hp => List.inj_on_of_nodup_map hptr' (hmem i e he) (hmem j e' he') hp,
    fun a ha => ?_, fun a ha => ⟨hm.live_perm.mem_iff.mpr (List.mem_append_right _ ha), fun i e he hp => ?_⟩,
    hm.live_nodup, fun msg o h hf hd he => hm.error_keeps_table hf hd he⟩
  · rcases List.mem_append.mp (hm.live_perm.mem_iff.mp ha) with ha | ha
    · obtain ⟨e, he, rfl⟩ := List.mem_map.mp ha
      obtain ⟨i, hi⟩ := hm.refines.mem_iff.mpr he
      exact .inl ⟨i, e, hi, rfl⟩
    · exact .inr ha
  · have h₁ : e.ptr ∈ (m.entries.map allocOf).map Prod.fst :=
      List.mem_map_of_mem Prod.fst (List.mem_map_of_mem allocOf (hmem i e he))
    have h₂ : e.ptr ∈ dv.leaked.map Prod.fst := hp ▸ List.mem_map_of_mem Prod.fst ha
    exact hdisj h₁ h₂

/-- The state after one successful 4096-byte allocation satisfies all of it. -/
theorem lifecycle_allocations_after_alloc :
    let msg := requestFromZone1 idmGpuAlloc ({ size := 4096, flags := 0, reserved := 0 } : IdmGpuAlloc).bytes
    let h := handleGpuAlloc handleTableInit allSucceed msg
    let t := h.table
    let dv := h.calls.foldl Device.call ⟨[], []⟩
    (∀ i, ∀ e ∈ t.hashTable i, (e.ptr, e.size) ∈ dv.live) ∧
      (∀ i j, ∀ e ∈ t.hashTable i, ∀ e' ∈ t.hashTable j, e.ptr = e'.ptr → e = e') ∧
      (∀ a ∈ dv.live, (∃ i, ∃ e ∈ t.hashTable i, (e.ptr, e.size) = a) ∨ a ∈ dv.leaked) ∧
      (∀ a ∈ dv.leaked, a ∈ dv.live ∧ ∀ i, ∀ e ∈ t.hashTable i, e.ptr ≠ a.1) ∧
      (dv.live.map Prod.fst).Nodup ∧
      (∀ (msg : IdmMessage) (o : Outcome) (h : Handled), dv.Fresh o → dispatch t o msg = some h →
        h.reply.isError → h.table = t ∨ (msg.header.msgType = idmGpuFree ∧ o.freeResult ≠ cudaSuccess)) :=
  lifecycle_allocations
    (Lifecycle.step (requestFromZone1 idmGpuAlloc ({ size := 4096, flags := 0, reserved := 0 } : IdmGpuAlloc).bytes)
      allSucceed _ Lifecycle.init (fun _ => ⟨by decide, by simp⟩) rfl)
    (by decide)

/-- Zone 1 allocates 4096 bytes, then frees its handle while `cuMemFree`
    fails: the answer is `RESPONSE_ERROR`, yet the handle is gone from the
    table, and the allocation stays live with no handle left to free it. -/
theorem free_failure_drops_entry :
    let alloc := handleGpuAlloc handleTableInit allSucceed
      (requestFromZone1 idmGpuAlloc ({ size := 4096, flags := 0, reserved := 0 } : IdmGpuAlloc).bytes)
    let free := handleGpuFree alloc.table { allSucceed with freeResult := 1 }
      (requestFromZone1 idmGpuFree (UInt64.toLE 1))
    let dv := (alloc.calls ++ free.calls).foldl Device.call ⟨[], []⟩
    free.reply = .error idmErrorCudaError 1 "cuMemFree failed" ∧
      alloc.table.find 1 ≠ none ∧ free.table.find 1 = none ∧ dv.live = [(0x10000, 4096)] := by
  decide

end XenGpuProxy
