/-
  XenGpuProxy.Dispatch.Noninterference — what a zone can learn from the
  dispatcher's answers.

  Two runs serve the same request from zone `z`.  Their tables agree on what
  `z` owns (handles and sizes) and on `next_handle`, and satisfy the table's
  representation invariant; they may differ in every entry of every other
  zone and in every device pointer.  Their connections are the same, and the
  environment answers alike in both except for the device pointer
  `cuMemAlloc` returns.  Then the same response message is sent.

  Main results:
    * `TableInv.owns_iff_find` — under the invariant, the chain walk finds
      exactly the owned entries.
    * `dispatch_reply_agree` — the two runs choose the same reply.
    * `serveMessage_noninterference` — the same message is sent, and neither
      run changes another zone's entries.
-/
import XenGpuProxy.Dispatch.Handlers

namespace XenGpuProxy

/-! ## §1. What a zone sees of a table. -/

/-- Zone `z` owns an entry with this handle and size, whatever its pointer. -/
def HandleTable.Owns (t : HandleTable) (z : UInt32) (h size : UInt64) : Prop :=
  ∃ i, ∃ e ∈ t.hashTable i, e.handle = h ∧ e.zoneId = z ∧ e.size = size

/-- Two tables look alike to zone `z`: the same owned handles with the same
    sizes, and the same next handle. -/
structure ZoneAgree (z : UInt32) (t₁ t₂ : HandleTable) : Prop where
  owns : ∀ h s, t₁.Owns z h s ↔ t₂.Owns z h s
  next_handle : t₁.nextHandle = t₂.nextHandle

/-- Two environments answer alike: every result code and allocation outcome
    agree, only the pointer `cuMemAlloc` returns may differ. -/
def Outcome.SameResults (o₁ o₂ : Outcome) : Prop :=
  { o₁ with allocPtr := 0 } = { o₂ with allocPtr := 0 }

/-- Every field but the pointer is the other run's. -/
theorem Outcome.SameResults.eq {o₁ o₂ : Outcome} (ho : o₁.SameResults o₂) :
    o₁ = { o₂ with allocPtr := o₁.allocPtr } := by
  cases o₁
  cases o₂
  simp_all [Outcome.SameResults]

/-- An insert for another zone does not change what `z` owns. -/
theorem owns_insert_of_ne {t : HandleTable} {z z' : UInt32} {p s : UInt64} {ok : Bool} {h s' : UInt64}
    (hz : z ≠ z') : (handleTableInsert t z' p s ok).2.Owns z h s' ↔ t.Owns z h s' := by
  unfold handleTableInsert
  split_ifs
  · rfl
  · rfl
  · dsimp only [HandleTable.Owns]
    constructor
    · rintro ⟨i, e, he, hh, hez, hs⟩
      by_cases hi : i = hashHandle t.nextHandle
      · subst hi
        rcases List.mem_cons.mp (by simpa using he) with rfl | he
        · exact absurd hez hz.symm
        · exact ⟨_, e, he, hh, hez, hs⟩
      · rw [Function.update_noteq hi] at he
        exact ⟨i, e, he, hh, hez, hs⟩
    · rintro ⟨i, e, he, hh, hez, hs⟩
      refine ⟨i, e, ?_, hh, hez, hs⟩
      by_cases hi : i = hashHandle t.nextHandle
      · subst hi
        simp [he]
      · rwa [Function.update_noteq hi]

/-- The size of the entry the walk finds for `h`, if zone `z` owns it. -/
def HandleTable.ownedSize (t : HandleTable) (z : UInt32) (h : UInt64) : Option UInt64 :=
  match t.find h with
  | some e => if e.zoneId = z then some e.size else none
  | none => none

section View

variable {t : HandleTable} {z : UInt32} {h : UInt64}

/-- Under the invariant the walk finds the one entry carrying the handle,
    whichever bucket it is looked for in. -/
theorem TableInv.find_eq_some_iff (hinv : TableInv t) {e : HandleEntry} :
    t.find h = some e ↔ ∃ i, e ∈ t.hashTable i ∧ e.handle = h := by
  rw [HandleTable.find, find?_handle_eq_some_iff (hinv.handles_nodup _)]
  constructor
  · exact fun ⟨he, hh⟩ => ⟨_, he, hh⟩
  · rintro ⟨i, he, rfl⟩
    rw [hinv.placed i e he]
    exact ⟨he, rfl⟩

theorem TableInv.owns_iff_find (hinv : TableInv t) {s : UInt64} :
    t.Owns z h s ↔ ∃ e, t.find h = some e ∧ e.zoneId = z ∧ e.size = s := by
  simp only [HandleTable.Owns, hinv.find_eq_some_iff]
  constructor
  · rintro ⟨i, e, he, hh, hz, hs⟩
    exact ⟨e, ⟨i, he, hh⟩, hz, hs⟩
  · rintro ⟨e, ⟨i, he, hh⟩, hz, hs⟩
    exact ⟨i, e, he, hh, hz, hs⟩

theorem TableInv.ownedSize_eq_some_iff (hinv : TableInv t) {s : UInt64} :
    t.ownedSize z h = some s ↔ t.Owns z h s := by
  rw [hinv.owns_iff_find, HandleTable.ownedSize]
  cases t.find h with
  | none => simp
  | some e => by_cases hz : e.zoneId = z <;> simp [hz]

/-- Tables that look alike to `z` give `z` the same owned sizes. -/
theorem ZoneAgree.ownedSize_eq {t₁ t₂ : HandleTable} (hinv₁ : TableInv t₁) (hinv₂ : TableInv t₂)
    (hag : ZoneAgree z t₁ t₂) (h : UInt64) : t₁.ownedSize z h = t₂.ownedSize z h :=
  Option.ext fun s => by
    rw [Option.mem_def, Option.mem_def, hinv₁.ownedSize_eq_some_iff, hinv₂.ownedSize_eq_some_iff]
    exact hag.owns h s

/-- `handle_table_remove` returns `NULL` exactly when `z` owns no entry `h`:
    the invariant rules out an owned entry with a `NULL` pointer. -/
theorem TableInv.remove_fst_eq_zero_iff (hinv : TableInv t) :
    (handleTableRemove t z h).1 = 0 ↔ t.ownedSize z h = none := by
  unfold handleTableRemove HandleTable.ownedSize
  cases hf : t.find h with
  | none => simp
  | some e =>
    obtain ⟨i, he, -⟩ := hinv.find_eq_some_iff.mp hf
    by_cases hz : e.zoneId = z <;> simp [hz, hinv.ptr_ne i e he]

/-- The lookup and bounds check, pointers forgotten, depend only on the owned
    size. -/
theorem TableInv.copyTarget_map (hinv : TableInv t) (off sz : UInt64) :
    (copyTarget t z h off sz).map (fun _ => ()) =
      match t.ownedSize z h with
      | none => .error (.error idmErrorInvalidHandle 0 "Invalid handle")
      | some s => if off + sz > s then .error (.error idmErrorInvalidSize 0 "Out of bounds") else .ok () := by
  unfold copyTarget handleTableLookup HandleTable.ownedSize
  cases hf : t.find h with
  | none => rfl
  | some e =>
    obtain ⟨i, he, -⟩ := hinv.find_eq_some_iff.mp hf
    by_cases hz : e.zoneId = z
    · simp only [hz, ne_eq, not_true_eq_false, if_false, hinv.ptr_ne i e he, if_true]
      split_ifs <;> rfl
    · simp only [hz, ne_eq, not_false_eq_true, if_true]
      rfl

end View

/-! ## §2. The two runs choose the same reply. -/

section Agree

variable {t₁ t₂ : HandleTable} {o₁ o₂ : Outcome} {msg : IdmMessage}

theorem handleTableInsert_fst {t : HandleTable} {z : UInt32} {p s : UInt64} (ok : Bool) (hp : p ≠ 0) :
    (handleTableInsert t z p s ok).1 = if ok then t.nextHandle else 0 := by
  cases ok <;> simp [handleTableInsert, hp]

theorem handleGpuAlloc_reply_agree (hnext : t₁.nextHandle = t₂.nextHandle) (ho : o₁.SameResults o₂)
    (hp₁ : o₁.allocResult = cudaSuccess → o₁.allocPtr ≠ 0)
    (hp₂ : o₂.allocResult = cudaSuccess → o₂.allocPtr ≠ 0) :
    (handleGpuAlloc t₁ o₁ msg).reply = (handleGpuAlloc t₂ o₂ msg).reply := by
  have hres : o₁.allocResult = o₂.allocResult := by rw [ho.eq]
  have hok : o₁.entryMallocOk = o₂.entryMallocOk := by rw [ho.eq]
  unfold handleGpuAlloc
  by_cases hs : o₂.allocResult = cudaSuccess
  · simp only [hres, hs, ne_eq, not_true_eq_false, if_false,
      handleTableInsert_fst _ (hp₁ (hres.trans hs)), handleTableInsert_fst _ (hp₂ hs), hok, hnext]
    split_ifs <;> rfl
  · simp only [hres, hs, ne_eq, not_false_eq_true, if_true]

theorem handleGpuFree_reply_agree (hinv₁ : TableInv t₁) (hinv₂ : TableInv t₂)
    (hag : ZoneAgree msg.header.srcZone t₁ t₂) (ho : o₁.SameResults o₂) :
    (handleGpuFree t₁ o₁ msg).reply = (handleGpuFree t₂ o₂ msg).reply := by
  have hrem : ∀ h, (handleTableRemove t₁ msg.header.srcZone h).1 = 0 ↔
      (handleTableRemove t₂ msg.header.srcZone h).1 = 0 := fun h => by
    rw [hinv₁.remove_fst_eq_zero_iff, hinv₂.remove_fst_eq_zero_iff, hag.ownedSize_eq hinv₁ hinv₂]
  have hfree : o₁.freeResult = o₂.freeResult := by rw [ho.eq]
  unfold handleGpuFree
  by_cases h₂ : (handleTableRemove t₂ msg.header.srcZone (IdmGpuFree.read msg.payload).handle).1 = 0
  · simp only [h₂, (hrem _).mpr h₂, if_true]
  · simp only [h₂, mt (hrem _).mp h₂, if_false, hfree]

theorem handleGpuCopyH2d_reply_agree (hinv₁ : TableInv t₁) (hinv₂ : TableInv t₂)
    (hag : ZoneAgree msg.header.srcZone t₁ t₂) (ho : o₁.SameResults o₂) :
    (handleGpuCopyH2d t₁ o₁ msg).reply = (handleGpuCopyH2d t₂ o₂ msg).reply := by
  have hc := hinv₁.copyTarget_map (z := msg.header.srcZone) (h := (IdmGpuCopyH2d.read msg.payload).dstHandle)
    (IdmGpuCopyH2d.read msg.payload).dstOffset (IdmGpuCopyH2d.read msg.payload).size
  rw [hag.ownedSize_eq hinv₁ hinv₂, ← hinv₂.copyTarget_map] at hc
  have hcopy : o₁.copyResult = o₂.copyResult := by rw [ho.eq]
  unfold handleGpuCopyH2d
  dsimp only
  split <;> split <;> simp_all only [Except.map, Except.error.injEq, reduceCtorEq]

theorem handleGpuCopyD2h_reply_agree (hinv₁ : TableInv t₁) (hinv₂ : TableInv t₂)
    (hag : ZoneAgree msg.header.srcZone t₁ t₂) (ho : o₁.SameResults o₂) :
    (handleGpuCopyD2h t₁ o₁ msg).reply = (handleGpuCopyD2h t₂ o₂ msg).reply := by
  have hc := hinv₁.copyTarget_map (z := msg.header.srcZone) (h := (IdmGpuCopyD2h.read msg.payload).srcHandle)
    (IdmGpuCopyD2h.read msg.payload).srcOffset (IdmGpuCopyD2h.read msg.payload).size
  rw [hag.ownedSize_eq hinv₁ hinv₂, ← hinv₂.copyTarget_map] at hc
  have hcopy : o₁.copyResult = o₂.copyResult := by rw [ho.eq]
  have hhost : o₁.hostMallocOk = o₂.hostMallocOk := by rw [ho.eq]
  unfold handleGpuCopyD2h
  dsimp only
  split <;> split <;> (try split) <;> simp_all [Except.map]

/-- **The two runs choose the same reply**, for every message type. -/
theorem dispatch_reply_agree (hinv₁ : TableInv t₁) (hinv₂ : TableInv t₂)
    (hag : ZoneAgree msg.header.srcZone t₁ t₂) (ho : o₁.SameResults o₂)
    (hp₁ : o₁.allocResult = cudaSuccess → o₁.allocPtr ≠ 0)
    (hp₂ : o₂.allocResult = cudaSuccess → o₂.allocPtr ≠ 0) :
    (dispatch t₁ o₁ msg).map (·.reply) = (dispatch t₂ o₂ msg).map (·.reply) := by
  rcases dispatch_cases msg with ⟨-, he⟩ | ⟨-, he⟩ | ⟨-, he⟩ | ⟨-, he⟩ | ⟨-, he⟩ | ⟨-, he⟩ <;> rw [he, he]
  · exact congrArg some (handleGpuAlloc_reply_agree hag.next_handle ho hp₁ hp₂)
  · exact congrArg some (handleGpuFree_reply_agree hinv₁ hinv₂ hag ho)
  · exact congrArg some (handleGpuCopyH2d_reply_agree hinv₁ hinv₂ hag ho)
  · exact congrArg some (handleGpuCopyD2h_reply_agree hinv₁ hinv₂ hag ho)
  · simp only [Option.map_some', handleGpuSync, show o₁.syncResult = o₂.syncResult by rw [ho.eq]]

end Agree

/-! ## §3. The same message is sent. -/

/-- **Noninterference.**  Serving one message from zone `z` in two dispatcher
    states that look alike to `z` (same owned handles and sizes, same
    `next_handle`, same connection; anything else of other zones and every
    pointer may differ), under environments that answer alike but for the
    device pointers, sends the same response message; and neither run changes
    an entry of another zone. -/
theorem serveMessage_noninterference (msg : IdmMessage) (d₁ d₂ : Dispatcher) (o₁ o₂ : Outcome)
    (hinv₁ : TableInv d₁.table) (hinv₂ : TableInv d₂.table)
    (hag : ZoneAgree msg.header.srcZone d₁.table d₂.table) (hconn : d₁.conn = d₂.conn)
    (ho : o₁.SameResults o₂)
    (hp₁ : o₁.allocResult = cudaSuccess → o₁.allocPtr ≠ 0)
    (hp₂ : o₂.allocResult = cudaSuccess → o₂.allocPtr ≠ 0) :
    (serveMessage d₁ o₁ msg).sent = (serveMessage d₂ o₂ msg).sent ∧
      OthersUnchanged msg.header.srcZone d₁.table (serveMessage d₁ o₁ msg).next.table ∧
      OthersUnchanged msg.header.srcZone d₂.table (serveMessage d₂ o₂ msg).next.table := by
  refine ⟨?_, serveMessage_othersUnchanged _ _ _, serveMessage_othersUnchanged _ _ _⟩
  have hr := dispatch_reply_agree hinv₁ hinv₂ hag ho hp₁ hp₂
  have hm : o₁.msgMallocOk = o₂.msgMallocOk := by rw [ho.eq]
  rw [serveMessage_sent, serveMessage_sent, hconn, hm]
  cases h₁ : dispatch d₁.table o₁ msg <;> cases h₂ : dispatch d₂.table o₂ msg <;>
    simp only [h₁, h₂, Option.map_some', Option.map_none', Option.some.injEq, reduceCtorEq] at hr
  · rfl
  · simp only [Option.some_bind, hr]
    exact Reply.send_fst_tx _ _ _ _ _ _ _

/-- Zone 1 frees handle 1, which zone 2 owns in one table and zone 3, at
    another pointer, in the other: both runs send the same message. -/
theorem serveMessage_noninterference_foreign_free :
    let t₁ := (handleTableInsert handleTableInit 2 0x1000 64 true).2
    let t₂ := (handleTableInsert handleTableInit 3 0x2000 128 true).2
    let ch : Channel := { ring := IdmRing.zeroed, sem := 0 }
    let d₁ : Dispatcher := { table := t₁, conn := idmInit 0 1 true, tx := ch, rx := ch }
    let d₂ : Dispatcher := { d₁ with table := t₂ }
    let o : Outcome :=
      { allocResult := 0, allocPtr := 0x3000, entryMallocOk := true, freeResult := 0,
        copyResult := 0, hostMallocOk := true, syncResult := 0, msgMallocOk := true }
    let msg : IdmMessage :=
      { header :=
          { magic := idmMagic, version := idmVersion, msgType := idmGpuFree, srcZone := 1,
            dstZone := 0, seqNum := 7, payloadLen := 8, reserved := 0 },
        payload := listMem (UInt64.toLE 1) }
    (serveMessage d₁ o msg).sent = (serveMessage d₂ o msg).sent ∧
      OthersUnchanged msg.header.srcZone d₁.table (serveMessage d₁ o msg).next.table ∧
      OthersUnchanged msg.header.srcZone d₂.table (serveMessage d₂ o msg).next.table :=
  have h₁ := refines_init.insert HandleMap.inv_init (by decide) 2 0x1000 64 true
  have h₂ := refines_init.insert HandleMap.inv_init (by decide) 3 0x2000 128 true
  serveMessage_noninterference _ _ _ _ _ (h₁.2.1.tableInv h₁.2.2) (h₂.2.1.tableInv h₂.2.2)
    ⟨fun _ _ => by
      rw [owns_insert_of_ne (by decide), owns_insert_of_ne (by decide)], rfl⟩
    rfl rfl (fun _ => by decide) (fun _ => by decide)

end XenGpuProxy
