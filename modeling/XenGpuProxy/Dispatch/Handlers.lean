/-
  XenGpuProxy.Dispatch.Handlers — the request handlers of `handlers.c` and the
  loop of `run_server` in `main.c`.

  A handler reads its request struct from the payload, consults or updates the
  handle table, calls the CUDA driver, and answers with `send_response_ok` or
  `send_response_error`.  What the driver and the allocators return is the
  environment's choice, one `Outcome` per request.  A handler's run is a
  `Handled` record (the driver calls it made with their results, the reply it
  chose, the table it left); `serveMessage` sends the reply on the driver
  zone's connection, and `serverStep` is one turn of the loop, `idm_recv`
  included.

  Main results:
    * `dispatch_cases` — the `switch` of `run_server`: the message type alone
      picks the handler, and `serveMessage_unhandled` — a type with no case
      is only logged.
    * `serverStep_copyD2d_unanswered` — the `COPY_D2D` request libvgpu's
      `cuMemcpyDtoD` sends is delivered to `run_server` and never answered.
    * `dispatch_othersUnchanged` — a request from zone `z` changes no entry of
      any other zone.
    * `buildAndSend_delivers` — a response sent on an empty channel reaches
      the peer with its type and payload.
-/
import XenGpuProxy.Transport.Ring
import XenGpuProxy.HandleTable.Refinement

namespace XenGpuProxy

/-! ## §1. The driver and the environment. -/

/-- `CUDA_SUCCESS`; a `CUresult` is kept as the `uint32_t` the responses carry. -/
def cudaSuccess : UInt32 := 0

/-- A call into the CUDA driver, with what it returned. -/
inductive CudaCall
  | memAlloc (size : UInt64) (res : UInt32) (ptr : UInt64)
  | memFree (ptr : UInt64) (res : UInt32)
  | memcpyHtoD (dst : UInt64) (data : List UInt8) (res : UInt32)
  | memcpyDtoH (src : UInt64) (size : UInt64) (res : UInt32)
  | ctxSynchronize (res : UInt32)
  deriving DecidableEq, Repr

/-- What the environment answers to the calls one request makes. -/
structure Outcome where
  /-- `cuMemAlloc`'s result. -/
  allocResult : UInt32
  /-- The device pointer `cuMemAlloc` stores on success. -/
  allocPtr : UInt64
  /-- The `malloc` of the handle-table entry. -/
  entryMallocOk : Bool
  /-- `cuMemFree`'s result. -/
  freeResult : UInt32
  /-- `cuMemcpyHtoD`'s or `cuMemcpyDtoH`'s result. -/
  copyResult : UInt32
  /-- The `malloc` of `GPU_COPY_D2H`'s host buffer. -/
  hostMallocOk : Bool
  /-- `cuCtxSynchronize`'s result. -/
  syncResult : UInt32
  /-- The `malloc` of the response in `idm_build_message`. -/
  msgMallocOk : Bool
  deriving DecidableEq, Repr

/-! ## §2. Responses. -/

/-- The answer a handler chooses: `send_response_ok(zone, seq, handle, NULL, 0)`
    or `send_response_error(zone, seq, code, cuda_error, text)`. -/
inductive Reply
  | ok (resultHandle : UInt64)
  | error (code cudaError : UInt32) (text : String)
  deriving DecidableEq, Repr

/-- `strncpy(resp.error_msg, error_msg, sizeof(resp.error_msg) - 1)` into the
    zeroed 256-byte array. -/
def errorMsgBytes (text : String) : List UInt8 :=
  ((asciiBytes text).take 255 ++ List.replicate 256 0).take 256

@[simp] theorem length_errorMsgBytes (text : String) : (errorMsgBytes text).length = 256 := by
  simp only [errorMsgBytes, List.length_take, List.length_append, List.length_replicate]
  omega

/-- The tail both response senders share: `idm_build_message`, then
    `idm_send` of the message when it was built (its result is dropped).
    Returns the message sent, the connection and the ring after. -/
def buildAndSend (conn : IdmConnection) (tx : Channel) (mallocOk : Bool) (dstZone : UInt32)
    (msgType : UInt16) (payload : List UInt8) : Option IdmMessage × IdmConnection × Channel :=
  let built := idmBuildMessage conn mallocOk dstZone msgType payload
  match built.1 with
  | some msg => (some msg, built.2, (idmSend built.2 tx msg).2)
  | none => (none, built.2, tx)

/-- `send_response_ok`. -/
def sendResponseOk (conn : IdmConnection) (tx : Channel) (mallocOk : Bool) (dstZone : UInt32)
    (requestSeq resultHandle dataLen : UInt64) : Option IdmMessage × IdmConnection × Channel :=
  let resp : IdmResponseOk :=
    { requestSeq, resultHandle, resultValue := 0, dataLen := dataLen.toUInt32 }
  buildAndSend conn tx mallocOk dstZone idmResponseOk resp.bytes

/-- `send_response_error`. -/
def sendResponseError (conn : IdmConnection) (tx : Channel) (mallocOk : Bool) (dstZone : UInt32)
    (requestSeq : UInt64) (errorCode cudaError : UInt32) (errorMsg : String) :
    Option IdmMessage × IdmConnection × Channel :=
  let resp : IdmResponseError :=
    { requestSeq, errorCode, cudaError, errorMsg := errorMsgBytes errorMsg }
  buildAndSend conn tx mallocOk dstZone idmResponseError resp.bytes

/-- The message sent is the message built: the ring only sees it. -/
theorem buildAndSend_fst (conn : IdmConnection) (tx : Channel) (mallocOk : Bool) (dstZone : UInt32)
    (msgType : UInt16) (payload : List UInt8) :
    (buildAndSend conn tx mallocOk dstZone msgType payload).1 =
      (idmBuildMessage conn mallocOk dstZone msgType payload).1 := by
  simp only [buildAndSend]
  cases (idmBuildMessage conn mallocOk dstZone msgType payload).1 <;> rfl

/-- Sending a response leaves the connection connected. -/
theorem buildAndSend_connected (conn : IdmConnection) (tx : Channel) (mallocOk : Bool) (dstZone : UInt32)
    (msgType : UInt16) (payload : List UInt8) :
    (buildAndSend conn tx mallocOk dstZone msgType payload).2.1.connected = conn.connected := by
  unfold buildAndSend idmBuildMessage
  cases mallocOk <;> rfl

/-- What `buildAndSend` puts on an empty channel is what the peer's next
    `idm_recv` returns, a message of the type asked for carrying the payload,
    and the channel is empty again after it. -/
theorem buildAndSend_delivers (conn rconn : IdmConnection) (tx : Channel) (dstZone : UInt32)
    (msgType : UInt16) (payload : List UInt8) (env : RecvEnv) (hc : conn.connected = true)
    (hr : rconn.connected = true) (hm : env.mallocOk = true) (he : tx.ring.consumer = tx.ring.producer)
    (hp : idmHeaderSize + payload.length ≤ idmRingEntrySize) :
    ∃ resp, (idmRecv rconn (buildAndSend conn tx true dstZone msgType payload).2.2 1000 env).1 = .ok resp ∧
      (idmRecv rconn (buildAndSend conn tx true dstZone msgType payload).2.2 1000 env).2.ring.consumer =
        (idmRecv rconn (buildAndSend conn tx true dstZone msgType payload).2.2 1000 env).2.ring.producer ∧
      resp.header.msgType = msgType ∧ ∀ i < payload.length, resp.payload i = listMem payload i := by
  obtain ⟨msg, hmsg⟩ : ∃ msg, (idmBuildMessage conn true dstZone msgType payload).1 = some msg := ⟨_, rfl⟩
  obtain ⟨hlen, hv, hfit⟩ := idmBuildMessage_sendable hmsg hp
  have hsend : buildAndSend conn tx true dstZone msgType payload =
      (some msg, { conn with nextSeq := conn.nextSeq + 1 }, (idmSend { conn with nextSeq := conn.nextSeq + 1 } tx msg).2) := by
    rw [idmBuildMessage_some hmsg]
    rfl
  rw [hsend, idmRecv_idmSend_of_empty_eq { conn with nextSeq := conn.nextSeq + 1 } rconn msg 1000 env
    (waitReachesSem_of_whole env.now rfl) hm hc hr he hv hfit]
  refine ⟨_, rfl, rfl, ?_, fun i hi => ?_⟩
  · rw [IdmMessage.copyInto_header, idmBuildMessage_some hmsg]
  · rw [IdmMessage.copyInto_payload _ _ (hlen ▸ hi), idmBuildMessage_some hmsg]

/-- Send a handler's reply to the requesting zone. -/
def Reply.send (r : Reply) (conn : IdmConnection) (tx : Channel) (mallocOk : Bool)
    (dstZone : UInt32) (seq : UInt64) : Option IdmMessage × IdmConnection × Channel :=
  match r with
  | .ok handle => sendResponseOk conn tx mallocOk dstZone seq handle 0
  | .error code cudaError text => sendResponseError conn tx mallocOk dstZone seq code cudaError text

theorem Reply.send_connected (r : Reply) (conn : IdmConnection) (tx : Channel) (mallocOk : Bool)
    (dstZone : UInt32) (seq : UInt64) : (r.send conn tx mallocOk dstZone seq).2.1.connected = conn.connected := by
  cases r <;> exact buildAndSend_connected ..

/-- Which message a reply sends does not depend on the ring it is sent on. -/
theorem Reply.send_fst_tx (r : Reply) (conn : IdmConnection) (tx tx' : Channel) (mallocOk : Bool)
    (dstZone : UInt32) (seq : UInt64) :
    (r.send conn tx mallocOk dstZone seq).1 = (r.send conn tx' mallocOk dstZone seq).1 := by
  cases r <;> simp only [Reply.send, sendResponseOk, sendResponseError, buildAndSend_fst]

/-! ## §3. Handlers. -/

/-- What handling one request did. -/
structure Handled where
  calls : List CudaCall
  reply : Reply
  table : HandleTable

/-- The reply after a driver call: `IDM_ERROR_CUDA_ERROR` with the driver's
    code on failure, `ok` otherwise. -/
def cudaReply (res : UInt32) (text : String) (ok : Reply) : Reply :=
  if res ≠ cudaSuccess then .error idmErrorCudaError res text else ok

/-- `handle_gpu_alloc`: allocate on the device, then bind a handle to the
    pointer; if no handle can be made, free the allocation again. -/
def handleGpuAlloc (t : HandleTable) (o : Outcome) (msg : IdmMessage) : Handled :=
  let req := IdmGpuAlloc.read msg.payload
  let alloc := CudaCall.memAlloc req.size o.allocResult o.allocPtr
  if o.allocResult ≠ cudaSuccess then
    { calls := [alloc], reply := .error idmErrorCudaError o.allocResult "cuMemAlloc failed", table := t }
  else
    let ins := handleTableInsert t msg.header.srcZone o.allocPtr req.size o.entryMallocOk
    if ins.1 = 0 then
      { calls := [alloc, .memFree o.allocPtr o.freeResult],
        reply := .error idmErrorOutOfMemory 0 "Failed to create handle", table := ins.2 }
    else { calls := [alloc], reply := .ok ins.1, table := ins.2 }

/-- `handle_gpu_free`: unbind the handle, then free its allocation. -/
def handleGpuFree (t : HandleTable) (o : Outcome) (msg : IdmMessage) : Handled :=
  let req := IdmGpuFree.read msg.payload
  let rem := handleTableRemove t msg.header.srcZone req.handle
  if rem.1 = 0 then
    { calls := [], reply := .error idmErrorInvalidHandle 0 "Invalid handle or permission denied",
      table := rem.2 }
  else
    { calls := [.memFree rem.1 o.freeResult], reply := cudaReply o.freeResult "cuMemFree failed" (.ok 0),
      table := rem.2 }

/-- The lookup and bounds check `handle_gpu_copy_h2d` and `handle_gpu_copy_d2h`
    open with: the device address `ptr + offset`, or the error reply. -/
def copyTarget (t : HandleTable) (zoneId : UInt32) (handle offset size : UInt64) : Except Reply UInt64 :=
  let found := handleTableLookup t zoneId handle
  if found.1 = 0 then .error (.error idmErrorInvalidHandle 0 "Invalid handle")
  else if offset + size > found.2 then .error (.error idmErrorInvalidSize 0 "Out of bounds")
  else .ok (found.1 + offset)

/-- `handle_gpu_copy_h2d`: the host data is the `size` bytes after the struct. -/
def handleGpuCopyH2d (t : HandleTable) (o : Outcome) (msg : IdmMessage) : Handled :=
  let req := IdmGpuCopyH2d.read msg.payload
  match copyTarget t msg.header.srcZone req.dstHandle req.dstOffset req.size with
  | .error r => { calls := [], reply := r, table := t }
  | .ok dst =>
    let hostData := readBytes msg.payload IdmGpuCopyH2d.sizeof req.size.toNat
    { calls := [.memcpyHtoD dst hostData o.copyResult],
      reply := cudaReply o.copyResult "cuMemcpyHtoD failed" (.ok 0), table := t }

/-- `handle_gpu_copy_d2h`: the data read is dropped, the reply carries none. -/
def handleGpuCopyD2h (t : HandleTable) (o : Outcome) (msg : IdmMessage) : Handled :=
  let req := IdmGpuCopyD2h.read msg.payload
  match copyTarget t msg.header.srcZone req.srcHandle req.srcOffset req.size with
  | .error r => { calls := [], reply := r, table := t }
  | .ok src =>
    if !o.hostMallocOk then
      { calls := [], reply := .error idmErrorOutOfMemory 0 "Out of memory", table := t }
    else
      { calls := [.memcpyDtoH src req.size o.copyResult],
        reply := cudaReply o.copyResult "cuMemcpyDtoH failed" (.ok 0), table := t }

/-- `handle_gpu_sync`. -/
def handleGpuSync (t : HandleTable) (o : Outcome) : Handled :=
  { calls := [.ctxSynchronize o.syncResult],
    reply := cudaReply o.syncResult "cuCtxSynchronize failed" (.ok 0), table := t }

/-- `run_server`'s `switch` on `msg_type`: the handler's run, or none for the
    `default` case, which only logs. -/
def dispatch (t : HandleTable) (o : Outcome) (msg : IdmMessage) : Option Handled :=
  let ty := msg.header.msgType
  if ty = idmGpuAlloc then some (handleGpuAlloc t o msg)
  else if ty = idmGpuFree then some (handleGpuFree t o msg)
  else if ty = idmGpuCopyH2d then some (handleGpuCopyH2d t o msg)
  else if ty = idmGpuCopyD2h then some (handleGpuCopyD2h t o msg)
  else if ty = idmGpuSync then some (handleGpuSync t o)
  else none

/-- The message types `run_server`'s `switch` has a case for. -/
def switchCases : List UInt16 := [idmGpuAlloc, idmGpuFree, idmGpuCopyH2d, idmGpuCopyD2h, idmGpuSync]

/-- The switch of `run_server`, once: the message's type alone picks the
    handler, whatever the table and the environment, or no case matches. -/
theorem dispatch_cases (msg : IdmMessage) :
    (msg.header.msgType = idmGpuAlloc ∧ ∀ t o, dispatch t o msg = some (handleGpuAlloc t o msg)) ∨
    (msg.header.msgType = idmGpuFree ∧ ∀ t o, dispatch t o msg = some (handleGpuFree t o msg)) ∨
    (msg.header.msgType = idmGpuCopyH2d ∧ ∀ t o, dispatch t o msg = some (handleGpuCopyH2d t o msg)) ∨
    (msg.header.msgType = idmGpuCopyD2h ∧ ∀ t o, dispatch t o msg = some (handleGpuCopyD2h t o msg)) ∨
    (msg.header.msgType = idmGpuSync ∧ ∀ t o, dispatch t o msg = some (handleGpuSync t o)) ∨
    (msg.header.msgType ∉ switchCases ∧ ∀ t o, dispatch t o msg = none) := by
  by_cases h₁ : msg.header.msgType = idmGpuAlloc
  · exact .inl ⟨h₁, fun _ _ => if_pos h₁⟩
  by_cases h₂ : msg.header.msgType = idmGpuFree
  · exact .inr <| .inl ⟨h₂, fun _ _ => (if_neg h₁).trans (if_pos h₂)⟩
  by_cases h₃ : msg.header.msgType = idmGpuCopyH2d
  · exact .inr <| .inr <| .inl ⟨h₃, fun _ _ => (if_neg h₁).trans <| (if_neg h₂).trans (if_pos h₃)⟩
  by_cases h₄ : msg.header.msgType = idmGpuCopyD2h
  · exact .inr <| .inr <| .inr <| .inl
      ⟨h₄, fun _ _ => (if_neg h₁).trans <| (if_neg h₂).trans <| (if_neg h₃).trans (if_pos h₄)⟩
  by_cases h₅ : msg.header.msgType = idmGpuSync
  · exact .inr <| .inr <| .inr <| .inr <| .inl
      ⟨h₅, fun _ _ => (if_neg h₁).trans <| (if_neg h₂).trans <| (if_neg h₃).trans <| (if_neg h₄).trans (if_pos h₅)⟩
  refine .inr <| .inr <| .inr <| .inr <| .inr ⟨?_, fun _ _ =>
    (if_neg h₁).trans <| (if_neg h₂).trans <| (if_neg h₃).trans <| (if_neg h₄).trans (if_neg h₅)⟩
  simp only [switchCases, List.mem_cons, List.not_mem_nil, or_false]
  tauto

/-- A message is handled exactly when its type has a case. -/
theorem dispatch_isSome_iff (t : HandleTable) (o : Outcome) (msg : IdmMessage) :
    (dispatch t o msg).isSome = true ↔ msg.header.msgType ∈ switchCases := by
  rcases dispatch_cases msg with ⟨h, he⟩ | ⟨h, he⟩ | ⟨h, he⟩ | ⟨h, he⟩ | ⟨h, he⟩ | ⟨h, he⟩ <;>
    simp only [he, h, Option.isSome_some, Option.isSome_none] <;> decide

/-! ## §4. The server loop. -/

/-- The driver zone's state: the handle table, the connection, and its two
    channels (it answers on `tx` and receives on `rx`). -/
structure Dispatcher where
  table : HandleTable
  conn : IdmConnection
  tx : Channel
  rx : Channel

/-- What one turn did: the state after, the driver calls made, the message
    passed to `idm_send`, and, a ghost, that message again when `idm_send`
    accepted it (the code drops the result). -/
structure Served where
  next : Dispatcher
  calls : List CudaCall
  sent : Option IdmMessage
  accepted : Option IdmMessage := none

/-- The body of `run_server`'s loop once `idm_recv` returned `msg`: dispatch,
    and send the handler's reply to the message's source zone. -/
def serveMessage (d : Dispatcher) (o : Outcome) (msg : IdmMessage) : Served :=
  match dispatch d.table o msg with
  | none => { next := d, calls := [], sent := none }
  | some h =>
    let r := h.reply.send d.conn d.tx o.msgMallocOk msg.header.srcZone msg.header.seqNum
    { next := { d with table := h.table, conn := r.2.1, tx := r.2.2 }, calls := h.calls, sent := r.1,
      accepted := r.1.bind fun m => (idmSend r.2.1 d.tx m).1.toOption.map fun _ => m }

/-- One turn of `run_server`'s loop: `idm_recv(&msg, 1000)`, in the
    environment `env`; a failed receive is skipped. -/
def serverStep (d : Dispatcher) (env : RecvEnv) (o : Outcome) : Served :=
  let r := idmRecv d.conn d.rx 1000 env
  match r.1 with
  | .error _ => { next := { d with rx := r.2 }, calls := [], sent := none }
  | .ok msg => serveMessage { d with rx := r.2 } o msg

/-! ## §5. What a handler may change. -/

/-- A table change that leaves every entry of the zones other than `z` as it
    was: each bucket, filtered to those zones' entries, is unchanged. -/
def OthersUnchanged (z : UInt32) (t t' : HandleTable) : Prop :=
  ∀ i, (t'.hashTable i).filter (·.zoneId ≠ z) = (t.hashTable i).filter (·.zoneId ≠ z)

theorem othersUnchanged_refl (z : UInt32) (t : HandleTable) : OthersUnchanged z t t := fun _ => rfl

/-- An insert for zone `z` adds an entry of `z` only. -/
theorem othersUnchanged_insert (t : HandleTable) (z : UInt32) (p s : UInt64) (ok : Bool) :
    OthersUnchanged z t (handleTableInsert t z p s ok).2 := by
  intro i
  unfold handleTableInsert
  split_ifs
  · rfl
  · rfl
  · by_cases hi : hashHandle t.nextHandle = i
    · subst hi
      simp [List.filter_cons]
    · simp [Function.update_noteq (Ne.symm hi)]

/-- A remove for zone `z` unlinks an entry of `z` only. -/
theorem othersUnchanged_remove (t : HandleTable) (z : UInt32) (h : UInt64) :
    OthersUnchanged z t (handleTableRemove t z h).2 := by
  intro i
  unfold handleTableRemove
  cases hf : t.find h with
  | none => rfl
  | some e =>
    by_cases hz : e.zoneId = z
    · simp only [hz, ne_eq, not_true_eq_false, if_false]
      by_cases hi : hashHandle h = i
      · subst hi
        obtain ⟨as, bs, hl, herase, -, -⟩ := eraseP_of_find?_eq_some hf
        rw [Function.update_same, herase, hl]
        simp [List.filter_append, List.filter_cons, hz]
      · simp [Function.update_noteq (Ne.symm hi)]
    · simp only [hz, ne_eq, not_false_eq_true, if_true]

/-- **A request from zone `z` changes no entry of another zone.** -/
theorem dispatch_othersUnchanged {t : HandleTable} {o : Outcome} {msg : IdmMessage} {h : Handled}
    (hd : dispatch t o msg = some h) : OthersUnchanged msg.header.srcZone t h.table := by
  rcases dispatch_cases msg with ⟨-, he⟩ | ⟨-, he⟩ | ⟨-, he⟩ | ⟨-, he⟩ | ⟨-, he⟩ | ⟨-, he⟩ <;>
    rw [he] at hd <;> cases hd
  · simp only [handleGpuAlloc]
    split_ifs
    · exact othersUnchanged_refl _ _
    all_goals exact othersUnchanged_insert _ _ _ _ _
  · simp only [handleGpuFree]
    split_ifs <;> exact othersUnchanged_remove _ _ _
  · simp only [handleGpuCopyH2d]
    split <;> exact othersUnchanged_refl _ _
  · simp only [handleGpuCopyD2h]
    split
    · exact othersUnchanged_refl _ _
    · split_ifs <;> exact othersUnchanged_refl _ _
  · exact othersUnchanged_refl _ _

/-- What `serveMessage` sends: the handler's reply, if the type has a handler. -/
theorem serveMessage_sent (d : Dispatcher) (o : Outcome) (msg : IdmMessage) :
    (serveMessage d o msg).sent = (dispatch d.table o msg).bind fun h =>
      (h.reply.send d.conn d.tx o.msgMallocOk msg.header.srcZone msg.header.seqNum).1 := by
  unfold serveMessage
  split <;> simp_all

/-- A message of a type the `switch` has no case for is only logged: nothing
    is passed to `idm_send`, no driver call is made, the state is unchanged. -/
theorem serveMessage_unhandled (d : Dispatcher) (o : Outcome) {msg : IdmMessage}
    (h : msg.header.msgType ∉ switchCases) : serveMessage d o msg = { next := d, calls := [], sent := none } := by
  have hd : dispatch d.table o msg = none :=
    Option.not_isSome_iff_eq_none.mp fun hs => h ((dispatch_isSome_iff _ _ _).mp hs)
  simp only [serveMessage, hd]

/-- The `COPY_D2D` request `cuMemcpyDtoD(1, 1, 16)` sends from zone 2 reaches
    the driver zone, whose `idm_recv` delivers it to `run_server`; whatever
    the table, the driver's outcomes, the clock reading and the receive
    buffer, nothing is passed to `idm_send` and the driver zone's TX ring
    stays empty. -/
theorem serverStep_copyD2d_unanswered (t : HandleTable) (o : Outcome) (now : ClockReading) (blk : Mem) :
    ∃ msg m, (idmBuildMessage (idmInit 2 1 false) true 1 idmGpuCopyD2d
        (IdmGpuCopyD2d.bytes ⟨1, 1, 0, 0, 16⟩)).1 = some msg ∧
      (idmRecv (idmInit 1 2 true) (idmSend (idmInit 2 1 false) emptyChannel msg).2 1000 ⟨now, true, blk⟩).1 =
        .ok m ∧
      m.header.msgType = idmGpuCopyD2d ∧
      (serverStep ⟨t, idmInit 1 2 true, emptyChannel, (idmSend (idmInit 2 1 false) emptyChannel msg).2⟩
        ⟨now, true, blk⟩ o).sent = none ∧
      (serverStep ⟨t, idmInit 1 2 true, emptyChannel, (idmSend (idmInit 2 1 false) emptyChannel msg).2⟩
        ⟨now, true, blk⟩ o).next.tx = emptyChannel := by
  obtain ⟨msg, hmsg⟩ : ∃ msg, (idmBuildMessage (idmInit 2 1 false) true 1 idmGpuCopyD2d
      (IdmGpuCopyD2d.bytes ⟨1, 1, 0, 0, 16⟩)).1 = some msg := ⟨_, rfl⟩
  obtain ⟨-, hv, hfit⟩ := idmBuildMessage_sendable hmsg (by decide)
  obtain ⟨-, hrecv⟩ := idmRecv_idmSend_of_empty (idmInit 2 1 false) (idmInit 1 2 true) msg 1000 ⟨now, true, blk⟩
    (waitReachesSem_of_whole now rfl) rfl rfl rfl (show emptyChannel.ring.consumer = emptyChannel.ring.producer from rfl)
    hv hfit
  have hty : (msg.copyInto blk).header.msgType = idmGpuCopyD2d := by
    rw [IdmMessage.copyInto_header, idmBuildMessage_some hmsg]
  have hserve := @serveMessage_unhandled ⟨t, idmInit 1 2 true, emptyChannel,
    (idmRecv (idmInit 1 2 true) (idmSend (idmInit 2 1 false) emptyChannel msg).2 1000 ⟨now, true, blk⟩).2⟩ o
    (msg.copyInto blk) (by rw [hty]; decide)
  refine ⟨msg, _, hmsg, hrecv, hty, ?_⟩
  simp only [serverStep, hrecv, hserve, and_self]

/-- Serving a message from zone `z` changes no entry of another zone. -/
theorem serveMessage_othersUnchanged (d : Dispatcher) (o : Outcome) (msg : IdmMessage) :
    OthersUnchanged msg.header.srcZone d.table (serveMessage d o msg).next.table := by
  unfold serveMessage
  split
  · exact othersUnchanged_refl _ _
  · exact dispatch_othersUnchanged ‹_›

end XenGpuProxy
