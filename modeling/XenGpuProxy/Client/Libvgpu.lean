/-
  XenGpuProxy.Client.Libvgpu — the user zone's side of the GPU proxy:
  `libvgpu.c`'s memory calls, each building a request, sending it with
  `idm_send` and waiting for the driver zone's answer in `send_and_wait`,
  run against the dispatcher of `Dispatch.Handlers` on the two channels of
  one connection.

  The driver zone runs turns of `run_server` between the user side's
  receives; which turns run, the clock and buffer every `idm_recv` meets,
  and the outcome of every `malloc` and driver call, are the environment's
  choice.  Three ghost lists record the requests the user side's `idm_send`
  accepted, the responses the driver zone's `idm_send` accepted, and the
  messages the user side's `idm_recv` returned.

  Main results:
    * `sendAndWait_answer` — `send_and_wait` ends in its timeout, or with the
      code and handle of the last message its own `idm_recv` returned, a
      response whose `request_seq` is the request's `seq_num`.
    * `vgpuRun_seqInv` — without `cuMemcpyHtoD`, the requests on the
      connection carry pairwise distinct `seq_num`s, from the counter of
      `idm_build_message`; `cuMemcpyHtoD_seqNum` — that call sends `seq_num`
      1 whatever the counter.
    * `cuMemcpyHtoD_takes_stale_response` — so after a `cuMemAlloc` whose
      answer came late, `cuMemcpyHtoD` takes that answer for its own.
    * `cuMemcpyHtoD_payloadLen_wraps` — with `ByteCount = 2^32` the 32-bit
      `payload_len` wraps to 24: `idm_send` accepts the message, and the
      driver zone's handler passes on `2^32` bytes read past the 56-byte
      copy `idm_recv` made; `cuMemcpyHtoD_of_large` — a copy of more than
      4040 bytes does not fit a ring slot and never succeeds.
-/
import XenGpuProxy.Dispatch.Bounds

namespace XenGpuProxy

/-! ## §1. State. -/

/-- `USER_ZONE_ID`. -/
def userZoneId : UInt32 := 2
/-- `DRIVER_ZONE_ID`. -/
def driverZoneId : UInt32 := 1

/-- `CUDA_ERROR_INVALID_VALUE`. -/
def cudaErrorInvalidValue : UInt32 := 1
/-- `CUDA_ERROR_OUT_OF_MEMORY`. -/
def cudaErrorOutOfMemory : UInt32 := 2
/-- `CUDA_ERROR_NOT_INITIALIZED`. -/
def cudaErrorNotInitialized : UInt32 := 3
/-- `CUDA_ERROR_INVALID_HANDLE`. -/
def cudaErrorInvalidHandle : UInt32 := 400

/-- The user zone with libvgpu loaded and the driver zone's server, joined by
    one connection: the user side sends on `server.rx` and receives on
    `server.tx`. -/
structure World where
  /-- libvgpu's `initialized` -/
  initialized : Bool
  /-- the user side's `global_conn` -/
  conn : IdmConnection
  /-- the user process's memory, where pointer arguments point -/
  host : Mem
  /-- the driver zone's `run_server` -/
  server : Dispatcher
  /-- ghost: the requests the user side's `idm_send` accepted, in order -/
  sent : List IdmMessage
  /-- ghost: the responses the driver zone's `idm_send` accepted, in order -/
  replies : List IdmMessage
  /-- ghost: the messages the user side's `idm_recv` returned, in order -/
  received : List IdmMessage

/-- Both zones just started: `cuInit` connected zone 2 to zone 1, and
    `run_server` holds an empty handle table; the rings are as the server's
    `memset` left them. -/
def World.init (host : Mem) : World :=
  { initialized := true, conn := idmInit userZoneId driverZoneId false, host,
    server :=
      { table := handleTableInit, conn := idmInit driverZoneId userZoneId true,
        tx := emptyChannel, rx := emptyChannel },
    sent := [], replies := [], received := [] }

/-! ## §2. `send_and_wait`. -/

/-- The `CUresult` `send_and_wait` maps a `RESPONSE_ERROR`'s code to. -/
def cudaErrorOf (errorCode : UInt32) : UInt32 :=
  if errorCode = idmErrorOutOfMemory then cudaErrorOutOfMemory
  else if errorCode = idmErrorInvalidHandle then cudaErrorInvalidHandle
  else cudaErrorInvalidValue

/-- The test one turn of `send_and_wait` makes of a received message: the
    `CUresult` and handle it ends the wait with when the message answers
    `reqSeq`, or `none` to wait on. -/
def responseFor (reqSeq : UInt64) (resp : IdmMessage) : Option (UInt32 × Option UInt64) :=
  if resp.header.msgType = idmResponseOk then
    if (IdmResponseOk.read resp.payload).requestSeq = reqSeq then
      some (cudaSuccess, some (IdmResponseOk.read resp.payload).resultHandle)
    else none
  else if resp.header.msgType = idmResponseError then
    if (IdmResponseError.read resp.payload).requestSeq = reqSeq then
      some (cudaErrorOf (IdmResponseError.read resp.payload).errorCode, none)
    else none
  else none

/-- What the environment does around one receive of the wait: the turns of
    `run_server` before it (each the environment of the server's receive and
    the outcome of its driver calls), and the environment of the receive's
    own `idm_recv`. -/
structure Turn where
  serverTurns : List (RecvEnv × Outcome)
  recv : RecvEnv

/-- A receive whose `malloc` succeeds, at the epoch, into a zeroed buffer. -/
def recvZeroed : RecvEnv := ⟨⟨⟨0, 0⟩, by decide⟩, true, fun _ => 0⟩

/-- A turn in which the driver zone does nothing: the answer is late.  Its
    receive's environment is one fixed choice; a wait given all its ten
    turns chooses every receive's environment. -/
def Turn.idle : Turn := { serverTurns := [], recv := recvZeroed }

/-- One turn of the driver zone's `run_server`, the response its `idm_send`
    accepted, if any, added to the ghost. -/
def World.serverTurn (w : World) (t : RecvEnv × Outcome) : World :=
  { w with server := (serverStep w.server t.1 t.2).next,
           replies := w.replies ++ (serverStep w.server t.1 t.2).accepted.toList }

/-- The driver zone's turns of `run_server`. -/
def World.serve (w : World) (turns : List (RecvEnv × Outcome)) : World :=
  turns.foldl World.serverTurn w

/-- The user side's `idm_recv(&resp, 1000)`: the message, if one came. -/
def World.recv (w : World) (env : RecvEnv) : Option IdmMessage × World :=
  match idmRecv w.conn w.server.tx 1000 env with
  | (.ok resp, tx) => (some resp, { w with server := { w.server with tx }, received := w.received ++ [resp] })
  | (.error _, tx) => (none, { w with server := { w.server with tx } })

/-- The `for` loop of `send_and_wait` with `n` turns left: a failed receive
    or a message that does not answer `reqSeq` is dropped, and after the
    last turn the call gives up with `CUDA_ERROR_INVALID_VALUE`.  The result
    is the `CUresult`, what it stores through `handle_out`, and the world. -/
def waitLoop (reqSeq : UInt64) : Nat → List Turn → World → UInt32 × Option UInt64 × World
  | 0, _, w => (cudaErrorInvalidValue, none, w)
  | n + 1, turns, w =>
    match ((w.serve (turns.headD Turn.idle).serverTurns).recv (turns.headD Turn.idle).recv) with
    | (some resp, w') =>
      match responseFor reqSeq resp with
      | some res => (res.1, res.2, w')
      | none => waitLoop reqSeq n turns.tail w'
    | (none, w') => waitLoop reqSeq n turns.tail w'

/-- `send_and_wait(msg, handle_out)`: `idm_send`, then up to ten receives. -/
def sendAndWait (w : World) (turns : List Turn) (msg : IdmMessage) : UInt32 × Option UInt64 × World :=
  match idmSend w.conn w.server.rx msg with
  | (.error _, rx) => (cudaErrorInvalidValue, none, { w with server := { w.server with rx } })
  | (.ok (), rx) =>
    waitLoop msg.header.seqNum 10 turns { w with server := { w.server with rx }, sent := w.sent ++ [msg] }

/-! ## §3. The memory calls. -/

/-- What one call's environment decides: the `malloc` of its request, and
    the turns of its wait. -/
structure CallEnv where
  mallocOk : Bool
  turns : List Turn

/-- The tail the calls other than `cuMemcpyHtoD` share: `idm_build_message`
    of the request to the driver zone, `CUDA_ERROR_OUT_OF_MEMORY` if it
    returns `NULL`, else `send_and_wait`. -/
def requestDriver (w : World) (env : CallEnv) (msgType : UInt16) (payload : List UInt8) :
    UInt32 × Option UInt64 × World :=
  match idmBuildMessage w.conn env.mallocOk driverZoneId msgType payload with
  | (none, conn) => (cudaErrorOutOfMemory, none, { w with conn })
  | (some msg, conn) => sendAndWait { w with conn } env.turns msg

/-- `cuMemAlloc(dptr, bytesize)`: on success the handle is stored at `dptr`. -/
def cuMemAlloc (w : World) (env : CallEnv) (dptr bytesize : UInt64) : UInt32 × World :=
  if !w.initialized then (cudaErrorNotInitialized, w)
  else if dptr = 0 ∨ bytesize = 0 then (cudaErrorInvalidValue, w)
  else
    let allocReq : IdmGpuAlloc := { size := bytesize, flags := 0, reserved := 0 }
    let r := requestDriver w env idmGpuAlloc allocReq.bytes
    if r.1 = cudaSuccess then
      (r.1, { r.2.2 with host := writeBytes r.2.2.host dptr.toNat (r.2.1.getD 0).toLE })
    else (r.1, r.2.2)

/-- `cuMemFree(dptr)`. -/
def cuMemFree (w : World) (env : CallEnv) (dptr : UInt64) : UInt32 × World :=
  if !w.initialized then (cudaErrorNotInitialized, w)
  else if dptr = 0 then (cudaErrorInvalidValue, w)
  else
    let freeReq : IdmGpuFree := { handle := dptr }
    let r := requestDriver w env idmGpuFree freeReq.bytes
    (r.1, r.2.2)

/-- The message `cuMemcpyHtoD` fills in itself: the request struct with the
    data after it, `seq_num` 1 ("Will be set by transport", which it is
    not), and `payload_len` the `size_t` sum stored into 32 bits.  The
    `reserved` word is left as `malloc` returned it; the model takes 0. -/
def copyH2dMessage (dstDevice byteCount : UInt64) (data : List UInt8) : IdmMessage :=
  let copyReq : IdmGpuCopyH2d := { dstHandle := dstDevice, dstOffset := 0, size := byteCount }
  { header :=
      { magic := idmMagic, version := idmVersion, msgType := idmGpuCopyH2d, srcZone := userZoneId,
        dstZone := driverZoneId, seqNum := 1,
        payloadLen := UInt32.ofNat (IdmGpuCopyH2d.sizeof + byteCount.toNat), reserved := 0 },
    payload := listMem (copyReq.bytes ++ data) }

/-- `cuMemcpyHtoD(dstDevice, srcHost, ByteCount)`: the message is built by
    hand, not by `idm_build_message`. -/
def cuMemcpyHtoD (w : World) (env : CallEnv) (dstDevice srcHost byteCount : UInt64) : UInt32 × World :=
  if !w.initialized then (cudaErrorNotInitialized, w)
  else if dstDevice = 0 ∨ srcHost = 0 ∨ byteCount = 0 then (cudaErrorInvalidValue, w)
  else if !env.mallocOk then (cudaErrorOutOfMemory, w)
  else
    let r := sendAndWait w env.turns
      (copyH2dMessage dstDevice byteCount (readBytes w.host srcHost.toNat byteCount.toNat))
    (r.1, r.2.2)

/-- `cuMemcpyDtoH(dstHost, srcDevice, ByteCount)`: no data comes back; on
    success the buffer is zeroed. -/
def cuMemcpyDtoH (w : World) (env : CallEnv) (dstHost srcDevice byteCount : UInt64) : UInt32 × World :=
  if !w.initialized then (cudaErrorNotInitialized, w)
  else if dstHost = 0 ∨ srcDevice = 0 ∨ byteCount = 0 then (cudaErrorInvalidValue, w)
  else
    let copyReq : IdmGpuCopyD2h := { srcHandle := srcDevice, srcOffset := 0, size := byteCount }
    let r := requestDriver w env idmGpuCopyD2h copyReq.bytes
    if r.1 = cudaSuccess then
      (r.1, { r.2.2 with host := writeBytes r.2.2.host dstHost.toNat (List.replicate byteCount.toNat 0) })
    else (r.1, r.2.2)

/-- `cuMemcpyDtoD(dstDevice, srcDevice, ByteCount)`. -/
def cuMemcpyDtoD (w : World) (env : CallEnv) (dstDevice srcDevice byteCount : UInt64) : UInt32 × World :=
  if !w.initialized then (cudaErrorNotInitialized, w)
  else if dstDevice = 0 ∨ srcDevice = 0 ∨ byteCount = 0 then (cudaErrorInvalidValue, w)
  else
    let copyReq : IdmGpuCopyD2d :=
      { dstHandle := dstDevice, srcHandle := srcDevice, dstOffset := 0, srcOffset := 0, size := byteCount }
    let r := requestDriver w env idmGpuCopyD2d copyReq.bytes
    (r.1, r.2.2)

/-- `cuCtxSynchronize()`. -/
def cuCtxSynchronize (w : World) (env : CallEnv) : UInt32 × World :=
  if !w.initialized then (cudaErrorNotInitialized, w)
  else
    let syncReq : IdmGpuSync := { flags := 0, reserved := 0 }
    let r := requestDriver w env idmGpuSync syncReq.bytes
    (r.1, r.2.2)

/-- `cuInit(Flags)`: connect zone 2 to the driver zone, once.  `idmOk` is
    whether `idm_init` succeeds (its `calloc` and the stub's shared memory). -/
def cuInit (w : World) (idmOk : Bool) : UInt32 × World :=
  if w.initialized then (cudaSuccess, w)
  else if !idmOk then (cudaErrorNotInitialized, w)
  else (cudaSuccess, { w with initialized := true, conn := idmInit userZoneId driverZoneId false })

/-- A call of the memory API. -/
inductive VgpuCall
  | memAlloc (dptr bytesize : UInt64)
  | memFree (dptr : UInt64)
  | memcpyHtoD (dstDevice srcHost byteCount : UInt64)
  | memcpyDtoH (dstHost srcDevice byteCount : UInt64)
  | memcpyDtoD (dstDevice srcDevice byteCount : UInt64)
  | ctxSynchronize

def VgpuCall.apply (w : World) (env : CallEnv) : VgpuCall → UInt32 × World
  | .memAlloc dptr bytesize => cuMemAlloc w env dptr bytesize
  | .memFree dptr => cuMemFree w env dptr
  | .memcpyHtoD dstDevice srcHost byteCount => cuMemcpyHtoD w env dstDevice srcHost byteCount
  | .memcpyDtoH dstHost srcDevice byteCount => cuMemcpyDtoH w env dstHost srcDevice byteCount
  | .memcpyDtoD dstDevice srcDevice byteCount => cuMemcpyDtoD w env dstDevice srcDevice byteCount
  | .ctxSynchronize => cuCtxSynchronize w env

/-- Calls made one at a time, each with its environment: the results, and
    the world after them. -/
def vgpuRun : World → List (VgpuCall × CallEnv) → List UInt32 × World
  | w, [] => ([], w)
  | w, (c, env) :: cs => ((c.apply w env).1 :: (vgpuRun (c.apply w env).2 cs).1, (vgpuRun (c.apply w env).2 cs).2)

/-! ## §4. What `send_and_wait` returns. -/

section Wait

variable {reqSeq : UInt64}

/-- An answer for `reqSeq` is a response whose `request_seq` is `reqSeq`. -/
theorem responseFor_eq_some {resp : IdmMessage} {res : UInt32 × Option UInt64}
    (h : responseFor reqSeq resp = some res) :
    (resp.header.msgType = idmResponseOk ∧ (IdmResponseOk.read resp.payload).requestSeq = reqSeq ∧
        res = (cudaSuccess, some (IdmResponseOk.read resp.payload).resultHandle)) ∨
      (resp.header.msgType = idmResponseError ∧ (IdmResponseError.read resp.payload).requestSeq = reqSeq ∧
        res = (cudaErrorOf (IdmResponseError.read resp.payload).errorCode, none)) := by
  unfold responseFor at h
  split at h
  · split at h
    · exact .inl ⟨‹_›, ‹_›, (Option.some.inj h).symm⟩
    · cases h
  · split at h
    · split at h
      · exact .inr ⟨‹_›, ‹_›, (Option.some.inj h).symm⟩
      · cases h
    · cases h

/-- The driver zone's turns touch the server and the ghost of its responses
    only, and add to that ghost. -/
theorem World.serve_eq (w : World) (turns : List (RecvEnv × Outcome)) :
    ∃ d rs, w.serve turns = { w with server := d, replies := w.replies ++ rs } := by
  induction turns generalizing w with
  | nil => exact ⟨w.server, [], by simp [World.serve]⟩
  | cons t ts ih =>
    obtain ⟨d, rs, h⟩ := ih (w.serverTurn t)
    exact ⟨d, (serverStep w.server t.1 t.2).accepted.toList ++ rs,
      (h : (w.serverTurn t).serve ts = _).trans (by simp [World.serverTurn])⟩

@[simp] theorem World.serve_nil (w : World) : w.serve [] = w := rfl

/-- A receive touches the user side's RX channel, and adds what it returns
    to the ghost. -/
theorem World.recv_eq (w : World) (env : RecvEnv) :
    ∃ tx, (w.recv env).2 =
      { w with server := { w.server with tx }, received := w.received ++ (w.recv env).1.toList } := by
  unfold World.recv
  split
  · exact ⟨_, rfl⟩
  · rename_i tx _
    exact ⟨tx, by simp⟩

/-- A receive from an empty ring returns nothing and changes neither the
    ring nor the ghost. -/
theorem World.recv_of_idle {w : World} (env : RecvEnv) (h : w.server.tx.ring.consumer = w.server.tx.ring.producer) :
    (w.recv env).1 = none ∧ (w.recv env).2.received = w.received ∧
      (w.recv env).2.server.tx.ring = w.server.tx.ring := by
  obtain ⟨⟨e, he⟩, hring⟩ := @idmRecv_of_empty w.conn w.server.tx 1000 env h
  unfold World.recv
  rw [show idmRecv w.conn w.server.tx 1000 env = (.error e, (idmRecv w.conn w.server.tx 1000 env).2) from
    Prod.ext he rfl]
  exact ⟨rfl, rfl, hring⟩

/-- **Run.** The wait ends in its timeout, or with the answer of a message
    its own `idm_recv` returned, the last one, which answers `reqSeq`. -/
theorem waitLoop_response (n : Nat) (turns : List Turn) (w : World) :
    ((waitLoop reqSeq n turns w).1, (waitLoop reqSeq n turns w).2.1) = (cudaErrorInvalidValue, none) ∨
      ∃ more resp, (waitLoop reqSeq n turns w).2.2.received = w.received ++ more ++ [resp] ∧
        responseFor reqSeq resp = some ((waitLoop reqSeq n turns w).1, (waitLoop reqSeq n turns w).2.1) := by
  induction n generalizing turns w with
  | zero => exact .inl rfl
  | succ n ih =>
    obtain ⟨tx, hr⟩ := World.recv_eq (w.serve (turns.headD Turn.idle).serverTurns) (turns.headD Turn.idle).recv
    have hrec := congrArg World.received hr
    obtain ⟨d, rs, hd⟩ := World.serve_eq w (turns.headD Turn.idle).serverTurns
    rw [show (w.serve (turns.headD Turn.idle).serverTurns).received = w.received by rw [hd]] at hrec
    simp only [waitLoop]
    split
    · rename_i resp w' he
      simp only [he, Option.toList_some] at hrec
      split
      · exact .inr ⟨[], resp, by simpa using hrec, ‹_›⟩
      · rcases ih turns.tail w' with h | ⟨more, r, h, hresp⟩
        · exact .inl h
        · exact .inr ⟨resp :: more, r, by simp [h, hrec], hresp⟩
    · rename_i w' he
      simp only [he, Option.toList_none, List.append_nil] at hrec
      rcases ih turns.tail w' with h | ⟨more, r, h, hresp⟩
      · exact .inl h
      · exact .inr ⟨more, r, by rw [h, hrec], hresp⟩

/-- **Run.** What every turn the wait may take keeps, the wait keeps. -/
theorem waitLoop_invariant (P : World → Prop) (turns : List Turn)
    (hstep : ∀ w t, t = Turn.idle ∨ t ∈ turns → P w → P ((w.serve t.serverTurns).recv t.recv).2)
    (n : Nat) (w : World) (hw : P w) : P (waitLoop reqSeq n turns w).2.2 := by
  induction n generalizing turns w with
  | zero => exact hw
  | succ n ih =>
    have hhead : turns.headD Turn.idle = Turn.idle ∨ turns.headD Turn.idle ∈ turns := by
      cases turns <;> simp
    have htail : ∀ w t, t = Turn.idle ∨ t ∈ turns.tail → P w →
        P ((w.serve t.serverTurns).recv t.recv).2 :=
      fun w t ht => hstep w t (ht.imp_right List.mem_of_mem_tail)
    have hr := hstep w _ hhead hw
    simp only [waitLoop]
    split
    · rename_i resp w' he
      rw [he] at hr
      split
      · exact hr
      · exact ih turns.tail htail w' hr
    · rename_i w' he
      rw [he] at hr
      exact ih turns.tail htail w' hr

/-- The wait sends nothing and leaves the user side's connection, memory and
    flag as they were. -/
theorem waitLoop_frame (n : Nat) (turns : List Turn) (w : World) :
    (waitLoop reqSeq n turns w).2.2.sent = w.sent ∧ (waitLoop reqSeq n turns w).2.2.conn = w.conn ∧
      (waitLoop reqSeq n turns w).2.2.host = w.host ∧
      (waitLoop reqSeq n turns w).2.2.initialized = w.initialized := by
  refine waitLoop_invariant (fun w' => w'.sent = w.sent ∧ w'.conn = w.conn ∧ w'.host = w.host ∧
    w'.initialized = w.initialized) turns (fun w' t _ hw' => ?_) n w ⟨rfl, rfl, rfl, rfl⟩
  obtain ⟨tx, htx⟩ := World.recv_eq (w'.serve t.serverTurns) t.recv
  obtain ⟨d, rs, hd⟩ := World.serve_eq w' t.serverTurns
  rw [htx, hd]
  exact hw'

theorem waitLoop_sent (n : Nat) (turns : List Turn) (w : World) :
    (waitLoop reqSeq n turns w).2.2.sent = w.sent :=
  (waitLoop_frame n turns w).1

/-- While the driver zone does nothing, the wait leaves the user side's TX
    channel as it is. -/
theorem waitLoop_idle_rx (n : Nat) (w : World) :
    (waitLoop reqSeq n [] w).2.2.server.rx = w.server.rx := by
  refine waitLoop_invariant (fun w' => w'.server.rx = w.server.rx) [] (fun w' t ht hw' => ?_) n w rfl
  obtain rfl : t = Turn.idle := by simpa using ht
  obtain ⟨tx, htx⟩ := World.recv_eq w' Turn.idle.recv
  rw [show w'.serve Turn.idle.serverTurns = w' from rfl, htx]
  exact hw'

/-- A wait whose turns are all idle, on an empty ring, receives nothing and
    ends in its timeout. -/
theorem waitLoop_of_idle {reqSeq : UInt64} (n : Nat) {w : World}
    (h : w.server.tx.ring.consumer = w.server.tx.ring.producer) :
    ((waitLoop reqSeq n [] w).1, (waitLoop reqSeq n [] w).2.1) = (cudaErrorInvalidValue, none) ∧
      (waitLoop reqSeq n [] w).2.2.received = w.received := by
  have hinv := @waitLoop_invariant reqSeq
    (fun w' => w'.server.tx.ring = w.server.tx.ring ∧ w'.received = w.received) []
    (fun w' t ht ⟨hr, hrec⟩ => by
      obtain rfl : t = Turn.idle := by simpa using ht
      rw [Turn.idle, World.serve_nil]
      obtain ⟨-, hrec', hr'⟩ := World.recv_of_idle (w := w') recvZeroed (by rw [hr]; exact h)
      exact ⟨hr'.trans hr, hrec'.trans hrec⟩) n w ⟨rfl, rfl⟩
  rcases @waitLoop_response reqSeq n [] w with h1 | ⟨more, resp, hrec, -⟩
  · exact ⟨h1, hinv.2⟩
  · -- an answer would have lengthened the ghost
    have := congrArg List.length (hrec.symm.trans hinv.2)
    simp at this

/-- Once `idm_send` accepted the request, `send_and_wait` is its wait, with
    the request in the ghost. -/
theorem sendAndWait_of_ok {w : World} {turns : List Turn} {msg : IdmMessage} {rx : Channel}
    (h : idmSend w.conn w.server.rx msg = (.ok (), rx)) :
    sendAndWait w turns msg =
      waitLoop msg.header.seqNum 10 turns { w with server := { w.server with rx }, sent := w.sent ++ [msg] } := by
  simp only [sendAndWait, h]

/-- When `idm_send` refuses the request and leaves the channel as it was,
    `send_and_wait` fails with `CUDA_ERROR_INVALID_VALUE` and changes nothing. -/
theorem sendAndWait_of_refused {w : World} {turns : List Turn} {msg : IdmMessage}
    (h : (idmSend w.conn w.server.rx msg).1 ≠ .ok ()) (hrx : (idmSend w.conn w.server.rx msg).2 = w.server.rx) :
    sendAndWait w turns msg = (cudaErrorInvalidValue, none, w) := by
  unfold sendAndWait
  split
  · next _ rx heq =>
    rw [heq] at hrx
    subst hrx
    rfl
  · next _ heq =>
    rw [heq] at h
    exact absurd rfl h

/-- **What `send_and_wait` returns.**  Its timeout, or the answer in the
    last message its `idm_recv` returned during the call, one that its test
    accepts for the request's `seq_num` (`responseFor_eq_some` reads it: a
    `RESPONSE_OK` or `RESPONSE_ERROR` naming that `seq_num`). -/
theorem sendAndWait_answer (w : World) (turns : List Turn) (msg : IdmMessage) :
    ((sendAndWait w turns msg).1, (sendAndWait w turns msg).2.1) = (cudaErrorInvalidValue, none) ∨
      ∃ more resp, (sendAndWait w turns msg).2.2.received = w.received ++ more ++ [resp] ∧
        responseFor msg.header.seqNum resp = some ((sendAndWait w turns msg).1, (sendAndWait w turns msg).2.1) := by
  unfold sendAndWait
  split
  · exact .inl rfl
  · exact waitLoop_response 10 turns _

end Wait

/-! ## §5. Answers taken for the wrong request. -/

/-- Zone 2 calls `cuMemAlloc` (request `seq_num` 1) while the driver zone is
    busy: all ten receives time out and the call fails.  It then calls
    `cuMemcpyHtoD` on a handle it does not own; the driver zone serves both
    requests before the first receive.  `cuMemcpyHtoD`'s request also
    carries `seq_num` 1, so it takes the `RESPONSE_OK` for the allocation
    (handle 1) as its own and returns `CUDA_SUCCESS`, while its own answer,
    an `INVALID_HANDLE` error for `request_seq` 1, waits next in the ring. -/
theorem cuMemcpyHtoD_takes_stale_response :
    ∃ w, vgpuRun (World.init fun _ => 0)
        [(.memAlloc 0x1000 4096, ⟨true, []⟩),
          (.memcpyHtoD 7 0x2000 16, ⟨true, [⟨[(recvZeroed, allSucceed), (recvZeroed, allSucceed)], recvZeroed⟩]⟩)] =
        ([cudaErrorInvalidValue, cudaSuccess], w) ∧
      w.sent.map (·.header.seqNum) = [1, 1] ∧
      w.received.map (fun m => (m.header.msgType, IdmResponseOk.read m.payload)) =
        [(idmResponseOk, ⟨1, 1, 0, 0⟩)] ∧
      (w.recv recvZeroed).1.map (fun m => (m.header.msgType, (IdmResponseError.read m.payload).requestSeq,
        (IdmResponseError.read m.payload).errorCode)) = some (idmResponseError, 1, idmErrorInvalidHandle) := by
  set_option maxRecDepth 100000 in
  exact ⟨_, Prod.ext (by decide) rfl, by decide, by decide, by decide⟩

/-! ## §6. `payload_len` of a large copy. -/

/-- A call that passes its checks sends the message it built by hand. -/
theorem cuMemcpyHtoD_of_checks {w : World} {env : CallEnv} {dstDevice srcHost byteCount : UInt64}
    (hi : w.initialized = true) (hd : dstDevice ≠ 0) (hs : srcHost ≠ 0) (hc : byteCount ≠ 0)
    (hm : env.mallocOk = true) :
    cuMemcpyHtoD w env dstDevice srcHost byteCount =
      ((sendAndWait w env.turns
          (copyH2dMessage dstDevice byteCount (readBytes w.host srcHost.toNat byteCount.toNat))).1,
        (sendAndWait w env.turns
          (copyH2dMessage dstDevice byteCount (readBytes w.host srcHost.toNat byteCount.toNat))).2.2) := by
  simp [cuMemcpyHtoD, hi, hd, hs, hc, hm]

/-- **A copy larger than a ring slot never succeeds.**  When `24 + ByteCount`
    fits the 32-bit `payload_len` but the message, header included, is larger
    than a 4096-byte slot (`ByteCount` above 4040), `idm_send` refuses it:
    `cuMemcpyHtoD` fails and leaves the world as it was. -/
theorem cuMemcpyHtoD_of_large (w : World) (env : CallEnv) (dstDevice srcHost byteCount : UInt64)
    (hbig : idmRingEntrySize < idmHeaderSize + IdmGpuCopyH2d.sizeof + byteCount.toNat)
    (hw : IdmGpuCopyH2d.sizeof + byteCount.toNat < 2 ^ 32) :
    (cuMemcpyHtoD w env dstDevice srcHost byteCount).1 ≠ cudaSuccess ∧
      (cuMemcpyHtoD w env dstDevice srcHost byteCount).2 = w := by
  unfold cuMemcpyHtoD
  split_ifs
  · exact ⟨(by decide : cudaErrorNotInitialized ≠ cudaSuccess), rfl⟩
  · exact ⟨(by decide : cudaErrorInvalidValue ≠ cudaSuccess), rfl⟩
  · exact ⟨(by decide : cudaErrorOutOfMemory ≠ cudaSuccess), rfl⟩
  have hsize : idmRingEntrySize < idmMessageSize
      (copyH2dMessage dstDevice byteCount (readBytes w.host srcHost.toNat byteCount.toNat)) := by
    rw [idmMessageSize, copyH2dMessage, UInt32.toNat_ofNat', Nat.mod_eq_of_lt hw, ← Nat.add_assoc]
    exact hbig
  obtain ⟨hne, hrx⟩ := @idmSend_of_unsendable w.conn w.server.rx _ fun h => absurd h.2 (Nat.not_le.mpr hsize)
  rw [sendAndWait_of_refused hne hrx]
  exact ⟨(by decide : cudaErrorInvalidValue ≠ cudaSuccess), rfl⟩

/-- A 5000-byte copy from a fresh start fails and changes nothing. -/
theorem cuMemcpyHtoD_of_large_5000 :
    idmRingEntrySize < idmHeaderSize + IdmGpuCopyH2d.sizeof + (5000 : UInt64).toNat ∧
      IdmGpuCopyH2d.sizeof + (5000 : UInt64).toNat < 2 ^ 32 ∧
      (cuMemcpyHtoD (World.init fun _ => 0) ⟨true, []⟩ 7 0x2000 5000).1 ≠ cudaSuccess ∧
      (cuMemcpyHtoD (World.init fun _ => 0) ⟨true, []⟩ 7 0x2000 5000).2 = World.init fun _ => 0 :=
  ⟨by decide, by decide, cuMemcpyHtoD_of_large _ _ _ _ _ (by decide) (by decide)⟩

/-- Zone 2's memory holds `0xAB` everywhere, and it copies `2^32` bytes from
    `0x1000` to handle 1.  `payload_len = 24 + 2^32` is stored into 32 bits
    as 24, so `idm_send` accepts a 56-byte message and the ring carries none
    of the data.  Whatever the clock reads and whatever block its `malloc`
    returns, the driver zone's `idm_recv` returns a 56-byte copy of that
    message; it decodes to the request for handle 1, offset 0 and size
    `2^32`, and the `2^32` bytes after the struct that `handle_gpu_copy_h2d`
    passes on are those lying past the copy in the block, not the caller's. -/
theorem cuMemcpyHtoD_payloadLen_wraps :
    ∃ msg, (cuMemcpyHtoD (World.init fun _ => 0xAB) ⟨true, []⟩ 1 0x1000 0x100000000).2.sent = [msg] ∧
      msg.header.payloadLen = 24 ∧
      (∀ (now : ClockReading) (blk : Mem), ∃ m, (idmRecv (idmInit driverZoneId userZoneId true)
          (cuMemcpyHtoD (World.init fun _ => 0xAB) ⟨true, []⟩ 1 0x1000 0x100000000).2.server.rx
          1000 ⟨now, true, blk⟩).1 = .ok m ∧
        idmMessageSize m = 56 ∧ IdmGpuCopyH2d.read m.payload = ⟨1, 0, 0x100000000⟩ ∧
        readBytes m.payload IdmGpuCopyH2d.sizeof 0x100000000 = readBytes blk 56 0x100000000) ∧
      readBytes (fun _ => 0) 56 0x100000000 ≠ readBytes (fun _ => 0xAB) 0x1000 0x100000000 := by
  have hv : idmMessageValid (copyH2dMessage 1 0x100000000 (readBytes (fun _ => 0xAB) 0x1000 0x100000000)) =
      true := rfl
  have hfit : idmMessageSize (copyH2dMessage 1 0x100000000 (readBytes (fun _ => 0xAB) 0x1000 0x100000000)) ≤
      idmRingEntrySize := by decide
  have hsend := idmSend_of_empty (idmInit userZoneId driverZoneId false) _ rfl
    (show emptyChannel.ring.consumer = emptyChannel.ring.producer from rfl) hv hfit
  rw [cuMemcpyHtoD_of_checks rfl (by decide) (by decide) (by decide) rfl]
  simp only [World.init]
  have hlen : (copyH2dMessage 1 0x100000000 (readBytes (fun _ => 0xAB) 0x1000 0x100000000)).header.payloadLen.toNat =
      IdmGpuCopyH2d.sizeof := rfl
  rw [sendAndWait_of_ok hsend, waitLoop_sent, waitLoop_idle_rx]
  refine ⟨_, rfl, rfl, fun now blk => ⟨_, (idmRecv_idmSend_of_empty (idmInit userZoneId driverZoneId false)
    (idmInit driverZoneId userZoneId true) _ 1000 ⟨now, true, blk⟩ (waitReachesSem_of_whole now rfl) rfl rfl rfl
    (show emptyChannel.ring.consumer = emptyChannel.ring.producer from rfl) hv hfit).2, rfl, ?_, ?_⟩, fun h => ?_⟩
  · -- the struct lies inside the 24 bytes copied
    rw [IdmGpuCopyH2d.read_congr fun i hi => IdmMessage.copyInto_payload blk _ (hi.trans_eq hlen.symm)]
    decide
  · -- the data lies past them
    refine List.map_congr_left fun i _ => ?_
    rw [IdmMessage.copyInto_payload_of_le _ _ (hlen.trans_le (Nat.le_add_right _ i)), ← Nat.add_assoc]
    rfl
  · have h0 := congrArg List.head? h
    rw [show (0x100000000 : Nat) = 0xFFFFFFFF + 1 from rfl, readBytes_succ (fun _ => 0),
      readBytes_succ (fun _ => 0xAB)] at h0
    exact absurd (Option.some.inj h0) (by decide)

/-! ## §7. Sequence numbers. -/

/-- The requests the user side sent carry distinct `seq_num`s, all below its
    connection's counter. -/
structure SeqInv (w : World) : Prop where
  nodup : (w.sent.map (·.header.seqNum)).Nodup
  lt_next : ∀ m ∈ w.sent, m.header.seqNum.toNat < w.conn.nextSeq.toNat

theorem seqInv_init (host : Mem) : SeqInv (World.init host) :=
  ⟨List.nodup_nil, fun _ h => nomatch h⟩

/-- The invariant reads the ghost and the counter only. -/
theorem SeqInv.of_frame {w w' : World} (hi : SeqInv w) (hs : w'.sent = w.sent) (hc : w'.conn = w.conn) :
    SeqInv w' :=
  ⟨hs ▸ hi.nodup, hs ▸ hc ▸ hi.lt_next⟩

/-- `send_and_wait` keeps the user side's connection, memory and flag, and
    sends its message or nothing. -/
theorem sendAndWait_frame (w : World) (turns : List Turn) (msg : IdmMessage) :
    (sendAndWait w turns msg).2.2.conn = w.conn ∧ (sendAndWait w turns msg).2.2.host = w.host ∧
      (sendAndWait w turns msg).2.2.initialized = w.initialized ∧
      ((sendAndWait w turns msg).2.2.sent = w.sent ∨ (sendAndWait w turns msg).2.2.sent = w.sent ++ [msg]) := by
  unfold sendAndWait
  split
  · exact ⟨rfl, rfl, rfl, .inl rfl⟩
  · exact ⟨(waitLoop_frame _ _ _).2.1, (waitLoop_frame _ _ _).2.2.1, (waitLoop_frame _ _ _).2.2.2,
      .inr (waitLoop_frame _ _ _).1⟩

/-- **`idm_build_message`'s counter.**  A call to the driver zone leaves the
    counter as it was and sends nothing (no buffer), or moves the counter on
    by one and sends at most its request, whose `seq_num` is the old
    counter. -/
theorem requestDriver_sent (w : World) (env : CallEnv) (msgType : UInt16) (payload : List UInt8) :
    ((requestDriver w env msgType payload).2.2.conn = w.conn ∧
        (requestDriver w env msgType payload).2.2.sent = w.sent) ∨
      ((requestDriver w env msgType payload).2.2.conn = { w.conn with nextSeq := w.conn.nextSeq + 1 } ∧
        ((requestDriver w env msgType payload).2.2.sent = w.sent ∨
          ∃ msg : IdmMessage, msg.header.seqNum = w.conn.nextSeq ∧
            (requestDriver w env msgType payload).2.2.sent = w.sent ++ [msg])) := by
  unfold requestDriver idmBuildMessage
  cases env.mallocOk
  · exact .inl ⟨rfl, rfl⟩
  · obtain ⟨hc, -, -, hs⟩ := sendAndWait_frame { w with conn := { w.conn with nextSeq := w.conn.nextSeq + 1 } }
      env.turns
      { header := { magic := idmMagic, version := idmVersion, msgType, srcZone := w.conn.localZoneId,
                    dstZone := driverZoneId, seqNum := w.conn.nextSeq,
                    payloadLen := UInt32.ofNat payload.length, reserved := 0 },
        payload := listMem payload }
    exact .inr ⟨hc, hs.imp_right fun h => ⟨_, rfl, h⟩⟩

/-- Distinct `seq_num`s stay distinct when the counter moves on by at most
    one and the request sent, if any, carries the old counter. -/
theorem SeqInv.of_counter {w w' : World} (hi : SeqInv w) (hn : w.conn.nextSeq.toNat + 1 < 2 ^ 64)
    (h : (w'.conn = w.conn ∧ w'.sent = w.sent) ∨
      (w'.conn = { w.conn with nextSeq := w.conn.nextSeq + 1 } ∧
        (w'.sent = w.sent ∨ ∃ msg : IdmMessage, msg.header.seqNum = w.conn.nextSeq ∧ w'.sent = w.sent ++ [msg]))) :
    SeqInv w' ∧ w'.conn.nextSeq.toNat ≤ w.conn.nextSeq.toNat + 1 := by
  have hsucc : (w.conn.nextSeq + 1).toNat = w.conn.nextSeq.toNat + 1 := by
    rw [UInt64.toNat_add']
    exact Nat.mod_eq_of_lt hn
  rcases h with ⟨hc, hs⟩ | ⟨hc, hs⟩
  · exact ⟨hi.of_frame hs hc, by rw [hc]; omega⟩
  · have hnext : w'.conn.nextSeq.toNat = w.conn.nextSeq.toNat + 1 := by rw [hc]; exact hsucc
    refine ⟨⟨?_, ?_⟩, hnext.le⟩
    · rcases hs with hs | ⟨msg, hseq, hs⟩ <;> rw [hs]
      · exact hi.nodup
      · rw [List.map_append, List.nodup_append]
        refine ⟨hi.nodup, List.nodup_singleton _, fun a ha hb => ?_⟩
        obtain ⟨m, hm, rfl⟩ := List.mem_map.mp ha
        have hlt := hi.lt_next m hm
        simp only [List.map_cons, List.map_nil, List.mem_singleton] at hb
        rw [hb, hseq] at hlt
        exact Nat.lt_irrefl _ hlt
    · intro m hm
      rw [hnext]
      rcases hs with hs | ⟨msg, hseq, hs⟩ <;> rw [hs] at hm
      · exact Nat.lt_succ_of_lt (hi.lt_next m hm)
      · rcases List.mem_append.mp hm with hm | hm
        · exact Nat.lt_succ_of_lt (hi.lt_next m hm)
        · rw [List.mem_singleton.mp hm, hseq]
          exact Nat.lt_succ_self _

/-- Whether a call is `cuMemcpyHtoD`, the one that fills in its own header. -/
def VgpuCall.isMemcpyHtoD : VgpuCall → Bool
  | .memcpyHtoD .. => true
  | _ => false

/-- **Step.** Every call but `cuMemcpyHtoD` keeps the `seq_num`s distinct. -/
theorem SeqInv.apply {w : World} (hi : SeqInv w) (hn : w.conn.nextSeq.toNat + 1 < 2 ^ 64)
    (env : CallEnv) (c : VgpuCall) (hc : c.isMemcpyHtoD = false) :
    SeqInv (c.apply w env).2 ∧ (c.apply w env).2.conn.nextSeq.toNat ≤ w.conn.nextSeq.toNat + 1 := by
  have stay : SeqInv w ∧ w.conn.nextSeq.toNat ≤ w.conn.nextSeq.toNat + 1 := ⟨hi, Nat.le_succ _⟩
  have req := fun ty p => hi.of_counter hn (requestDriver_sent w env ty p)
  -- each branch fails a check, makes one request, or makes one and then
  -- writes host memory only
  cases c with
  | memcpyHtoD => cases hc
  | _ =>
    simp only [VgpuCall.apply, cuMemAlloc, cuMemFree, cuMemcpyDtoH, cuMemcpyDtoD, cuCtxSynchronize]
    split_ifs <;> first | exact stay | exact req _ _ | exact ⟨(req _ _).1.of_frame rfl rfl, (req _ _).2⟩

/-- **Run.** Without `cuMemcpyHtoD`, and with fewer calls than the counter
    has values left, the requests on the connection carry pairwise distinct
    `seq_num`s. -/
theorem vgpuRun_seqInv {w : World} (hi : SeqInv w) (calls : List (VgpuCall × CallEnv))
    (hc : ∀ p ∈ calls, p.1.isMemcpyHtoD = false) (hn : w.conn.nextSeq.toNat + calls.length < 2 ^ 64) :
    SeqInv (vgpuRun w calls).2 := by
  induction calls generalizing w with
  | nil => exact hi
  | cons p cs ih =>
    obtain ⟨c, env⟩ := p
    obtain ⟨hi', hle⟩ := hi.apply (by simp at hn; omega) env c (hc _ (List.mem_cons_self _ _))
    exact ih hi' (fun p hp => hc p (List.mem_cons_of_mem _ hp)) (by simp at hn; omega)

/-- An allocation and a free made from a fresh start carry distinct
    `seq_num`s. -/
theorem vgpuRun_seqInv_alloc_free :
    let calls : List (VgpuCall × CallEnv) := [(.memAlloc 0x1000 4096, ⟨true, []⟩), (.memFree 1, ⟨true, []⟩)]
    SeqInv (World.init fun _ => 0) ∧ (∀ p ∈ calls, p.1.isMemcpyHtoD = false) ∧
      (World.init fun _ => 0).conn.nextSeq.toNat + calls.length < 2 ^ 64 ∧
      SeqInv (vgpuRun (World.init fun _ => 0) calls).2 :=
  have hc : ∀ p ∈ ([(.memAlloc 0x1000 4096, ⟨true, []⟩), (.memFree 1, ⟨true, []⟩)] : List (VgpuCall × CallEnv)),
      p.1.isMemcpyHtoD = false := by decide
  ⟨seqInv_init _, hc, by decide, vgpuRun_seqInv (seqInv_init _) _ hc (by decide)⟩

end XenGpuProxy
