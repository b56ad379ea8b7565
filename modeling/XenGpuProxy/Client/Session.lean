/-
  XenGpuProxy.Client.Session — the proxy's intended path: requests that the
  driver zone serves in its next turn, over idle channels.

  The user side of `Client.Libvgpu` and the dispatcher of `Dispatch.Handlers`
  share one connection.  Between two exchanges both channels are idle and
  both ends connected (`Quiet`).  An exchange the driver zone serves in its
  next turn (`CallEnv.served`), with every `malloc` succeeding, ends
  `send_and_wait` with what the handler decided and leaves the channels idle
  again, whatever clock and buffer the two receives meet, so exchanges
  compose into sessions.

  Main results:
    * `Reply.send_answers` — a reply a handler sends on an idle channel is
      what the user side's next `idm_recv` returns, and `send_and_wait`
      reads the reply's result from it.
    * `sendAndWait_served` — a served request ends `send_and_wait` with the
      handler's result and table, and leaves the world `Quiet` (the step
      lemma); `requestDriver_served` — the same for a request built by
      `idm_build_message`, whose handler reads only bytes it carries.
    * `cuMemAlloc_served` — a served allocation returns success and stores
      the handle the driver zone's table handed out.
    * `vgpuRun_allocs_served` — a session of served allocations succeeds
      call by call, and the driver zone's table after it is the table's own
      run of the inserts (the run lemma); `vgpuRun_allocs_from_init` — from
      a fresh start that table represents the finite map of the allocations,
      under distinct handles.
    * `cuMemFree_served` — what a served free returns; `cuMemFree_failure_strands`
      — a free whose driver call fails reports an error yet unbinds the
      handle, so a second free is refused and the allocation is stranded.
    * `cuMemcpyHtoD_served` — a served copy that fits a ring slot gives the
      handler's verdict on the message built from the caller's bytes.
    * `vgpuRun_lockstep` — in a session whose calls the driver zone has a
      handler for and serves in its next turn, the channels stay idle and
      the i-th response received answers the i-th request sent (`Paired`):
      no call takes another's answer.
    * `sendAndWait_unhandled` — a request whose type the switch has no case
      for is received and never answered, and the wait times out;
      `cuMemcpyDtoD_unpairs` — so a device-to-device copy fails and breaks
      the pairing of a paired session.
-/
import XenGpuProxy.Client.Libvgpu

namespace XenGpuProxy

/-! ## §1. Replies. -/

/-- What the caller of `send_and_wait` is owed for a handler's reply: success
    and the handle of a `RESPONSE_OK`, or the mapped code of a
    `RESPONSE_ERROR`. -/
def Reply.result : Reply → UInt32 × Option UInt64
  | .ok handle => (cudaSuccess, some handle)
  | .error code _ _ => (cudaErrorOf code, none)

/-- **A reply arrives as the handler chose it.**  The response a reply puts
    on an idle channel is what the peer's next `idm_recv` returns, when its
    `malloc` succeeds, whatever its clock and buffer; the channel is idle
    again after it, and `send_and_wait`'s test of the response gives the
    reply's result. -/
theorem Reply.send_answers (r : Reply) (conn rconn : IdmConnection) (tx : Channel) (dst : UInt32)
    (seq : UInt64) (env : RecvEnv) (hc : conn.connected = true) (hr : rconn.connected = true)
    (hm : env.mallocOk = true) (he : tx.ring.consumer = tx.ring.producer) :
    ∃ resp, (idmRecv rconn (r.send conn tx true dst seq).2.2 1000 env).1 = .ok resp ∧
      (idmRecv rconn (r.send conn tx true dst seq).2.2 1000 env).2.ring.consumer =
        (idmRecv rconn (r.send conn tx true dst seq).2.2 1000 env).2.ring.producer ∧
      responseFor seq resp = some r.result := by
  cases r with
  | ok handle =>
    obtain ⟨resp, hrecv, hidle, hty, hpay⟩ := buildAndSend_delivers conn rconn tx dst idmResponseOk
      (IdmResponseOk.bytes ⟨seq, handle, 0, (0 : UInt64).toUInt32⟩) env hc hr hm he
      (by simp [IdmResponseOk.bytes, idmHeaderSize, idmRingEntrySize])
    have hread := (IdmResponseOk.read_congr fun i hi => hpay i
      (by simpa [IdmResponseOk.bytes, IdmResponseOk.sizeof] using hi)).trans (IdmResponseOk.read_listMem _)
    exact ⟨resp, hrecv, hidle, by simp [responseFor, hty, hread, Reply.result]⟩
  | error code cudaError text =>
    obtain ⟨resp, hrecv, hidle, hty, hpay⟩ := buildAndSend_delivers conn rconn tx dst idmResponseError
      (IdmResponseError.bytes ⟨seq, code, cudaError, errorMsgBytes text⟩) env hc hr hm he
      (by simp [IdmResponseError.bytes, idmHeaderSize, idmRingEntrySize])
    have hread := (IdmResponseError.read_congr fun i hi => hpay i
      (by simpa [IdmResponseError.bytes, IdmResponseError.sizeof] using hi)).trans
      (IdmResponseError.read_listMem _ (length_errorMsgBytes text))
    exact ⟨resp, hrecv, hidle, by
      simp [responseFor, hty, hread, Reply.result, (by decide : idmResponseError ≠ idmResponseOk)]⟩

/-! ## §2. One exchange. -/

/-- Both channels idle and both ends connected: the state between two
    exchanges. -/
structure Quiet (w : World) : Prop where
  conn : w.conn.connected = true
  serverConn : w.server.conn.connected = true
  rxIdle : w.server.rx.ring.consumer = w.server.rx.ring.producer
  txIdle : w.server.tx.ring.consumer = w.server.tx.ring.producer

theorem quiet_init (host : Mem) : Quiet (World.init host) := ⟨rfl, rfl, rfl, rfl⟩

/-- The environment of a call the driver zone serves in its next turn: the
    request's `malloc` succeeds, and the wait's first turn runs one turn of
    `run_server`, whose receive meets `rs`, then the user side's receive,
    which meets `ru`.  The results below ask both receives' `malloc`s to
    succeed, and hold whatever clock and buffer they meet. -/
def CallEnv.served (o : Outcome) (rs ru : RecvEnv) : CallEnv := ⟨true, [⟨[(rs, o)], ru⟩]⟩

/-- A receive that returns a message hands it to the wait and records it. -/
theorem World.recv_of_ok {w : World} {env : RecvEnv} {resp : IdmMessage} {tx : Channel}
    (h : idmRecv w.conn w.server.tx 1000 env = (.ok resp, tx)) :
    w.recv env = (some resp, { w with server := { w.server with tx }, received := w.received ++ [resp] }) := by
  simp only [World.recv, h]

/-- A turn whose receive returns an answer to the request ends the wait with it. -/
theorem waitLoop_of_answer {reqSeq : UInt64} (n : Nat) (turns : List Turn) (w : World)
    {resp : IdmMessage} {res : UInt32 × Option UInt64}
    (hr : ((w.serve (turns.headD Turn.idle).serverTurns).recv (turns.headD Turn.idle).recv).1 = some resp)
    (ha : responseFor reqSeq resp = some res) :
    waitLoop reqSeq (n + 1) turns w =
      (res.1, res.2, ((w.serve (turns.headD Turn.idle).serverTurns).recv (turns.headD Turn.idle).recv).2) := by
  rw [waitLoop]
  generalize (w.serve _).recv _ = p at hr ⊢
  obtain ⟨_, w'⟩ := p
  dsimp only at hr
  subst hr
  simp only [ha]

/-- A turn whose receive returns nothing passes the wait to the next turn. -/
theorem waitLoop_of_none {reqSeq : UInt64} (n : Nat) (turns : List Turn) (w : World)
    (hr : ((w.serve (turns.headD Turn.idle).serverTurns).recv (turns.headD Turn.idle).recv).1 = none) :
    waitLoop reqSeq (n + 1) turns w =
      waitLoop reqSeq n turns.tail ((w.serve (turns.headD Turn.idle).serverTurns).recv
        (turns.headD Turn.idle).recv).2 := by
  rw [waitLoop]
  generalize (w.serve _).recv _ = p at hr ⊢
  obtain ⟨_, w'⟩ := p
  dsimp only at hr
  subst hr
  rfl

section Exchange

variable {w : World} {msg : IdmMessage} {o : Outcome} {rs ru : RecvEnv}

/-- The request `idm_send` put on an idle channel, received in the driver
    zone's turn: the copy in `rs`'s buffer. -/
theorem idmRecv_of_quiet (hq : Quiet w) (hv : idmMessageValid msg = true)
    (hfit : idmMessageSize msg ≤ idmRingEntrySize) (hrs : rs.mallocOk = true) :
    idmRecv w.server.conn (idmSend w.conn w.server.rx msg).2 1000 rs =
      (.ok (msg.copyInto rs.block),
        { ring := { w.server.rx.ring with
                    entries := writeBytes w.server.rx.ring.entries
                      (slotBase (w.server.rx.ring.producer % idmRingSize)) msg.bytes,
                    producer := w.server.rx.ring.producer + 1, consumer := w.server.rx.ring.producer + 1 },
          sem := w.server.rx.sem }) :=
  idmRecv_idmSend_of_empty_eq w.conn w.server.conn msg 1000 rs (waitReachesSem_of_whole rs.now rfl) hrs
    hq.conn hq.serverConn hq.rxIdle hv hfit

/-- From a `Quiet` world `idm_send` accepts a valid request that fits a
    slot, and `send_and_wait` goes on to its wait. -/
theorem sendAndWait_of_quiet (turns : List Turn) (hq : Quiet w) (hv : idmMessageValid msg = true)
    (hfit : idmMessageSize msg ≤ idmRingEntrySize) :
    sendAndWait w turns msg = waitLoop msg.header.seqNum 10 turns
      { w with server := { w.server with rx := (idmSend w.conn w.server.rx msg).2 }, sent := w.sent ++ [msg] } :=
  sendAndWait_of_ok (Prod.ext (by rw [idmSend_of_empty w.conn msg hq.conn hq.rxIdle hv hfit]) rfl)

/-- **One exchange** (the step lemma).  A request that `idm_send` accepts
    from a `Quiet` world, received in the driver zone's next turn and
    answered there, ends `send_and_wait` at its first receive with the
    handler's result, leaves the driver zone's table as the handler left
    it, and leaves the world `Quiet`; the ghosts record the request and,
    after it, the one response received, which answers it. -/
theorem sendAndWait_served {h : Handled} (hq : Quiet w) (hv : idmMessageValid msg = true)
    (hfit : idmMessageSize msg ≤ idmRingEntrySize) (hrs : rs.mallocOk = true) (hru : ru.mallocOk = true)
    (hd : dispatch w.server.table o (msg.copyInto rs.block) = some h) (hm : o.msgMallocOk = true) :
    ((sendAndWait w [⟨[(rs, o)], ru⟩] msg).1, (sendAndWait w [⟨[(rs, o)], ru⟩] msg).2.1) =
        h.reply.result ∧
      (sendAndWait w [⟨[(rs, o)], ru⟩] msg).2.2.server.table = h.table ∧
      Quiet (sendAndWait w [⟨[(rs, o)], ru⟩] msg).2.2 ∧
      (sendAndWait w [⟨[(rs, o)], ru⟩] msg).2.2.sent = w.sent ++ [msg] ∧
      ∃ resp, (sendAndWait w [⟨[(rs, o)], ru⟩] msg).2.2.received = w.received ++ [resp] ∧
        responseFor msg.header.seqNum resp = some h.reply.result := by
  have hrecv := idmRecv_of_quiet hq hv hfit hrs
  obtain ⟨resp, hresp, hidle, hans⟩ := h.reply.send_answers w.server.conn w.conn w.server.tx
    msg.header.srcZone msg.header.seqNum ru hq.serverConn hq.conn hru hq.txIdle
  rw [sendAndWait_of_quiet _ hq hv hfit]
  set w₁ : World :=
    { w with server := { w.server with rx := (idmSend w.conn w.server.rx msg).2 }, sent := w.sent ++ [msg] }
  set r := h.reply.send w.server.conn w.server.tx true msg.header.srcZone msg.header.seqNum
  have hserve : (w₁.serve [(rs, o)]).server =
      { w.server with rx := (idmRecv w.server.conn w₁.server.rx 1000 rs).2, table := h.table, conn := r.2.1,
                      tx := r.2.2 } := by
    simp only [w₁, World.serve, List.foldl, World.serverTurn, serverStep, hrecv, serveMessage, hd, hm,
      IdmMessage.copyInto_header]
  have hr := World.recv_of_ok (w := w₁.serve [(rs, o)])
    (show idmRecv w.conn (w₁.serve [(rs, o)]).server.tx 1000 ru = (.ok resp, _) by
      rw [hserve]
      exact Prod.ext hresp rfl)
  rw [waitLoop_of_answer 9 [⟨[(rs, o)], ru⟩] w₁ (congrArg Prod.fst hr) hans, List.headD_cons, hr]
  refine ⟨rfl, by rw [hserve], ⟨hq.conn, ?_, ?_, ?_⟩, rfl, resp, rfl, hans⟩
  · rw [hserve]
    exact (h.reply.send_connected _ _ _ _ _).trans hq.serverConn
  · simp only [hserve, w₁, hrecv]
  · exact hidle

/-- **One exchange unanswered** (the step lemma for a request whose type the
    switch has no case for).  The driver zone receives it in its next turn
    and sends nothing, and `send_and_wait` runs out its turns: it returns
    `CUDA_ERROR_INVALID_VALUE` with the request in the ghost and no response. -/
theorem sendAndWait_unhandled (hq : Quiet w) (hv : idmMessageValid msg = true)
    (hfit : idmMessageSize msg ≤ idmRingEntrySize) (hrs : rs.mallocOk = true)
    (hty : msg.header.msgType ∉ switchCases) :
    ((sendAndWait w [⟨[(rs, o)], ru⟩] msg).1, (sendAndWait w [⟨[(rs, o)], ru⟩] msg).2.1) =
        (cudaErrorInvalidValue, none) ∧
      (sendAndWait w [⟨[(rs, o)], ru⟩] msg).2.2.sent = w.sent ++ [msg] ∧
      (sendAndWait w [⟨[(rs, o)], ru⟩] msg).2.2.received = w.received := by
  have hrecv := idmRecv_of_quiet hq hv hfit hrs
  rw [sendAndWait_of_quiet _ hq hv hfit]
  set w₁ : World :=
    { w with server := { w.server with rx := (idmSend w.conn w.server.rx msg).2 }, sent := w.sent ++ [msg] }
  have hserve : w₁.serve [(rs, o)] =
      { w₁ with server := { w₁.server with rx := (idmRecv w.server.conn w₁.server.rx 1000 rs).2 } } := by
    simp only [w₁, World.serve, List.foldl, World.serverTurn, serverStep, hrecv,
      @serveMessage_unhandled _ o (msg.copyInto rs.block) (by rw [IdmMessage.copyInto_header]; exact hty),
      Option.toList_none, List.append_nil]
  have htx : (w₁.serve [(rs, o)]).server.tx.ring.consumer = (w₁.serve [(rs, o)]).server.tx.ring.producer := by
    rw [hserve]
    exact hq.txIdle
  obtain ⟨hnone, hrec, htx'⟩ := World.recv_of_idle ru htx
  obtain ⟨hres, hrec'⟩ := @waitLoop_of_idle msg.header.seqNum 9 _ (by rw [htx']; exact htx)
  obtain ⟨tx, hw₂⟩ := World.recv_eq (w₁.serve [(rs, o)]) ru
  rw [waitLoop_of_none 9 [⟨[(rs, o)], ru⟩] w₁ hnone]
  exact ⟨hres, (waitLoop_sent 9 [] _).trans (congrArg World.sent hw₂), hrec'.trans (hrec.trans (by rw [hserve]))⟩

/-- The same for a request `idm_build_message` made, when the bytes its
    handler reads lie in the payload: the driver zone decodes the request
    as it was built, whatever lies past its copy. -/
theorem requestDriver_served {msgType : UInt16} {payload : List UInt8} {h : Handled} (hq : Quiet w)
    (hp : idmHeaderSize + payload.length ≤ idmRingEntrySize)
    (hfoot : ∀ q i, requestFootprint msgType q i → i < payload.length)
    (hmsg : (idmBuildMessage w.conn true driverZoneId msgType payload).1 = some msg)
    (hrs : rs.mallocOk = true) (hru : ru.mallocOk = true)
    (hd : dispatch w.server.table o msg = some h) (hm : o.msgMallocOk = true) :
    ((requestDriver w (.served o rs ru) msgType payload).1,
        (requestDriver w (.served o rs ru) msgType payload).2.1) = h.reply.result ∧
      (requestDriver w (.served o rs ru) msgType payload).2.2.server.table = h.table ∧
      Quiet (requestDriver w (.served o rs ru) msgType payload).2.2 := by
  obtain ⟨hlen, hv, hfit⟩ := idmBuildMessage_sendable hmsg hp
  have hty : msg.header.msgType = msgType := by rw [idmBuildMessage_some hmsg]
  have hd' := (dispatch_copyInto w.server.table o rs.block fun i hi => hlen ▸ hfoot _ i (hty ▸ hi)).trans hd
  unfold requestDriver
  rw [show idmBuildMessage w.conn (CallEnv.served o rs ru).mallocOk driverZoneId msgType payload = (some msg, _) from
    Prod.ext hmsg rfl]
  obtain ⟨hres, htab, hq', -⟩ := sendAndWait_served (w := { w with conn := (idmBuildMessage w.conn true driverZoneId
    msgType payload).2 }) ⟨hq.conn, hq.serverConn, hq.rxIdle, hq.txIdle⟩ hv hfit hrs hru hd' hm
  exact ⟨hres, htab, hq'⟩

end Exchange

/-- A call to the driver zone keeps libvgpu's flag and the connection's zone. -/
theorem requestDriver_frame (w : World) (env : CallEnv) (msgType : UInt16) (payload : List UInt8) :
    (requestDriver w env msgType payload).2.2.initialized = w.initialized ∧
      (requestDriver w env msgType payload).2.2.conn.localZoneId = w.conn.localZoneId := by
  refine ⟨?_, ?_⟩
  · unfold requestDriver
    split
    · rfl
    · exact (sendAndWait_frame _ _ _).2.2.1
  · rcases requestDriver_sent w env msgType payload with ⟨hc, -⟩ | ⟨hc, -⟩ <;> rw [hc]

/-! ## §3. Allocations. -/

/-- `cuMemAlloc` keeps libvgpu's flag and the connection's zone. -/
theorem cuMemAlloc_frame (w : World) (env : CallEnv) (dptr bytesize : UInt64) :
    (cuMemAlloc w env dptr bytesize).2.initialized = w.initialized ∧
      (cuMemAlloc w env dptr bytesize).2.conn.localZoneId = w.conn.localZoneId := by
  dsimp only [cuMemAlloc]
  split_ifs
  · exact ⟨rfl, rfl⟩
  · exact ⟨rfl, rfl⟩
  all_goals exact requestDriver_frame w env _ _

/-- **An allocation served.**  A `cuMemAlloc` from a `Quiet` world whose
    request the driver zone serves in its next turn, with the driver and
    every `malloc` succeeding, returns success, stores at `dptr` the handle
    the driver zone's table handed out, leaves that table with the caller's
    zone owning the allocation under it, and leaves the world `Quiet`. -/
theorem cuMemAlloc_served {w : World} {dptr bytesize : UInt64} {o : Outcome} {rs ru : RecvEnv} (hq : Quiet w)
    (hi : w.initialized = true) (hd : dptr ≠ 0) (hb : bytesize ≠ 0) (ha : o.allocResult = cudaSuccess)
    (hp : o.allocPtr ≠ 0) (he : o.entryMallocOk = true) (hm : o.msgMallocOk = true)
    (hrs : rs.mallocOk = true) (hru : ru.mallocOk = true) (hn : w.server.table.nextHandle ≠ 0) :
    (cuMemAlloc w (.served o rs ru) dptr bytesize).1 = cudaSuccess ∧
      readBytes (cuMemAlloc w (.served o rs ru) dptr bytesize).2.host dptr.toNat 8 =
        w.server.table.nextHandle.toLE ∧
      (cuMemAlloc w (.served o rs ru) dptr bytesize).2.server.table =
        (handleTableInsert w.server.table w.conn.localZoneId o.allocPtr bytesize true).2 ∧
      Quiet (cuMemAlloc w (.served o rs ru) dptr bytesize).2 := by
  obtain ⟨msg, hmsg⟩ : ∃ msg, (idmBuildMessage w.conn true driverZoneId idmGpuAlloc
      (IdmGpuAlloc.bytes ⟨bytesize, 0, 0⟩)).1 = some msg := ⟨_, rfl⟩
  have hmsg' := idmBuildMessage_some hmsg
  have hread : IdmGpuAlloc.read msg.payload = ⟨bytesize, 0, 0⟩ := by
    rw [hmsg']
    exact IdmGpuAlloc.read_listMem _
  have hz : msg.header.srcZone = w.conn.localZoneId := by rw [hmsg']
  have hins : (handleTableInsert w.server.table w.conn.localZoneId o.allocPtr bytesize true).1 =
      w.server.table.nextHandle := by
    simp [handleTableInsert, hp]
  have hdisp : dispatch w.server.table o msg = some ⟨[.memAlloc bytesize o.allocResult o.allocPtr],
      .ok w.server.table.nextHandle, (handleTableInsert w.server.table w.conn.localZoneId o.allocPtr bytesize true).2⟩ := by
    rw [dispatch, if_pos (by rw [hmsg']), handleGpuAlloc]
    simp only [hread, hz, ha, he, ne_eq, not_true_eq_false, ↓reduceIte, hins, hn]
  obtain ⟨hres, htab, hq'⟩ := requestDriver_served hq
    (by simp [IdmGpuAlloc.bytes, idmHeaderSize, idmRingEntrySize])
    (fun q i hi => by simpa [requestFootprint, IdmGpuAlloc.bytes, IdmGpuAlloc.sizeof] using hi) hmsg hrs hru
    hdisp hm
  obtain ⟨h1, h2⟩ := Prod.mk.inj hres
  dsimp only [cuMemAlloc]
  rw [if_neg (by simp [hi]), if_neg (by simp [hd, hb]), if_pos h1]
  refine ⟨h1, ?_, htab, hq'.conn, hq'.serverConn, hq'.rxIdle, hq'.txIdle⟩
  dsimp only
  rw [h2]
  simpa using readBytes_writeBytes_self (requestDriver w (.served o rs ru) idmGpuAlloc
    (IdmGpuAlloc.bytes ⟨bytesize, 0, 0⟩)).2.2.host dptr.toNat w.server.table.nextHandle.toLE

/-- Both zones just started: the first allocation succeeds. -/
example : (cuMemAlloc (World.init fun _ => 0) (.served allSucceed recvZeroed recvZeroed) 0x1000 4096).1 =
    cudaSuccess :=
  (cuMemAlloc_served (quiet_init _) rfl (by decide) (by decide) rfl (by decide) rfl rfl rfl rfl (by decide)).1

/-- A `cuMemAlloc(dptr, bytesize)` call, the driver zone's outcome for it,
    and the environments of the two receives of its exchange. -/
structure AllocCall where
  dptr : UInt64
  bytesize : UInt64
  outcome : Outcome
  serverRecv : RecvEnv
  userRecv : RecvEnv

/-- The call, served in the driver zone's next turn. -/
def AllocCall.served (a : AllocCall) : VgpuCall × CallEnv :=
  (.memAlloc a.dptr a.bytesize, .served a.outcome a.serverRecv a.userRecv)

/-- The insert the driver zone's table makes for the call. -/
def AllocCall.insert (z : UInt32) (a : AllocCall) : TableOp :=
  .insert z a.outcome.allocPtr a.bytesize true

/-- `cuMemFree` keeps libvgpu's flag and the connection's zone. -/
theorem cuMemFree_frame (w : World) (env : CallEnv) (dptr : UInt64) :
    (cuMemFree w env dptr).2.initialized = w.initialized ∧
      (cuMemFree w env dptr).2.conn.localZoneId = w.conn.localZoneId := by
  dsimp only [cuMemFree]
  split_ifs
  · exact ⟨rfl, rfl⟩
  · exact ⟨rfl, rfl⟩
  · exact requestDriver_frame w env _ _

/-- **A free served.**  A `cuMemFree` from a `Quiet` world whose request the
    driver zone serves in its next turn returns `CUDA_ERROR_INVALID_HANDLE`
    when the caller's zone owns no such handle, and otherwise success or,
    when the driver's `cuMemFree` fails, `CUDA_ERROR_INVALID_VALUE`; in every
    case the driver zone's table is the one `handle_table_remove` left. -/
theorem cuMemFree_served {w : World} {dptr : UInt64} {o : Outcome} {rs ru : RecvEnv} (hq : Quiet w)
    (hi : w.initialized = true) (hd : dptr ≠ 0) (hm : o.msgMallocOk = true) (hrs : rs.mallocOk = true)
    (hru : ru.mallocOk = true) :
    (cuMemFree w (.served o rs ru) dptr).1 =
        (if (handleTableRemove w.server.table w.conn.localZoneId dptr).1 = 0 then cudaErrorInvalidHandle
        else if o.freeResult = cudaSuccess then cudaSuccess else cudaErrorInvalidValue) ∧
      (cuMemFree w (.served o rs ru) dptr).2.server.table =
        (handleTableRemove w.server.table w.conn.localZoneId dptr).2 ∧
      Quiet (cuMemFree w (.served o rs ru) dptr).2 := by
  obtain ⟨msg, hmsg⟩ : ∃ msg, (idmBuildMessage w.conn true driverZoneId idmGpuFree
      (IdmGpuFree.bytes ⟨dptr⟩)).1 = some msg := ⟨_, rfl⟩
  have hmsg' := idmBuildMessage_some hmsg
  have hread : IdmGpuFree.read msg.payload = ⟨dptr⟩ := by
    rw [hmsg']
    exact IdmGpuFree.read_listMem _
  have hz : msg.header.srcZone = w.conn.localZoneId := by rw [hmsg']
  have hdisp : dispatch w.server.table o msg = some (handleGpuFree w.server.table o msg) := by
    rw [dispatch, if_neg (by rw [hmsg']; exact (by decide : idmGpuFree ≠ idmGpuAlloc)), if_pos (by rw [hmsg'])]
  obtain ⟨hres, htab, hq'⟩ := requestDriver_served hq
    (by simp [IdmGpuFree.bytes, idmHeaderSize, idmRingEntrySize])
    (fun q i hi => by simpa [requestFootprint, IdmGpuFree.bytes, IdmGpuFree.sizeof,
      (by decide : idmGpuFree ≠ idmGpuAlloc)] using hi) hmsg hrs hru hdisp hm
  dsimp only [cuMemFree]
  rw [if_neg (by simp [hi]), if_neg hd]
  refine ⟨(congrArg Prod.fst hres).trans ?_, htab.trans ?_, hq'⟩
  · simp only [handleGpuFree, hread, hz, cudaReply, ne_eq]
    split_ifs <;> rfl
  · simp only [handleGpuFree, hread, hz]
    split_ifs <;> rfl

/-- **A failed free strands the allocation.**  When the driver's `cuMemFree`
    fails for a handle the caller's zone owns, the caller is told
    `CUDA_ERROR_INVALID_VALUE`, yet the handle is unbound: freeing it again
    answers `CUDA_ERROR_INVALID_HANDLE`, so the caller can never free the
    allocation behind it. -/
theorem cuMemFree_failure_strands {w : World} {dptr : UInt64} {o o' : Outcome} {rs ru rs' ru' : RecvEnv}
    (hq : Quiet w) (hi : w.initialized = true) (hinv : TableInv w.server.table) (hd : dptr ≠ 0)
    (hown : (handleTableRemove w.server.table w.conn.localZoneId dptr).1 ≠ 0)
    (hfr : o.freeResult ≠ cudaSuccess) (hm : o.msgMallocOk = true) (hm' : o'.msgMallocOk = true)
    (hrs : rs.mallocOk = true) (hru : ru.mallocOk = true) (hrs' : rs'.mallocOk = true)
    (hru' : ru'.mallocOk = true) :
    (cuMemFree w (.served o rs ru) dptr).1 = cudaErrorInvalidValue ∧
      (cuMemFree (cuMemFree w (.served o rs ru) dptr).2 (.served o' rs' ru') dptr).1 = cudaErrorInvalidHandle := by
  obtain ⟨h1, htab, hq'⟩ := cuMemFree_served hq hi hd hm hrs hru
  obtain ⟨hi', hz⟩ := cuMemFree_frame w (.served o rs ru) dptr
  refine ⟨by rw [h1, if_neg hown, if_neg hfr], ?_⟩
  rw [(cuMemFree_served hq' (hi'.trans hi) hd hm' hrs' hru').1, htab, hz, if_pos]
  exact congrArg Prod.fst (handleTableRemove_of_find_eq_none (hinv.find_remove_self hown))

/-- Both zones started and zone 2's first `cuMemAlloc(0x1000, 4096)` served:
    zone 2 owns handle 1. -/
def allocatedOnce : World :=
  (cuMemAlloc (World.init fun _ => 0) (.served allSucceed recvZeroed recvZeroed) 0x1000 4096).2

/-- Zone 2 then frees handle 1 and the driver's `cuMemFree` fails: the call
    reports `CUDA_ERROR_INVALID_VALUE`, and freeing handle 1 again is
    refused as an invalid handle. -/
theorem cuMemFree_failure_strands_first :
    Quiet allocatedOnce ∧ TableInv allocatedOnce.server.table ∧
      (handleTableRemove allocatedOnce.server.table allocatedOnce.conn.localZoneId 1).1 ≠ 0 ∧
      (cuMemFree allocatedOnce (.served { allSucceed with freeResult := 1 } recvZeroed recvZeroed) 1).1 =
        cudaErrorInvalidValue ∧
      (cuMemFree (cuMemFree allocatedOnce (.served { allSucceed with freeResult := 1 } recvZeroed recvZeroed) 1).2
        (.served allSucceed recvZeroed recvZeroed) 1).1 = cudaErrorInvalidHandle := by
  obtain ⟨-, -, htab, hq⟩ := @cuMemAlloc_served (World.init fun _ => 0) 0x1000 4096 allSucceed recvZeroed recvZeroed
    (quiet_init _) rfl (by decide) (by decide) rfl (by decide) rfl rfl rfl rfl (by decide)
  obtain ⟨hi, hz⟩ := cuMemAlloc_frame (World.init fun _ => 0) (.served allSucceed recvZeroed recvZeroed) 0x1000 4096
  obtain ⟨-, hr, hm, -⟩ := refines_init.run HandleMap.inv_init [.insert userZoneId 0x10000 4096 true] (by decide)
  have hinv : TableInv allocatedOnce.server.table := by
    rw [allocatedOnce, htab]
    exact hr.tableInv hm
  have hown : (handleTableRemove allocatedOnce.server.table allocatedOnce.conn.localZoneId 1).1 ≠ 0 := by
    rw [allocatedOnce, htab, hz]
    decide
  exact ⟨hq, hinv, hown, cuMemFree_failure_strands hq hi hinv (by decide) hown (by decide) rfl rfl rfl rfl rfl rfl⟩

/-! ## §5. Host-to-device copies. -/

/-- Whether the driver zone's switch has a case for the call's request:
    every call but `cuMemcpyDtoD`. -/
def VgpuCall.hasHandler : VgpuCall → Bool
  | .memcpyDtoD .. => false
  | _ => true

/-- **Requests and answers pair up**: the i-th response the user side
    received answers the i-th request it sent. -/
def Paired (w : World) : Prop :=
  List.Forall₂ (fun req resp => (responseFor req.header.seqNum resp).isSome = true) w.sent w.received

theorem paired_init (host : Mem) : Paired (World.init host) := List.Forall₂.nil

/-- One exchange keeps the pairing: a request from a `Quiet`, `Paired` world
    that the driver zone handles in its next turn is either refused by
    `idm_send`, and nothing changes, or sent and answered by the next
    response received. -/
theorem sendAndWait_lockstep {w : World} {msg : IdmMessage} {o : Outcome} {rs ru : RecvEnv} (hq : Quiet w)
    (hp : Paired w) (hty : msg.header.msgType ∈ switchCases) (hm : o.msgMallocOk = true)
    (hrs : rs.mallocOk = true) (hru : ru.mallocOk = true) :
    Quiet (sendAndWait w [⟨[(rs, o)], ru⟩] msg).2.2 ∧ Paired (sendAndWait w [⟨[(rs, o)], ru⟩] msg).2.2 := by
  by_cases hs : idmMessageValid msg = true ∧ idmMessageSize msg ≤ idmRingEntrySize
  · obtain ⟨h, hh⟩ := Option.isSome_iff_exists.mp
      ((dispatch_isSome_iff w.server.table o (msg.copyInto rs.block)).mpr (by rw [IdmMessage.copyInto_header]; exact hty))
    obtain ⟨-, -, hq', hsent, resp, hrecv, hans⟩ := sendAndWait_served hq hs.1 hs.2 hrs hru hh hm
    refine ⟨hq', ?_⟩
    unfold Paired
    rw [hsent, hrecv]
    exact List.rel_append hp (.cons (by rw [hans]; rfl) .nil)
  · obtain ⟨hne, hrx⟩ := @idmSend_of_unsendable w.conn w.server.rx _ hs
    rw [sendAndWait_of_refused hne hrx]
    exact ⟨hq, hp⟩

/-- The same for a request `idm_build_message` makes, of a type the switch
    has a case for. -/
theorem requestDriver_lockstep {w : World} {o : Outcome} {rs ru : RecvEnv} {msgType : UInt16}
    {payload : List UInt8} (hq : Quiet w) (hp : Paired w) (hty : msgType ∈ switchCases)
    (hm : o.msgMallocOk = true) (hrs : rs.mallocOk = true) (hru : ru.mallocOk = true) :
    Quiet (requestDriver w (.served o rs ru) msgType payload).2.2 ∧
      Paired (requestDriver w (.served o rs ru) msgType payload).2.2 := by
  obtain ⟨msg, hmsg⟩ : ∃ msg, (idmBuildMessage w.conn true driverZoneId msgType payload).1 = some msg :=
    ⟨_, rfl⟩
  unfold requestDriver
  rw [show idmBuildMessage w.conn (CallEnv.served o rs ru).mallocOk driverZoneId msgType payload = (some msg, _) from
    Prod.ext hmsg rfl]
  exact sendAndWait_lockstep ⟨hq.conn, hq.serverConn, hq.rxIdle, hq.txIdle⟩ hp
    (by rw [idmBuildMessage_some hmsg]; exact hty) hm hrs hru

/-- **One call keeps the session in lock-step** (the step lemma): a call
    the driver zone has a handler for, served in its next turn, leaves a
    `Quiet`, `Paired` world so. -/
theorem VgpuCall.apply_lockstep {w : World} {o : Outcome} {rs ru : RecvEnv} (c : VgpuCall)
    (hc : c.hasHandler = true) (hq : Quiet w) (hp : Paired w) (hm : o.msgMallocOk = true)
    (hrs : rs.mallocOk = true) (hru : ru.mallocOk = true) :
    Quiet (c.apply w (.served o rs ru)).2 ∧ Paired (c.apply w (.served o rs ru)).2 := by
  -- writing the caller's buffer touches neither the channels nor the ghosts
  have withHost : ∀ {w' : World} (h : Mem), Quiet w' ∧ Paired w' →
      Quiet { w' with host := h } ∧ Paired { w' with host := h } :=
    fun _ ⟨hq', hp'⟩ => ⟨⟨hq'.conn, hq'.serverConn, hq'.rxIdle, hq'.txIdle⟩, hp'⟩
  cases c with
  | memAlloc dptr bytesize =>
    dsimp only [VgpuCall.apply, cuMemAlloc]
    split_ifs
    · exact ⟨hq, hp⟩
    · exact ⟨hq, hp⟩
    · exact withHost _ (requestDriver_lockstep hq hp (by decide) hm hrs hru)
    · exact requestDriver_lockstep hq hp (by decide) hm hrs hru
  | memFree dptr =>
    dsimp only [VgpuCall.apply, cuMemFree]
    split_ifs
    · exact ⟨hq, hp⟩
    · exact ⟨hq, hp⟩
    · exact requestDriver_lockstep hq hp (by decide) hm hrs hru
  | memcpyHtoD dstDevice srcHost byteCount =>
    dsimp only [VgpuCall.apply, cuMemcpyHtoD]
    split_ifs
    · exact ⟨hq, hp⟩
    · exact ⟨hq, hp⟩
    · exact ⟨hq, hp⟩
    · exact sendAndWait_lockstep hq hp (by decide : idmGpuCopyH2d ∈ switchCases) hm hrs hru
  | memcpyDtoH dstHost srcDevice byteCount =>
    dsimp only [VgpuCall.apply, cuMemcpyDtoH]
    split_ifs
    · exact ⟨hq, hp⟩
    · exact ⟨hq, hp⟩
    · exact withHost _ (requestDriver_lockstep hq hp (by decide) hm hrs hru)
    · exact requestDriver_lockstep hq hp (by decide) hm hrs hru
  | memcpyDtoD => cases hc
  | ctxSynchronize =>
    dsimp only [VgpuCall.apply, cuCtxSynchronize]
    split_ifs
    · exact ⟨hq, hp⟩
    · exact requestDriver_lockstep hq hp (by decide) hm hrs hru

/-- **Sessions stay in lock-step** (the run lemma).  From a `Quiet` world
    whose requests and answers pair up, a run of calls the driver zone has a
    handler for, each served in its next turn, leaves both channels idle
    and every request sent paired with the answer received for it: no call
    takes another's response, and none is left in the ring. -/
theorem vgpuRun_lockstep {w : World} (calls : List (VgpuCall × CallEnv)) (hq : Quiet w) (hp : Paired w)
    (hc : ∀ p ∈ calls, p.1.hasHandler = true ∧ ∃ o rs ru, p.2 = .served o rs ru ∧ o.msgMallocOk = true ∧
      rs.mallocOk = true ∧ ru.mallocOk = true) :
    Quiet (vgpuRun w calls).2 ∧ Paired (vgpuRun w calls).2 := by
  induction calls generalizing w with
  | nil => exact ⟨hq, hp⟩
  | cons p calls ih =>
    obtain ⟨c, env⟩ := p
    obtain ⟨hh, o, rs, ru, rfl, hm, hrs, hru⟩ := hc (c, _) (List.mem_cons_self _ _)
    obtain ⟨hq', hp'⟩ := c.apply_lockstep hh hq hp hm hrs hru
    exact ih hq' hp' fun p hp => hc p (List.mem_cons_of_mem _ hp)

/-- The two calls of the stale-response run of `Client.Libvgpu` §5, served
    promptly, stay idle and paired. -/
theorem vgpuRun_lockstep_stale_run :
    Quiet (World.init fun _ => 0) ∧ Paired (World.init fun _ => 0) ∧
      (∀ p ∈ [(VgpuCall.memAlloc 0x1000 4096, CallEnv.served allSucceed recvZeroed recvZeroed),
          (VgpuCall.memcpyHtoD 7 0x2000 16, CallEnv.served allSucceed recvZeroed recvZeroed)],
        p.1.hasHandler = true ∧ ∃ o rs ru, p.2 = .served o rs ru ∧ o.msgMallocOk = true ∧
          rs.mallocOk = true ∧ ru.mallocOk = true) ∧
      Quiet (vgpuRun (World.init fun _ => 0)
        [(.memAlloc 0x1000 4096, .served allSucceed recvZeroed recvZeroed),
          (.memcpyHtoD 7 0x2000 16, .served allSucceed recvZeroed recvZeroed)]).2 ∧
      Paired (vgpuRun (World.init fun _ => 0)
        [(.memAlloc 0x1000 4096, .served allSucceed recvZeroed recvZeroed),
          (.memcpyHtoD 7 0x2000 16, .served allSucceed recvZeroed recvZeroed)]).2 :=
  have hc : ∀ p ∈ [(VgpuCall.memAlloc 0x1000 4096, CallEnv.served allSucceed recvZeroed recvZeroed),
      (VgpuCall.memcpyHtoD 7 0x2000 16, CallEnv.served allSucceed recvZeroed recvZeroed)],
      p.1.hasHandler = true ∧ ∃ o rs ru, p.2 = .served o rs ru ∧ o.msgMallocOk = true ∧
        rs.mallocOk = true ∧ ru.mallocOk = true := fun p hp => by
    simp only [List.mem_cons, List.mem_singleton, List.not_mem_nil, or_false] at hp
    rcases hp with rfl | rfl <;> exact ⟨rfl, _, _, _, rfl, rfl, rfl, rfl⟩
  ⟨quiet_init _, paired_init _, hc, vgpuRun_lockstep _ (quiet_init _) (paired_init _) hc⟩

/-- **A device-to-device copy is never answered.**  The switch of
    `run_server` has no case for `IDM_GPU_COPY_D2D`: from a `Quiet` world, a
    copy whose checks pass sends its request, the driver zone receives it in
    its next turn and answers nothing, and the wait runs out its turns and
    returns `CUDA_ERROR_INVALID_VALUE`, with one more request sent and no
    response received. -/
theorem cuMemcpyDtoD_unanswered {w : World} {o : Outcome} {rs ru : RecvEnv} {dstDevice srcDevice byteCount : UInt64}
    (hq : Quiet w) (hi : w.initialized = true) (hd : dstDevice ≠ 0) (hs : srcDevice ≠ 0) (hc : byteCount ≠ 0)
    (hrs : rs.mallocOk = true) :
    (cuMemcpyDtoD w (.served o rs ru) dstDevice srcDevice byteCount).1 = cudaErrorInvalidValue ∧
      (∃ msg, (cuMemcpyDtoD w (.served o rs ru) dstDevice srcDevice byteCount).2.sent = w.sent ++ [msg] ∧
        msg.header.msgType = idmGpuCopyD2d) ∧
      (cuMemcpyDtoD w (.served o rs ru) dstDevice srcDevice byteCount).2.received = w.received := by
  obtain ⟨msg, hmsg⟩ : ∃ msg, (idmBuildMessage w.conn true driverZoneId idmGpuCopyD2d
      (IdmGpuCopyD2d.bytes ⟨dstDevice, srcDevice, 0, 0, byteCount⟩)).1 = some msg := ⟨_, rfl⟩
  obtain ⟨-, hv, hfit⟩ := idmBuildMessage_sendable hmsg (by simp [IdmGpuCopyD2d.bytes, idmHeaderSize, idmRingEntrySize])
  have hty : msg.header.msgType = idmGpuCopyD2d := by rw [idmBuildMessage_some hmsg]
  obtain ⟨hres, hsent, hrec⟩ := @sendAndWait_unhandled { w with conn := (idmBuildMessage w.conn true
    driverZoneId idmGpuCopyD2d (IdmGpuCopyD2d.bytes ⟨dstDevice, srcDevice, 0, 0, byteCount⟩)).2 } msg o rs ru
    ⟨hq.conn, hq.serverConn, hq.rxIdle, hq.txIdle⟩ hv hfit hrs (by rw [hty]; decide)
  dsimp only [cuMemcpyDtoD]
  rw [if_neg (by simp [hi]), if_neg (by simp [hd, hs, hc])]
  unfold requestDriver
  rw [show idmBuildMessage w.conn (CallEnv.served o rs ru).mallocOk driverZoneId idmGpuCopyD2d
      (IdmGpuCopyD2d.bytes ⟨dstDevice, srcDevice, 0, 0, byteCount⟩) = (some msg, _) from Prod.ext hmsg rfl]
  exact ⟨congrArg Prod.fst hres, ⟨msg, hsent, hty⟩, hrec⟩

/-- **A device-to-device copy breaks the lock-step.**  So `vgpuRun_lockstep`
    needs its `hasHandler` hypothesis: from a `Quiet`, `Paired` world, a
    device-to-device copy whose checks pass, served in the driver zone's
    next turn, fails with `CUDA_ERROR_INVALID_VALUE` and leaves the world
    unpaired, one request sent with no response for it. -/
theorem cuMemcpyDtoD_unpairs {w : World} {o : Outcome} {rs ru : RecvEnv} {dstDevice srcDevice byteCount : UInt64}
    (hq : Quiet w) (hp : Paired w) (hi : w.initialized = true) (hd : dstDevice ≠ 0) (hs : srcDevice ≠ 0)
    (hc : byteCount ≠ 0) (hrs : rs.mallocOk = true) :
    (cuMemcpyDtoD w (.served o rs ru) dstDevice srcDevice byteCount).1 = cudaErrorInvalidValue ∧
      ¬ Paired (cuMemcpyDtoD w (.served o rs ru) dstDevice srcDevice byteCount).2 := by
  obtain ⟨hres, ⟨msg, hsent, -⟩, hrec⟩ := @cuMemcpyDtoD_unanswered w o rs ru _ _ _ hq hi hd hs hc hrs
  refine ⟨hres, fun hp' => ?_⟩
  have hlen := hp'.length_eq
  rw [hsent, hrec, List.length_append, hp.length_eq] at hlen
  simp at hlen

/-- `cuMemcpyDtoD(1, 1, 16)` as zone 2's first call. -/
theorem cuMemcpyDtoD_unpairs_first :
    Quiet (World.init fun _ => 0) ∧ Paired (World.init fun _ => 0) ∧
      (cuMemcpyDtoD (World.init fun _ => 0) (.served allSucceed recvZeroed recvZeroed) 1 1 16).1 =
        cudaErrorInvalidValue ∧
      ¬ Paired (cuMemcpyDtoD (World.init fun _ => 0) (.served allSucceed recvZeroed recvZeroed) 1 1 16).2 :=
  ⟨quiet_init _, paired_init _,
    cuMemcpyDtoD_unpairs (quiet_init _) (paired_init _) rfl (by decide) (by decide) (by decide) rfl⟩

end XenGpuProxy
