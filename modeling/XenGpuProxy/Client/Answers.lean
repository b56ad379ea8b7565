/-
  XenGpuProxy.Client.Answers — every response the user side receives answers
  one of its requests, in order, whatever the interleaving.

  `Client.Session` follows the intended path, where the driver zone serves
  each request in its next turn over idle channels.  Here nothing is assumed
  of the environment: the driver zone takes any number of turns at any point
  of a wait, any `malloc` and any driver call may fail, waits time out and
  leave their answers in the ring for later calls to receive, and
  device-to-device copies are never answered.  The two channels are the FIFO
  queues of `Transport.Fifo` (`ChannelOk`), and the driver zone answers the
  message it received, with its `seq_num`, to its source zone; the ghost
  `replies` of `World` records the answers its `idm_send` accepted.

  Main results:
    * `serverStep_channels` — what one turn of `run_server` does to the
      channels: an `idm_recv` on the request channel, and on the response
      channel nothing or one `idm_send` of an answer to the message received.
    * `vgpuRun_answered` — every run of calls keeps the invariant `Answered`
      (the run lemma), from one step lemma for each of the driver zone's
      turns, the user side's receive, `send_and_wait` and a call.
    * `vgpuRun_answers` — from a fresh start, whatever the calls and the
      environment, the responses the user side received are, byte for byte,
      a prefix of those the driver zone's `idm_send` accepted, and both
      answer, one for one and in order, distinct requests it sent.
    * `sendAndWait_own_answer` — so a wait whose request carries a fresh
      `seq_num` ends in its timeout or with the answer the driver zone made
      to that very request, never with one made for another.
-/
import XenGpuProxy.Client.Libvgpu
import XenGpuProxy.Transport.Fifo

namespace XenGpuProxy

/-! ## §1. Answers. -/

/-- `resp` answers the request numbered `seq` from zone `zone`: it is
    addressed to the zone, and is a `RESPONSE_OK` or `RESPONSE_ERROR` whose
    payload is exactly the response record, naming the request's number. -/
def IsAnswer (zone : UInt32) (seq : UInt64) (resp : IdmMessage) : Prop :=
  resp.header.dstZone = zone ∧
    (resp.header.msgType = idmResponseOk ∧ resp.header.payloadLen.toNat = IdmResponseOk.sizeof ∧
        (IdmResponseOk.read resp.payload).requestSeq = seq ∨
      resp.header.msgType = idmResponseError ∧ resp.header.payloadLen.toNat = IdmResponseError.sizeof ∧
        (IdmResponseError.read resp.payload).requestSeq = seq)

/-- A response answers a request. -/
def Answers (req resp : IdmMessage) : Prop := IsAnswer req.header.srcZone req.header.seqNum resp

/-- Two messages with the same bytes have the same header and agree below
    `payload_len`. -/
theorem IdmMessage.agree_of_bytes_eq {m m' : IdmMessage} (h : m.bytes = m'.bytes) :
    m.header = m'.header ∧ ∀ i < m.header.payloadLen.toNat, m.payload i = m'.payload i := by
  -- both are read back alike from a copy of their common bytes
  have hc := IdmMessage.copyInto_congr (fun _ => 0) h
  have he : m.header = m'.header := by
    rw [← IdmMessage.copyInto_header (fun _ => 0) m, hc, IdmMessage.copyInto_header]
  refine ⟨he, fun i hi => ?_⟩
  rw [← IdmMessage.copyInto_payload (fun _ => 0) m hi, hc, IdmMessage.copyInto_payload _ _ (he ▸ hi)]

/-- Whether a message is an answer depends on its bytes only. -/
theorem IsAnswer.of_bytes {zone : UInt32} {seq : UInt64} {r r' : IdmMessage} (h : IsAnswer zone seq r)
    (hb : r.bytes = r'.bytes) : IsAnswer zone seq r' := by
  obtain ⟨hh, hp⟩ := IdmMessage.agree_of_bytes_eq hb
  unfold IsAnswer at h ⊢
  rw [← hh]
  rcases h with ⟨hz, ⟨hty, hlen, hseq⟩ | ⟨hty, hlen, hseq⟩⟩
  · rw [← IdmResponseOk.read_congr fun i hi => hp i (by omega)] at *
    exact ⟨hz, .inl ⟨hty, hlen, hseq⟩⟩
  · rw [← IdmResponseError.read_congr fun i hi => hp i (by omega)] at *
    exact ⟨hz, .inr ⟨hty, hlen, hseq⟩⟩

/-- Whether a response answers a request depends on the bytes of both. -/
theorem Answers.of_bytes {q q' r r' : IdmMessage} (h : Answers q r) (hq : q.bytes = q'.bytes)
    (hr : r.bytes = r'.bytes) : Answers q' r' := by
  unfold Answers
  rw [← (IdmMessage.agree_of_bytes_eq hq).1]
  exact IsAnswer.of_bytes h hr

/-- The same for lists of requests and responses, one for one. -/
theorem forall₂_answers_of_bytes {qs qs' rs rs' : List IdmMessage} (h : List.Forall₂ Answers qs rs)
    (hq : qs.map IdmMessage.bytes = qs'.map IdmMessage.bytes)
    (hr : rs.map IdmMessage.bytes = rs'.map IdmMessage.bytes) : List.Forall₂ Answers qs' rs' := by
  induction h generalizing qs' rs' with
  | nil =>
    obtain rfl := List.map_eq_nil_iff.mp hq.symm
    obtain rfl := List.map_eq_nil_iff.mp hr.symm
    exact .nil
  | cons ha _ ih =>
    obtain ⟨q', qs', rfl, hq₁, hq₂⟩ := List.map_eq_cons_iff.mp hq.symm
    obtain ⟨r', rs', rfl, hr₁, hr₂⟩ := List.map_eq_cons_iff.mp hr.symm
    exact .cons (ha.of_bytes hq₁.symm hr₁.symm) (ih hq₂.symm hr₂.symm)

/-- The responses `resps` answer, one for one and in order, some of the
    requests `reqs`. -/
def AnsweredInOrder (reqs resps : List IdmMessage) : Prop :=
  ∃ qs, qs.Sublist reqs ∧ List.Forall₂ Answers qs resps

theorem AnsweredInOrder.append_req {reqs resps : List IdmMessage} (h : AnsweredInOrder reqs resps)
    (more : List IdmMessage) : AnsweredInOrder (reqs ++ more) resps :=
  let ⟨qs, hs, ha⟩ := h
  ⟨qs, hs.trans (List.sublist_append_left _ _), ha⟩

theorem AnsweredInOrder.answer {reqs resps : List IdmMessage} (h : AnsweredInOrder reqs resps)
    {msg resp : IdmMessage} (ha : Answers msg resp) : AnsweredInOrder (reqs ++ [msg]) (resps ++ [resp]) :=
  let ⟨qs, hs, hf⟩ := h
  ⟨qs ++ [msg], hs.append (List.Sublist.refl _), List.rel_append hf (.cons ha .nil)⟩

/-- Requests that are, byte for byte, a sublist of others: what answers them
    answers those. -/
theorem AnsweredInOrder.of_sublist_bytes {reqs reqs' resps : List IdmMessage} (h : AnsweredInOrder reqs resps)
    (hs : (reqs.map IdmMessage.bytes).Sublist (reqs'.map IdmMessage.bytes)) : AnsweredInOrder reqs' resps := by
  obtain ⟨qs, hqs, hf⟩ := h
  obtain ⟨qs', hqs', heq⟩ := List.sublist_map_iff.mp ((hqs.map _).trans hs)
  exact ⟨qs', hqs', forall₂_answers_of_bytes hf heq rfl⟩

/-- Responses that are, byte for byte, a prefix of answering ones answer
    some of the same requests, in order. -/
theorem AnsweredInOrder.of_prefix_bytes {reqs resps resps' : List IdmMessage} (h : AnsweredInOrder reqs resps)
    (hp : resps'.map IdmMessage.bytes <+: resps.map IdmMessage.bytes) : AnsweredInOrder reqs resps' := by
  obtain ⟨qs, hqs, hf⟩ := h
  have hb : (resps.take resps'.length).map IdmMessage.bytes = resps'.map IdmMessage.bytes := by
    rw [List.map_take, List.prefix_iff_eq_take.mp hp, List.length_map]
  exact ⟨qs.take resps'.length, (List.take_sublist _ _).trans hqs,
    forall₂_answers_of_bytes (List.forall₂_take _ hf) rfl hb⟩

/-! ## §2. What a turn of the driver zone sends. -/

/-- `buildAndSend` sends nothing and leaves the ring as it was, or passes
    `idm_send` the message `idm_build_message` made. -/
theorem buildAndSend_tx (conn : IdmConnection) (tx : Channel) (mallocOk : Bool) (dstZone : UInt32)
    (msgType : UInt16) (payload : List UInt8) :
    (buildAndSend conn tx mallocOk dstZone msgType payload).1 = none ∧
        (buildAndSend conn tx mallocOk dstZone msgType payload).2.2 = tx ∨
      ∃ msg, (idmBuildMessage conn mallocOk dstZone msgType payload).1 = some msg ∧
        (buildAndSend conn tx mallocOk dstZone msgType payload).1 = some msg ∧
        (buildAndSend conn tx mallocOk dstZone msgType payload).2.2 =
          (idmSend (buildAndSend conn tx mallocOk dstZone msgType payload).2.1 tx msg).2 := by
  simp only [buildAndSend]
  cases (idmBuildMessage conn mallocOk dstZone msgType payload).1 with
  | none => exact .inl ⟨rfl, rfl⟩
  | some msg => exact .inr ⟨msg, rfl, rfl, rfl⟩

/-- A reply sends nothing and leaves the response ring as it was, or passes
    `idm_send` one answer to the request it is for. -/
theorem Reply.send_tx (r : Reply) (conn : IdmConnection) (tx : Channel) (mallocOk : Bool) (zone : UInt32)
    (seq : UInt64) :
    (r.send conn tx mallocOk zone seq).1 = none ∧ (r.send conn tx mallocOk zone seq).2.2 = tx ∨
      ∃ resp, IsAnswer zone seq resp ∧ (r.send conn tx mallocOk zone seq).1 = some resp ∧
        (r.send conn tx mallocOk zone seq).2.2 = (idmSend (r.send conn tx mallocOk zone seq).2.1 tx resp).2 := by
  cases r with
  | ok handle =>
    rcases buildAndSend_tx conn tx mallocOk zone idmResponseOk
      (IdmResponseOk.bytes ⟨seq, handle, 0, (0 : UInt64).toUInt32⟩) with h | ⟨msg, hmsg, h1, h⟩
    · exact .inl h
    · refine .inr ⟨msg, ?_, h1, h⟩
      rw [idmBuildMessage_some hmsg]
      exact ⟨rfl, .inl ⟨rfl, by simp [IdmResponseOk.bytes, IdmResponseOk.sizeof], by
        rw [IdmResponseOk.read_listMem]⟩⟩
  | error code cudaError text =>
    rcases buildAndSend_tx conn tx mallocOk zone idmResponseError
      (IdmResponseError.bytes ⟨seq, code, cudaError, errorMsgBytes text⟩) with h | ⟨msg, hmsg, h1, h⟩
    · exact .inl h
    · refine .inr ⟨msg, ?_, h1, h⟩
      rw [idmBuildMessage_some hmsg]
      exact ⟨rfl, .inr ⟨rfl, by simp [IdmResponseError.bytes, IdmResponseError.sizeof], by
        rw [IdmResponseError.read_listMem _ (length_errorMsgBytes text)]⟩⟩

/-- **One turn of `run_server`, on the channels** (the inversion lemma): an
    `idm_recv` on the request channel, and on the response channel nothing,
    or one `idm_send` of an answer to the message that receive returned,
    which the turn records as accepted when `idm_send` accepted it. -/
theorem serverStep_channels (d : Dispatcher) (env : RecvEnv) (o : Outcome) :
    (serverStep d env o).next.rx = (idmRecv d.conn d.rx 1000 env).2 ∧
      ((serverStep d env o).next.tx = d.tx ∧ (serverStep d env o).accepted = none ∨
        ∃ msg conn resp, (idmRecv d.conn d.rx 1000 env).1 = .ok msg ∧ Answers msg resp ∧
          (serverStep d env o).next.tx = (idmSend conn d.tx resp).2 ∧
          (serverStep d env o).accepted = ((idmSend conn d.tx resp).1.toOption.map fun _ => resp)) := by
  simp only [serverStep]
  generalize idmRecv d.conn d.rx 1000 env = r
  obtain ⟨res, rx⟩ := r
  cases res with
  | error e => exact ⟨rfl, .inl ⟨rfl, rfl⟩⟩
  | ok msg =>
    simp only [serveMessage]
    cases dispatch d.table o msg with
    | none => exact ⟨rfl, .inl ⟨rfl, rfl⟩⟩
    | some h =>
      rcases h.reply.send_tx d.conn d.tx o.msgMallocOk msg.header.srcZone msg.header.seqNum with
        ⟨h1, htx⟩ | ⟨resp, ha, h1, htx⟩
      · exact ⟨rfl, .inl ⟨htx, by simp only [h1, Option.none_bind]⟩⟩
      · exact ⟨rfl, .inr ⟨msg, _, resp, rfl, ha, htx, by simp only [h1, Option.some_bind]⟩⟩

/-! ## §3. The invariant. -/

/-- **The system invariant.**  The request channel has carried the requests
    the user side sent to the messages the driver zone received, the
    response channel the responses the driver zone's `idm_send` accepted to
    the messages the user side received, and those responses answer, in
    order, some of the messages the driver zone received. -/
def Answered (w : World) : Prop :=
  ∃ reqs, ChannelOk w.server.rx w.sent reqs ∧ ChannelOk w.server.tx w.replies w.received ∧
    AnsweredInOrder reqs w.replies

theorem answered_init (host : Mem) : Answered (World.init host) :=
  ⟨[], channelOk_of_idle rfl, channelOk_of_idle rfl, [], .slnil, .nil⟩

/-- The invariant reads the channels and the ghosts only. -/
theorem Answered.of_frame {w w' : World} (h : Answered w) (hrx : w'.server.rx = w.server.rx)
    (htx : w'.server.tx = w.server.tx) (hs : w'.sent = w.sent) (hrep : w'.replies = w.replies)
    (hr : w'.received = w.received) : Answered w' := by
  rw [Answered, hrx, htx, hs, hrep, hr]
  exact h

/-- **Step: a turn of the driver zone.** -/
theorem Answered.serverTurn {w : World} (h : Answered w) (t : RecvEnv × Outcome) : Answered (w.serverTurn t) := by
  obtain ⟨reqs, hrx, htx, ha⟩ := h
  obtain ⟨hrx', htx'⟩ := serverStep_channels w.server t.1 t.2
  have hrecv := hrx.recv w.server.conn 1000 t.1
  rw [← hrx'] at hrecv
  rcases htx' with ⟨htx', hacc⟩ | ⟨msg, conn, resp, hm, hans, htx', hacc⟩
  · refine ⟨_, hrecv, ?_, ?_⟩ <;> simp only [World.serverTurn, hacc, Option.toList_none, List.append_nil]
    · rw [htx']
      exact htx
    · exact ha.append_req _
  · have hsend := htx.send conn resp
    rw [← htx'] at hsend
    rw [hm] at hrecv
    refine ⟨_, hrecv, ?_, ?_⟩ <;> simp only [World.serverTurn, hacc]
    · exact hsend
    · cases (idmSend conn w.server.tx resp).1.toOption
      · simpa using ha.append_req [msg]
      · exact ha.answer hans

/-- **Step: the driver zone's turns.** -/
theorem Answered.serve {w : World} (h : Answered w) (turns : List (RecvEnv × Outcome)) :
    Answered (w.serve turns) := by
  induction turns generalizing w with
  | nil => exact h
  | cons t ts ih => exact ih (h.serverTurn t)

/-- What the user side's receive does: its `idm_recv` on the response
    channel, with the message returned added to the ghost. -/
theorem World.recv_snd (w : World) (env : RecvEnv) :
    (w.recv env).2 =
      { w with server := { w.server with tx := (idmRecv w.conn w.server.tx 1000 env).2 },
               received := w.received ++ (idmRecv w.conn w.server.tx 1000 env).1.toOption.toList } := by
  unfold World.recv
  split <;> next heq => simp [heq, Except.toOption]

/-- **Step: the user side's receive.** -/
theorem Answered.recv {w : World} (h : Answered w) (env : RecvEnv) : Answered (w.recv env).2 := by
  obtain ⟨reqs, hrx, htx, ha⟩ := h
  rw [World.recv_snd]
  exact ⟨reqs, hrx, htx.recv w.conn 1000 env, ha⟩

/-- **Step: `send_and_wait`.** -/
theorem Answered.sendAndWait {w : World} (h : Answered w) (turns : List Turn) (msg : IdmMessage) :
    Answered (sendAndWait w turns msg).2.2 := by
  obtain ⟨reqs, hrx, htx, ha⟩ := h
  have hsend := hrx.send w.conn msg
  unfold XenGpuProxy.sendAndWait
  split
  · next heq =>
    rw [heq] at hsend
    exact ⟨reqs, by simpa [Except.toOption] using hsend, htx, ha⟩
  · next heq =>
    rw [heq] at hsend
    exact waitLoop_invariant Answered turns (fun _ t _ hw => (hw.serve t.serverTurns).recv t.recv) 10 _
      ⟨reqs, hsend, htx, ha⟩

/-- **Step: a call.** -/
theorem Answered.apply {w : World} (h : Answered w) (env : CallEnv) (c : VgpuCall) : Answered (c.apply w env).2 := by
  have req : ∀ ty p, Answered (requestDriver w env ty p).2.2 := fun ty p => by
    unfold requestDriver
    split
    · exact h.of_frame rfl rfl rfl rfl rfl
    · refine Answered.sendAndWait ?_ _ _
      exact h.of_frame rfl rfl rfl rfl rfl
  -- a call fails a check and changes nothing, or makes one request (then
  -- perhaps writes the caller's memory)
  cases c with
  | memAlloc | memcpyDtoH =>
    dsimp only [VgpuCall.apply, cuMemAlloc, cuMemcpyDtoH]
    split_ifs
    · exact h
    · exact h
    · exact (req _ _).of_frame rfl rfl rfl rfl rfl
    · exact req _ _
  | memFree | memcpyDtoD =>
    dsimp only [VgpuCall.apply, cuMemFree, cuMemcpyDtoD]
    split_ifs
    · exact h
    · exact h
    · exact req _ _
  | memcpyHtoD =>
    dsimp only [VgpuCall.apply, cuMemcpyHtoD]
    split_ifs
    · exact h
    · exact h
    · exact h
    · exact h.sendAndWait _ _
  | ctxSynchronize =>
    dsimp only [VgpuCall.apply, cuCtxSynchronize]
    split_ifs
    · exact h
    · exact req _ _

/-- **Run.** Every run of calls keeps the invariant. -/
theorem vgpuRun_answered {w : World} (h : Answered w) (calls : List (VgpuCall × CallEnv)) :
    Answered (vgpuRun w calls).2 := by
  induction calls generalizing w with
  | nil => exact h
  | cons p cs ih => exact ih (h.apply p.2 p.1)

/-! ## §4. The user side's view. -/

/-- The invariant, read at the two ends: the responses the user side
    received are, byte for byte, a prefix of those the driver zone's
    `idm_send` accepted, and both answer, in order, requests the user side
    sent (the messages the driver zone answered are, byte for byte, a
    sublist of those requests). -/
theorem Answered.answeredInOrder {w : World} (h : Answered w) :
    w.received.map IdmMessage.bytes <+: w.replies.map IdmMessage.bytes ∧ AnsweredInOrder w.sent w.replies ∧
      AnsweredInOrder w.sent w.received := by
  obtain ⟨reqs, hrx, htx, ha⟩ := h
  have hrep := ha.of_sublist_bytes hrx.prefix_bytes.sublist
  exact ⟨htx.prefix_bytes, hrep, hrep.of_prefix_bytes htx.prefix_bytes⟩

/-- **Every response answers a request, in order, and arrives as sent.**
    From a fresh start, over every run of calls and every behaviour of the
    environment (the driver zone's turns, the `malloc`s, the driver's
    results, the clock and buffers every receive meets, the timeouts): the
    responses the user side's `idm_recv` returned are, byte for byte and in
    order, the first of the responses the driver zone's `idm_send` accepted,
    so none is lost, duplicated, reordered or altered in transit; and those
    responses, and so the ones received, answer one for one and in order
    distinct requests the user side's `idm_send` accepted, in the order they
    were sent: each is addressed to the request's zone, is a `RESPONSE_OK`
    or `RESPONSE_ERROR` carrying the response record, and names the
    request's `seq_num`. -/
theorem vgpuRun_answers (host : Mem) (calls : List (VgpuCall × CallEnv)) :
    (vgpuRun (World.init host) calls).2.received.map IdmMessage.bytes <+:
        (vgpuRun (World.init host) calls).2.replies.map IdmMessage.bytes ∧
      AnsweredInOrder (vgpuRun (World.init host) calls).2.sent (vgpuRun (World.init host) calls).2.replies ∧
      AnsweredInOrder (vgpuRun (World.init host) calls).2.sent (vgpuRun (World.init host) calls).2.received :=
  (vgpuRun_answered (answered_init host) calls).answeredInOrder

/-- A response a wait for `seq` accepts, if it answers a request, answers
    one numbered `seq`. -/
theorem Answers.seqNum_eq {q resp : IdmMessage} {seq : UInt64} {res : UInt32 × Option UInt64}
    (h : Answers q resp) (hr : responseFor seq resp = some res) : q.header.seqNum = seq := by
  obtain ⟨-, ⟨hty, -, hq⟩ | ⟨hty, -, hq⟩⟩ := h <;>
    rcases responseFor_eq_some hr with ⟨hty', hs, -⟩ | ⟨hty', hs, -⟩
  · exact hq.symm.trans hs
  · exact absurd (hty.symm.trans hty') (by decide)
  · exact absurd (hty.symm.trans hty') (by decide)
  · exact hq.symm.trans hs

/-- **A wait takes the answer to its own request.**  From any world where
    the invariant holds, a `send_and_wait` whose request carries a
    `seq_num` no request sent before carries ends in its timeout, or with
    the result of the last response received, and in the matching of the
    responses received to the requests sent that response is paired with
    this request: the driver zone made it in reply to this very request,
    not to an earlier one still answered late. -/
theorem sendAndWait_own_answer {w : World} (h : Answered w) (turns : List Turn) (msg : IdmMessage)
    (hfresh : ∀ m ∈ w.sent, m.header.seqNum ≠ msg.header.seqNum) :
    ((sendAndWait w turns msg).1, (sendAndWait w turns msg).2.1) = (cudaErrorInvalidValue, none) ∨
      ∃ qs resp, (qs ++ [msg]).Sublist (sendAndWait w turns msg).2.2.sent ∧
        List.Forall₂ Answers (qs ++ [msg]) (sendAndWait w turns msg).2.2.received ∧
        (sendAndWait w turns msg).2.2.received.getLast? = some resp ∧
        responseFor msg.header.seqNum resp =
          some ((sendAndWait w turns msg).1, (sendAndWait w turns msg).2.1) := by
  have hr := sendAndWait_answer w turns msg
  rcases hr with ht | ⟨more, resp, hrec, hresp⟩
  · exact .inl ht
  have hsent : (sendAndWait w turns msg).2.2.sent.Sublist (w.sent ++ [msg]) := by
    rcases (sendAndWait_frame w turns msg).2.2.2 with hs | hs <;> rw [hs]
    exact List.sublist_append_left _ _
  obtain ⟨qs', hsub, hf⟩ := (h.sendAndWait turns msg).answeredInOrder.2.2
  rw [hrec] at hf ⊢
  -- the last response received is paired with the last request of the matching
  obtain ⟨q, _, hqa, hnil, hdrop⟩ := List.forall₂_cons_right_iff.mp (List.forall₂_drop_append _ _ _ hf)
  obtain rfl := List.forall₂_nil_right_iff.mp hnil
  have hqs : qs' = qs'.take (w.received ++ more).length ++ [q] := by rw [← hdrop, List.take_append_drop]
  -- which carries the wait's `seq_num`, so is the wait's own request
  obtain rfl : q = msg := by
    rcases List.mem_append.mp ((hsub.trans hsent).subset (List.mem_of_mem_drop (hdrop ▸ List.mem_singleton_self q)))
      with hm | hm
    · exact absurd (hqa.seqNum_eq hresp) (hfresh q hm)
    · exact List.mem_singleton.mp hm
  exact .inr ⟨_, resp, by rw [← hqs]; exact hsub, by rw [← hqs]; exact hf, List.getLast?_concat _, hresp⟩

/-- Zone 2 after a `cuMemAlloc(0x1000, 4096)` whose ten receives all timed
    out: its request, `seq_num` 1, waits unanswered in the driver zone's ring. -/
def allocTimedOut : World := (cuMemAlloc (World.init fun _ => 0) ⟨true, []⟩ 0x1000 4096).2

/-- The `GPU_SYNC` request `cuCtxSynchronize` builds next, `seq_num` 2. -/
def syncAfterTimeout : IdmMessage :=
  { header :=
      { magic := idmMagic, version := idmVersion, msgType := idmGpuSync, srcZone := userZoneId,
        dstZone := driverZoneId, seqNum := 2, payloadLen := 8, reserved := 0 },
    payload := listMem (IdmGpuSync.bytes ⟨0, 0⟩) }

/-- Its wait: the driver zone serves both requests before the first
    receive, which returns the late answer to the allocation; the wait skips
    it and takes its own answer at the next receive. -/
theorem sendAndWait_own_answer_late :
    Answered allocTimedOut ∧ allocTimedOut.sent.map (·.header.seqNum) = [1] ∧
      (∀ m ∈ allocTimedOut.sent, m.header.seqNum ≠ syncAfterTimeout.header.seqNum) ∧
      (sendAndWait allocTimedOut [⟨[(recvZeroed, allSucceed), (recvZeroed, allSucceed)], recvZeroed⟩]
        syncAfterTimeout).2.2.received.length = 2 ∧
      (((sendAndWait allocTimedOut [⟨[(recvZeroed, allSucceed), (recvZeroed, allSucceed)], recvZeroed⟩]
            syncAfterTimeout).1,
          (sendAndWait allocTimedOut [⟨[(recvZeroed, allSucceed), (recvZeroed, allSucceed)], recvZeroed⟩]
            syncAfterTimeout).2.1) = (cudaErrorInvalidValue, none) ∨
        ∃ qs resp, (qs ++ [syncAfterTimeout]).Sublist
            (sendAndWait allocTimedOut [⟨[(recvZeroed, allSucceed), (recvZeroed, allSucceed)], recvZeroed⟩]
              syncAfterTimeout).2.2.sent ∧
          List.Forall₂ Answers (qs ++ [syncAfterTimeout])
            (sendAndWait allocTimedOut [⟨[(recvZeroed, allSucceed), (recvZeroed, allSucceed)], recvZeroed⟩]
              syncAfterTimeout).2.2.received ∧
          (sendAndWait allocTimedOut [⟨[(recvZeroed, allSucceed), (recvZeroed, allSucceed)], recvZeroed⟩]
              syncAfterTimeout).2.2.received.getLast? = some resp ∧
          responseFor syncAfterTimeout.header.seqNum resp =
            some ((sendAndWait allocTimedOut [⟨[(recvZeroed, allSucceed), (recvZeroed, allSucceed)], recvZeroed⟩]
                syncAfterTimeout).1,
              (sendAndWait allocTimedOut [⟨[(recvZeroed, allSucceed), (recvZeroed, allSucceed)], recvZeroed⟩]
                syncAfterTimeout).2.1)) := by
  have h : Answered allocTimedOut := (answered_init _).apply ⟨true, []⟩ (.memAlloc 0x1000 4096)
  have hseq : allocTimedOut.sent.map (·.header.seqNum) = [1] := by decide
  have hfresh : ∀ m ∈ allocTimedOut.sent, m.header.seqNum ≠ syncAfterTimeout.header.seqNum := fun m hm => by
    have : m.header.seqNum ∈ [(1 : UInt64)] := hseq ▸ List.mem_map_of_mem _ hm
    rw [List.mem_singleton.mp this]
    decide
  exact ⟨h, hseq, hfresh, by decide, sendAndWait_own_answer h _ _ hfresh⟩

end XenGpuProxy
