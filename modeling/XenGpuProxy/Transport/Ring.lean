/-
  XenGpuProxy.Transport.Ring — the IDM transport of `transport.c` in stub mode:
  the shared ring, the connection, and `idm_send`, `idm_recv` and
  `idm_build_message` as state-passing functions.

  Each call is one atomic step here; `Transport.Spsc` splits `idm_send` and
  `idm_recv` at their index loads and stores and proves the ring safe under
  every interleaving.  The environment's choices are arguments: whether
  `malloc` succeeds, what the block it returns held, and the clock reading of
  a timed wait.  `global_conn` is modelled after a successful `idm_init`: the
  connection exists, and `connected` is its flag.

  Main results:
    * `idmRecv_of_valid` — `idm_recv` returns a copy of the valid message in
      the consumer's slot, `idm_message_size` bytes long, laid over the
      block `malloc` returned; `idmRecv_reads_past_slot` — that length is not
      bounded by the slot: a header a peer leaves in shared memory makes
      `idm_recv` copy past it.
    * `waitReachesSem_of_whole` — a timed wait of whole seconds gets to the
      semaphore at every clock reading; `idmRecvDeadline_unnormalized` — but
      otherwise nothing carries `tv_nsec` into `tv_sec`, so the deadline can
      leave the range `sem_timedwait` accepts, and the receive fails at once
      with a message and its token waiting.
    * `idmRecv_idmSend_of_empty_eq` — a message `idm_send` accepts on an empty
      channel is what the peer's next `idm_recv` returns, byte for byte, and
      the channel is empty again.
    * `idmBuildMessage_truncates_payload` — a payload of 2^32 bytes or more is
      recorded in the 32-bit `payload_len` modulo 2^32, and the peer receives
      only that many bytes of it.
-/
import XenGpuProxy.Wire.Message

namespace XenGpuProxy

/-! ## §1. State. -/

/-- The error numbers `transport.c` returns (negated) from `<errno.h>`. -/
inductive Errno
  | enotconn
  | einval
  | enospc
  | eagain
  | enomem
  | eintr
  deriving DecidableEq, Repr

/-- `struct idm_ring`: the two indices, and the slot array as bytes from
    `&ring->entries[0]` on.  The `reserved` words are never read. -/
structure IdmRing where
  producer : UInt32
  consumer : UInt32
  entries : Mem

/-- `sizeof(struct idm_ring_entry)`: a message padded to one page. -/
def idmRingEntrySize : Nat := 4096

/-- Byte offset of `ring->entries[idx]`. -/
def slotBase (idx : UInt32) : Nat := idx.toNat * idmRingEntrySize

/-- One direction's shared objects in stub mode: the ring its sender writes,
    and the count of the named semaphore its receiver waits on. -/
structure Channel where
  ring : IdmRing
  sem : Nat

/-- `struct idm_connection`, the fields the modelled functions read.  The ring
    and semaphore pointers are the `Channel`s passed alongside. -/
structure IdmConnection where
  localZoneId : UInt32
  remoteZoneId : UInt32
  isServer : Bool
  nextSeq : UInt64
  connected : Bool
  deriving DecidableEq, Repr

/-- The connection `idm_init` builds once its shared memory is attached. -/
def idmInit (localZoneId remoteZoneId : UInt32) (isServer : Bool) : IdmConnection :=
  { localZoneId, remoteZoneId, isServer, nextSeq := 1, connected := true }

/-- A ring as the server's `memset` in `init_shm` leaves it. -/
def IdmRing.zeroed : IdmRing := { producer := 0, consumer := 0, entries := fun _ => 0 }

/-- A channel as a fresh server leaves it: the ring zeroed, the semaphore at 0. -/
def emptyChannel : Channel := { ring := IdmRing.zeroed, sem := 0 }

/-! ## §2. `idm_send`. -/

/-- `idm_send`: validate, check for room, copy the message into slot
    `producer % IDM_RING_SIZE`, publish `producer + 1`, post the semaphore. -/
def idmSend (conn : IdmConnection) (tx : Channel) (msg : IdmMessage) :
    Except Errno Unit × Channel :=
  if !conn.connected then (.error .enotconn, tx)
  else if !idmMessageValid msg then (.error .einval, tx)
  else if idmMessageSize msg > idmRingEntrySize then (.error .einval, tx)
  else
    let prod := tx.ring.producer
    let cons := tx.ring.consumer
    if prod - cons ≥ idmRingSize then (.error .enospc, tx)
    else
      let entries := writeBytes tx.ring.entries (slotBase (prod % idmRingSize)) msg.bytes
      (.ok (), { ring := { tx.ring with entries, producer := prod + 1 }, sem := tx.sem + 1 })

/-- A message that is invalid or larger than a ring slot is refused, and the
    channel is left as it was. -/
theorem idmSend_of_unsendable {conn : IdmConnection} {tx : Channel} {msg : IdmMessage}
    (h : ¬(idmMessageValid msg = true ∧ idmMessageSize msg ≤ idmRingEntrySize)) :
    (idmSend conn tx msg).1 ≠ .ok () ∧ (idmSend conn tx msg).2 = tx := by
  unfold idmSend
  split_ifs with _ hv hs
  · exact ⟨by simp, rfl⟩
  · exact ⟨by simp, rfl⟩
  · exact ⟨by simp, rfl⟩
  · exact absurd ⟨by simpa using hv, Nat.not_lt.mp hs⟩ h

/-! ## §3. `idm_recv`. -/

/-- How the semaphore wait at the top of `idm_recv` fails when no token is
    there: `sem_trywait` and `sem_timedwait` fail (reported as `-EAGAIN`), and
    `sem_wait` returns only when a signal interrupts it (`-errno`). -/
def semWaitError (timeoutMs : Int) : Errno :=
  if timeoutMs < 0 then .eintr else .eagain

/-- `struct timespec`: `time_t tv_sec` and `long tv_nsec`, as integers. -/
structure Timespec where
  tvSec : Int
  tvNsec : Int
  deriving DecidableEq, Repr

/-- The range POSIX asks of `tv_nsec` in `sem_timedwait`'s absolute timeout:
    `[0, 10^9)`.  glibc checks it before it tries the semaphore and fails
    with `EINVAL` outside it. -/
def Timespec.normalized (ts : Timespec) : Bool :=
  0 ≤ ts.tvNsec && ts.tvNsec < 1000000000

/-- The absolute deadline of the timed wait on the non-Apple stub path: the
    `CLOCK_REALTIME` reading `now`, then `ts.tv_sec += timeout_ms / 1000` and
    `ts.tv_nsec += (timeout_ms % 1000) * 1000000` with C's truncating `int`
    division.  No carry moves a second of `tv_nsec` into `tv_sec`. -/
def idmRecvDeadline (now : Timespec) (timeoutMs : Int) : Timespec :=
  { tvSec := now.tvSec + timeoutMs.tdiv 1000, tvNsec := now.tvNsec + timeoutMs.tmod 1000 * 1000000 }

/-- For a positive timeout and a normalized reading, the deadline is
    normalized exactly when the added nanoseconds do not reach a second. -/
theorem idmRecvDeadline_normalized_iff {now : Timespec} {timeoutMs : Int} (hn : now.normalized = true)
    (ht : 0 < timeoutMs) :
    (idmRecvDeadline now timeoutMs).normalized = true ↔
      now.tvNsec + timeoutMs % 1000 * 1000000 < 1000000000 := by
  simp only [Timespec.normalized, idmRecvDeadline, Int.tmod_eq_emod ht.le (by decide : (0 : Int) ≤ 1000),
    Bool.and_eq_true, decide_eq_true_eq] at hn ⊢
  omega

/-- A reading of `clock_gettime(CLOCK_REALTIME)`, which returns a
    normalized timespec. -/
structure ClockReading where
  ts : Timespec
  normalized : ts.normalized = true

/-- What the environment decides in one `idm_recv`: the clock reading its
    timed wait starts from, whether `malloc` returns a buffer for the copy,
    and the bytes from that buffer's address on before the copy is written
    (past the `idm_message_size` bytes copied they stay as they were). -/
structure RecvEnv where
  now : ClockReading
  mallocOk : Bool
  block : Mem

/-- Whether the wait at the top of `idm_recv` gets to the semaphore.  Only a
    timed wait (`timeout_ms > 0`) hands `sem_timedwait` a deadline, and
    glibc's `sem_timedwait` fails with `EINVAL` on a `tv_nsec` outside
    `[0, 10^9)` before it tries to take a token. -/
def waitReachesSem (timeoutMs : Int) (now : Timespec) : Bool :=
  decide (timeoutMs ≤ 0) || (idmRecvDeadline now timeoutMs).normalized

/-- A wait whose timeout is a whole number of seconds, as every receive of
    `run_server` and `send_and_wait` has, gets to the semaphore at every
    clock reading. -/
theorem waitReachesSem_of_whole (now : ClockReading) {timeoutMs : Int} (h : timeoutMs.tmod 1000 = 0) :
    waitReachesSem timeoutMs now.ts = true := by
  rcases Int.lt_or_le 0 timeoutMs with ht | ht
  · have he : timeoutMs % 1000 = 0 := by rwa [← Int.tmod_eq_emod ht.le (by decide)]
    have hn := now.normalized
    simp only [Timespec.normalized, Bool.and_eq_true, decide_eq_true_eq] at hn
    simp only [waitReachesSem, (idmRecvDeadline_normalized_iff now.normalized ht).mpr (by omega),
      Bool.or_true]
  · simp [waitReachesSem, ht]

/-- `idm_recv`: wait (a timed wait from the clock reading), load the indices,
    validate the consumer's slot, copy `idm_message_size` bytes of it into
    the buffer `malloc` returned, publish `consumer + 1`. -/
def idmRecv (conn : IdmConnection) (rx : Channel) (timeoutMs : Int) (env : RecvEnv) :
    Except Errno IdmMessage × Channel :=
  if !conn.connected then (.error .enotconn, rx)
  else if !waitReachesSem timeoutMs env.now.ts then (.error .eagain, rx)
  else if rx.sem = 0 then (.error (semWaitError timeoutMs), rx)
  else
    let sem := rx.sem - 1
    let cons := rx.ring.consumer
    let prod := rx.ring.producer
    if cons = prod then (.error .eagain, { rx with sem })
    else
      let ringMsg := IdmMessage.at rx.ring.entries (slotBase (cons % idmRingSize))
      if !idmMessageValid ringMsg then
        (.error .einval, { ring := { rx.ring with consumer := cons + 1 }, sem })
      else if !env.mallocOk then (.error .enomem, { rx with sem })
      else (.ok (ringMsg.copyInto env.block), { ring := { rx.ring with consumer := cons + 1 }, sem })

/-- A reading at half past a second and a 1500 ms timeout: the deadline's
    `tv_nsec` is `10^9`, outside the range `sem_timedwait` accepts, so
    `idm_recv` fails with `-EAGAIN` at once, whatever the ring and the
    semaphore hold, and changes nothing. -/
theorem idmRecvDeadline_unnormalized :
    (⟨1700000000, 500000000⟩ : Timespec).normalized = true ∧
      idmRecvDeadline ⟨1700000000, 500000000⟩ 1500 = ⟨1700000001, 1000000000⟩ ∧
      (idmRecvDeadline ⟨1700000000, 500000000⟩ 1500).normalized = false ∧
      ∀ (rx : Channel) (blk : Mem),
        idmRecv (idmInit 1 2 true) rx 1500 ⟨⟨⟨1700000000, 500000000⟩, by decide⟩, true, blk⟩ = (.error .eagain, rx) :=
  ⟨by decide, by decide, by decide, fun _ _ => rfl⟩

/-! ## §4. `idm_build_message`. -/

/-- `idm_build_message`: a fresh buffer holding a header and `payload`, with
    the next sequence number.  `payload_len` is the `size_t` length stored into
    the `uint32_t` field. `mallocOk` is the outcome of the buffer's `malloc`. -/
def idmBuildMessage (conn : IdmConnection) (mallocOk : Bool) (dstZone : UInt32)
    (msgType : UInt16) (payload : List UInt8) : Option IdmMessage × IdmConnection :=
  if !mallocOk then (none, conn)
  else
    let header : IdmHeader :=
      { magic := idmMagic, version := idmVersion, msgType, srcZone := conn.localZoneId,
        dstZone, seqNum := conn.nextSeq, payloadLen := UInt32.ofNat payload.length,
        reserved := 0 }
    (some { header, payload := listMem payload }, { conn with nextSeq := conn.nextSeq + 1 })

/-- The message `idm_build_message` returns: the header it fills in over the
    payload. -/
theorem idmBuildMessage_some {conn : IdmConnection} {ok : Bool} {dstZone : UInt32} {msgType : UInt16}
    {payload : List UInt8} {msg : IdmMessage} (h : (idmBuildMessage conn ok dstZone msgType payload).1 = some msg) :
    msg = { header := { magic := idmMagic, version := idmVersion, msgType, srcZone := conn.localZoneId, dstZone,
                        seqNum := conn.nextSeq, payloadLen := UInt32.ofNat payload.length, reserved := 0 },
            payload := listMem payload } := by
  unfold idmBuildMessage at h
  cases ok
  · cases h
  · exact (Option.some.inj h).symm

/-- A message `idm_build_message` makes of a payload that fits a ring slot
    passes `idm_send`'s checks, and its `payload_len` is the payload's length. -/
theorem idmBuildMessage_sendable {conn : IdmConnection} {ok : Bool} {dstZone : UInt32} {msgType : UInt16}
    {payload : List UInt8} {msg : IdmMessage} (h : (idmBuildMessage conn ok dstZone msgType payload).1 = some msg)
    (hp : idmHeaderSize + payload.length ≤ idmRingEntrySize) :
    msg.header.payloadLen.toNat = payload.length ∧ idmMessageValid msg = true ∧
      idmMessageSize msg ≤ idmRingEntrySize := by
  have hlen : (UInt32.ofNat payload.length).toNat = payload.length := by
    rw [UInt32.toNat_ofNat']
    exact Nat.mod_eq_of_lt (by unfold idmHeaderSize idmRingEntrySize at hp; omega)
  rw [idmBuildMessage_some h]
  refine ⟨hlen, ?_, by simpa only [idmMessageSize, hlen] using hp⟩
  simp only [idmMessageValid, hlen, beq_self_eq_true, Bool.true_and, decide_eq_true_eq]
  unfold idmHeaderSize idmRingEntrySize at hp
  unfold idmMaxPayloadSize
  omega

/-! ## §5. What a successful receive returns. -/

/-- `idm_recv` accepts every slot whose header passes
    `idm_message_valid`, whatever its `payload_len` makes `idm_message_size`,
    once its wait gets to a token and its `malloc` succeeds. -/
theorem idmRecv_of_valid {conn : IdmConnection} {rx : Channel} {t : Int} {env : RecvEnv}
    (hc : conn.connected = true) (hw : waitReachesSem t env.now.ts = true) (hs : 0 < rx.sem)
    (he : rx.ring.consumer ≠ rx.ring.producer)
    (hv : idmMessageValid (IdmMessage.at rx.ring.entries (slotBase (rx.ring.consumer % idmRingSize))) = true)
    (hm : env.mallocOk = true) :
    (idmRecv conn rx t env).1 =
      .ok ((IdmMessage.at rx.ring.entries (slotBase (rx.ring.consumer % idmRingSize))).copyInto env.block) := by
  simp [idmRecv, hc, hw, Nat.pos_iff_ne_zero.mp hs, he, hv, hm]

/-- **What the clock reading and the buffer change.**  Two receives whose
    waits both get to the semaphore and whose `malloc`s agree do the same to
    the channel, and fail alike or return copies, each into its own buffer,
    of the one message in the consumer's slot. -/
theorem idmRecv_env_congr (conn : IdmConnection) (rx : Channel) (t : Int) {env env' : RecvEnv}
    (hw : waitReachesSem t env.now.ts = true) (hw' : waitReachesSem t env'.now.ts = true)
    (hm : env.mallocOk = env'.mallocOk) :
    (idmRecv conn rx t env).2 = (idmRecv conn rx t env').2 ∧
      ((idmRecv conn rx t env).1 = (idmRecv conn rx t env').1 ∨
        (idmRecv conn rx t env).1 =
            .ok ((IdmMessage.at rx.ring.entries (slotBase (rx.ring.consumer % idmRingSize))).copyInto env.block) ∧
          (idmRecv conn rx t env').1 =
            .ok ((IdmMessage.at rx.ring.entries (slotBase (rx.ring.consumer % idmRingSize))).copyInto env'.block)) := by
  simp only [idmRecv, hw, hw', hm, Bool.not_true, Bool.false_eq_true, ↓reduceIte]
  split_ifs <;> simp

/-- An `idm_recv` on an empty ring fails, whatever the semaphore holds, and
    leaves the ring as it was. -/
theorem idmRecv_of_empty {conn : IdmConnection} {rx : Channel} {t : Int} {env : RecvEnv}
    (h : rx.ring.consumer = rx.ring.producer) :
    (∃ e, (idmRecv conn rx t env).1 = .error e) ∧ (idmRecv conn rx t env).2.ring = rx.ring := by
  simp only [idmRecv, h, ↓reduceIte]
  split_ifs <;> exact ⟨⟨_, rfl⟩, rfl⟩

/-- A header a peer can leave in slot 0 of the receiver's ring: it passes
    `idm_message_valid`, but its `payload_len` of 4065 makes the message one byte
    longer than a slot, so `idm_send` would refuse it. -/
def hostileHeader : IdmHeader :=
  { magic := idmMagic, version := idmVersion, msgType := idmGpuAlloc, srcZone := 2,
    dstZone := 1, seqNum := 1, payloadLen := 4065, reserved := 0 }

/-- The receiver's ring with that header published in slot 0. -/
def hostileRx : Channel :=
  { ring := { producer := 1, consumer := 0, entries := writeBytes (fun _ => 0) 0 hostileHeader.bytes },
    sem := 1 }

/-- At that input `idm_recv(&msg, 1000)`, whatever the clock reads and
    whatever block `malloc` returns, succeeds and copies 4097 bytes out of a
    4096-byte slot: its last byte is the first byte of slot 1. -/
theorem idmRecv_reads_past_slot (now : ClockReading) (blk : Mem) :
    ∃ m, (idmRecv (idmInit 1 2 true) hostileRx 1000 ⟨now, true, blk⟩).1 = .ok m ∧
      idmRingEntrySize < idmMessageSize m :=
  ⟨_, idmRecv_of_valid rfl (waitReachesSem_of_whole now rfl) (by decide) (by decide) (by decide) rfl,
    by rw [idmMessageSize_congr (IdmMessage.copyInto_header _ _)]; decide⟩

/-- A header-only `GPU_SYNC` request from zone 1 to zone 0. -/
def syncRequest : IdmMessage :=
  { header :=
      { magic := idmMagic, version := idmVersion, msgType := idmGpuSync, srcZone := 1,
        dstZone := 0, seqNum := 1, payloadLen := 0, reserved := 0 },
    payload := fun _ => 0 }

/-! ## §6. Round trip through an empty ring. -/

section RoundTrip

variable (sconn rconn : IdmConnection) {ch : Channel} (msg : IdmMessage)

/-- On an empty ring `idm_send` accepts a valid message that fits a slot: it
    lays the message's bytes into the producer's slot and posts a token. -/
theorem idmSend_of_empty (hs : sconn.connected = true) (he : ch.ring.consumer = ch.ring.producer)
    (hv : idmMessageValid msg = true) (hfit : idmMessageSize msg ≤ idmRingEntrySize) :
    idmSend sconn ch msg =
      (.ok (), { ring := { ch.ring with
                   entries := writeBytes ch.ring.entries (slotBase (ch.ring.producer % idmRingSize)) msg.bytes,
                   producer := ch.ring.producer + 1 },
                 sem := ch.sem + 1 }) := by
  have hp := ch.ring.producer.toNat_lt_size
  have hroom : ¬ (ch.ring.producer - ch.ring.consumer ≥ idmRingSize) := by
    change ¬ (32 ≤ (ch.ring.producer - ch.ring.consumer).toNat)
    simp only [he, UInt32.toNat_sub', UInt32.size] at hp ⊢
    omega
  simp only [idmSend, hs, hv, Bool.not_true, Bool.false_eq_true, ↓reduceIte, gt_iff_lt,
    Nat.not_lt.mpr hfit, hroom]

/-- **Round trip.**  A message `idm_send` accepts on an empty channel is what
    the peer's next `idm_recv` returns, byte for byte (a copy of it in the
    block the receive's `malloc` returned), once that receive gets past its
    wait; the channel is empty again after it, with its token count as
    before. -/
theorem idmRecv_idmSend_of_empty_eq (t : Int) (env : RecvEnv) (hw : waitReachesSem t env.now.ts = true)
    (hm : env.mallocOk = true) (hs : sconn.connected = true) (hr : rconn.connected = true)
    (he : ch.ring.consumer = ch.ring.producer) (hv : idmMessageValid msg = true)
    (hfit : idmMessageSize msg ≤ idmRingEntrySize) :
    idmRecv rconn (idmSend sconn ch msg).2 t env =
      (.ok (msg.copyInto env.block),
        { ring := { ch.ring with
                    entries := writeBytes ch.ring.entries (slotBase (ch.ring.producer % idmRingSize)) msg.bytes,
                    producer := ch.ring.producer + 1, consumer := ch.ring.producer + 1 },
          sem := ch.sem }) := by
  rw [idmSend_of_empty sconn msg hs he hv hfit]
  have hslot : readBytes (writeBytes ch.ring.entries (slotBase (ch.ring.producer % idmRingSize)) msg.bytes)
      (slotBase (ch.ring.producer % idmRingSize)) (idmMessageSize msg) = msg.bytes := by
    rw [← IdmMessage.length_bytes, readBytes_writeBytes_self]
  have hhdr := IdmMessage.at_header hslot
  have hne : ch.ring.producer ≠ ch.ring.producer + 1 := by
    intro h
    have := congrArg UInt32.toNat h
    have hp := ch.ring.producer.toNat_lt_size
    simp only [UInt32.toNat_add', UInt32.size] at this hp
    simp only [show (1 : UInt32).toNat = 1 from rfl] at this
    omega
  simp only [idmRecv, hr, hw, hm, he, hne, Bool.not_true, Bool.false_eq_true, ↓reduceIte, Nat.add_one_ne_zero,
    idmMessageValid_congr hhdr, hv, IdmMessage.copyInto_congr env.block (IdmMessage.bytes_at_of_readBytes hslot),
    Nat.add_sub_cancel]

/-- The round trip's two results. -/
theorem idmRecv_idmSend_of_empty (t : Int) (env : RecvEnv) (hw : waitReachesSem t env.now.ts = true)
    (hm : env.mallocOk = true) (hs : sconn.connected = true) (hr : rconn.connected = true)
    (he : ch.ring.consumer = ch.ring.producer) (hv : idmMessageValid msg = true)
    (hfit : idmMessageSize msg ≤ idmRingEntrySize) :
    (idmSend sconn ch msg).1 = .ok () ∧
      (idmRecv rconn (idmSend sconn ch msg).2 t env).1 = .ok (msg.copyInto env.block) := by
  rw [idmRecv_idmSend_of_empty_eq sconn rconn msg t env hw hm hs hr he hv hfit,
    idmSend_of_empty sconn msg hs he hv hfit]
  exact ⟨rfl, rfl⟩

end RoundTrip

/-- A payload of `2^32 + 8` bytes from zone 2 to zone 1: `idm_build_message`
    stores its length into the 32-bit `payload_len` as 8, `idm_send` accepts
    the 40-byte message on an empty channel, and the message the peer's
    `idm_recv(&msg, 1000)` returns, whatever the clock reads and whatever
    block `malloc` returns, says `payload_len` 8 and is a copy of 40 bytes:
    the header and the first 8 bytes of the payload, nothing after them. -/
theorem idmBuildMessage_truncates_payload (now : ClockReading) (blk : Mem) :
    ∃ msg, (idmBuildMessage (idmInit 2 1 false) true 1 idmGpuSync (List.replicate (2 ^ 32 + 8) 0xAB)).1 = some msg ∧
      msg.header.payloadLen = 8 ∧
      (idmSend (idmInit 2 1 false) emptyChannel msg).1 = .ok () ∧
      ∃ m, (idmRecv (idmInit 1 2 true) (idmSend (idmInit 2 1 false) emptyChannel msg).2 1000 ⟨now, true, blk⟩).1 =
          .ok m ∧
        m.header.payloadLen = 8 ∧ m.bytes.length = 40 ∧ readBytes m.payload 0 8 = List.replicate 8 0xAB := by
  have h8 : 8 < 2 ^ 32 + 8 := Nat.lt_add_of_pos_left (Nat.two_pow_pos 32)
  generalize hN : 2 ^ 32 + 8 = N at h8
  obtain ⟨msg, hmsg⟩ : ∃ msg, (idmBuildMessage (idmInit 2 1 false) true 1 idmGpuSync
      (List.replicate N 0xAB)).1 = some msg := ⟨_, rfl⟩
  have hh : msg.header =
      { magic := idmMagic, version := idmVersion, msgType := idmGpuSync, srcZone := 2, dstZone := 1,
        seqNum := 1, payloadLen := 8, reserved := 0 } := by
    rw [idmBuildMessage_some hmsg, List.length_replicate, ← hN]
    rfl
  have hv : idmMessageValid msg = true := by
    simp only [idmMessageValid, hh]
    decide
  have hfit : idmMessageSize msg ≤ idmRingEntrySize := by
    rw [idmMessageSize, hh]
    decide
  obtain ⟨hsend, hrecv⟩ := idmRecv_idmSend_of_empty (idmInit 2 1 false) (idmInit 1 2 true) msg 1000 ⟨now, true, blk⟩
    (waitReachesSem_of_whole now rfl) rfl rfl rfl (show emptyChannel.ring.consumer = emptyChannel.ring.producer from rfl)
    hv hfit
  refine ⟨msg, hmsg, by rw [hh], hsend, _, hrecv, by rw [IdmMessage.copyInto_header, hh], ?_, ?_⟩
  · rw [IdmMessage.bytes_copyInto, IdmMessage.length_bytes, idmMessageSize, hh]
    rfl
  · -- the first 8 bytes of the copy's payload are the payload's
    refine List.eq_replicate_iff.mpr ⟨length_readBytes .., fun b hb => ?_⟩
    obtain ⟨i, hi, rfl⟩ := List.getElem_of_mem hb
    rw [getElem_readBytes, Nat.zero_add, IdmMessage.copyInto_payload _ _ (by rw [hh]; simpa using hi),
      idmBuildMessage_some hmsg]
    simp [listMem, List.getD_eq_getElem?_getD, List.getElem?_replicate, show i < N by simp at hi; omega]

end XenGpuProxy
