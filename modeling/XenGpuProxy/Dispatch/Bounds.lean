/-
  XenGpuProxy.Dispatch.Bounds — the two bounds a handler depends on: where a
  copy lands in device memory, and which bytes a request is read from.

  The copy handlers check `offset + size > alloc_size` in 64-bit arithmetic,
  so the check holds of the sum modulo 2^64.  No handler looks at the header's
  `payload_len`: each casts the payload to its request struct and, for
  `COPY_H2D`, takes `size` bytes after it, in the buffer into which
  `idm_recv` copied `idm_message_size` bytes.

  Main results:
    * `copy_offset_wraps` — with offset 2^64 - 1 and size 1 both copy handlers
      pass the check and call the driver one byte before the allocation.
    * `dispatch_footprint` — what the dispatcher does with a message depends
      on its type, source zone and the bytes of its request struct (and
      `COPY_H2D`'s data) only, whatever its `payload_len` says.
    * `serverStep_of_footprint` — so a turn of `run_server` on a message whose
      `payload_len` covers those bytes reads nothing past `idm_recv`'s copy;
      `serverStep_alloc_reads_past_copy` — but on a `GPU_ALLOC` with an empty
      payload `handle_gpu_alloc` takes the size it allocates from the heap
      past the copy.
-/
import XenGpuProxy.Dispatch.Handlers

namespace XenGpuProxy

/-! ## §1. Device ranges. -/

/-- The environment of the examples below: every call succeeds. -/
def allSucceed : Outcome :=
  { allocResult := 0, allocPtr := 0x10000, entryMallocOk := true, freeResult := 0,
    copyResult := 0, hostMallocOk := true, syncResult := 0, msgMallocOk := true }

/-- A request from zone 1 to the driver zone 0. -/
def requestFromZone1 (msgType : UInt16) (payload : List UInt8) : IdmMessage :=
  { header :=
      { magic := idmMagic, version := idmVersion, msgType, srcZone := 1, dstZone := 0, seqNum := 1,
        payloadLen := UInt32.ofNat payload.length, reserved := 0 },
    payload := listMem payload }

/-- Zone 1 owns handle 1, a 4096-byte allocation at `0x10000`.  A copy of one
    byte at offset 2^64 - 1 passes both handlers' checks, since the sum wraps
    to 0, and reaches the driver at `0xFFFF`, the byte before the allocation. -/
theorem copy_offset_wraps :
    4096 < (0xFFFFFFFFFFFFFFFF : UInt64).toNat + (1 : UInt64).toNat ∧
      (handleGpuCopyH2d (handleTableInsert handleTableInit 1 0x10000 4096 true).2 allSucceed
          (requestFromZone1 idmGpuCopyH2d ((⟨1, 0xFFFFFFFFFFFFFFFF, 1⟩ : IdmGpuCopyH2d).bytes ++ [0xAB]))).calls =
        [.memcpyHtoD 0xFFFF [0xAB] 0] ∧
      (handleGpuCopyD2h (handleTableInsert handleTableInit 1 0x10000 4096 true).2 allSucceed
          (requestFromZone1 idmGpuCopyD2h (⟨1, 0xFFFFFFFFFFFFFFFF, 1⟩ : IdmGpuCopyD2h).bytes)).calls =
        [.memcpyDtoH 0xFFFF 1 0] := by
  decide

/-! ## §2. Payload footprint. -/

/-- Two payloads that agree below `N` give the same field wherever its bytes
    lie below `N`. -/
theorem readLE_congr {p₁ p₂ : Mem} {N : Nat} (h : ∀ i < N, p₁ i = p₂ i) {off n : Nat}
    (hn : off + n ≤ N) : readLE p₁ off n = readLE p₂ off n := by
  unfold readLE
  rw [readBytes_congr fun i hi => h _ (by omega)]

theorem IdmGpuAlloc.read_congr {p₁ p₂ : Mem} (h : ∀ i < IdmGpuAlloc.sizeof, p₁ i = p₂ i) :
    IdmGpuAlloc.read p₁ = IdmGpuAlloc.read p₂ := by
  have r := fun off n (hn : off + n ≤ IdmGpuAlloc.sizeof) => readLE_congr h hn
  simp only [IdmGpuAlloc.read, r 0 8 (by decide), r 8 4 (by decide), r 12 4 (by decide)]

theorem IdmGpuFree.read_congr {p₁ p₂ : Mem} (h : ∀ i < IdmGpuFree.sizeof, p₁ i = p₂ i) :
    IdmGpuFree.read p₁ = IdmGpuFree.read p₂ := by
  simp only [IdmGpuFree.read, readLE_congr h (by decide : 0 + 8 ≤ IdmGpuFree.sizeof)]

theorem IdmGpuCopyH2d.read_congr {p₁ p₂ : Mem} (h : ∀ i < IdmGpuCopyH2d.sizeof, p₁ i = p₂ i) :
    IdmGpuCopyH2d.read p₁ = IdmGpuCopyH2d.read p₂ := by
  have r := fun off n (hn : off + n ≤ IdmGpuCopyH2d.sizeof) => readLE_congr h hn
  simp only [IdmGpuCopyH2d.read, r 0 8 (by decide), r 8 8 (by decide), r 16 8 (by decide)]

theorem IdmGpuCopyD2h.read_congr {p₁ p₂ : Mem} (h : ∀ i < IdmGpuCopyD2h.sizeof, p₁ i = p₂ i) :
    IdmGpuCopyD2h.read p₁ = IdmGpuCopyD2h.read p₂ := by
  have r := fun off n (hn : off + n ≤ IdmGpuCopyD2h.sizeof) => readLE_congr h hn
  simp only [IdmGpuCopyD2h.read, r 0 8 (by decide), r 8 8 (by decide), r 16 8 (by decide)]

theorem IdmResponseOk.read_congr {p₁ p₂ : Mem} (h : ∀ i < IdmResponseOk.sizeof, p₁ i = p₂ i) :
    IdmResponseOk.read p₁ = IdmResponseOk.read p₂ := by
  have r := fun off n (hn : off + n ≤ IdmResponseOk.sizeof) => readLE_congr h hn
  simp only [IdmResponseOk.read, r 0 8 (by decide), r 8 8 (by decide), r 16 4 (by decide),
    r 20 4 (by decide)]

theorem IdmResponseError.read_congr {p₁ p₂ : Mem} (h : ∀ i < IdmResponseError.sizeof, p₁ i = p₂ i) :
    IdmResponseError.read p₁ = IdmResponseError.read p₂ := by
  have r := fun off n (hn : off + n ≤ IdmResponseError.sizeof) => readLE_congr h hn
  have hmsg : readBytes p₁ 16 256 = readBytes p₂ 16 256 :=
    readBytes_congr fun i hi => h _ (by unfold IdmResponseError.sizeof; omega)
  simp only [IdmResponseError.read, r 0 8 (by decide), r 8 4 (by decide), r 12 4 (by decide), hmsg]

/-- The payload offsets the handler of a message type reads: its request
    struct, and for `COPY_H2D` the `size` bytes of data after it. -/
def requestFootprint (msgType : UInt16) (payload : Mem) (i : Nat) : Prop :=
  if msgType = idmGpuAlloc then i < IdmGpuAlloc.sizeof
  else if msgType = idmGpuFree then i < IdmGpuFree.sizeof
  else if msgType = idmGpuCopyH2d then
    i < IdmGpuCopyH2d.sizeof + (IdmGpuCopyH2d.read payload).size.toNat
  else if msgType = idmGpuCopyD2h then i < IdmGpuCopyD2h.sizeof
  else False

/-- The handler chosen for a message, and what it does, depend on the type,
    the source zone and the footprint bytes only. -/
theorem dispatch_footprint (t : HandleTable) (o : Outcome) {msg₁ msg₂ : IdmMessage}
    (hty : msg₁.header.msgType = msg₂.header.msgType) (hz : msg₁.header.srcZone = msg₂.header.srcZone)
    (hp : ∀ i, requestFootprint msg₁.header.msgType msg₁.payload i → msg₁.payload i = msg₂.payload i) :
    dispatch t o msg₁ = dispatch t o msg₂ := by
  simp only [dispatch, ← hty]
  simp only [requestFootprint] at hp
  split_ifs at hp ⊢
  · simp only [handleGpuAlloc, IdmGpuAlloc.read_congr hp, hz]
  · simp only [handleGpuFree, IdmGpuFree.read_congr hp, hz]
  · have hr := IdmGpuCopyH2d.read_congr fun i hi => hp i (by omega)
    have hd : readBytes msg₁.payload IdmGpuCopyH2d.sizeof (IdmGpuCopyH2d.read msg₁.payload).size.toNat =
        readBytes msg₂.payload IdmGpuCopyH2d.sizeof (IdmGpuCopyH2d.read msg₁.payload).size.toNat :=
      readBytes_congr fun i hi => hp _ (by omega)
    simp only [handleGpuCopyH2d, ← hr, hd, hz]
  · simp only [handleGpuCopyD2h, IdmGpuCopyD2h.read_congr hp, hz]
  · rfl
  · rfl

/-- A message copied whole into a fresh buffer is served as it was sent
    when its handler's footprint lies inside `payload_len`: nothing past the
    copy is read. -/
theorem dispatch_copyInto (t : HandleTable) (o : Outcome) (blk : Mem) {msg : IdmMessage}
    (hfoot : ∀ i, requestFootprint msg.header.msgType msg.payload i → i < msg.header.payloadLen.toNat) :
    dispatch t o (msg.copyInto blk) = dispatch t o msg :=
  (dispatch_footprint t o (by rw [IdmMessage.copyInto_header]) (by rw [IdmMessage.copyInto_header])
    fun i hi => (IdmMessage.copyInto_payload blk msg (hfoot i hi)).symm).symm

/-- The same for the whole turn's body: the reply goes to the sender with
    its sequence number, read from the copied header. -/
theorem serveMessage_copyInto (d : Dispatcher) (o : Outcome) (blk : Mem) {msg : IdmMessage}
    (hfoot : ∀ i, requestFootprint msg.header.msgType msg.payload i → i < msg.header.payloadLen.toNat) :
    serveMessage d o (msg.copyInto blk) = serveMessage d o msg := by
  simp only [serveMessage, dispatch_copyInto d.table o blk hfoot, IdmMessage.copyInto_header]

/-- The message in the driver zone's next slot. -/
def Dispatcher.nextMsg (d : Dispatcher) : IdmMessage :=
  IdmMessage.at d.rx.ring.entries (slotBase (d.rx.ring.consumer % idmRingSize))

/-- **A request whose `payload_len` covers what its handler reads is served
    from the bytes received.**  When the message in the driver zone's next
    slot has a `payload_len` reaching past its request struct (and, for
    `COPY_H2D`, past the data after it), a turn of `run_server` whose
    receive's `malloc` succeeds does the same whatever the clock reads and
    whatever lies past the copy in the buffer: the same driver calls, the
    same state after, the same response. -/
theorem serverStep_of_footprint (d : Dispatcher) (o : Outcome) (now now' : ClockReading) (blk blk' : Mem)
    (hfoot : ∀ i, requestFootprint d.nextMsg.header.msgType d.nextMsg.payload i →
      i < d.nextMsg.header.payloadLen.toNat) :
    serverStep d ⟨now, true, blk⟩ o = serverStep d ⟨now', true, blk'⟩ o := by
  obtain ⟨hch, hres | ⟨h₁, h₂⟩⟩ := @idmRecv_env_congr d.conn d.rx 1000 ⟨now, true, blk⟩ ⟨now', true, blk'⟩
    (waitReachesSem_of_whole now rfl) (waitReachesSem_of_whole now' rfl) rfl
  · simp only [serverStep, hch, hres]
  · simp only [serverStep, hch, h₁, h₂]
    exact (serveMessage_copyInto _ _ _ hfoot).trans (serveMessage_copyInto _ _ _ hfoot).symm

/-- The driver zone on a fresh connection, with zone 1's `GPU_ALLOC` for
    4096 bytes (`payload_len` 16) waiting in its ring. -/
def allocPending : Dispatcher :=
  ⟨handleTableInit, idmInit 1 2 true, emptyChannel,
    (idmSend (idmInit 2 1 false) emptyChannel (requestFromZone1 idmGpuAlloc (⟨4096, 0, 0⟩ : IdmGpuAlloc).bytes)).2⟩

/-- The driver zone's turn on that request is the same at two clock readings
    a second apart and over two buffers whose bytes past the copy differ. -/
theorem serverStep_of_footprint_alloc :
    (∀ i, requestFootprint allocPending.nextMsg.header.msgType allocPending.nextMsg.payload i →
      i < allocPending.nextMsg.header.payloadLen.toNat) ∧
      serverStep allocPending ⟨⟨⟨1700000000, 0⟩, by decide⟩, true, fun _ => 0⟩ allSucceed =
        serverStep allocPending ⟨⟨⟨1700000000, 999999999⟩, by decide⟩, true, fun _ => 0xFF⟩ allSucceed := by
  have hhdr : allocPending.nextMsg.header =
      (requestFromZone1 idmGpuAlloc (⟨4096, 0, 0⟩ : IdmGpuAlloc).bytes).header := by
    simp only [allocPending, Dispatcher.nextMsg, idmSend_of_empty (idmInit 2 1 false) (requestFromZone1 idmGpuAlloc
      (⟨4096, 0, 0⟩ : IdmGpuAlloc).bytes) rfl (show emptyChannel.ring.consumer = emptyChannel.ring.producer from rfl)
      (by decide) (by decide)]
    exact IdmMessage.at_header (by rw [← IdmMessage.length_bytes]; exact readBytes_writeBytes_self _ _ _)
  have hfoot : ∀ i, requestFootprint allocPending.nextMsg.header.msgType allocPending.nextMsg.payload i →
      i < allocPending.nextMsg.header.payloadLen.toNat := fun i hi => by
    simp only [hhdr, requestFromZone1, requestFootprint, ↓reduceIte] at hi ⊢
    exact hi
  exact ⟨hfoot, serverStep_of_footprint allocPending allSucceed _ _ _ _ hfoot⟩

/-- Zone 2 sends a `GPU_ALLOC` with an empty payload (`payload_len` 0) on a
    fresh connection.  The driver zone's `idm_recv(&msg, 1000)` copies the
    message's 32 bytes into a fresh buffer, and `handle_gpu_alloc` reads the
    request's `size` from the eight bytes after them: for every clock
    reading, every content of the memory past the buffer and every driver
    outcome, the size `cuMemAlloc` is called with is whatever lies there. -/
theorem serverStep_alloc_reads_past_copy (o : Outcome) (now : ClockReading) (blk : Mem) :
    ∃ msg m, (idmBuildMessage (idmInit 2 1 false) true 1 idmGpuAlloc []).1 = some msg ∧
      (idmRecv (idmInit 1 2 true) (idmSend (idmInit 2 1 false) emptyChannel msg).2 1000 ⟨now, true, blk⟩).1 =
        .ok m ∧
      idmMessageSize m = 32 ∧
      (serverStep ⟨handleTableInit, idmInit 1 2 true, emptyChannel, (idmSend (idmInit 2 1 false) emptyChannel msg).2⟩
        ⟨now, true, blk⟩ o).calls.head? = some (.memAlloc (UInt64.ofNat (readLE blk 32 8)) o.allocResult o.allocPtr) := by
  obtain ⟨msg, hmsg⟩ : ∃ msg, (idmBuildMessage (idmInit 2 1 false) true 1 idmGpuAlloc []).1 = some msg := ⟨_, rfl⟩
  obtain ⟨-, hv, hfit⟩ := idmBuildMessage_sendable hmsg (by decide)
  obtain ⟨-, hrecv⟩ := idmRecv_idmSend_of_empty (idmInit 2 1 false) (idmInit 1 2 true) msg 1000 ⟨now, true, blk⟩
    (waitReachesSem_of_whole now rfl) rfl rfl rfl (show emptyChannel.ring.consumer = emptyChannel.ring.producer from rfl)
    hv hfit
  have hh := idmBuildMessage_some hmsg
  -- the copy holds the header only, so the request struct is read past it
  have hread : readBytes (msg.copyInto blk).payload 0 8 = readBytes blk 32 8 := by
    refine List.map_congr_left fun i _ => ?_
    rw [IdmMessage.copyInto_payload_of_le _ _ (by rw [hh]; exact Nat.zero_le _), Nat.zero_add]
    rfl
  have hsize : (IdmGpuAlloc.read (msg.copyInto blk).payload).size = UInt64.ofNat (readLE blk 32 8) := by
    rw [readLE, ← hread]
    rfl
  refine ⟨msg, _, hmsg, hrecv, by rw [idmMessageSize_congr (IdmMessage.copyInto_header _ _), hh]; rfl, ?_⟩
  have hty : (msg.copyInto blk).header.msgType = idmGpuAlloc := by rw [IdmMessage.copyInto_header, hh]
  simp only [serverStep, hrecv, serveMessage, dispatch, hty, ↓reduceIte, handleGpuAlloc, hsize]
  split_ifs <;> rfl

end XenGpuProxy
