/-
  XenGpuProxy.Wire.Message — the IDM wire format of `idm.h`: protocol
  constants, the packed 32-byte header, a message as header plus payload
  buffer, the validity check, and the packed request and response payloads.

  A message in memory is `IdmMessage`: its header and the buffer from
  `msg->payload` on.  What `memcpy(dst, msg, idm_message_size(msg))` moves is
  `IdmMessage.bytes`; the message a pointer into a region designates is
  `IdmMessage.at`.  The two are inverse (`bytes_at`, `at_header_of_readBytes`):
  every 32-byte pattern is some header, so the header codec is a bijection.

  Main results:
    * `IdmHeader.read_of_readBytes` — decoding the encoded header gives it back.
    * `IdmHeader.bytes_read` — encoding the decoded header gives the bytes back.
    * `IdmMessage.bytes_at` — the message at a location is exactly the
      `idm_message_size` bytes there.
-/
import XenGpuProxy.Wire.Bytes

namespace XenGpuProxy

/-! ## §1. Protocol constants (`idm.h`). -/

/-- `IDM_MAGIC`, "IDM\0". -/
def idmMagic : UInt32 := 0x49444D00
/-- `IDM_VERSION_MAJOR`. -/
def idmVersionMajor : UInt16 := 1
/-- `IDM_VERSION_MINOR`. -/
def idmVersionMinor : UInt16 := 0
/-- `IDM_VERSION`, `(major << 8) | minor`. -/
def idmVersion : UInt16 := (idmVersionMajor <<< 8) ||| idmVersionMinor
/-- `IDM_MAX_PAYLOAD_SIZE`, 4 MiB. -/
def idmMaxPayloadSize : Nat := 4 * 1024 * 1024
/-- `IDM_RING_SIZE`, the slot count of a ring. -/
def idmRingSize : UInt32 := 32

theorem idmRingSize_toNat : idmRingSize.toNat = 32 := rfl

/-! Message types (`enum idm_msg_type`). -/

/-- `IDM_GPU_ALLOC`. -/
def idmGpuAlloc : UInt16 := 0x01
/-- `IDM_GPU_FREE`. -/
def idmGpuFree : UInt16 := 0x02
/-- `IDM_GPU_COPY_H2D`. -/
def idmGpuCopyH2d : UInt16 := 0x10
/-- `IDM_GPU_COPY_D2H`. -/
def idmGpuCopyD2h : UInt16 := 0x11
/-- `IDM_GPU_COPY_D2D`. -/
def idmGpuCopyD2d : UInt16 := 0x12
/-- `IDM_GPU_MEMSET`. -/
def idmGpuMemset : UInt16 := 0x13
/-- `IDM_GPU_LAUNCH_KERNEL`. -/
def idmGpuLaunchKernel : UInt16 := 0x20
/-- `IDM_GPU_SYNC`. -/
def idmGpuSync : UInt16 := 0x21
/-- `IDM_GPU_GET_INFO`. -/
def idmGpuGetInfo : UInt16 := 0x30
/-- `IDM_GPU_GET_PROPS`. -/
def idmGpuGetProps : UInt16 := 0x31
/-- `IDM_RESPONSE_OK`. -/
def idmResponseOk : UInt16 := 0xF0
/-- `IDM_RESPONSE_ERROR`. -/
def idmResponseError : UInt16 := 0xF1

/-! Error codes (`enum idm_error`). -/

/-- `IDM_ERROR_NONE`. -/
def idmErrorNone : UInt32 := 0
/-- `IDM_ERROR_INVALID_MESSAGE`. -/
def idmErrorInvalidMessage : UInt32 := 1
/-- `IDM_ERROR_INVALID_HANDLE`. -/
def idmErrorInvalidHandle : UInt32 := 2
/-- `IDM_ERROR_PERMISSION_DENIED`. -/
def idmErrorPermissionDenied : UInt32 := 3
/-- `IDM_ERROR_OUT_OF_MEMORY`. -/
def idmErrorOutOfMemory : UInt32 := 4
/-- `IDM_ERROR_INVALID_SIZE`. -/
def idmErrorInvalidSize : UInt32 := 5
/-- `IDM_ERROR_TIMEOUT`. -/
def idmErrorTimeout : UInt32 := 6
/-- `IDM_ERROR_CONNECTION_LOST`. -/
def idmErrorConnectionLost : UInt32 := 7
/-- `IDM_ERROR_CUDA_ERROR`. -/
def idmErrorCudaError : UInt32 := 8
/-- `IDM_ERROR_UNKNOWN`. -/
def idmErrorUnknown : UInt32 := 99

/-! ## §2. The packed header. -/

/-- `struct idm_header` (packed, 32 bytes). -/
structure IdmHeader where
  magic : UInt32
  version : UInt16
  msgType : UInt16
  srcZone : UInt32
  dstZone : UInt32
  seqNum : UInt64
  payloadLen : UInt32
  reserved : UInt32
  deriving DecidableEq, Repr

/-- `sizeof(struct idm_header)`. -/
def idmHeaderSize : Nat := 32

/-- The header's 32 bytes, field after field, each little-endian. -/
def IdmHeader.bytes (h : IdmHeader) : List UInt8 :=
  h.magic.toLE ++ h.version.toLE ++ h.msgType.toLE ++ h.srcZone.toLE ++ h.dstZone.toLE ++
    h.seqNum.toLE ++ h.payloadLen.toLE ++ h.reserved.toLE

/-- The header whose bytes lie at `base` (`ptr->header.field` reads). -/
def IdmHeader.read (mem : Mem) (base : Nat) : IdmHeader where
  magic := UInt32.ofNat (readLE mem base 4)
  version := UInt16.ofNat (readLE mem (base + 4) 2)
  msgType := UInt16.ofNat (readLE mem (base + 6) 2)
  srcZone := UInt32.ofNat (readLE mem (base + 8) 4)
  dstZone := UInt32.ofNat (readLE mem (base + 12) 4)
  seqNum := UInt64.ofNat (readLE mem (base + 16) 8)
  payloadLen := UInt32.ofNat (readLE mem (base + 24) 4)
  reserved := UInt32.ofNat (readLE mem (base + 28) 4)

@[simp] theorem IdmHeader.length_bytes (h : IdmHeader) : h.bytes.length = idmHeaderSize := by
  simp [IdmHeader.bytes, idmHeaderSize]

/-- A field read inside a larger read is a slice of it. -/
theorem readBytes_slice (mem : Mem) (base off n N : Nat) (h : off + n ≤ N) :
    readBytes mem (base + off) n = ((readBytes mem base N).drop off).take n := by
  apply List.ext_getElem (by simp; omega)
  intro i h₁ h₂
  simp [readBytes, Nat.add_assoc]

/-- **Round trip.** Memory holding an encoded header decodes to that header. -/
theorem IdmHeader.read_of_readBytes {mem : Mem} {base : Nat} {h : IdmHeader}
    (hr : readBytes mem base idmHeaderSize = h.bytes) : IdmHeader.read mem base = h := by
  have field : ∀ off n, off + n ≤ idmHeaderSize →
      readLE mem (base + off) n = leValue ((h.bytes.drop off).take n) := by
    intro off n hn
    rw [readLE, readBytes_slice mem base off n idmHeaderSize hn, hr]
  have h0 := field 0 4 (by decide)
  rw [Nat.add_zero] at h0
  cases h
  simp only [IdmHeader.read, h0, field 4 2 (by decide), field 6 2 (by decide),
    field 8 4 (by decide), field 12 4 (by decide), field 16 8 (by decide),
    field 24 4 (by decide), field 28 4 (by decide)]
  simp [IdmHeader.bytes, List.append_assoc, List.drop_append_eq_append_drop,
    List.take_append_eq_append_take, List.drop_eq_nil_of_le, List.take_of_length_le,
    UInt16.ofNat_leValue_toLE,
    UInt32.ofNat_leValue_toLE, UInt64.ofNat_leValue_toLE]

/-- **Round trip**, other direction: every 32 bytes are the encoding of the
    header they decode to. -/
theorem IdmHeader.bytes_read (mem : Mem) (base : Nat) :
    (IdmHeader.read mem base).bytes = readBytes mem base idmHeaderSize := by
  have split : readBytes mem base idmHeaderSize =
      readBytes mem base 4 ++ readBytes mem (base + 4) 2 ++ readBytes mem (base + 6) 2 ++
        readBytes mem (base + 8) 4 ++ readBytes mem (base + 12) 4 ++
        readBytes mem (base + 16) 8 ++ readBytes mem (base + 24) 4 ++
        readBytes mem (base + 28) 4 := by
    rw [show idmHeaderSize = 4 + 2 + 2 + 4 + 4 + 8 + 4 + 4 from rfl]
    simp only [readBytes_add, Nat.add_assoc]
    simp only [List.append_assoc, Nat.reduceAdd]
  rw [split]
  simp only [IdmHeader.bytes, IdmHeader.read, readLE, UInt16.toLE_ofNat_leValue _ (length_readBytes ..),
    UInt32.toLE_ofNat_leValue _ (length_readBytes ..), UInt64.toLE_ofNat_leValue _ (length_readBytes ..)]

/-! ## §3. Messages. -/

/-- `struct idm_message` in memory: the header, and the buffer from
    `msg->payload` on (bytes past the end of the C object included). -/
structure IdmMessage where
  header : IdmHeader
  payload : Mem

/-- `idm_message_size(msg)`: the header plus `payload_len` bytes.  The sum is a
    `size_t`, so it does not wrap. -/
def idmMessageSize (msg : IdmMessage) : Nat := idmHeaderSize + msg.header.payloadLen.toNat

/-- `idm_message_valid(msg)`: magic, version and the payload bound. -/
def idmMessageValid (msg : IdmMessage) : Bool :=
  msg.header.magic == idmMagic && msg.header.version == idmVersion &&
    decide (msg.header.payloadLen.toNat ≤ idmMaxPayloadSize)

/-- Validity and size read the header only. -/
theorem idmMessageValid_congr {m m' : IdmMessage} (h : m.header = m'.header) :
    idmMessageValid m = idmMessageValid m' := by
  simp [idmMessageValid, h]

theorem idmMessageSize_congr {m m' : IdmMessage} (h : m.header = m'.header) :
    idmMessageSize m = idmMessageSize m' := by
  simp [idmMessageSize, h]

/-- The bytes `memcpy(dst, msg, idm_message_size(msg))` copies. -/
def IdmMessage.bytes (msg : IdmMessage) : List UInt8 :=
  msg.header.bytes ++ readBytes msg.payload 0 msg.header.payloadLen.toNat

/-- The message a pointer to offset `base` of a region designates
    (`&ring->entries[idx].msg`, or a freshly copied buffer at `0`). -/
def IdmMessage.at (mem : Mem) (base : Nat) : IdmMessage where
  header := IdmHeader.read mem base
  payload := fun i => mem (base + idmHeaderSize + i)

@[simp] theorem IdmMessage.length_bytes (msg : IdmMessage) :
    msg.bytes.length = idmMessageSize msg := by
  simp [IdmMessage.bytes, idmMessageSize]

/-- The message at a location is exactly the `idm_message_size` bytes there. -/
theorem IdmMessage.bytes_at (mem : Mem) (base : Nat) :
    (IdmMessage.at mem base).bytes = readBytes mem base (idmMessageSize (IdmMessage.at mem base)) := by
  rw [idmMessageSize, readBytes_add, IdmMessage.bytes]
  simp only [IdmMessage.at, IdmHeader.bytes_read, readBytes, Nat.zero_add]

/-- A region holding a message's bytes designates a message with its header. -/
theorem IdmMessage.at_header {mem : Mem} {base : Nat} {msg : IdmMessage}
    (h : readBytes mem base (idmMessageSize msg) = msg.bytes) :
    (IdmMessage.at mem base).header = msg.header := by
  apply IdmHeader.read_of_readBytes
  have h32 := congrArg (List.take idmHeaderSize) h
  rwa [take_readBytes _ _ _ _ (by simp [idmMessageSize]), IdmMessage.bytes,
    List.take_left' (IdmHeader.length_bytes _)] at h32

/-- **Round trip through memory.** Copying a message into a region and taking
    the message found there gives back the same bytes. -/
theorem IdmMessage.bytes_at_of_readBytes {mem : Mem} {base : Nat} {msg : IdmMessage}
    (h : readBytes mem base (idmMessageSize msg) = msg.bytes) :
    (IdmMessage.at mem base).bytes = msg.bytes := by
  have hsize : idmMessageSize (IdmMessage.at mem base) = idmMessageSize msg := by
    simp [idmMessageSize, IdmMessage.at_header h]
  rw [IdmMessage.bytes_at, hsize, h]

/-! ## §4. Request and response payloads. -/

/-- `struct idm_gpu_alloc`. -/
structure IdmGpuAlloc where
  size : UInt64
  flags : UInt32
  reserved : UInt32
  deriving DecidableEq, Repr

/-- `struct idm_gpu_free`. -/
structure IdmGpuFree where
  handle : UInt64
  deriving DecidableEq, Repr

/-- `struct idm_gpu_copy_h2d`; the data follows the struct. -/
structure IdmGpuCopyH2d where
  dstHandle : UInt64
  dstOffset : UInt64
  size : UInt64
  deriving DecidableEq, Repr

/-- `struct idm_gpu_copy_d2h`. -/
structure IdmGpuCopyD2h where
  srcHandle : UInt64
  srcOffset : UInt64
  size : UInt64
  deriving DecidableEq, Repr

/-- `struct idm_gpu_copy_d2d`. -/
structure IdmGpuCopyD2d where
  dstHandle : UInt64
  srcHandle : UInt64
  dstOffset : UInt64
  srcOffset : UInt64
  size : UInt64
  deriving DecidableEq, Repr

/-- `struct idm_gpu_sync`. -/
structure IdmGpuSync where
  flags : UInt32
  reserved : UInt32
  deriving DecidableEq, Repr

/-- `struct idm_response_ok`. -/
structure IdmResponseOk where
  requestSeq : UInt64
  resultHandle : UInt64
  resultValue : UInt32
  dataLen : UInt32
  deriving DecidableEq, Repr

/-- `struct idm_response_error`; `errorMsg` is the 256-byte `char` array. -/
structure IdmResponseError where
  requestSeq : UInt64
  errorCode : UInt32
  cudaError : UInt32
  errorMsg : List UInt8
  deriving DecidableEq, Repr

/-- `sizeof(struct idm_gpu_alloc)`. -/
def IdmGpuAlloc.sizeof : Nat := 16
/-- `sizeof(struct idm_gpu_free)`. -/
def IdmGpuFree.sizeof : Nat := 8
/-- `sizeof(struct idm_gpu_copy_h2d)`. -/
def IdmGpuCopyH2d.sizeof : Nat := 24
/-- `sizeof(struct idm_gpu_copy_d2h)`. -/
def IdmGpuCopyD2h.sizeof : Nat := 24
/-- `sizeof(struct idm_gpu_copy_d2d)`. -/
def IdmGpuCopyD2d.sizeof : Nat := 40
/-- `sizeof(struct idm_gpu_sync)`. -/
def IdmGpuSync.sizeof : Nat := 8
/-- `sizeof(struct idm_response_ok)`. -/
def IdmResponseOk.sizeof : Nat := 24
/-- `sizeof(struct idm_response_error)`. -/
def IdmResponseError.sizeof : Nat := 272

/-- The packed bytes of a request built by the user side. -/
def IdmGpuAlloc.bytes (r : IdmGpuAlloc) : List UInt8 :=
  r.size.toLE ++ r.flags.toLE ++ r.reserved.toLE
/-- The packed bytes of a `GPU_FREE` request. -/
def IdmGpuFree.bytes (r : IdmGpuFree) : List UInt8 := r.handle.toLE
/-- The packed bytes of a `GPU_COPY_H2D` request header (the data is appended). -/
def IdmGpuCopyH2d.bytes (r : IdmGpuCopyH2d) : List UInt8 :=
  r.dstHandle.toLE ++ r.dstOffset.toLE ++ r.size.toLE
/-- The packed bytes of a `GPU_COPY_D2H` request. -/
def IdmGpuCopyD2h.bytes (r : IdmGpuCopyD2h) : List UInt8 :=
  r.srcHandle.toLE ++ r.srcOffset.toLE ++ r.size.toLE
/-- The packed bytes of a `GPU_COPY_D2D` request. -/
def IdmGpuCopyD2d.bytes (r : IdmGpuCopyD2d) : List UInt8 :=
  r.dstHandle.toLE ++ r.srcHandle.toLE ++ r.dstOffset.toLE ++ r.srcOffset.toLE ++ r.size.toLE
/-- The packed bytes of a `GPU_SYNC` request. -/
def IdmGpuSync.bytes (r : IdmGpuSync) : List UInt8 := r.flags.toLE ++ r.reserved.toLE
/-- The packed bytes of a `RESPONSE_OK` payload. -/
def IdmResponseOk.bytes (r : IdmResponseOk) : List UInt8 :=
  r.requestSeq.toLE ++ r.resultHandle.toLE ++ r.resultValue.toLE ++ r.dataLen.toLE
/-- The packed bytes of a `RESPONSE_ERROR` payload. -/
def IdmResponseError.bytes (r : IdmResponseError) : List UInt8 :=
  r.requestSeq.toLE ++ r.errorCode.toLE ++ r.cudaError.toLE ++ r.errorMsg

/-- `(const struct idm_gpu_alloc *)msg->payload`. -/
def IdmGpuAlloc.read (p : Mem) : IdmGpuAlloc where
  size := UInt64.ofNat (readLE p 0 8)
  flags := UInt32.ofNat (readLE p 8 4)
  reserved := UInt32.ofNat (readLE p 12 4)
/-- `(const struct idm_gpu_free *)msg->payload`. -/
def IdmGpuFree.read (p : Mem) : IdmGpuFree where
  handle := UInt64.ofNat (readLE p 0 8)
/-- `(const struct idm_gpu_copy_h2d *)msg->payload`. -/
def IdmGpuCopyH2d.read (p : Mem) : IdmGpuCopyH2d where
  dstHandle := UInt64.ofNat (readLE p 0 8)
  dstOffset := UInt64.ofNat (readLE p 8 8)
  size := UInt64.ofNat (readLE p 16 8)
/-- `(const struct idm_gpu_copy_d2h *)msg->payload`. -/
def IdmGpuCopyD2h.read (p : Mem) : IdmGpuCopyD2h where
  srcHandle := UInt64.ofNat (readLE p 0 8)
  srcOffset := UInt64.ofNat (readLE p 8 8)
  size := UInt64.ofNat (readLE p 16 8)
/-- `(const struct idm_response_ok *)resp->payload`. -/
def IdmResponseOk.read (p : Mem) : IdmResponseOk where
  requestSeq := UInt64.ofNat (readLE p 0 8)
  resultHandle := UInt64.ofNat (readLE p 8 8)
  resultValue := UInt32.ofNat (readLE p 16 4)
  dataLen := UInt32.ofNat (readLE p 20 4)
/-- `(const struct idm_response_error *)resp->payload`. -/
def IdmResponseError.read (p : Mem) : IdmResponseError where
  requestSeq := UInt64.ofNat (readLE p 0 8)
  errorCode := UInt32.ofNat (readLE p 8 4)
  cudaError := UInt32.ofNat (readLE p 12 4)
  errorMsg := readBytes p 16 256

/-! ## §5. Payload round trips. -/

/-- A field read from a byte list seen as a region is a slice of the list. -/
theorem readLE_listMem (bs : List UInt8) {off n : Nat} (h : off + n ≤ bs.length) :
    readLE (listMem bs) off n = leValue ((bs.drop off).take n) := by
  have hs := readBytes_slice (listMem bs) 0 off n bs.length h
  rw [Nat.zero_add, readBytes_listMem _ _ le_rfl, List.take_length] at hs
  rw [readLE, hs]

/-- The bytes after a prefix of a byte list seen as a region. -/
theorem readBytes_listMem_append (as bs : List UInt8) :
    readBytes (listMem (as ++ bs)) as.length bs.length = bs := by
  have hs := readBytes_slice (listMem (as ++ bs)) 0 as.length bs.length (as ++ bs).length (by simp)
  rw [Nat.zero_add, readBytes_listMem _ _ le_rfl, List.take_length] at hs
  simp [hs]

/-- Decoding the packed bytes of a request gives the request back. -/
theorem IdmGpuAlloc.read_listMem (r : IdmGpuAlloc) : IdmGpuAlloc.read (listMem r.bytes) = r := by
  cases r
  simp only [IdmGpuAlloc.read, IdmGpuAlloc.bytes]
  rw [readLE_listMem _ (by simp), readLE_listMem _ (by simp), readLE_listMem _ (by simp)]
  simp [List.append_assoc, List.drop_append_eq_append_drop, List.take_append_eq_append_take,
    List.drop_eq_nil_of_le, List.take_of_length_le, UInt32.ofNat_leValue_toLE, UInt64.ofNat_leValue_toLE]

theorem IdmGpuFree.read_listMem (r : IdmGpuFree) : IdmGpuFree.read (listMem r.bytes) = r := by
  cases r
  simp only [IdmGpuFree.read, IdmGpuFree.bytes]
  rw [readLE_listMem _ (by simp)]
  simp [List.take_of_length_le, UInt64.ofNat_leValue_toLE]

/-- A `COPY_H2D` request decodes the same with its data after it. -/
theorem IdmGpuCopyH2d.read_listMem (r : IdmGpuCopyH2d) (data : List UInt8) :
    IdmGpuCopyH2d.read (listMem (r.bytes ++ data)) = r := by
  cases r
  simp only [IdmGpuCopyH2d.read, IdmGpuCopyH2d.bytes]
  rw [readLE_listMem _ (by simp), readLE_listMem _ (by simp; omega), readLE_listMem _ (by simp; omega)]
  simp [List.append_assoc, List.drop_append_eq_append_drop, List.take_append_eq_append_take,
    List.drop_eq_nil_of_le, List.take_of_length_le, UInt64.ofNat_leValue_toLE]

theorem IdmGpuCopyD2h.read_listMem (r : IdmGpuCopyD2h) : IdmGpuCopyD2h.read (listMem r.bytes) = r := by
  cases r
  simp only [IdmGpuCopyD2h.read, IdmGpuCopyD2h.bytes]
  rw [readLE_listMem _ (by simp), readLE_listMem _ (by simp), readLE_listMem _ (by simp)]
  simp [List.append_assoc, List.drop_append_eq_append_drop, List.take_append_eq_append_take,
    List.drop_eq_nil_of_le, List.take_of_length_le, UInt64.ofNat_leValue_toLE]

theorem IdmResponseOk.read_listMem (r : IdmResponseOk) : IdmResponseOk.read (listMem r.bytes) = r := by
  cases r
  simp only [IdmResponseOk.read, IdmResponseOk.bytes]
  rw [readLE_listMem _ (by simp), readLE_listMem _ (by simp), readLE_listMem _ (by simp),
    readLE_listMem _ (by simp)]
  simp [List.append_assoc, List.drop_append_eq_append_drop, List.take_append_eq_append_take,
    List.drop_eq_nil_of_le, List.take_of_length_le, UInt32.ofNat_leValue_toLE, UInt64.ofNat_leValue_toLE]

/-- A `RESPONSE_ERROR` payload decodes to itself when its message text
    fills the 256-byte array. -/
theorem IdmResponseError.read_listMem (r : IdmResponseError) (h : r.errorMsg.length = 256) :
    IdmResponseError.read (listMem r.bytes) = r := by
  cases r with
  | mk requestSeq errorCode cudaError errorMsg =>
  dsimp only at h
  have hmsg : readBytes (listMem (requestSeq.toLE ++ errorCode.toLE ++ cudaError.toLE ++ errorMsg)) 16 256 =
      errorMsg := by
    simpa [h] using readBytes_listMem_append (requestSeq.toLE ++ errorCode.toLE ++ cudaError.toLE) errorMsg
  simp only [IdmResponseError.read, IdmResponseError.bytes, hmsg]
  rw [readLE_listMem _ (by simp), readLE_listMem _ (by simp; omega), readLE_listMem _ (by simp; omega)]
  simp [List.append_assoc, List.drop_append_eq_append_drop, List.take_append_eq_append_take,
    List.drop_eq_nil_of_le, List.take_of_length_le, UInt32.ofNat_leValue_toLE, UInt64.ofNat_leValue_toLE]

/-! ## §6. Copies into a fresh buffer. -/

/-- The message a fresh buffer holds after `memcpy(buf, msg,
    idm_message_size(msg))`: the message's bytes laid over what the block
    held, read back from offset 0.  Past the bytes copied the buffer is not
    the message's: a read there sees the block. -/
def IdmMessage.copyInto (blk : Mem) (msg : IdmMessage) : IdmMessage :=
  IdmMessage.at (writeBytes blk 0 msg.bytes) 0

/-- The copy depends on the message's bytes only. -/
theorem IdmMessage.copyInto_congr (blk : Mem) {m m' : IdmMessage} (h : m.bytes = m'.bytes) :
    m.copyInto blk = m'.copyInto blk := by
  rw [IdmMessage.copyInto, h, IdmMessage.copyInto]

theorem IdmMessage.readBytes_copy (blk : Mem) (msg : IdmMessage) :
    readBytes (writeBytes blk 0 msg.bytes) 0 (idmMessageSize msg) = msg.bytes := by
  rw [← IdmMessage.length_bytes, readBytes_writeBytes_self]

/-- **Copy round trip.** The copy has the message's header and bytes. -/
@[simp] theorem IdmMessage.copyInto_header (blk : Mem) (msg : IdmMessage) :
    (msg.copyInto blk).header = msg.header :=
  IdmMessage.at_header (IdmMessage.readBytes_copy blk msg)

@[simp] theorem IdmMessage.bytes_copyInto (blk : Mem) (msg : IdmMessage) :
    (msg.copyInto blk).bytes = msg.bytes :=
  IdmMessage.bytes_at_of_readBytes (IdmMessage.readBytes_copy blk msg)

/-- Below `payload_len` the copy's payload is the message's. -/
theorem IdmMessage.copyInto_payload (blk : Mem) (msg : IdmMessage) {i : Nat}
    (hi : i < msg.header.payloadLen.toNat) : (msg.copyInto blk).payload i = msg.payload i := by
  have hn : idmHeaderSize + i < msg.bytes.length := by
    rw [IdmMessage.length_bytes, idmMessageSize]
    omega
  simp [IdmMessage.copyInto, IdmMessage.at, writeBytes, hn, List.getD_eq_getElem?_getD,
    IdmMessage.bytes, List.getElem?_append_right, idmHeaderSize, readBytes, hi]

/-- Past `payload_len` the copy carries nothing of the message: a read there
    is a read past the bytes copied, of whatever the block holds. -/
theorem IdmMessage.copyInto_payload_of_le (blk : Mem) (msg : IdmMessage) {i : Nat}
    (hi : msg.header.payloadLen.toNat ≤ i) : (msg.copyInto blk).payload i = blk (idmHeaderSize + i) := by
  have hn : ¬ (idmHeaderSize + i < msg.bytes.length) := by
    rw [IdmMessage.length_bytes, idmMessageSize]
    omega
  simp only [IdmMessage.copyInto, IdmMessage.at, writeBytes, Nat.zero_add, hn, and_false, ↓reduceIte]

/-- A C string literal's bytes (the literals of this code are ASCII). -/
def asciiBytes (s : String) : List UInt8 := s.toList.map fun c => UInt8.ofNat c.toNat

end XenGpuProxy
