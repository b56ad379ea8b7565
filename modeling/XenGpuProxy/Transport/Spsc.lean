/-
  XenGpuProxy.Transport.Spsc — the ring under concurrency.  One sender runs
  `idm_send`, one receiver runs `idm_recv`, each call cut at its index loads
  and stores, and the two interleave arbitrarily.

  A call is a sequence of atomic steps, each holding at most one access to a
  shared index:

      idm_send:  validate, load producer | load consumer, check room |
                 memcpy into the slot, wmb | store producer + 1
      idm_recv:  wake, load consumer | load producer, check non-empty |
                 validate the slot, malloc, memcpy, wmb | store consumer + 1

  The state carries two history variables: `sent`, the messages `idm_send`
  accepted, and `recvd`, the byte strings `idm_recv` returned.  The indices
  are the code's 32-bit counters and wrap; the histories are unbounded, and
  the invariant ties the two through a fixed starting value `base`.

  Main results:
    * `spscInv_step` — every step keeps `SpscInv`, so it holds on every
      reachable state (`reachable_spscInv`).
    * `spsc_ring_safe` — in every reachable state the unsigned difference of
      the indices is at most `IDM_RING_SIZE`, the received messages are a
      byte-exact prefix of the accepted ones, every accepted and unreceived
      message is intact in its slot, and the consumer load makes `idm_send`
      fail with `-ENOSPC` exactly when the difference is `IDM_RING_SIZE`.
    * `idmBuildMessage_received` — a message `idm_build_message` made from a
      payload shorter than 2^32 bytes reaches the peer with its header and
      exactly its payload, under every interleaving.
    * `idmSend_as_steps` / `idmRecv_as_steps` — an atomic call is its steps run
      back to back, doing the same to the ring and to the histories of
      accepted and received messages, so the atomic schedules are among
      those covered (used by `Transport.Fifo`).
-/
import XenGpuProxy.Transport.Ring

namespace XenGpuProxy

/-! ## §1. The split calls. -/

/-- Where the sender is inside `idm_send`.  `ready` carries the last call's
    return value. -/
inductive SendPc
  | ready (last : Option (Except Errno Unit))
  /-- validated; the producer index it loaded -/
  | loadedProd (msg : IdmMessage) (prod : UInt32)
  /-- consumer loaded, room found -/
  | checked (msg : IdmMessage) (prod : UInt32)
  /-- slot written, write barrier done -/
  | copied (msg : IdmMessage) (prod : UInt32)

/-- Where the receiver is inside `idm_recv`. -/
inductive RecvPc
  | ready (last : Option (Except Errno (List UInt8)))
  /-- woken; the consumer index it loaded -/
  | loadedCons (cons : UInt32)
  /-- producer loaded, a message is there -/
  | checked (cons : UInt32)
  /-- message copied out, write barrier done -/
  | copied (cons : UInt32) (copy : List UInt8)
  /-- the slot failed `idm_message_valid`; it is skipped -/
  | skipping (cons : UInt32)

/-- Both parties on one ring, with the histories. -/
structure SpscState where
  ring : IdmRing
  send : SendPc
  recv : RecvPc
  /-- the messages `idm_send` accepted, in order -/
  sent : List IdmMessage
  /-- the byte strings `idm_recv` returned, in order -/
  recvd : List (List UInt8)

/-- The atomic steps of the two parties. -/
inductive SpscAction
  | sendBegin (msg : IdmMessage)
  | sendLoadCons
  | sendCopy
  | sendPublish
  /-- the semaphore wait returned, or failed with an error `idm_recv` returns -/
  | recvBegin (wait : Except Errno Unit)
  | recvLoadProd
  /-- `mallocOk`: the outcome of the copy's `malloc` -/
  | recvCopy (mallocOk : Bool)
  | recvPublish

/-- The sender's steps, as the code of `idm_send` between its index accesses. -/
def sendStep (s : SpscState) : SpscAction → Option SpscState
  | .sendBegin msg => match s.send with
    | .ready _ =>
      if !idmMessageValid msg || decide (idmMessageSize msg > idmRingEntrySize) then
        some { s with send := .ready (some (.error .einval)) }
      else some { s with send := .loadedProd msg s.ring.producer }
    | _ => none
  | .sendLoadCons => match s.send with
    | .loadedProd msg prod =>
      if prod - s.ring.consumer ≥ idmRingSize then
        some { s with send := .ready (some (.error .enospc)) }
      else some { s with send := .checked msg prod }
    | _ => none
  | .sendCopy => match s.send with
    | .checked msg prod =>
      some { s with
        ring := { s.ring with
          entries := writeBytes s.ring.entries (slotBase (prod % idmRingSize)) msg.bytes }
        send := .copied msg prod }
    | _ => none
  | .sendPublish => match s.send with
    | .copied msg prod =>
      some { s with
        ring := { s.ring with producer := prod + 1 }
        send := .ready (some (.ok ()))
        sent := s.sent ++ [msg] }
    | _ => none
  | _ => none

/-- The receiver's steps, as the code of `idm_recv` between its index accesses. -/
def recvStep (s : SpscState) : SpscAction → Option SpscState
  | .recvBegin wait => match s.recv with
    | .ready _ =>
      match wait with
      | .ok () => some { s with recv := .loadedCons s.ring.consumer }
      | .error e => some { s with recv := .ready (some (.error e)) }
    | _ => none
  | .recvLoadProd => match s.recv with
    | .loadedCons cons =>
      if cons = s.ring.producer then some { s with recv := .ready (some (.error .eagain)) }
      else some { s with recv := .checked cons }
    | _ => none
  | .recvCopy mallocOk => match s.recv with
    | .checked cons =>
      let base := slotBase (cons % idmRingSize)
      let ringMsg := IdmMessage.at s.ring.entries base
      if !idmMessageValid ringMsg then some { s with recv := .skipping cons }
      else if !mallocOk then some { s with recv := .ready (some (.error .enomem)) }
      else some { s with recv := .copied cons (readBytes s.ring.entries base (idmMessageSize ringMsg)) }
    | _ => none
  | .recvPublish => match s.recv with
    | .copied cons copy =>
      some { s with
        ring := { s.ring with consumer := cons + 1 }
        recv := .ready (some (.ok copy))
        recvd := s.recvd ++ [copy] }
    | .skipping cons =>
      some { s with
        ring := { s.ring with consumer := cons + 1 }
        recv := .ready (some (.error .einval)) }
    | _ => none
  | _ => none

/-- One step of either party. -/
def spscStep (s : SpscState) (a : SpscAction) : Option SpscState :=
  match a with
  | .sendBegin _ | .sendLoadCons | .sendCopy | .sendPublish => sendStep s a
  | _ => recvStep s a

/-- Both parties idle on a ring whose indices both equal `base` (0 after the
    server's `memset`); the slot bytes are arbitrary. -/
def SpscState.init (base : UInt32) (entries : Mem) : SpscState :=
  { ring := { producer := base, consumer := base, entries },
    send := .ready none, recv := .ready none, sent := [], recvd := [] }

/-- The states some interleaving reaches from indices starting at `base`. -/
inductive Reachable (base : UInt32) : SpscState → Prop
  | init (entries : Mem) : Reachable base (SpscState.init base entries)
  | step {s s' : SpscState} (a : SpscAction) :
      Reachable base s → spscStep s a = some s' → Reachable base s'

/-! ## §2. The invariant. -/

/-- Slot `i` of a ring's entries begins with the byte string `bs`. -/
def SlotHolds (mem : Mem) (i : Nat) (bs : List UInt8) : Prop :=
  readBytes mem (i * idmRingEntrySize) bs.length = bs

/-- What `idm_send` lets into the ring: a valid message no larger than a slot. -/
def Fits (msg : IdmMessage) : Prop :=
  idmMessageValid msg = true ∧ idmMessageSize msg ≤ idmRingEntrySize

/-- The slot of the `k`-th message counted from the starting index `base`. -/
def slotOf (base : UInt32) (k : Nat) : Nat := (base.toNat + k) % 32

/-- What the sender's position says about the shared state. -/
def SendInv (base : UInt32) (s : SpscState) : Prop :=
  match s.send with
  | .ready _ => True
  | .loadedProd msg p => p = s.ring.producer ∧ Fits msg
  | .checked msg p => p = s.ring.producer ∧ Fits msg ∧ s.sent.length < s.recvd.length + 32
  | .copied msg p =>
    p = s.ring.producer ∧ Fits msg ∧ s.sent.length < s.recvd.length + 32 ∧
      SlotHolds s.ring.entries (slotOf base s.sent.length) msg.bytes

/-- What the receiver's position says about the shared state.  A receiver
    never finds an invalid slot: every published slot holds an accepted message. -/
def RecvInv (s : SpscState) : Prop :=
  match s.recv with
  | .ready _ => True
  | .loadedCons c => c = s.ring.consumer
  | .checked c => c = s.ring.consumer ∧ s.recvd.length < s.sent.length
  | .copied c copy =>
    c = s.ring.consumer ∧ ∃ h : s.recvd.length < s.sent.length, copy = s.sent[s.recvd.length].bytes
  | .skipping _ => False

/-- **The ring invariant.**  The indices are the histories' lengths counted
    from `base` modulo 2^32; at most `IDM_RING_SIZE` messages are pending; what
    was received is a prefix of what was sent; every pending message is intact
    in its slot; and each party's position is consistent. -/
structure SpscInv (base : UInt32) (s : SpscState) : Prop where
  producer_eq : s.ring.producer.toNat = (base.toNat + s.sent.length) % 2 ^ 32
  consumer_eq : s.ring.consumer.toNat = (base.toNat + s.recvd.length) % 2 ^ 32
  recvd_le : s.recvd.length ≤ s.sent.length
  sent_le : s.sent.length ≤ s.recvd.length + 32
  recvd_prefix : s.recvd = (s.sent.map IdmMessage.bytes).take s.recvd.length
  sent_fit : ∀ m ∈ s.sent, Fits m
  pending : ∀ k (hk : k < s.sent.length), s.recvd.length ≤ k →
    SlotHolds s.ring.entries (slotOf base k) s.sent[k].bytes
  send_pc : SendInv base s
  recv_pc : RecvInv s

/-! ## §3. Index arithmetic and slot framing. -/

section Arith

variable {base p c : UInt32} {n k : Nat}

/-- The slot an index names is the slot of the count it stands for. -/
theorem slotBase_of_toNat (h : p.toNat = (base.toNat + n) % 2 ^ 32) :
    slotBase (p % idmRingSize) = slotOf base n * idmRingEntrySize := by
  simp only [slotBase, slotOf, UInt32.toNat_mod, idmRingSize_toNat, h]
  congr 1
  omega

/-- The unsigned index difference is the number of pending messages. -/
theorem sub_toNat_of_counts (hp : p.toNat = (base.toNat + n) % 2 ^ 32)
    (hc : c.toNat = (base.toNat + k) % 2 ^ 32) (hkn : k ≤ n) (hn : n ≤ k + 32) :
    (p - c).toNat = n - k := by
  have hb := base.toNat_lt_size
  rw [UInt32.toNat_sub', hp, hc]
  simp only [UInt32.size] at hb
  omega

/-- Two indices are equal exactly when their counts are. -/
theorem eq_iff_of_counts (hp : p.toNat = (base.toNat + n) % 2 ^ 32)
    (hc : c.toNat = (base.toNat + k) % 2 ^ 32) (hkn : k ≤ n) (hn : n ≤ k + 32) :
    c = p ↔ k = n := by
  have hb := base.toNat_lt_size
  simp only [UInt32.size] at hb
  constructor
  · intro he
    have := congrArg UInt32.toNat he
    omega
  · intro he
    exact UInt32.toNat.inj (by omega)

/-- Publishing an index advances its count by one. -/
theorem succ_toNat_of_count (hp : p.toNat = (base.toNat + n) % 2 ^ 32) :
    (p + 1).toNat = (base.toNat + (n + 1)) % 2 ^ 32 := by
  rw [UInt32.toNat_add', hp]
  simp only [show (1 : UInt32).toNat = 1 from rfl]
  omega

/-- Fewer than 32 messages apart, two counts name different slots. -/
theorem slotOf_ne (hk : k < n) (hn : n < k + 32) : slotOf base k ≠ slotOf base n := by
  simp only [slotOf]
  omega

end Arith

/-- **Frame.** Writing at most a slot into slot `j` keeps what slot `i ≠ j`
    holds. -/
theorem SlotHolds.write {mem : Mem} {i j : Nat} {bs bs' : List UInt8} (h : SlotHolds mem i bs)
    (hij : i ≠ j) (hbs : bs.length ≤ idmRingEntrySize) (hbs' : bs'.length ≤ idmRingEntrySize) :
    SlotHolds (writeBytes mem (j * idmRingEntrySize) bs') i bs := by
  unfold SlotHolds at h ⊢
  rw [readBytes_writeBytes_of_disjoint _ _ _ _ _ (by simp only [idmRingEntrySize] at *; omega), h]

theorem SlotHolds.write_self (mem : Mem) (j : Nat) (bs : List UInt8) :
    SlotHolds (writeBytes mem (j * idmRingEntrySize) bs) j bs :=
  readBytes_writeBytes_self _ _ _

theorem Fits.length_le {msg : IdmMessage} (h : Fits msg) : msg.bytes.length ≤ idmRingEntrySize := by
  simpa using h.2

/-- **Read side.** A slot holding a message designates a message with its
    header, and `idm_recv`'s copy of it is the message's bytes. -/
theorem SlotHolds.read {mem : Mem} {i : Nat} {msg : IdmMessage} (h : SlotHolds mem i msg.bytes) :
    (IdmMessage.at mem (i * idmRingEntrySize)).header = msg.header ∧
      readBytes mem (i * idmRingEntrySize)
        (idmMessageSize (IdmMessage.at mem (i * idmRingEntrySize))) = msg.bytes := by
  rw [SlotHolds, IdmMessage.length_bytes] at h
  have hhdr := IdmMessage.at_header h
  exact ⟨hhdr, by rw [idmMessageSize, hhdr, ← idmMessageSize, h]⟩

theorem UInt32.le_iff_toNat_le (a b : UInt32) : a ≤ b ↔ a.toNat ≤ b.toNat := Iff.rfl

/-! ## §4. Each step keeps the invariant. -/

section Steps

variable {base : UInt32} {s s' : SpscState}

/-- The receiver's position stays consistent when the sender publishes: its
    view is unchanged and one more message has been sent. -/
theorem RecvInv.of_sent_append {m : IdmMessage} (hi : RecvInv s) (hr : s'.recv = s.recv)
    (hc : s'.ring.consumer = s.ring.consumer) (hrv : s'.recvd = s.recvd) (hs : s'.sent = s.sent ++ [m]) :
    RecvInv s' := by
  unfold RecvInv at hi ⊢
  rw [hr, hc, hrv, hs]
  revert hi
  cases s.recv with
  | checked c =>
    exact fun ⟨hc, hlt⟩ => ⟨hc, by simp only [List.length_append, List.length_singleton]; omega⟩
  | copied c copy =>
    rintro ⟨hc, hlt, rfl⟩
    exact ⟨hc, by simp only [List.length_append, List.length_singleton]; omega,
      by rw [List.getElem_append_left hlt]⟩
  | _ => exact id

/-- The sender's position stays consistent when the receiver publishes: its
    view and the slots are unchanged and one more message has been received. -/
theorem SendInv.of_recvd_append {bs : List UInt8} (hi : SendInv base s) (hsd : s'.send = s.send)
    (hp : s'.ring.producer = s.ring.producer) (he : s'.ring.entries = s.ring.entries)
    (hst : s'.sent = s.sent) (hrv : s'.recvd = s.recvd ++ [bs]) : SendInv base s' := by
  unfold SendInv at hi ⊢
  rw [hsd, hp, he, hst, hrv]
  revert hi
  cases s.send with
  | checked msg p =>
    exact fun ⟨h1, h2, h3⟩ => ⟨h1, h2, by simp only [List.length_append, List.length_singleton]; omega⟩
  | copied msg p =>
    exact fun ⟨h1, h2, h3, h4⟩ => ⟨h1, h2, by simp only [List.length_append, List.length_singleton]; omega, h4⟩
  | _ => exact id

theorem spscInv_sendBegin {msg : IdmMessage} (hi : SpscInv base s)
    (h : spscStep s (.sendBegin msg) = some s') : SpscInv base s' := by
  cases hs : s.send with
  | ready last =>
    simp only [spscStep, sendStep, hs] at h
    split_ifs at h with hv <;> obtain rfl := Option.some.inj h
    · exact { hi with send_pc := trivial }
    · simp only [Bool.or_eq_true, Bool.not_eq_true', decide_eq_true_eq, not_or,
        Bool.not_eq_false, not_lt] at hv
      exact { hi with send_pc := ⟨rfl, hv⟩ }
  | _ => simp [spscStep, sendStep, hs] at h

theorem spscInv_sendLoadCons (hi : SpscInv base s) (h : spscStep s .sendLoadCons = some s') :
    SpscInv base s' := by
  cases hs : s.send with
  | loadedProd msg p =>
    obtain ⟨hp, hfit⟩ : p = s.ring.producer ∧ Fits msg := by simpa [SendInv, hs] using hi.send_pc
    simp only [spscStep, sendStep, hs] at h
    split_ifs at h with hfull <;> obtain rfl := Option.some.inj h
    · exact { hi with send_pc := trivial }
    · have hd := sub_toNat_of_counts (hp ▸ hi.producer_eq) hi.consumer_eq hi.recvd_le hi.sent_le
      simp only [GE.ge, UInt32.le_iff_toNat_le, hd, idmRingSize_toNat] at hfull
      exact { hi with send_pc := ⟨hp, hfit, by dsimp only; omega⟩ }
  | _ => simp [spscStep, sendStep, hs] at h

theorem spscInv_sendCopy (hi : SpscInv base s) (h : spscStep s .sendCopy = some s') :
    SpscInv base s' := by
  cases hs : s.send with
  | checked msg p =>
    obtain ⟨hp, hfit, hroom⟩ : p = s.ring.producer ∧ Fits msg ∧
        s.sent.length < s.recvd.length + 32 := by simpa [SendInv, hs] using hi.send_pc
    simp only [spscStep, sendStep, hs] at h
    obtain rfl := Option.some.inj h
    have hslot := slotBase_of_toNat (hp ▸ hi.producer_eq)
    refine { hi with pending := ?_, send_pc := ?_ }
    · intro k hk hK
      dsimp only at hk hK ⊢
      rw [hslot]
      exact (hi.pending k hk hK).write (slotOf_ne hk (by omega))
        (hi.sent_fit _ (List.getElem_mem ..)).length_le hfit.length_le
    · exact ⟨hp, hfit, hroom, by rw [hslot]; exact SlotHolds.write_self ..⟩
  | _ => simp [spscStep, sendStep, hs] at h

theorem spscInv_sendPublish (hi : SpscInv base s) (h : spscStep s .sendPublish = some s') :
    SpscInv base s' := by
  cases hs : s.send with
  | copied msg p =>
    obtain ⟨hp, hfit, hroom, hholds⟩ : p = s.ring.producer ∧ Fits msg ∧
        s.sent.length < s.recvd.length + 32 ∧
        SlotHolds s.ring.entries (slotOf base s.sent.length) msg.bytes := by
      simpa [SendInv, hs] using hi.send_pc
    simp only [spscStep, sendStep, hs] at h
    obtain rfl := Option.some.inj h
    have hK := hi.recvd_le
    constructor
    · simpa using succ_toNat_of_count (hp ▸ hi.producer_eq)
    · exact hi.consumer_eq
    · simp only [List.length_append, List.length_singleton]; omega
    · simp only [List.length_append, List.length_singleton]; omega
    · rw [List.map_append, List.take_append_of_le_length (by simpa using hK)]
      exact hi.recvd_prefix
    · intro m hm
      rcases List.mem_append.mp hm with hm | hm
      · exact hi.sent_fit m hm
      · rw [List.mem_singleton.mp hm]; exact hfit
    · intro k hk hKk
      simp only [List.length_append, List.length_singleton] at hk
      rcases Nat.lt_succ_iff_lt_or_eq.mp hk with hk | rfl
      · rw [List.getElem_append_left hk]; exact hi.pending k hk hKk
      · simpa using hholds
    · trivial
    · exact hi.recv_pc.of_sent_append rfl rfl rfl rfl
  | _ => simp [spscStep, sendStep, hs] at h

theorem spscInv_recvBegin {wait : Except Errno Unit} (hi : SpscInv base s)
    (h : spscStep s (.recvBegin wait) = some s') : SpscInv base s' := by
  cases hr : s.recv with
  | ready last =>
    cases wait <;> simp only [spscStep, recvStep, hr] at h <;> obtain rfl := Option.some.inj h
    · exact { hi with recv_pc := trivial }
    · exact { hi with recv_pc := rfl }
  | _ => simp [spscStep, recvStep, hr] at h

theorem spscInv_recvLoadProd (hi : SpscInv base s) (h : spscStep s .recvLoadProd = some s') :
    SpscInv base s' := by
  cases hr : s.recv with
  | loadedCons c =>
    have hc : c = s.ring.consumer := by simpa [RecvInv, hr] using hi.recv_pc
    subst hc
    simp only [spscStep, recvStep, hr] at h
    split_ifs at h with he <;> obtain rfl := Option.some.inj h
    · exact { hi with recv_pc := trivial }
    · have hiff := eq_iff_of_counts hi.producer_eq hi.consumer_eq hi.recvd_le hi.sent_le
      have hne : s.recvd.length ≠ s.sent.length := fun heq => he (hiff.mpr heq)
      have hK := hi.recvd_le
      exact { hi with recv_pc := ⟨rfl, by dsimp only; omega⟩ }
  | _ => simp [spscStep, recvStep, hr] at h

theorem spscInv_recvCopy {ok : Bool} (hi : SpscInv base s)
    (h : spscStep s (.recvCopy ok) = some s') : SpscInv base s' := by
  cases hr : s.recv with
  | checked c =>
    obtain ⟨hc, hlt⟩ : c = s.ring.consumer ∧ s.recvd.length < s.sent.length := by
      simpa [RecvInv, hr] using hi.recv_pc
    subst hc
    have hslot := slotBase_of_toNat hi.consumer_eq
    obtain ⟨hhdr, hcopy⟩ := (hi.pending _ hlt le_rfl).read
    have hvalid : idmMessageValid (IdmMessage.at s.ring.entries
        (slotOf base s.recvd.length * idmRingEntrySize)) = true := by
      rw [idmMessageValid_congr hhdr]; exact (hi.sent_fit _ (List.getElem_mem ..)).1
    simp only [spscStep, recvStep, hr, hslot, hvalid, Bool.not_true, Bool.false_eq_true,
      ↓reduceIte] at h
    split_ifs at h <;> obtain rfl := Option.some.inj h
    · exact { hi with recv_pc := trivial }
    · exact { hi with recv_pc := ⟨rfl, hlt, hcopy⟩ }
  | _ => simp [spscStep, recvStep, hr] at h

theorem spscInv_recvPublish (hi : SpscInv base s) (h : spscStep s .recvPublish = some s') :
    SpscInv base s' := by
  cases hr : s.recv with
  | copied c copy =>
    obtain ⟨hc, hlt, hcopy⟩ : c = s.ring.consumer ∧ ∃ h : s.recvd.length < s.sent.length,
        copy = s.sent[s.recvd.length].bytes := by simpa [RecvInv, hr] using hi.recv_pc
    subst hc
    simp only [spscStep, recvStep, hr] at h
    obtain rfl := Option.some.inj h
    have hle := hi.sent_le
    constructor
    · exact hi.producer_eq
    · simpa using succ_toNat_of_count hi.consumer_eq
    · simp only [List.length_append, List.length_singleton]; omega
    · simp only [List.length_append, List.length_singleton]; omega
    · simp only [List.length_append, List.length_singleton, List.take_succ, hcopy]
      rw [← hi.recvd_prefix]
      simp [hlt]
    · exact hi.sent_fit
    · intro k hk hKk
      simp only [List.length_append, List.length_singleton] at hKk
      exact hi.pending k hk (by omega)
    · exact hi.send_pc.of_recvd_append rfl rfl rfl rfl rfl
    · trivial
  | skipping c => exact absurd hi.recv_pc (by simp [RecvInv, hr])
  | _ => simp [spscStep, recvStep, hr] at h

/-- **Step lemma.** Every step of either party keeps the ring invariant. -/
theorem spscInv_step {a : SpscAction} (hi : SpscInv base s) (h : spscStep s a = some s') :
    SpscInv base s' := by
  cases a with
  | sendBegin msg => exact spscInv_sendBegin hi h
  | sendLoadCons => exact spscInv_sendLoadCons hi h
  | sendCopy => exact spscInv_sendCopy hi h
  | sendPublish => exact spscInv_sendPublish hi h
  | recvBegin wait => exact spscInv_recvBegin hi h
  | recvLoadProd => exact spscInv_recvLoadProd hi h
  | recvCopy ok => exact spscInv_recvCopy hi h
  | recvPublish => exact spscInv_recvPublish hi h

end Steps

theorem spscInv_init (base : UInt32) (entries : Mem) :
    SpscInv base (SpscState.init base entries) where
  producer_eq := by simp [SpscState.init, Nat.mod_eq_of_lt base.toNat_lt_size]
  consumer_eq := by simp [SpscState.init, Nat.mod_eq_of_lt base.toNat_lt_size]
  recvd_le := le_rfl
  sent_le := Nat.zero_le _
  recvd_prefix := rfl
  sent_fit := by simp [SpscState.init]
  pending := by simp [SpscState.init]
  send_pc := trivial
  recv_pc := trivial

/-- **Run lemma.** The invariant holds in every reachable state. -/
theorem reachable_spscInv {base : UInt32} {s : SpscState} (h : Reachable base s) :
    SpscInv base s := by
  induction h with
  | init entries => exact spscInv_init base entries
  | step a _ hstep ih => exact spscInv_step ih hstep

/-! ## §5. The ring is safe under every interleaving. -/

/-- What the ring guarantees in a state: the unsigned index difference never
    exceeds `IDM_RING_SIZE`; the messages received so far are, byte for byte
    and in order, a prefix of the messages accepted; every accepted message not
    yet received is intact in its slot; and the sender's consumer load rejects
    its (valid, fitting) message with `-ENOSPC` exactly when the difference is
    `IDM_RING_SIZE`. -/
structure RingSafe (base : UInt32) (s : SpscState) : Prop where
  index_diff_le : (s.ring.producer - s.ring.consumer).toNat ≤ idmRingSize.toNat
  recvd_prefix : s.recvd <+: s.sent.map IdmMessage.bytes
  pending_intact : ∀ k (hk : k < s.sent.length), s.recvd.length ≤ k →
    readBytes s.ring.entries (slotOf base k * idmRingEntrySize) s.sent[k].bytes.length =
      s.sent[k].bytes
  enospc_iff : ∀ msg p, s.send = .loadedProd msg p →
    ((spscStep s .sendLoadCons).map (·.send) = some (.ready (some (.error .enospc))) ↔
      (s.ring.producer - s.ring.consumer).toNat = idmRingSize.toNat)

/-- **SPSC safety of the IDM ring.**  For one `idm_send` caller and one
    `idm_recv` caller on a ring whose indices start equal, every state any
    interleaving of their steps reaches, however far the 32-bit indices have
    wrapped, is `RingSafe`. -/
theorem spsc_ring_safe {base : UInt32} {s : SpscState} (h : Reachable base s) :
    RingSafe base s := by
  have hi := reachable_spscInv h
  have hd := sub_toNat_of_counts hi.producer_eq hi.consumer_eq hi.recvd_le hi.sent_le
  refine ⟨by rw [hd, idmRingSize_toNat]; have := hi.sent_le; omega, ?_, hi.pending, ?_⟩
  · rw [hi.recvd_prefix]; exact List.take_prefix _ _
  · intro msg p hs
    obtain ⟨rfl, -⟩ : p = s.ring.producer ∧ Fits msg := by simpa [SendInv, hs] using hi.send_pc
    have hle := hi.sent_le
    simp only [spscStep, sendStep, hs, GE.ge, UInt32.le_iff_toNat_le, hd, idmRingSize_toNat]
    split_ifs with hfull <;> simp <;> omega

/-- Indices starting at `2^32 - 1`: a request is sent, received while a
    second one is under way, and the second is published.  Both indices have
    wrapped past `2^32` (producer 1, consumer 0), with one message waiting. -/
theorem spsc_ring_safe_wrapped :
    ∃ s, Reachable 0xFFFFFFFF s ∧ s.ring.producer = 1 ∧ s.ring.consumer = 0 ∧ s.sent.length = 2 ∧
      s.recvd.length = 1 ∧ RingSafe 0xFFFFFFFF s :=
  have h : Reachable 0xFFFFFFFF _ :=
    ((((((((((((@Reachable.init 0xFFFFFFFF fun _ => 0).step (.sendBegin syncRequest) rfl).step .sendLoadCons rfl).step
      .sendCopy rfl).step .sendPublish rfl).step (.recvBegin (.ok ())) rfl).step .recvLoadProd rfl).step
      (.sendBegin syncRequest) rfl).step (.recvCopy true) rfl).step .sendLoadCons rfl).step .recvPublish rfl).step
      .sendCopy rfl).step .sendPublish rfl
  ⟨_, h, rfl, rfl, rfl, rfl, spsc_ring_safe h⟩

/-- **A built message arrives whole.**  In every state any interleaving
    reaches, a message `idm_build_message` made from a payload shorter than
    2^32 bytes, once `idm_send` accepted it and the peer's `idm_recv` copied
    it into a buffer (whatever that buffer held), carries the magic, the
    version, the connection's zone and sequence number, the destination,
    `payload_len = |payload|`, and exactly the payload. -/
theorem idmBuildMessage_received {base : UInt32} {s : SpscState} (h : Reachable base s) {k : Nat}
    (hk : k < s.recvd.length) {conn : IdmConnection} {dstZone : UInt32} {msgType : UInt16} {payload : List UInt8}
    {msg : IdmMessage} (hb : (idmBuildMessage conn true dstZone msgType payload).1 = some msg)
    (hs : s.sent[k]? = some msg) (hp : payload.length < 2 ^ 32) (blk : Mem) :
    (IdmMessage.at (writeBytes blk 0 s.recvd[k]) 0).header =
        { magic := idmMagic, version := idmVersion, msgType, srcZone := conn.localZoneId, dstZone,
          seqNum := conn.nextSeq, payloadLen := UInt32.ofNat payload.length, reserved := 0 } ∧
      (IdmMessage.at (writeBytes blk 0 s.recvd[k]) 0).header.payloadLen.toNat = payload.length ∧
      readBytes (IdmMessage.at (writeBytes blk 0 s.recvd[k]) 0).payload 0 payload.length = payload := by
  have hrk : s.recvd[k] = msg.bytes := by
    obtain ⟨_, hmk⟩ := List.getElem?_eq_some_iff.mp hs
    have hpre : s.recvd <+: s.sent.map IdmMessage.bytes := by
      rw [ SpscInv.recvd_prefix (reachable_spscInv h)]
      exact List.take_prefix _ _
    rw [hpre.getElem hk, List.getElem_map, hmk]
  have hmsg := idmBuildMessage_some hb
  have hpl : msg.header.payloadLen.toNat = payload.length := by
    rw [hmsg]
    exact (UInt32.toNat_ofNat' _).trans (Nat.mod_eq_of_lt hp)
  have hread : readBytes (msg.copyInto blk).payload 0 payload.length = payload := by
    refine (readBytes_congr fun i hi => ?_).trans ((readBytes_listMem _ _ le_rfl).trans (List.take_length _))
    rw [Nat.zero_add, IdmMessage.copyInto_payload _ _ (by rw [hpl]; exact hi), hmsg]
  rw [hrk, ← IdmMessage.copyInto, IdmMessage.copyInto_header]
  exact ⟨by rw [hmsg], hpl, hread⟩

/-- Zone 2's first `GPU_SYNC` request from a fresh connection, sent and
    received while both indices wrap past `2^32`, arrives whole in a buffer
    of `0xFF`s. -/
theorem idmBuildMessage_received_wrapped :
    ∃ s msg, Reachable 0xFFFFFFFF s ∧ ∃ hk : 0 < s.recvd.length,
      (idmBuildMessage (idmInit 2 1 false) true 1 idmGpuSync (IdmGpuSync.bytes ⟨0, 0⟩)).1 = some msg ∧
      s.sent[0]? = some msg ∧ (IdmGpuSync.bytes ⟨0, 0⟩).length < 2 ^ 32 ∧
      (IdmMessage.at (writeBytes (fun _ => 0xFF) 0 s.recvd[0]) 0).header =
          { magic := idmMagic, version := idmVersion, msgType := idmGpuSync, srcZone := 2, dstZone := 1,
            seqNum := 1, payloadLen := UInt32.ofNat (IdmGpuSync.bytes ⟨0, 0⟩).length, reserved := 0 } ∧
        (IdmMessage.at (writeBytes (fun _ => 0xFF) 0 s.recvd[0]) 0).header.payloadLen.toNat =
          (IdmGpuSync.bytes ⟨0, 0⟩).length ∧
        readBytes (IdmMessage.at (writeBytes (fun _ => 0xFF) 0 s.recvd[0]) 0).payload 0
          (IdmGpuSync.bytes ⟨0, 0⟩).length = IdmGpuSync.bytes ⟨0, 0⟩ := by
  have hb : (idmBuildMessage (idmInit 2 1 false) true 1 idmGpuSync (IdmGpuSync.bytes ⟨0, 0⟩)).1 =
      some ⟨⟨idmMagic, idmVersion, idmGpuSync, 2, 1, 1, 8, 0⟩, listMem (IdmGpuSync.bytes ⟨0, 0⟩)⟩ := rfl
  have h : Reachable 0xFFFFFFFF _ :=
    ((((((((@Reachable.init 0xFFFFFFFF fun _ => 0).step
      (.sendBegin ⟨⟨idmMagic, idmVersion, idmGpuSync, 2, 1, 1, 8, 0⟩, listMem (IdmGpuSync.bytes ⟨0, 0⟩)⟩) rfl).step
      .sendLoadCons rfl).step .sendCopy rfl).step .sendPublish rfl).step (.recvBegin (.ok ())) rfl).step
      .recvLoadProd rfl).step (.recvCopy true) rfl).step .recvPublish rfl
  have hs := idmBuildMessage_received h (k := 0) Nat.zero_lt_one hb rfl (by decide) (fun _ => 0xFF)
  exact ⟨_, _, h, Nat.zero_lt_one, hb, rfl, by decide, hs⟩

/-! ## §6. Atomic calls are schedules of their steps. -/

/-- Run a schedule of steps; `none` if one of them is not enabled. -/
def runSteps (s : SpscState) : List SpscAction → Option SpscState
  | [] => some s
  | a :: as => (spscStep s a).bind fun s' => runSteps s' as

/-- An atomic `idm_send` is the sender's steps run back to back: the same ring
    and the same return value, the receiver untouched, and the message added
    to `sent` exactly when the call returned success. -/
theorem idmSend_as_steps {conn : IdmConnection} {s : SpscState} {sem : Nat} {msg : IdmMessage}
    {last : Option (Except Errno Unit)} (hc : conn.connected = true) (hs : s.send = .ready last) :
    ∃ acts, (runSteps s acts).map (fun s' => (s'.ring, s'.send, s'.recv, s'.sent, s'.recvd)) =
      some ((idmSend conn { ring := s.ring, sem } msg).2.ring,
        .ready (some (idmSend conn { ring := s.ring, sem } msg).1), s.recv,
        s.sent ++ ((idmSend conn { ring := s.ring, sem } msg).1.toOption.map fun _ => msg).toList, s.recvd) := by
  by_cases hv : idmMessageValid msg = true ∧ ¬idmRingEntrySize < idmMessageSize msg
  · by_cases hfull : idmRingSize ≤ s.ring.producer - s.ring.consumer
    · exact ⟨[.sendBegin msg, .sendLoadCons], by
        simp [Except.toOption, runSteps, spscStep, sendStep, hs, hv, hfull, idmSend, hc]⟩
    · exact ⟨[.sendBegin msg, .sendLoadCons, .sendCopy, .sendPublish], by
        simp only [runSteps, spscStep, sendStep, hs, hv, Bool.not_true, gt_iff_lt, decide_False, Bool.or_self,
          Bool.false_eq_true, ↓reduceIte, ge_iff_le, Option.bind_some, Option.some_bind, hfull,
          Option.map_some', idmSend, hc, Except.toOption, Option.toList_some]⟩
  · refine ⟨[.sendBegin msg], ?_⟩
    rw [not_and_or, Bool.not_eq_true, not_not] at hv
    rcases hv with hv | hv <;> simp [Except.toOption, runSteps, spscStep, sendStep, hs, hv, idmSend, hc]

/-- An atomic `idm_recv` is the receiver's steps run back to back: the same
    ring and the same return value, the sender untouched, and the message's
    bytes added to `recvd` exactly when the call returned one.  The clock
    reading and the semaphore decide whether the wait returns. -/
theorem idmRecv_as_steps {conn : IdmConnection} {s : SpscState} {sem : Nat} {t : Int} {env : RecvEnv}
    {last : Option (Except Errno (List UInt8))} (hc : conn.connected = true)
    (hr : s.recv = .ready last) :
    ∃ acts, (runSteps s acts).map (fun s' => (s'.ring, s'.recv, s'.send, s'.sent, s'.recvd)) =
      some ((idmRecv conn { ring := s.ring, sem } t env).2.ring,
        .ready (some ((idmRecv conn { ring := s.ring, sem } t env).1.map IdmMessage.bytes)), s.send, s.sent,
        s.recvd ++ ((idmRecv conn { ring := s.ring, sem } t env).1.toOption.map IdmMessage.bytes).toList) := by
  by_cases hw : waitReachesSem t env.now.ts = true
  swap
  · exact ⟨[.recvBegin (.error .eagain)], by
      simp [Except.toOption, runSteps, spscStep, recvStep, hr, idmRecv, hc, hw, Except.map]⟩
  by_cases hs : sem = 0
  · exact ⟨[.recvBegin (.error (semWaitError t))], by
      simp [Except.toOption, runSteps, spscStep, recvStep, hr, idmRecv, hc, hw, hs, Except.map]⟩
  by_cases he : s.ring.consumer = s.ring.producer
  · exact ⟨[.recvBegin (.ok ()), .recvLoadProd], by
      simp [Except.toOption, runSteps, spscStep, recvStep, hr, idmRecv, hc, hw, hs, he, Except.map]⟩
  by_cases hv : idmMessageValid (IdmMessage.at s.ring.entries (slotBase (s.ring.consumer % idmRingSize)))
  · cases hm : env.mallocOk
    · exact ⟨[.recvBegin (.ok ()), .recvLoadProd, .recvCopy false], by
        simp only [runSteps, spscStep, recvStep, hr, Bool.not_eq_eq_eq_not, Bool.not_true, Bool.not_false,
          ↓reduceIte, Option.bind_some, Option.some_bind, he, hv, Bool.true_eq_false, Option.map_some',
          idmRecv, hc, hw, hm, Bool.false_eq_true, hs, Except.map, Except.toOption, Option.map_none',
          Option.toList_none, List.append_nil]⟩
    · refine ⟨[.recvBegin (.ok ()), .recvLoadProd, .recvCopy true, .recvPublish], ?_⟩
      simp only [runSteps, spscStep, recvStep, hr, Bool.not_eq_eq_eq_not, Bool.not_true, Bool.false_eq_true,
        ↓reduceIte, Option.bind_some, Option.some_bind, he, hv, Bool.true_eq_false, Option.map_some', idmRecv,
        hc, hw, hm, hs, Except.map, Except.toOption, Option.toList_some, Option.some.injEq, Prod.mk.injEq,
        RecvPc.ready.injEq, Except.ok.injEq, List.append_cancel_left_eq, List.cons.injEq, and_true, true_and,
        and_self, IdmMessage.bytes_copyInto]
      exact (IdmMessage.bytes_at _ _).symm
  · exact ⟨[.recvBegin (.ok ()), .recvLoadProd, .recvCopy env.mallocOk, .recvPublish], by
      simp only [runSteps, spscStep, recvStep, hr, Bool.not_eq_eq_eq_not, Bool.not_true, Option.bind_some,
        Option.some_bind, he, ↓reduceIte, hv, Option.map_some', idmRecv, hc, hw, Bool.false_eq_true, hs,
        Bool.not_false, Except.map, Except.toOption, Option.map_none', Option.toList_none, List.append_nil]⟩

end XenGpuProxy
