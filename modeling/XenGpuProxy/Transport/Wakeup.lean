/-
  XenGpuProxy.Transport.Wakeup — the receiver's semaphore in stub mode.  The
  peer's `idm_send` posts `/idm_sem_<zone>` once per message it publishes, and
  the local `idm_recv` takes one token before it looks at the ring; the two
  ends share one `Channel` (the peer's TX ring and semaphore are the local
  RX ones, by `init_shm`'s keys and names).  A token should stand for every
  message not yet consumed.

  Calls are atomic steps here, interleaved in any order; `Transport.Spsc`
  covers the ring's indices under split calls.

  Main results:
    * `channelRun_wakeupInv` — over every interleaving of sends and receives,
      the unconsumed messages `(producer - consumer) mod 2^32` number at most
      the tokens plus the receives that failed with `-ENOMEM`.  That path
      alone takes a token and leaves its message in the ring.
    * `channelRun_pending_le_sem` — so a run whose copies' `malloc`s all
      succeed keeps a token for every unconsumed message.
    * `idmRecv_enomem_strands_message` — one message sent, one receive whose
      `malloc` fails: the message stays with no token left, and no sequence
      of receives reaches it until the peer sends again.
-/
import XenGpuProxy.Transport.Ring

namespace XenGpuProxy

/-! ## §1. Runs of calls on one channel. -/

/-- A call on the shared channel: the peer's `idm_send`, or the local
    `idm_recv` with its timeout and its environment (the clock reading, the
    copy's `malloc`). -/
inductive ChannelCall
  | send (msg : IdmMessage)
  | recv (timeoutMs : Int) (env : RecvEnv)

/-- Whether `idm_recv` returned `-ENOMEM`. -/
def isEnomem : Except Errno IdmMessage → Bool
  | .error .enomem => true
  | _ => false

/-- One call by the peer (`sender`) or the local end (`receiver`): the
    channel after it, and whether it was a receive that failed with
    `-ENOMEM`. -/
def ChannelCall.apply (sender receiver : IdmConnection) (ch : Channel) :
    ChannelCall → Channel × Bool
  | .send msg => ((idmSend sender ch msg).2, false)
  | .recv timeoutMs env =>
    ((idmRecv receiver ch timeoutMs env).2, isEnomem (idmRecv receiver ch timeoutMs env).1)

/-- A run of calls: the channel after them, and how many receives failed
    with `-ENOMEM`. -/
def channelRun (sender receiver : IdmConnection) : Channel → List ChannelCall → Channel × Nat
  | ch, [] => (ch, 0)
  | ch, c :: cs =>
    ((channelRun sender receiver (c.apply sender receiver ch).1 cs).1,
      (c.apply sender receiver ch).2.toNat + (channelRun sender receiver (c.apply sender receiver ch).1 cs).2)

/-- `(producer - consumer) mod 2^32`: the messages in the ring not yet
    consumed. -/
def Channel.pending (ch : Channel) : Nat := (ch.ring.producer - ch.ring.consumer).toNat

/-- The wake-up invariant, short of `lost` tokens: at most `IDM_RING_SIZE`
    messages are pending, and each but `lost` of them has a token. -/
structure WakeupInv (lost : Nat) (ch : Channel) : Prop where
  pending_le_ringSize : ch.pending ≤ idmRingSize.toNat
  pending_le_sem : ch.pending ≤ ch.sem + lost

theorem WakeupInv.mono {lost lost' : Nat} {ch : Channel} (hi : WakeupInv lost ch)
    (h : lost ≤ lost') : WakeupInv lost' ch :=
  ⟨hi.pending_le_ringSize, by have := hi.pending_le_sem; omega⟩

/-! ## §2. What each call does to the count and the ring. -/

section Steps

variable {ch : Channel}

theorem pending_eq_zero (h : ch.ring.consumer = ch.ring.producer) : ch.pending = 0 := by
  have hp := ch.ring.producer.toNat_lt_size
  simp only [Channel.pending, h, UInt32.toNat_sub', UInt32.size] at hp ⊢
  omega

/-- Publishing `producer + 1` below a full ring adds one pending message. -/
theorem pending_succ_producer (h : ch.pending < idmRingSize.toNat) :
    (ch.ring.producer + 1 - ch.ring.consumer).toNat = ch.pending + 1 := by
  have hc := ch.ring.consumer.toNat_lt_size
  simp only [Channel.pending, UInt32.toNat_sub', UInt32.toNat_add', UInt32.size,
    idmRingSize_toNat] at h hc ⊢
  simp only [show (1 : UInt32).toNat = 1 from rfl]
  omega

/-- Publishing `consumer + 1` on a non-empty ring consumes one message. -/
theorem pending_succ_consumer (h : ch.ring.consumer ≠ ch.ring.producer) :
    (ch.ring.producer - (ch.ring.consumer + 1)).toNat = ch.pending - 1 := by
  have hp := ch.ring.producer.toNat_lt_size
  have hc := ch.ring.consumer.toNat_lt_size
  have hne : ch.ring.consumer.toNat ≠ ch.ring.producer.toNat := fun he => h (UInt32.toNat.inj he)
  simp only [Channel.pending, UInt32.toNat_sub', UInt32.toNat_add', UInt32.size] at hp hc ⊢
  simp only [show (1 : UInt32).toNat = 1 from rfl]
  omega

/-- **`idm_send`** leaves the channel as it was, or, below a full ring,
    publishes one message and posts one token. -/
theorem idmSend_pending (conn : IdmConnection) (ch : Channel) (msg : IdmMessage) :
    (idmSend conn ch msg).2 = ch ∨
      (ch.pending < idmRingSize.toNat ∧ (idmSend conn ch msg).2.pending = ch.pending + 1 ∧
        (idmSend conn ch msg).2.sem = ch.sem + 1) := by
  dsimp only [idmSend]
  split_ifs with _ _ _ hfull
  · exact .inl rfl
  · exact .inl rfl
  · exact .inl rfl
  · exact .inl rfl
  · have hlt : ch.pending < idmRingSize.toNat := Nat.lt_of_not_le hfull
    exact .inr ⟨hlt, pending_succ_producer hlt, rfl⟩

/-- **`idm_recv`** leaves the channel as it was (not connected, a deadline
    `sem_timedwait` refuses, or no token), or takes one token and consumes
    one message, none if the ring is empty; or it takes a token, consumes
    nothing, and returns `-ENOMEM`. -/
theorem idmRecv_pending (conn : IdmConnection) (ch : Channel) (timeoutMs : Int) (env : RecvEnv) :
    (idmRecv conn ch timeoutMs env).2 = ch ∨
      (0 < ch.sem ∧ (idmRecv conn ch timeoutMs env).2.sem = ch.sem - 1 ∧
        ((idmRecv conn ch timeoutMs env).2.pending = ch.pending - 1 ∨
          isEnomem (idmRecv conn ch timeoutMs env).1 = true ∧
            (idmRecv conn ch timeoutMs env).2.pending = ch.pending)) := by
  dsimp only [idmRecv]
  split_ifs with _ _ hsem hempty
  · exact .inl rfl
  · exact .inl rfl
  · exact .inl rfl
  · refine .inr ⟨Nat.pos_of_ne_zero hsem, rfl, .inl ?_⟩
    show ch.pending = ch.pending - 1
    rw [pending_eq_zero hempty]
  · exact .inr ⟨Nat.pos_of_ne_zero hsem, rfl, .inl (pending_succ_consumer hempty)⟩
  · exact .inr ⟨Nat.pos_of_ne_zero hsem, rfl, .inr ⟨rfl, rfl⟩⟩
  · exact .inr ⟨Nat.pos_of_ne_zero hsem, rfl, .inl (pending_succ_consumer hempty)⟩

/-- With no token, `idm_recv` fails at its wait and changes nothing. -/
theorem idmRecv_of_sem_eq_zero (conn : IdmConnection) (h : ch.sem = 0) (timeoutMs : Int)
    (env : RecvEnv) :
    (idmRecv conn ch timeoutMs env).2 = ch ∧ isEnomem (idmRecv conn ch timeoutMs env).1 = false := by
  simp only [idmRecv, semWaitError, h, ↓reduceIte]
  split_ifs <;> exact ⟨rfl, rfl⟩

/-- Whose `malloc` succeeds, `idm_recv` never returns `-ENOMEM`. -/
theorem idmRecv_not_enomem (conn : IdmConnection) (ch : Channel) (timeoutMs : Int) {env : RecvEnv}
    (hm : env.mallocOk = true) : isEnomem (idmRecv conn ch timeoutMs env).1 = false := by
  simp only [idmRecv, semWaitError, hm, Bool.not_true, Bool.false_eq_true, ↓reduceIte]
  split_ifs <;> rfl

end Steps

/-! ## §3. The invariant over every run. -/

section Runs

variable {sender receiver : IdmConnection}

/-- **Step.** Each call keeps the invariant, counting one lost token more for
    a receive that fails with `-ENOMEM`. -/
theorem ChannelCall.apply_wakeupInv {lost : Nat} {ch : Channel} (hi : WakeupInv lost ch)
    (c : ChannelCall) :
    WakeupInv (lost + (c.apply sender receiver ch).2.toNat) (c.apply sender receiver ch).1 := by
  have ⟨hring, hsem⟩ := hi
  cases c with
  | send msg =>
    rcases idmSend_pending sender ch msg with h | ⟨hlt, hp, hs⟩
    · simpa [ChannelCall.apply, h] using hi
    · simp only [ChannelCall.apply, Bool.toNat_false, add_zero]
      exact ⟨by omega, by omega⟩
  | recv timeoutMs env =>
    rcases idmRecv_pending receiver ch timeoutMs env with h | ⟨hpos, hs, hp | ⟨he, hp⟩⟩
    · refine WakeupInv.mono ?_ (Nat.le_add_right _ _)
      simpa [ChannelCall.apply, h] using hi
    · refine WakeupInv.mono ⟨?_, ?_⟩ (Nat.le_add_right _ _) <;>
        simp only [ChannelCall.apply, hp, hs] <;> omega
    · simp only [ChannelCall.apply, he, Bool.toNat_true]
      exact ⟨by omega, by omega⟩

/-- **Run.** Over every interleaving of sends and receives, each pending
    message has a token, save one per receive that failed with `-ENOMEM`. -/
theorem channelRun_wakeupInv {lost : Nat} {ch : Channel} (hi : WakeupInv lost ch)
    (calls : List ChannelCall) :
    WakeupInv (lost + (channelRun sender receiver ch calls).2) (channelRun sender receiver ch calls).1 := by
  induction calls generalizing lost ch with
  | nil => exact hi
  | cons c cs ih =>
    simp only [channelRun, ← Nat.add_assoc]
    exact ih (ChannelCall.apply_wakeupInv hi c)

/-- A run whose copies' `malloc`s all succeed has no `-ENOMEM` failure. -/
theorem channelRun_lost_eq_zero {ch : Channel} {calls : List ChannelCall}
    (h : ∀ c ∈ calls, ∀ t env, c = .recv t env → env.mallocOk = true) :
    (channelRun sender receiver ch calls).2 = 0 := by
  induction calls generalizing ch with
  | nil => rfl
  | cons c cs ih =>
    have hc : (c.apply sender receiver ch).2 = false := by
      cases c with
      | send msg => rfl
      | recv t env => exact idmRecv_not_enomem receiver ch t (h _ (List.mem_cons_self _ _) t env rfl)
    simp only [channelRun, hc, Bool.toNat_false, ih fun c hm => h c (List.mem_cons_of_mem _ hm)]

/-- **Every unconsumed message has a wake-up** on a run whose copies'
    `malloc`s all succeed, from a channel where it held. -/
theorem channelRun_pending_le_sem {ch : Channel} {calls : List ChannelCall}
    (hi : WakeupInv 0 ch) (h : ∀ c ∈ calls, ∀ t env, c = .recv t env → env.mallocOk = true) :
    (channelRun sender receiver ch calls).1.pending ≤ (channelRun sender receiver ch calls).1.sem := by
  have := (channelRun_wakeupInv hi calls : WakeupInv _ (channelRun sender receiver ch calls).1).pending_le_sem
  rwa [channelRun_lost_eq_zero h, Nat.zero_add, Nat.add_zero] at this

/-- With no token, no run of receives changes the channel. -/
theorem channelRun_recvs_of_sem_eq_zero {ch : Channel} (h : ch.sem = 0) (rs : List (Int × RecvEnv)) :
    channelRun sender receiver ch (rs.map fun r => .recv r.1 r.2) = (ch, 0) := by
  induction rs with
  | nil => rfl
  | cons r rs ih =>
    obtain ⟨hch, hno⟩ := idmRecv_of_sem_eq_zero receiver h r.1 r.2
    simp only [List.map_cons, channelRun, ChannelCall.apply, hch, hno, ih, Bool.toNat_false]

end Runs

/-! ## §4. The wake-up an `-ENOMEM` loses. -/

/-- Zone 1 sends one request to the server, whose `idm_recv(&msg, 1000)`
    fails to `malloc` the copy, whatever the clock reads: the request stays
    in the ring with no token, and every later sequence of receives, whatever
    their timeouts, clock readings and `malloc`s, leaves it there. -/
theorem idmRecv_enomem_strands_message (now : ClockReading) (blk : Mem) :
    ∃ ch, channelRun (idmInit 1 0 false) (idmInit 0 1 true) emptyChannel
        [.send syncRequest, .recv 1000 ⟨now, false, blk⟩] = (ch, 1) ∧
      ch.sem = 0 ∧ ch.pending = 1 ∧
      ∀ rs : List (Int × RecvEnv),
        channelRun (idmInit 1 0 false) (idmInit 0 1 true) ch (rs.map fun r => .recv r.1 r.2) = (ch, 0) := by
  -- the send publishes the request with its token; the receive takes the token and fails
  have hw := @waitReachesSem_of_whole now 1000 rfl
  have hs : (idmSend (idmInit 1 0 false) emptyChannel syncRequest).2.sem = 1 := by decide
  have he : (idmSend (idmInit 1 0 false) emptyChannel syncRequest).2.ring.consumer ≠
      (idmSend (idmInit 1 0 false) emptyChannel syncRequest).2.ring.producer := by decide
  have hv : idmMessageValid (IdmMessage.at (idmSend (idmInit 1 0 false) emptyChannel syncRequest).2.ring.entries
      (slotBase ((idmSend (idmInit 1 0 false) emptyChannel syncRequest).2.ring.consumer % idmRingSize))) = true := by
    decide
  have hp : (idmSend (idmInit 1 0 false) emptyChannel syncRequest).2.pending = 1 := by decide
  have hrecv : idmRecv (idmInit 0 1 true) (idmSend (idmInit 1 0 false) emptyChannel syncRequest).2 1000
      ⟨now, false, blk⟩ = (.error .enomem, { (idmSend (idmInit 1 0 false) emptyChannel syncRequest).2 with sem := 0 }) := by
    simp only [idmRecv, show (idmInit 0 1 true).connected = true from rfl, hw, hs, he, hv, Bool.not_true,
      Bool.not_false, Bool.false_eq_true, ↓reduceIte, one_ne_zero]
  refine ⟨{ (idmSend (idmInit 1 0 false) emptyChannel syncRequest).2 with sem := 0 }, ?_, rfl, hp,
    channelRun_recvs_of_sem_eq_zero rfl⟩
  simp only [channelRun, ChannelCall.apply, hrecv]
  rfl

end XenGpuProxy
