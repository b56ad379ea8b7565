/-
  XenGpuProxy.Transport.Fifo — the atomic calls on one channel form a FIFO
  queue.  `Transport.Ring` gives `idm_send` and `idm_recv` as atomic
  state-passing functions, and every model above the transport (the
  dispatcher, libvgpu) is written with them; `Transport.Spsc` proves the
  ring safe for the calls split at their index accesses.  This module joins
  the two levels.

  A run of atomic calls is logged with what the calls returned (the messages
  `idm_send` accepted, the messages `idm_recv` returned).  Each atomic call
  is a schedule of split steps that does the same to the ring and to the
  histories, so every logged run is matched by a reachable split state, and
  the ring invariant of `Transport.Spsc` carries over.

  Main results:
    * `channelLog_simulates` — every run of atomic calls from an empty ring
      is matched by a reachable state of the split model (the refinement).
    * `channelLog_fifo` — over every such run the messages `idm_recv`
      returned are, in order and byte for byte, a prefix of the messages
      `idm_send` accepted, and the ring holds exactly the difference.
    * `channelLog_recv_next` — on a run whose copies' `malloc`s all
      succeed, while an accepted message is unreceived, the next `idm_recv`
      that gets past its wait returns it: no message is stranded.
    * `ChannelOk` — a channel between the calls of such a run whose two ends
      may change connection from call to call, with its step lemmas
      `ChannelOk.send`, `ChannelOk.recv` and the FIFO fact
      `ChannelOk.prefix_bytes`; `Client.Answers` builds on it.
-/
import XenGpuProxy.Transport.Spsc
import XenGpuProxy.Transport.Wakeup

namespace XenGpuProxy

/-! ## §1. Runs with what the calls returned. -/

/-- A channel with the results of the calls made on it so far: the messages
    `idm_send` accepted and the messages `idm_recv` returned, in order. -/
structure ChannelLog where
  ch : Channel
  sent : List IdmMessage
  received : List IdmMessage

/-- One call of `ChannelCall.apply`, with its result recorded. -/
def ChannelLog.call (sender receiver : IdmConnection) (l : ChannelLog) : ChannelCall → ChannelLog
  | .send msg =>
    { ch := (idmSend sender l.ch msg).2,
      sent := l.sent ++ ((idmSend sender l.ch msg).1.toOption.map fun _ => msg).toList,
      received := l.received }
  | .recv timeoutMs env =>
    { ch := (idmRecv receiver l.ch timeoutMs env).2, sent := l.sent,
      received := l.received ++ (idmRecv receiver l.ch timeoutMs env).1.toOption.toList }

/-- A run of calls, logged. -/
def channelLog (sender receiver : IdmConnection) : ChannelLog → List ChannelCall → ChannelLog
  | l, [] => l
  | l, c :: cs => channelLog sender receiver (l.call sender receiver c) cs

/-- The logged run leaves the channel as `channelRun` does. -/
theorem channelLog_ch (sender receiver : IdmConnection) (l : ChannelLog) (calls : List ChannelCall) :
    (channelLog sender receiver l calls).ch = (channelRun sender receiver l.ch calls).1 := by
  induction calls generalizing l with
  | nil => rfl
  | cons c cs ih =>
    rw [channelLog, ih]
    cases c <;> rfl

/-! ## §2. Each atomic call is a schedule of split steps. -/

/-- A split state stands for a logged channel: the same ring, both parties
    between calls, the same accepted messages, and the bytes of the received
    ones. -/
structure Simulates (l : ChannelLog) (s : SpscState) : Prop where
  ring_eq : s.ring = l.ch.ring
  send_ready : ∃ r, s.send = .ready r
  recv_ready : ∃ r, s.recv = .ready r
  sent_eq : s.sent = l.sent
  recvd_eq : s.recvd = l.received.map IdmMessage.bytes

/-- Running a schedule from a reachable state reaches a reachable state. -/
theorem Reachable.of_runSteps {base : UInt32} {s s' : SpscState} (h : Reachable base s) {acts : List SpscAction}
    (hr : runSteps s acts = some s') : Reachable base s' := by
  induction acts generalizing s with
  | nil => exact Option.some.inj hr ▸ h
  | cons a as ih =>
    obtain ⟨s₁, h₁, h₂⟩ := Option.bind_eq_some.mp hr
    exact ih (h.step a h₁) h₂

section Simulation

variable {sender receiver : IdmConnection} {base : UInt32} {l : ChannelLog} {s : SpscState}

/-- The channel a split state's ring and a logged channel's semaphore make is
    the logged channel. -/
theorem Simulates.channel_eq (hs : Simulates l s) : ({ ring := s.ring, sem := l.ch.sem } : Channel) = l.ch := by
  rw [hs.ring_eq]

/-- **Step.** Each atomic call from a state that stands for the log is
    matched by a schedule of split steps reaching a state that stands for
    the log after the call. -/
theorem ChannelLog.call_simulates (h : Reachable base s) (hs : Simulates l s) (c : ChannelCall) :
    ∃ s', Reachable base s' ∧ Simulates (l.call sender receiver c) s' := by
  obtain ⟨rs, hrs⟩ := hs.send_ready
  obtain ⟨rr, hrr⟩ := hs.recv_ready
  cases c with
  | send msg =>
    by_cases hc : sender.connected = true
    · obtain ⟨acts, hacts⟩ := @idmSend_as_steps sender s l.ch.sem msg rs hc hrs
      obtain ⟨s', hrun, heq⟩ := Option.map_eq_some'.mp hacts
      simp only [hs.channel_eq, Prod.mk.injEq] at heq
      obtain ⟨hring, hsend, hrecv, hsent, hrecvd⟩ := heq
      exact ⟨s', h.of_runSteps hrun, hring, ⟨_, hsend⟩, ⟨rr, hrecv.trans hrr⟩,
        hsent.trans (by rw [hs.sent_eq]; rfl), hrecvd.trans hs.recvd_eq⟩
    · -- a disconnected sender returns `-ENOTCONN` and touches nothing
      refine ⟨s, h, ?_⟩
      simp only [ChannelLog.call, idmSend, hc, Bool.not_false, ↓reduceIte, Except.toOption,
        Option.map_none', Option.toList_none, List.append_nil]
      exact hs
  | recv t env =>
    by_cases hc : receiver.connected = true
    · obtain ⟨acts, hacts⟩ := @idmRecv_as_steps receiver s l.ch.sem t env rr hc hrr
      obtain ⟨s', hrun, heq⟩ := Option.map_eq_some'.mp hacts
      simp only [hs.channel_eq, Prod.mk.injEq] at heq
      obtain ⟨hring, hrecv, hsend, hsent, hrecvd⟩ := heq
      refine ⟨s', h.of_runSteps hrun, hring, ⟨rs, hsend.trans hrs⟩, ⟨_, hrecv⟩, hsent.trans hs.sent_eq, ?_⟩
      rw [hrecvd, hs.recvd_eq]
      dsimp only [ChannelLog.call]
      cases (idmRecv receiver l.ch t env).1 <;> simp [Except.toOption]
    · refine ⟨s, h, ?_⟩
      simp only [ChannelLog.call, idmRecv, hc, Bool.not_false, ↓reduceIte, Except.toOption,
        Option.toList_none, List.append_nil]
      exact hs

/-- **Run.** Every logged run of atomic calls from a state that stands for
    its start is matched by a reachable split state. -/
theorem channelLog_simulates (h : Reachable base s) (hs : Simulates l s) (calls : List ChannelCall) :
    ∃ s', Reachable base s' ∧ Simulates (channelLog sender receiver l calls) s' := by
  induction calls generalizing l s with
  | nil => exact ⟨s, h, hs⟩
  | cons c cs ih =>
    obtain ⟨s₁, h₁, hs₁⟩ := @ChannelLog.call_simulates sender receiver _ _ _ h hs c
    exact ih h₁ hs₁

/-- The ring's unsigned index difference counts the accepted messages not
    yet received. -/
theorem Simulates.pending_add {base : UInt32} (hs : Simulates l s) (hi : SpscInv base s) :
    l.ch.pending + l.received.length = l.sent.length := by
  have hd := sub_toNat_of_counts hi.producer_eq hi.consumer_eq hi.recvd_le hi.sent_le
  have hle := hi.recvd_le
  rw [hs.ring_eq] at hd
  rw [hs.sent_eq, hs.recvd_eq, List.length_map] at hle hd
  rw [Channel.pending, hd]
  omega

end Simulation

/-! ## §3. The channel is a FIFO queue. -/

section Fifo

variable (sender receiver : IdmConnection) {ch : Channel}

/-- An empty ring, with its histories empty, is the split model's start. -/
theorem simulates_init (he : ch.ring.consumer = ch.ring.producer) :
    Simulates ⟨ch, [], []⟩ (SpscState.init ch.ring.producer ch.ring.entries) := by
  obtain ⟨⟨p, c, entries⟩, sem⟩ := ch
  dsimp only at he
  subst he
  exact ⟨rfl, ⟨_, rfl⟩, ⟨_, rfl⟩, rfl, rfl⟩

/-- The ring invariant of the split state matching a logged run from an
    empty ring. -/
theorem channelLog_spscInv (he : ch.ring.consumer = ch.ring.producer) (calls : List ChannelCall) :
    ∃ s, SpscInv ch.ring.producer s ∧ Simulates (channelLog sender receiver ⟨ch, [], []⟩ calls) s :=
  let ⟨s, hr, hs⟩ := channelLog_simulates (Reachable.init _) (simulates_init he) calls
  ⟨s, reachable_spscInv hr, hs⟩

/-- **FIFO delivery.**  Over every run of atomic `idm_send` and `idm_recv`
    calls on a channel whose ring starts empty, whatever the slot bytes, the
    semaphore, the timeouts, the clock readings and the `malloc`s: the run
    is matched by a state of the split model that keeps the ring invariant
    (the refinement), the messages `idm_recv` returned are, in order and
    byte for byte, a prefix of the messages `idm_send` accepted (none lost,
    duplicated, reordered or altered), and the ring's unsigned index
    difference is the number accepted and not yet received. -/
theorem channelLog_fifo (he : ch.ring.consumer = ch.ring.producer) (calls : List ChannelCall) :
    (∃ s, SpscInv ch.ring.producer s ∧ Simulates (channelLog sender receiver ⟨ch, [], []⟩ calls) s) ∧
      (channelLog sender receiver ⟨ch, [], []⟩ calls).received.map IdmMessage.bytes <+:
        (channelLog sender receiver ⟨ch, [], []⟩ calls).sent.map IdmMessage.bytes ∧
      (channelLog sender receiver ⟨ch, [], []⟩ calls).ch.pending +
          (channelLog sender receiver ⟨ch, [], []⟩ calls).received.length =
        (channelLog sender receiver ⟨ch, [], []⟩ calls).sent.length := by
  obtain ⟨s, hi, hs⟩ := channelLog_spscInv sender receiver he calls
  refine ⟨⟨s, hi, hs⟩, ?_, hs.pending_add hi⟩
  rw [← hs.sent_eq, ← hs.recvd_eq, SpscInv.recvd_prefix hi]
  exact List.take_prefix _ _

/-- A run of one request and one receive from the zeroed ring. -/
theorem channelLog_fifo_sync :
    emptyChannel.ring.consumer = emptyChannel.ring.producer ∧
      (∃ s, SpscInv emptyChannel.ring.producer s ∧
        Simulates (channelLog (idmInit 1 0 false) (idmInit 0 1 true) ⟨emptyChannel, [], []⟩
          [.send syncRequest, .recv 1000 ⟨⟨⟨1700000000, 0⟩, by decide⟩, true, fun _ => 0⟩]) s) ∧
      (channelLog (idmInit 1 0 false) (idmInit 0 1 true) ⟨emptyChannel, [], []⟩
          [.send syncRequest, .recv 1000 ⟨⟨⟨1700000000, 0⟩, by decide⟩, true, fun _ => 0⟩]).received.map
          IdmMessage.bytes <+:
        (channelLog (idmInit 1 0 false) (idmInit 0 1 true) ⟨emptyChannel, [], []⟩
          [.send syncRequest, .recv 1000 ⟨⟨⟨1700000000, 0⟩, by decide⟩, true, fun _ => 0⟩]).sent.map
          IdmMessage.bytes ∧
      (channelLog (idmInit 1 0 false) (idmInit 0 1 true) ⟨emptyChannel, [], []⟩
          [.send syncRequest, .recv 1000 ⟨⟨⟨1700000000, 0⟩, by decide⟩, true, fun _ => 0⟩]).ch.pending +
          (channelLog (idmInit 1 0 false) (idmInit 0 1 true) ⟨emptyChannel, [], []⟩
            [.send syncRequest, .recv 1000 ⟨⟨⟨1700000000, 0⟩, by decide⟩, true, fun _ => 0⟩]).received.length =
        (channelLog (idmInit 1 0 false) (idmInit 0 1 true) ⟨emptyChannel, [], []⟩
          [.send syncRequest, .recv 1000 ⟨⟨⟨1700000000, 0⟩, by decide⟩, true, fun _ => 0⟩]).sent.length :=
  ⟨rfl, channelLog_fifo _ _ rfl _⟩

/-- **No message is stranded** on a run whose copies' `malloc`s all succeed:
    from an empty ring, while an accepted message is unreceived, the
    receiver's next `idm_recv` whose wait gets to the semaphore (a timeout
    of zero or less, or a deadline `sem_timedwait` accepts, as every
    whole-second timeout's is) and whose `malloc` succeeds returns the first
    such message, byte for byte.  The token it takes is there because no
    `-ENOMEM` lost one (`channelRun_pending_le_sem`). -/
theorem channelLog_recv_next (he : ch.ring.consumer = ch.ring.producer) {calls : List ChannelCall}
    (hm : ∀ c ∈ calls, ∀ t env, c = .recv t env → env.mallocOk = true) (hc : receiver.connected = true)
    (hp : (channelLog sender receiver ⟨ch, [], []⟩ calls).received.length <
      (channelLog sender receiver ⟨ch, [], []⟩ calls).sent.length) (t : Int) (env : RecvEnv)
    (hw : waitReachesSem t env.now.ts = true) (hok : env.mallocOk = true) :
    ∃ m, (idmRecv receiver (channelLog sender receiver ⟨ch, [], []⟩ calls).ch t env).1 = .ok m ∧
      ((channelLog sender receiver ⟨ch, [], []⟩ calls).sent.map IdmMessage.bytes)[
        (channelLog sender receiver ⟨ch, [], []⟩ calls).received.length]? = some m.bytes := by
  obtain ⟨s, hi, hs⟩ := channelLog_spscInv sender receiver he calls
  have hcount := hs.pending_add hi
  -- a token stands for every pending message, since every copy's `malloc` succeeded
  have htok := @channelRun_pending_le_sem sender receiver ch calls
    ⟨by rw [pending_eq_zero he]; exact Nat.zero_le _, by rw [pending_eq_zero he]; exact Nat.zero_le _⟩ hm
  rw [← channelLog_ch sender receiver ⟨ch, [], []⟩] at htok
  generalize channelLog sender receiver ⟨ch, [], []⟩ calls = L at *
  have hk : s.recvd.length = L.received.length := by rw [hs.recvd_eq, List.length_map]
  have hn : s.recvd.length < s.sent.length := by rwa [hs.sent_eq, hk]
  have hne : L.ch.ring.consumer ≠ L.ch.ring.producer := fun heq =>
    hn.ne ((eq_iff_of_counts hi.producer_eq hi.consumer_eq hi.recvd_le hi.sent_le).mp (hs.ring_eq ▸ heq))
  obtain ⟨hhdr, hcopy⟩ := (hi.pending _ hn le_rfl).read
  have hslot : slotBase (L.ch.ring.consumer % idmRingSize) =
      slotOf ch.ring.producer s.recvd.length * idmRingEntrySize := by
    rw [← hs.ring_eq]
    exact slotBase_of_toNat hi.consumer_eq
  have hv : idmMessageValid (IdmMessage.at L.ch.ring.entries (slotBase (L.ch.ring.consumer % idmRingSize))) = true := by
    rw [hslot, ← hs.ring_eq, idmMessageValid_congr hhdr]
    exact (hi.sent_fit _ (List.getElem_mem ..)).1
  refine ⟨_, idmRecv_of_valid hc hw (by omega) hne hv hok, ?_⟩
  rw [IdmMessage.bytes_copyInto, IdmMessage.bytes_at, hslot, ← hs.ring_eq, hcopy, ← hs.sent_eq, ← hk,
    List.getElem?_map, List.getElem?_eq_getElem hn]
  rfl

/-- One request sent on the zeroed ring is what the next receive returns. -/
theorem channelLog_recv_next_sync :
    emptyChannel.ring.consumer = emptyChannel.ring.producer ∧
      (∀ c ∈ [ChannelCall.send syncRequest], ∀ t env, c = .recv t env → env.mallocOk = true) ∧
      (idmInit 0 1 true).connected = true ∧
      (channelLog (idmInit 1 0 false) (idmInit 0 1 true) ⟨emptyChannel, [], []⟩ [.send syncRequest]).received.length <
        (channelLog (idmInit 1 0 false) (idmInit 0 1 true) ⟨emptyChannel, [], []⟩ [.send syncRequest]).sent.length ∧
      waitReachesSem 1500 (⟨1700000000, 0⟩ : Timespec) = true ∧
      (⟨⟨⟨1700000000, 0⟩, by decide⟩, true, fun _ => 0⟩ : RecvEnv).mallocOk = true ∧
      ∃ m, (idmRecv (idmInit 0 1 true)
          (channelLog (idmInit 1 0 false) (idmInit 0 1 true) ⟨emptyChannel, [], []⟩ [.send syncRequest]).ch
          1500 ⟨⟨⟨1700000000, 0⟩, by decide⟩, true, fun _ => 0⟩).1 = .ok m ∧
        ((channelLog (idmInit 1 0 false) (idmInit 0 1 true) ⟨emptyChannel, [], []⟩ [.send syncRequest]).sent.map
          IdmMessage.bytes)[(channelLog (idmInit 1 0 false) (idmInit 0 1 true) ⟨emptyChannel, [], []⟩
            [.send syncRequest]).received.length]? = some m.bytes :=
  have hm : ∀ c ∈ [ChannelCall.send syncRequest], ∀ t env, c = .recv t env → env.mallocOk = true := by
    simp
  have hp : (channelLog (idmInit 1 0 false) (idmInit 0 1 true) ⟨emptyChannel, [], []⟩
      [.send syncRequest]).received.length <
      (channelLog (idmInit 1 0 false) (idmInit 0 1 true) ⟨emptyChannel, [], []⟩ [.send syncRequest]).sent.length := by
    decide
  have hw : waitReachesSem 1500 (⟨1700000000, 0⟩ : Timespec) = true := by decide
  ⟨rfl, hm, rfl, hp, hw, rfl, channelLog_recv_next _ _ rfl hm rfl hp 1500 _ hw rfl⟩

end Fifo

/-! ## §4. Channels between calls. -/

/-- A channel some atomic run from an empty ring has reached, with the
    messages its `idm_send`s accepted and its `idm_recv`s returned.  Unlike
    a `channelLog`, the run may change connections from call to call, as
    the dispatcher's does when a reply advances its sequence counter. -/
def ChannelOk (ch : Channel) (sent received : List IdmMessage) : Prop :=
  ∃ base s, Reachable base s ∧ Simulates ⟨ch, sent, received⟩ s

section ChannelOk

variable {ch : Channel} {sent received : List IdmMessage}

theorem channelOk_of_idle (he : ch.ring.consumer = ch.ring.producer) : ChannelOk ch [] [] :=
  ⟨_, _, .init _, simulates_init he⟩

theorem ChannelOk.send (h : ChannelOk ch sent received) (conn : IdmConnection) (msg : IdmMessage) :
    ChannelOk (idmSend conn ch msg).2 (sent ++ ((idmSend conn ch msg).1.toOption.map fun _ => msg).toList)
      received :=
  let ⟨base, _, hr, hs⟩ := h
  let ⟨s', hr', hs'⟩ := @ChannelLog.call_simulates conn conn base _ _ hr hs (.send msg)
  ⟨base, s', hr', hs'⟩

theorem ChannelOk.recv (h : ChannelOk ch sent received) (conn : IdmConnection) (t : Int) (env : RecvEnv) :
    ChannelOk (idmRecv conn ch t env).2 sent (received ++ (idmRecv conn ch t env).1.toOption.toList) :=
  let ⟨base, _, hr, hs⟩ := h
  let ⟨s', hr', hs'⟩ := @ChannelLog.call_simulates conn conn base _ _ hr hs (.recv t env)
  ⟨base, s', hr', hs'⟩

/-- The received messages are, byte for byte, a prefix of the accepted ones. -/
theorem ChannelOk.prefix_bytes (h : ChannelOk ch sent received) :
    received.map IdmMessage.bytes <+: sent.map IdmMessage.bytes := by
  obtain ⟨_, s, hr, hs⟩ := h
  have hsent : s.sent = sent := hs.sent_eq
  have hrecvd : s.recvd = received.map IdmMessage.bytes := hs.recvd_eq
  rw [← hsent, ← hrecvd, SpscInv.recvd_prefix (reachable_spscInv hr)]
  exact List.take_prefix _ _

end ChannelOk

end XenGpuProxy
