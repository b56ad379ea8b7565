/-
  XenGpuProxy.Wire.Bytes — byte-addressed memory and the little-endian field
  codec of the packed IDM structures.

  The transport copies whole messages with `memcpy` into and out of the shared
  ring, and the handlers reinterpret `msg->payload` as a packed request struct.
  Both are modelled over one notion of memory: a total map `Mem` from byte
  offsets to bytes.  A region is read with `readBytes` and written with
  `writeBytes`; every packed integer field is `leBytes`/`leValue` (the wire is
  little-endian, §6 of the spec).

  Main results:
    * `readBytes_writeBytes_self` / `readBytes_writeBytes_of_disjoint` — the
      get/set pair every frame argument about the ring is built from.
    * `leValue_leBytes` — decoding an encoded field gives the value back modulo
      the field width; `UInt32.ofNat_leValue_toLE` and friends specialise it.
-/
import Mathlib.Data.List.Basic
import Mathlib.Tactic.Ring

namespace XenGpuProxy

/-! ## §1. Memory regions. -/

/-- A byte-addressed region: the shared ring, or a message buffer from
    `msg->payload` on.  Offsets past the end of the C object are included, so
    that an out-of-bounds read has a meaning (it sees whatever lies there). -/
abbrev Mem := Nat → UInt8

/-- `memcpy` out of a region: the `n` bytes at `base, base+1, …`. -/
def readBytes (mem : Mem) (base n : Nat) : List UInt8 :=
  (List.range n).map fun i => mem (base + i)

/-- `memcpy` into a region: `bs` laid down from `base` on, the rest untouched. -/
def writeBytes (mem : Mem) (base : Nat) (bs : List UInt8) : Mem :=
  fun a => if base ≤ a ∧ a < base + bs.length then bs.getD (a - base) 0 else mem a

/-- A byte list seen as a region (bytes past its end read as zero). -/
def listMem (bs : List UInt8) : Mem := fun i => bs.getD i 0

@[simp] theorem length_readBytes (mem : Mem) (base n : Nat) :
    (readBytes mem base n).length = n := by
  simp [readBytes]

@[simp] theorem readBytes_zero (mem : Mem) (base : Nat) : readBytes mem base 0 = [] := rfl

theorem getElem_readBytes (mem : Mem) (base n i : Nat) (h : i < (readBytes mem base n).length) :
    (readBytes mem base n)[i] = mem (base + i) := by
  simp [readBytes]

/-- Two regions that agree on `[base, base + n)` give the same read. -/
theorem readBytes_congr {mem mem' : Mem} {base n : Nat}
    (h : ∀ i, i < n → mem (base + i) = mem' (base + i)) :
    readBytes mem base n = readBytes mem' base n := by
  simp only [readBytes, List.map_inj_left, List.mem_range]
  exact h

/-- A read splits at any point. -/
theorem readBytes_add (mem : Mem) (base m n : Nat) :
    readBytes mem base (m + n) = readBytes mem base m ++ readBytes mem (base + m) n := by
  simp only [readBytes, List.range_add, List.map_append, List.map_map]
  congr 1
  apply List.map_congr_left
  intro i _
  simp [Nat.add_assoc]

/-- The first byte of a read. -/
theorem readBytes_succ (mem : Mem) (base n : Nat) :
    readBytes mem base (n + 1) = mem base :: readBytes mem (base + 1) n := by
  rw [Nat.add_comm, readBytes_add]
  rfl

/-- A shorter read is a prefix of a longer one. -/
theorem take_readBytes (mem : Mem) (base m n : Nat) (h : m ≤ n) :
    (readBytes mem base n).take m = readBytes mem base m := by
  simp only [readBytes, ← List.map_take, List.take_range, Nat.min_eq_left h]

/-- Reading back what was just written. -/
theorem readBytes_writeBytes_self (mem : Mem) (base : Nat) (bs : List UInt8) :
    readBytes (writeBytes mem base bs) base bs.length = bs := by
  apply List.ext_getElem (by simp)
  intro i h₁ h₂
  rw [getElem_readBytes]
  simp [writeBytes, List.getD_eq_getElem?_getD, List.getElem?_eq_getElem h₂, h₂]

/-- **Frame.** A write leaves every disjoint range as it was. -/
theorem readBytes_writeBytes_of_disjoint (mem : Mem) (base base' n : Nat) (bs : List UInt8)
    (h : base' + n ≤ base ∨ base + bs.length ≤ base') :
    readBytes (writeBytes mem base bs) base' n = readBytes mem base' n := by
  apply readBytes_congr
  intro i hi
  simp only [writeBytes]
  rw [if_neg (by omega)]

/-- A read of a list seen as a region gives its prefix. -/
theorem readBytes_listMem (bs : List UInt8) (n : Nat) (h : n ≤ bs.length) :
    readBytes (listMem bs) 0 n = bs.take n := by
  apply List.ext_getElem (by simp [h])
  intro i h₁ h₂
  have hi : i < bs.length := by simp at h₁; omega
  simp [getElem_readBytes, listMem, List.getD_eq_getElem?_getD, hi]

/-! ## §2. Little-endian fields. -/

/-- The `n` little-endian bytes of `x` (`x` taken modulo `256 ^ n`). -/
def leBytes : Nat → Nat → List UInt8
  | 0, _ => []
  | n + 1, x => UInt8.ofNat x :: leBytes n (x / 256)

/-- The number a little-endian byte string stands for. -/
def leValue : List UInt8 → Nat
  | [] => 0
  | b :: bs => b.toNat + 256 * leValue bs

@[simp] theorem length_leBytes (n x : Nat) : (leBytes n x).length = n := by
  induction n generalizing x with
  | zero => rfl
  | succ n ih => simp [leBytes, ih]

theorem UInt8.toNat_ofNat' (x : Nat) : (UInt8.ofNat x).toNat = x % 256 := by
  simp [UInt8.ofNat, UInt8.toNat]

/-- **Round trip** of a field: decoding the encoding gives `x mod 256^n`. -/
theorem leValue_leBytes (n x : Nat) : leValue (leBytes n x) = x % 256 ^ n := by
  induction n generalizing x with
  | zero => simp [leBytes, leValue, Nat.mod_one]
  | succ n ih =>
    simp only [leBytes, leValue, ih, UInt8.toNat_ofNat', pow_succ']
    exact Nat.mod_mul.symm

theorem leValue_lt (bs : List UInt8) : leValue bs < 256 ^ bs.length := by
  induction bs with
  | nil => simp [leValue]
  | cons b bs ih =>
    have hb : b.toNat < 256 := b.toNat_lt_size
    simp only [leValue, List.length_cons, pow_succ']
    omega

/-- **Round trip**, other direction: re-encoding a decoded string gives it back. -/
theorem leBytes_leValue (bs : List UInt8) : leBytes bs.length (leValue bs) = bs := by
  induction bs with
  | nil => rfl
  | cons b bs ih =>
    have hb : b.toNat < 256 := b.toNat_lt_size
    have hdiv : (b.toNat + 256 * leValue bs) / 256 = leValue bs := by omega
    have hbyte : UInt8.ofNat (b.toNat + 256 * leValue bs) = b :=
      UInt8.toNat.inj (by rw [UInt8.toNat_ofNat']; omega)
    simp only [List.length_cons, leBytes, leValue, hdiv, hbyte, ih]

/-- Decoding a field of `n` bytes read at `off`. -/
def readLE (mem : Mem) (off n : Nat) : Nat := leValue (readBytes mem off n)

end XenGpuProxy

open XenGpuProxy

/-! ## §3. The fixed-width integer fields. -/

/-- A `uint16_t` on the wire. -/
def UInt16.toLE (x : UInt16) : List UInt8 := leBytes 2 x.toNat
/-- A `uint32_t` on the wire. -/
def UInt32.toLE (x : UInt32) : List UInt8 := leBytes 4 x.toNat
/-- A `uint64_t` on the wire. -/
def UInt64.toLE (x : UInt64) : List UInt8 := leBytes 8 x.toNat

@[simp] theorem UInt16.length_toLE (x : UInt16) : (UInt16.toLE x).length = 2 := by
  simp [UInt16.toLE]
@[simp] theorem UInt32.length_toLE (x : UInt32) : (UInt32.toLE x).length = 4 := by
  simp [UInt32.toLE]
@[simp] theorem UInt64.length_toLE (x : UInt64) : (UInt64.toLE x).length = 8 := by
  simp [UInt64.toLE]

theorem UInt16.toLE_ofNat_leValue (bs : List UInt8) (h : bs.length = 2) :
    UInt16.toLE (UInt16.ofNat (leValue bs)) = bs := by
  have hlt : leValue bs < 65536 := by simpa [h] using leValue_lt bs
  rw [UInt16.toLE, ← h, ← leBytes_leValue bs]
  simp [UInt16.ofNat, UInt16.toNat, h, leValue_leBytes, Nat.mod_eq_of_lt hlt]

theorem UInt32.toLE_ofNat_leValue (bs : List UInt8) (h : bs.length = 4) :
    UInt32.toLE (UInt32.ofNat (leValue bs)) = bs := by
  have hlt : leValue bs < 4294967296 := by simpa [h] using leValue_lt bs
  rw [UInt32.toLE, ← h, ← leBytes_leValue bs]
  simp [UInt32.ofNat, UInt32.toNat, h, leValue_leBytes, Nat.mod_eq_of_lt hlt]

theorem UInt64.toLE_ofNat_leValue (bs : List UInt8) (h : bs.length = 8) :
    UInt64.toLE (UInt64.ofNat (leValue bs)) = bs := by
  have hlt : leValue bs < 18446744073709551616 := by simpa [h] using leValue_lt bs
  rw [UInt64.toLE, ← h, ← leBytes_leValue bs]
  simp [UInt64.ofNat, UInt64.toNat, h, leValue_leBytes, Nat.mod_eq_of_lt hlt]

theorem UInt16.ofNat_leValue_toLE (x : UInt16) : UInt16.ofNat (leValue (UInt16.toLE x)) = x := by
  apply UInt16.toNat.inj
  simp [UInt16.toLE, leValue_leBytes, UInt16.ofNat, UInt16.toNat, Nat.mod_eq_of_lt x.toBitVec.isLt]

theorem UInt32.ofNat_leValue_toLE (x : UInt32) : UInt32.ofNat (leValue (UInt32.toLE x)) = x := by
  apply UInt32.toNat.inj
  simp [UInt32.toLE, leValue_leBytes, UInt32.ofNat, UInt32.toNat, Nat.mod_eq_of_lt x.toBitVec.isLt]

theorem UInt64.ofNat_leValue_toLE (x : UInt64) : UInt64.ofNat (leValue (UInt64.toLE x)) = x := by
  apply UInt64.toNat.inj
  simp [UInt64.toLE, leValue_leBytes, UInt64.ofNat, UInt64.toNat, Nat.mod_eq_of_lt x.toBitVec.isLt]

/-! ## §4. Wrap-around arithmetic of the index and counter types. -/

theorem UInt32.toNat_add' (a b : UInt32) : (a + b).toNat = (a.toNat + b.toNat) % 2 ^ 32 := by
  show (a.toBitVec + b.toBitVec).toNat = _
  simp [BitVec.toNat_add]; rfl

theorem UInt32.toNat_sub' (a b : UInt32) :
    (a - b).toNat = (2 ^ 32 - b.toNat + a.toNat) % 2 ^ 32 := by
  show (a.toBitVec - b.toBitVec).toNat = _
  simp [BitVec.toNat_sub]; rfl

theorem UInt32.toNat_ofNat' (n : Nat) : (UInt32.ofNat n).toNat = n % 2 ^ 32 := by
  simp [UInt32.ofNat, UInt32.toNat]

theorem UInt64.toNat_add' (a b : UInt64) : (a + b).toNat = (a.toNat + b.toNat) % 2 ^ 64 := by
  show (a.toBitVec + b.toBitVec).toNat = _
  simp [BitVec.toNat_add]; rfl

theorem UInt64.toNat_sub' (a b : UInt64) :
    (a - b).toNat = (2 ^ 64 - b.toNat + a.toNat) % 2 ^ 64 := by
  show (a.toBitVec - b.toBitVec).toNat = _
  simp [BitVec.toNat_sub]; rfl

theorem UInt64.toNat_ofNat' (n : Nat) : (UInt64.ofNat n).toNat = n % 2 ^ 64 := by
  simp [UInt64.ofNat, UInt64.toNat]

