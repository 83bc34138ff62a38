import Mathlib.Algebra.Group.Nat.Defs
import Mathlib.Data.Set.Operations
import ProfilingSession.Preflight
import ProfilingSession.Proofs.Fallible

/-!
# Sharing addresses among threads

The consumer shares addresses among its threads by their lowest bits: an address belongs to the
shard that is left of it under the mask `threads - 1`. That is its remainder, and there is an
address for each thread and for no other one, just if the number of threads is a power of two. So
the numbers that are refused to an analysis that can be shared are those for which the mask does
not work (`checkThreads_eq_ok_iff`).
-/

namespace ProfilingSession.Preflight

/-- The shard of an address: what a mask of the lowest bits leaves of it. -/
def shard (threads : UInt32) (address : UInt64) : UInt64 :=
  address &&& (threads.toUInt64 - 1)

variable {threads : UInt32} {n : Nat}

theorem isPowerOfTwo_iff : isPowerOfTwo n = true ↔ ∃ k, n = 2 ^ k := by
  rw [isPowerOfTwo, Bool.and_eq_true, decide_eq_true_eq, beq_iff_eq, Nat.pos_iff_ne_zero]
  exact Nat.ne_zero_and_sub_one_eq_zero_iff_isPowerOfTwo

/-- A mask that leaves every number up to its own greatest is one of lowest bits. -/
theorem exists_eq_two_pow_of_and (positive : 0 < n) (leaves : ∀ m < n, m &&& (n - 1) = m) :
    ∃ k, n = 2 ^ k := by
  have nonzero : n ≠ 0 := Nat.pos_iff_ne_zero.mp positive
  have low : 2 ^ n.log2 ≤ n := Nat.log2_self_le nonzero
  have high : n < 2 ^ (n.log2 + 1) := Nat.lt_log2_self
  have one : 0 < 2 ^ n.log2 := Nat.two_pow_pos _
  by_cases whole : n = 2 ^ n.log2
  · exact ⟨_, whole⟩
  · -- The bits below the leading one are set in the mask, which makes it all ones.
    have ones : (n - 1) % 2 ^ n.log2 = 2 ^ n.log2 - 1 := by
      rw [← Nat.and_two_pow_sub_one_eq_mod, Nat.and_comm]
      exact leaves _ (by omega)
    have rest : (n - 1) / 2 ^ n.log2 = 1 := by
      rw [Nat.pow_succ] at high
      exact Nat.div_eq_of_lt_le (by omega) (by omega)
    have split := Nat.div_add_mod (n - 1) (2 ^ n.log2)
    rw [rest, ones] at split
    exact ⟨n.log2 + 1, by rw [Nat.pow_succ]; omega⟩

theorem toNat_shard (positive : 0 < threads.toNat) (address : UInt64) :
    (shard threads address).toNat = address.toNat &&& (threads.toNat - 1) := by
  have one : (1 : UInt64) ≤ threads.toUInt64 := by
    rw [UInt64.le_iff_toNat_le, UInt32.toNat_toUInt64]
    exact positive
  rw [shard, UInt64.toNat_and, UInt64.toNat_sub_of_le _ _ one]
  simp

/-- Under a mask of lowest bits the shard is the remainder. -/
theorem shard_eq_mod (power : ∃ k, threads.toNat = 2 ^ k) (address : UInt64) :
    shard threads address = address % threads.toUInt64 := by
  obtain ⟨k, power⟩ := power
  have positive : 0 < threads.toNat := power ▸ Nat.two_pow_pos k
  rw [← UInt64.toNat_inj, toNat_shard positive, power, Nat.and_two_pow_sub_one_eq_mod,
    UInt64.toNat_mod, UInt32.toNat_toUInt64, power]

/-- The remainders of all addresses are the numbers of the threads. -/
theorem range_shard (positive : 0 < threads.toNat)
    (remainder : ∀ address, shard threads address = address % threads.toUInt64) :
    Set.range (shard threads) = {s | s < threads.toUInt64} := by
  have positive' : 0 < threads.toUInt64.toNat := by simpa using positive
  ext s
  rw [Set.mem_range, Set.mem_ofPred_eq, UInt64.lt_iff_toNat_lt]
  constructor
  · rintro ⟨address, rfl⟩
    rw [remainder, UInt64.toNat_mod]
    exact Nat.mod_lt _ positive'
  · intro small
    refine ⟨s, ?_⟩
    rw [remainder, ← UInt64.toNat_inj, UInt64.toNat_mod, Nat.mod_eq_of_lt small]

/-- Where each thread has a shard the mask is one of lowest bits. -/
theorem exists_eq_two_pow_of_range (positive : 0 < threads.toNat)
    (range : Set.range (shard threads) = {s | s < threads.toUInt64}) :
    ∃ k, threads.toNat = 2 ^ k := by
  refine exists_eq_two_pow_of_and positive fun m small => ?_
  have fits : m < 2 ^ 64 := by have := threads.toNat_lt; omega
  have mem : UInt64.ofNat m ∈ Set.range (shard threads) := by
    rw [range, Set.mem_ofPred_eq, UInt64.lt_iff_toNat_lt, UInt64.toNat_ofNat_of_lt' fits]
    simpa using small
  obtain ⟨address, same⟩ := mem
  have left := congrArg UInt64.toNat same
  rw [toNat_shard positive, UInt64.toNat_ofNat_of_lt' fits] at left
  -- What a mask has left it leaves once more.
  rw [← left, Nat.and_assoc, Nat.and_self]

/-- A number of threads passes if it is a power of two, and one where more cannot be used. -/
theorem checkThreads_eq_ok_iff_exists (profiler : Profiler) (n : Nat) :
    checkThreads profiler n = .ok () ↔
      0 < n ∧ (n = 1 ∨ profiler.sharesThreads = true) ∧ ∃ k, n = 2 ^ k := by
  rw [checkThreads, ite_error_eq_ok_iff, ite_error_eq_ok_iff, ite_error_eq_ok_iff,
    ← isPowerOfTwo_iff, ← ne_eq n, ← Nat.pos_iff_ne_zero]
  refine and_congr_right fun positive => and_congr ?_ (by simp)
  cases profiler.sharesThreads with
  | true => simp
  | false =>
    simp only [Bool.not_false, Bool.and_true, decide_eq_true_eq, Bool.false_eq_true, or_false]
    omega

/-- A number of threads passes just if it is positive, the analysis can be shared unless there is
one thread only, and the shard of every address is its remainder; and just if, besides the first
two, the addresses are spread over the numbers of all threads and no others. -/
theorem checkThreads_eq_ok_iff (profiler : Profiler) (threads : UInt32) :
    (checkThreads profiler threads.toNat = .ok () ↔
      0 < threads ∧ (threads = 1 ∨ profiler.sharesThreads = true) ∧
        ∀ address, shard threads address = address % threads.toUInt64) ∧
    (checkThreads profiler threads.toNat = .ok () ↔
      0 < threads ∧ (threads = 1 ∨ profiler.sharesThreads = true) ∧
        Set.range (shard threads) = {s | s < threads.toUInt64}) := by
  have one : threads = 1 ↔ threads.toNat = 1 := by
    rw [← UInt32.toNat_inj]
    rfl
  have positive : 0 < threads ↔ 0 < threads.toNat := UInt32.lt_iff_toNat_lt
  rw [checkThreads_eq_ok_iff_exists, one, positive]
  constructor
  · refine and_congr_right fun positive => and_congr_right fun _ => ?_
    exact ⟨shard_eq_mod, fun remainder =>
      exists_eq_two_pow_of_range positive (range_shard positive remainder)⟩
  · refine and_congr_right fun positive => and_congr_right fun _ => ?_
    exact ⟨fun power => range_shard positive (shard_eq_mod power),
      exists_eq_two_pow_of_range positive⟩

end ProfilingSession.Preflight
