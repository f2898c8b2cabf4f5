import Mniam.Connection.ConnectionClient
import Mathlib.Algebra.Order.Ring.Nat
import Mathlib.Algebra.Ring.Int.Defs

/-! The rolling RTT window of a connection (`notifyRtt`, `getRtt`): the mean of the last ten samples
while they are non-negative and their sum fits in 32 bits, and wrapped values otherwise. -/
namespace Mniam.Connection

namespace ConnectionClient

/-- The count `rttLog.push_back(rtt.count())` stores: the sample modulo `2 ^ 32`. -/
def logged (rtt : Int) : Nat := (rtt % 2 ^ 32).toNat

theorem trimLog_eq_drop : ∀ log : List Nat, trimLog log = log.drop (log.length - 10)
  | [] => rfl
  | sample :: rest => by
    unfold trimLog
    split
    · have shift : rest.length + 1 - 10 = rest.length - 10 + 1 := by omega
      rw [trimLog_eq_drop rest, List.length_cons, shift, List.drop_succ_cons]
    · have none : rest.length + 1 - 10 = 0 := by omega
      rw [List.length_cons, none, List.drop_zero]

theorem length_rttLog_notifyRtt (c : ConnectionClient) (rtt : Int) :
    (c.notifyRtt rtt).rttLog.length ≤ 10 := by
  simp only [notifyRtt, trimLog_eq_drop, List.length_drop]
  omega

theorem rttLog_foldl (samples : List Int) (c : ConnectionClient) (short : c.rttLog.length ≤ 10) :
    (samples.foldl notifyRtt c).rttLog =
      (c.rttLog ++ samples.map logged).drop (c.rttLog.length + samples.length - 10) := by
  induction samples generalizing c with
  | nil =>
    have none : c.rttLog.length - 10 = 0 := by omega
    simp [none]
  | cons rtt rest ih =>
    have stored : (c.notifyRtt rtt).rttLog =
        (c.rttLog ++ [logged rtt]).drop (c.rttLog.length + 1 - 10) := by
      simp [notifyRtt, trimLog_eq_drop, logged]
    rw [List.foldl_cons, ih _ (length_rttLog_notifyRtt c rtt), stored,
      ← List.drop_append_of_le_length (by simp; omega), List.drop_drop, List.length_drop]
    simp only [List.length_append, List.length_singleton, List.append_assoc, List.singleton_append,
      List.map_cons, List.length_cons, List.length_nil]
    congr 1
    omega

private theorem foldl_add_mod (log : List Nat) (start : Nat) :
    log.foldl (fun sum sample => (sum + sample) % 2 ^ 32) (start % 2 ^ 32) =
      (start + log.sum) % 2 ^ 32 := by
  induction log generalizing start with
  | nil => simp
  | cons sample rest ih =>
    rw [List.foldl_cons, Nat.mod_add_mod, ih, List.sum_cons, Nat.add_assoc]

theorem getRtt_eq (c : ConnectionClient) : c.getRtt = c.rttLog.sum % 2 ^ 32 / c.rttLog.length := by
  unfold getRtt
  split
  · have sum := foldl_add_mod c.rttLog 0
    rw [Nat.zero_mod, Nat.zero_add] at sum
    rw [sum]
  · simp_all

/-- After samples `r₁ … rₙ` on a new connection, `getRtt` is the sum of the counts stored for the
last `min n 10` samples, modulo `2 ^ 32`, over `min n 10`. -/
theorem getRtt_samples (clientId : UInt32) (serial : Nat) (samples : List Int) :
    (samples.foldl notifyRtt (create clientId serial)).getRtt =
      ((samples.drop (samples.length - 10)).map logged).sum % 2 ^ 32 / min samples.length 10 := by
  rw [getRtt_eq, rttLog_foldl samples _ (by simp [create])]
  simp only [create, List.nil_append, List.length_nil, Nat.zero_add, ← List.map_drop,
    List.length_map, List.length_drop]
  congr 1
  omega

private theorem sum_logged : ∀ window : List Int, (∀ r ∈ window, 0 ≤ r) →
    window.sum < 2 ^ 32 → (window.map logged).sum = window.sum.toNat ∧ 0 ≤ window.sum
  | [], _, _ => ⟨rfl, Int.le_refl 0⟩
  | rtt :: rest, nonneg, fits => by
    have first := nonneg rtt (List.mem_cons_self _ _)
    obtain ⟨tail, positive⟩ := sum_logged rest (fun r member => nonneg r (List.mem_cons_of_mem _ member))
      (by rw [List.sum_cons] at fits; omega)
    rw [List.sum_cons] at fits ⊢
    have small : rtt % 2 ^ 32 = rtt := Int.emod_eq_of_lt first (by omega)
    refine ⟨?_, by omega⟩
    rw [List.map_cons, List.sum_cons, tail, logged, small]
    omega

/-- When the last `min n 10` samples are non-negative and their sum fits in 32 bits, `getRtt` is
their mean rounded toward zero, and `0` after no sample. -/
theorem getRtt_mean (clientId : UInt32) (serial : Nat) (samples : List Int)
    (nonneg : ∀ r ∈ samples.drop (samples.length - 10), 0 ≤ r)
    (fits : (samples.drop (samples.length - 10)).sum < 2 ^ 32) :
    ((samples.foldl notifyRtt (create clientId serial)).getRtt : Int) =
      (samples.drop (samples.length - 10)).sum.tdiv (min samples.length 10) := by
  obtain ⟨counts, positive⟩ := sum_logged _ nonneg fits
  rw [getRtt_samples, counts, Nat.mod_eq_of_lt (by omega), Int.ofNat_tdiv,
    Int.toNat_of_nonneg positive]
  congr 1
  omega

theorem getRtt_mean_two :
    let samples : List Int := [5, 7]
    ((∀ r ∈ samples.drop (samples.length - 10), 0 ≤ r) ∧
        (samples.drop (samples.length - 10)).sum < 2 ^ 32) ∧
      ((samples.foldl notifyRtt (create 0 0)).getRtt : Int) =
        (samples.drop (samples.length - 10)).sum.tdiv (min samples.length 10) := by
  intro samples
  exact ⟨⟨by decide, by decide⟩, getRtt_mean 0 0 samples (by decide) (by decide)⟩

/-- A sample of `-1` ms, after a clock adjustment, makes `getRtt` report `2 ^ 32 - 1` ms, and ten
samples of `2 ^ 31` ms make it report `0`. -/
theorem rtt_mean_wraps :
    ((create 0 0).notifyRtt (-1)).getRtt = 2 ^ 32 - 1 ∧
      ((List.replicate 10 (2 ^ 31)).foldl notifyRtt (create 0 0)).getRtt = 0 := by
  decide

end ConnectionClient

end Mniam.Connection
