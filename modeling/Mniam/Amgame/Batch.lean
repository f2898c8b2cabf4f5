import Mathlib.Data.List.Basic
import Mathlib.Algebra.Group.Int

/-! The batching loop the update phases of `Game::update` share: its batches are the list's states
in order, each numbered by its index modulo `2 ^ 16`, and each holds between 1 and the maximum. -/
namespace Mniam.Amgame

/-- `AMCOM_FoodState` as `Game::update` fills it; the body's position (`x`, `y`) is not
modelled. -/
structure FoodState where
  foodNo : UInt16
  state : Int
  deriving DecidableEq, Repr

/-- `AMCOM_PlayerState` as `Game::update` fills it, without the position. -/
structure PlayerState where
  playerNo : UInt16
  hp : Int
  deriving DecidableEq, Repr

/-- The loop of the batching phases: element `x` with counter value `no` adds `entry no x` to the
pending transaction, if it gives one; the transaction is dispatched (and cleared) when it holds
`max` entries, or after the last element when `flushLast` accepts it. -/
def batchLoop {α β : Type} (max : Nat) (flushLast : List β → Bool) (entry : UInt16 → α → Option β) :
    UInt16 → List β → List α → List (List β)
  | _, _, [] => []
  | no, pending, x :: rest =>
    let pending := pending ++ (entry no x).toList
    if pending.length = max || rest.isEmpty && flushLast pending then
      pending :: batchLoop max flushLast entry (no + 1) [] rest
    else batchLoop max flushLast entry (no + 1) pending rest

theorem ofNat_succ (n : Nat) : UInt16.ofNat (n + 1) = UInt16.ofNat n + 1 := by
  apply UInt16.eq_of_toBitVec_eq
  simp [UInt16.add_def, UInt16.ofNat, BitVec.ofNat_add]

theorem add_ofNat_succ (no : UInt16) (i : Nat) :
    no + UInt16.ofNat (i + 1) = no + 1 + UInt16.ofNat i := by
  rw [ofNat_succ]
  apply UInt16.eq_of_toBitVec_eq
  simp only [UInt16.add_def]
  ac_rfl

theorem add_ofNat_zero (no : UInt16) : no + UInt16.ofNat 0 = no := by
  apply UInt16.eq_of_toBitVec_eq
  simp [UInt16.add_def, UInt16.ofNat]

@[simp] theorem zero_add_ofNat (i : Nat) : (0 : UInt16) + UInt16.ofNat i = UInt16.ofNat i := by
  apply UInt16.eq_of_toBitVec_eq
  simp [UInt16.add_def]

@[simp] theorem filterMap_id_cons {β : Type} (o : Option β) (rest : List (Option β)) :
    (o :: rest).filterMap id = o.toList ++ rest.filterMap id := by
  cases o <;> rfl

section Loop

variable {α β : Type} (max : Nat) (flushLast : List β → Bool) (entry : UInt16 → α → Option β)

/-- The entries the elements of `xs` contribute, the first one with counter value `no`. -/
def contributions (no : UInt16) (xs : List α) : List β :=
  (xs.mapIdx fun i x => entry (no + UInt16.ofNat i) x).filterMap id

theorem contributions_cons (no : UInt16) (x : α) (rest : List α) :
    contributions entry no (x :: rest) = (entry no x).toList ++ contributions entry (no + 1) rest := by
  simp only [contributions, List.mapIdx_cons, add_ofNat_zero, add_ofNat_succ, filterMap_id_cons]

/-- What the loop dispatches, batch after batch, is what was pending followed by every element's
entry, once the loop has an element left or nothing pending; nothing is lost when `flushLast`
accepts every non-empty transaction. -/
theorem batchLoop_flatten (flushes : ∀ pending, pending ≠ [] → flushLast pending = true)
    (no : UInt16) (pending : List β) (xs : List α) (started : pending = [] ∨ xs ≠ []) :
    (batchLoop max flushLast entry no pending xs).flatten = pending ++ contributions entry no xs := by
  induction xs generalizing no pending with
  | nil =>
    obtain rfl | nonempty := started
    · rfl
    · exact (nonempty rfl).elim
  | cons x rest ih =>
    rw [batchLoop, contributions_cons, ← List.append_assoc]
    split
    · rw [List.flatten_cons, ih _ _ (.inl rfl), List.nil_append]
    · rename_i kept
      refine ih _ _ ((em (rest = [])).imp (fun last => ?_) id)
      by_contra nonempty
      simp [last, flushes _ nonempty] at kept

theorem batchLoop_sizes (positive : 0 < max)
    (nonempty : flushLast [] = false ∨ ∀ no x, (entry no x).isSome) :
    ∀ (no : UInt16) (pending : List β) (xs : List α), pending.length < max →
      ∀ batch ∈ batchLoop max flushLast entry no pending xs, 0 < batch.length ∧ batch.length ≤ max := by
  intro no pending xs
  induction xs generalizing no pending with
  | nil => simp [batchLoop]
  | cons x rest ih =>
    intro room batch mem
    have grown : (pending ++ (entry no x).toList).length ≤ pending.length + 1 := by
      cases entry no x <;> simp
    simp only [batchLoop] at mem
    split at mem
    · rename_i flushed
      rcases List.mem_cons.1 mem with rfl | later
      · refine ⟨?_, by omega⟩
        simp only [Bool.or_eq_true, decide_eq_true_eq, Bool.and_eq_true] at flushed
        rcases flushed with full | ⟨-, accepted⟩
        · omega
        · rcases nonempty with never | always
          · refine List.length_pos.2 fun empty => ?_
            rw [empty, never] at accepted
            exact Bool.false_ne_true accepted
          · have := always no x
            cases h : entry no x <;> simp_all
      · exact ih _ [] positive _ later
    · rename_i kept
      simp only [Bool.or_eq_true, decide_eq_true_eq, not_or] at kept
      exact ih _ _ (by omega) _ mem

end Loop

section Updates

variable {α β : Type} (max : Nat) (state : UInt16 → α → β)

/-- The loop of FOOD_UPDATE, PLAYER_UPDATE and GAME_OVER: every element adds its state, and the
transaction is flushed when full or at the last element. -/
def updateBatches (xs : List α) : List (List β) :=
  batchLoop max (fun _ => true) (fun no x => some (state no x)) 0 [] xs

theorem contributions_some (no : UInt16) (xs : List α) :
    contributions (fun no x => some (state no x)) no xs = xs.mapIdx fun i x => state (no + UInt16.ofNat i) x := by
  induction xs generalizing no with
  | nil => rfl
  | cons x rest ih =>
    rw [contributions_cons, ih, List.mapIdx_cons, add_ofNat_zero]
    simp only [add_ofNat_succ, Option.toList_some, List.singleton_append]

/-- The batches hold every element's state, in order, each built with its index modulo
`2 ^ 16`. -/
theorem updateBatches_flatten (xs : List α) :
    (updateBatches max state xs).flatten = xs.mapIdx fun i x => state (UInt16.ofNat i) x := by
  rw [updateBatches, batchLoop_flatten _ _ _ (fun _ _ => rfl) _ _ _ (.inl rfl), List.nil_append,
    contributions_some]
  simp only [zero_add_ofNat]

theorem updateBatches_sizes (positive : 0 < max) (xs : List α) :
    ∀ batch ∈ updateBatches max state xs, 0 < batch.length ∧ batch.length ≤ max :=
  batchLoop_sizes max _ (fun no x => some (state no x)) positive (.inr fun _ _ => rfl) 0 [] xs positive

end Updates

end Mniam.Amgame
