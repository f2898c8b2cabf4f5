import Mathlib.Data.List.Sort
import Mathlib.Algebra.Group.Int

/-! The fan-out `Transaction` of `connection_transaction.h`, and the `std::map` operations the
connection layer uses on tables keyed by client id. -/
namespace Mniam.Connection

/-- A `std::map` keyed by `unsigned int`, as its entries in key order. -/
abbrev KeyMap (α : Type) := List (UInt32 × α)

namespace KeyMap

variable {α : Type}

/-- `emplace` and `try_emplace`: insert in key order, unless the key is present. -/
def emplace (m : KeyMap α) (key : UInt32) (value : α) : KeyMap α :=
  if key ∈ m.map (·.1) then m else m.orderedInsert (fun a b => a.1 ≤ b.1) (key, value)

/-- `find`: the value under a key. -/
def find : KeyMap α → UInt32 → Option α
  | [], _ => none
  | entry :: rest, key => if entry.1 = key then some entry.2 else find rest key

/-- `erase`: the map without the key. -/
def erase (m : KeyMap α) (key : UInt32) : KeyMap α := m.filter (·.1 ≠ key)

/-- The value under a key changed in place. -/
def modify (m : KeyMap α) (key : UInt32) (f : α → α) : KeyMap α :=
  m.map fun entry => if entry.1 = key then (entry.1, f entry.2) else entry

theorem find_eq_none {m : KeyMap α} {key : UInt32} (absent : key ∉ m.map (·.1)) :
    m.find key = none := by
  induction m with
  | nil => rfl
  | cons entry rest ih =>
    simp only [List.map_cons, List.mem_cons, not_or] at absent
    simp [find, Ne.symm absent.1, ih absent.2]

theorem find_isSome {m : KeyMap α} {key : UInt32} (present : key ∈ m.map (·.1)) :
    (m.find key).isSome := by
  induction m with
  | nil => simp at present
  | cons entry rest ih =>
    by_cases here : entry.1 = key
    · simp [find, here]
    · simp only [List.map_cons, List.mem_cons] at present
      simpa [find, here] using ih (present.resolve_left (Ne.symm here))

private theorem find_orderedInsert (m : KeyMap α) (key other : UInt32) (value : α) :
    find (m.orderedInsert (fun a b => a.1 ≤ b.1) (key, value)) other =
      if key = other then some value else m.find other := by
  induction m with
  | nil => rfl
  | cons entry rest ih =>
    simp only [List.orderedInsert]
    split
    · rfl
    · rename_i later
      rw [find, ih, find]
      by_cases first : entry.1 = other
      · have : key ≠ other := by
          rintro rfl
          exact later (first ▸ UInt32.le_refl _)
        simp [first, this]
      · simp [first]

theorem find_emplace (m : KeyMap α) (key other : UInt32) (value : α) :
    (m.emplace key value).find other =
      if key = other then (m.find other).or (some value) else m.find other := by
  unfold emplace
  split
  · rename_i present
    split
    · subst other
      obtain ⟨v, found⟩ := Option.isSome_iff_exists.mp (find_isSome present)
      simp [found]
    · rfl
  · rw [find_orderedInsert]
    split
    · subst other
      simp [find_eq_none ‹_›]
    · rfl

theorem emplace_of_mem {m : KeyMap α} {key : UInt32} (present : key ∈ m.map (·.1)) (value : α) :
    m.emplace key value = m := by
  simp [emplace, present]

theorem perm_emplace {m : KeyMap α} {key : UInt32} (absent : key ∉ m.map (·.1)) (value : α) :
    (m.emplace key value).Perm ((key, value) :: m) := by
  simpa [emplace, absent] using List.perm_orderedInsert _ _ _

theorem find_of_mem {m : KeyMap α} {key : UInt32} {value : α} (nodup : (m.map (·.1)).Nodup)
    (member : (key, value) ∈ m) : m.find key = some value := by
  induction m with
  | nil => cases member
  | cons entry rest ih =>
    rw [List.map_cons, List.nodup_cons] at nodup
    rcases List.mem_cons.mp member with here | there
    · simp [find, ← here]
    · have other : entry.1 ≠ key := by
        rintro same
        exact nodup.1 (same ▸ List.mem_map_of_mem (·.1) there)
      simp [find, other, ih nodup.2 there]

theorem eq_of_mem_find {m : KeyMap α} {key : UInt32} {value : α} (nodup : (m.map (·.1)).Nodup)
    (found : m.find key = some value) {entry : UInt32 × α} (member : entry ∈ m)
    (same : entry.1 = key) : entry = (key, value) := by
  have := find_of_mem nodup (show (entry.1, entry.2) ∈ m from member)
  rw [same, found, Option.some.injEq] at this
  exact Prod.ext same this.symm

theorem map_modify_const {β : Type} (f : UInt32 × α → β) {m : KeyMap α} {key : UInt32}
    {old new : α} (nodup : (m.map (·.1)).Nodup) (found : m.find key = some old)
    (same : f (key, new) = f (key, old)) : (m.modify key fun _ => new).map f = m.map f := by
  simp only [modify, List.map_map]
  apply List.map_congr_left
  intro entry member
  simp only [Function.comp]
  split
  · rename_i here
    rw [eq_of_mem_find nodup found member here, same]
  · rfl

end KeyMap

/-- `Transaction`: the request, expected response size and validator every dispatch copies, and
`clientTransactions`, client id to the address of the ClientTransaction made for that client. -/
structure Transaction where
  request : List UInt8
  responseSize : Nat
  validator : Nat
  clientTransactions : KeyMap Nat
  deriving DecidableEq, Repr

namespace Transaction

/-- `reset`: forget the client transactions of the last run. -/
def reset (t : Transaction) : Transaction := { t with clientTransactions := [] }

/-- `getResponse`: the base class answers every client with an empty span. -/
def getResponse (_t : Transaction) (_clientId : UInt32) : List UInt8 := []

@[simp] theorem reset_clientTransactions (t : Transaction) : t.reset.clientTransactions = [] := rfl
@[simp] theorem reset_request (t : Transaction) : t.reset.request = t.request := rfl
@[simp] theorem reset_responseSize (t : Transaction) : t.reset.responseSize = t.responseSize := rfl
@[simp] theorem reset_validator (t : Transaction) : t.reset.validator = t.validator := rfl

end Transaction

end Mniam.Connection
