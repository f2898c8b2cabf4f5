import Mathlib.Data.List.Basic
import Mathlib.Algebra.Group.Int

/-! One request/response exchange with one remote client (`ClientTransaction` of
`connection_client.h`). -/
namespace Mniam.Connection

/-- `ConnectionTransactionState`. -/
inductive ConnectionTransactionState where
  | IDLE
  | SCHEDULED
  | WAITING
  | DONE
  | TIMEOUT
  deriving DecidableEq, Repr

namespace ConnectionTransactionState

/-- `DONE` and `TIMEOUT` end a transaction. -/
def Terminal (state : ConnectionTransactionState) : Prop := state = DONE ∨ state = TIMEOUT

instance (state : ConnectionTransactionState) : Decidable (Terminal state) :=
  inferInstanceAs (Decidable (_ ∨ _))

/-- Position along `IDLE → SCHEDULED → WAITING → DONE | TIMEOUT`. -/
def rank : ConnectionTransactionState → Nat
  | IDLE => 0
  | SCHEDULED => 1
  | WAITING => 2
  | DONE => 3
  | TIMEOUT => 3

/-- A move along the state diagram: forward, and never out of a terminal state. -/
def Advances (before after : ConnectionTransactionState) : Prop :=
  before = after ∨ (¬ Terminal before ∧ rank before < rank after)

theorem Advances.refl (state : ConnectionTransactionState) : Advances state state := .inl rfl

theorem Advances.trans (first : Advances a b) (second : Advances b c) : Advances a c := by
  rcases first with rfl | ⟨open₁, lt₁⟩
  · exact second
  · rcases second with rfl | ⟨_, lt₂⟩
    · exact .inr ⟨open₁, lt₁⟩
    · exact .inr ⟨open₁, lt₁.trans lt₂⟩

end ConnectionTransactionState

open ConnectionTransactionState

/-- `ClientTransaction`. `validator` names the validator object the transaction refers to;
`endOfTransactionSignal` is the count of the binary semaphore. `responseBuf` holds what the last
read returned: its first `responseSize` bytes are the response. `releases` and `validated` are
ghost: how often the signal was released, and the bytes a validator accepted. -/
structure ClientTransaction where
  state : ConnectionTransactionState
  request : List UInt8
  responseSize : Nat
  responseBuf : List UInt8
  validator : Nat
  endOfTransactionSignal : Nat
  releases : Nat
  validated : Option (List UInt8)
  deriving DecidableEq, Repr

namespace ClientTransaction

/-- The constructor: `IDLE`, nothing received, the semaphore taken. -/
def create (requestData : List UInt8) (expectedResponseSize : Nat) (responseValidator : Nat) :
    ClientTransaction where
  state := IDLE
  request := requestData
  responseSize := expectedResponseSize
  responseBuf := []
  validator := responseValidator
  endOfTransactionSignal := 0
  releases := 0
  validated := none

/-- `endOfTransactionSignal.release()`. -/
def release (t : ClientTransaction) : ClientTransaction :=
  { t with endOfTransactionSignal := t.endOfTransactionSignal + 1, releases := t.releases + 1 }

/-- `waitUntil`: `inTime` says whether a token came before the deadline. With one, the semaphore is
taken and the result is whether the state is `DONE`; without one the wait fails. -/
def waitUntil (t : ClientTransaction) (inTime : Bool) : Bool × ClientTransaction :=
  if inTime ∧ 0 < t.endOfTransactionSignal then
    (t.state = DONE, { t with endOfTransactionSignal := t.endOfTransactionSignal - 1 })
  else (false, t)

/-- `getResponse`: the first `responseSize` received bytes when `DONE`, otherwise nothing. -/
def getResponse (t : ClientTransaction) : List UInt8 :=
  if t.state = DONE then t.responseBuf.take t.responseSize else []

@[simp] theorem create_state (r : List UInt8) (n v : Nat) : (create r n v).state = IDLE := rfl
@[simp] theorem create_signal (r : List UInt8) (n v : Nat) :
    (create r n v).endOfTransactionSignal = 0 := rfl
@[simp] theorem release_state (t : ClientTransaction) : t.release.state = t.state := rfl
@[simp] theorem release_responseSize (t : ClientTransaction) :
    t.release.responseSize = t.responseSize := rfl
@[simp] theorem release_responseBuf (t : ClientTransaction) :
    t.release.responseBuf = t.responseBuf := rfl
@[simp] theorem release_signal (t : ClientTransaction) :
    t.release.endOfTransactionSignal = t.endOfTransactionSignal + 1 := rfl
@[simp] theorem release_releases (t : ClientTransaction) : t.release.releases = t.releases + 1 :=
  rfl
@[simp] theorem release_validated (t : ClientTransaction) : t.release.validated = t.validated :=
  rfl
@[simp] theorem create_releases (r : List UInt8) (n v : Nat) : (create r n v).releases = 0 := rfl
@[simp] theorem create_validated (r : List UInt8) (n v : Nat) : (create r n v).validated = none :=
  rfl

end ClientTransaction

end Mniam.Connection
