import Mniam.Connection.ClientTransaction

/-! The body of `ConnectionClient::clientThreadFunc` for one popped transaction: the write, then the
read and the validator's verdict, with socket and validator results as inputs. -/
namespace Mniam.Connection

open ConnectionTransactionState

/-- What the socket and the validator give one transaction: the count `write_n` reports, the bytes
`read` returns, the validator's verdict and the measured round trip in milliseconds. -/
structure Outcome where
  written : Nat
  received : List UInt8
  verdict : Bool
  rtt : Int
  deriving DecidableEq, Repr

/-- Where the worker goes after writing a popped transaction. -/
inductive AfterWrite where
  | poll
  | read
  | stop
  deriving DecidableEq, Repr

namespace ClientTransaction

/-- The write of a `SCHEDULED` transaction. -/
def write (t : ClientTransaction) (written : Nat) : ClientTransaction × AfterWrite :=
  if t.request.length ≠ written then ({ t with state := TIMEOUT }.release, .stop)
  else if 0 < t.responseSize then ({ t with state := WAITING }, .read)
  else ({ t with state := DONE }.release, .poll)

/-- The read of a `WAITING` transaction and the verdict on a full response. The second component
is the loop's stop test, `responseSize == 0`, taken after the release. -/
def read (t : ClientTransaction) (received : List UInt8) (verdict : Bool) :
    ClientTransaction × Bool :=
  let t : ClientTransaction :=
    if t.responseSize = received.length then
      if verdict then { t with responseBuf := received, state := DONE, validated := some received }
      else { t with responseBuf := received, responseSize := 0, state := TIMEOUT }
    else { t with responseBuf := received, state := TIMEOUT }
  (t.release, t.responseSize = 0)

/-- The loop body for a popped transaction, skipped unless `SCHEDULED`: the transaction afterwards,
the round trip passed to `notifyRtt` if any, and whether the worker requested its own stop. -/
def process (t : ClientTransaction) (o : Outcome) : ClientTransaction × Option Int × Bool :=
  if t.state = SCHEDULED then
    match t.write o.written with
    | (t, .poll) => (t, none, false)
    | (t, .read) => ((t.read o.received o.verdict).1, some o.rtt, (t.read o.received o.verdict).2)
    | (t, .stop) => (t, none, true)
  else (t, none, false)

theorem write_cases (t : ClientTransaction) (written : Nat) :
    (t.request.length ≠ written ∧ t.write written = ({ t with state := TIMEOUT }.release, .stop)) ∨
    (t.request.length = written ∧ 0 < t.responseSize ∧
      t.write written = ({ t with state := WAITING }, .read)) ∨
    (t.request.length = written ∧ t.responseSize = 0 ∧
      t.write written = ({ t with state := DONE }.release, .poll)) := by
  unfold write
  by_cases short : t.request.length = written
  · by_cases expects : 0 < t.responseSize
    · simp [short, expects]
    · simp [short, expects]; omega
  · simp [short]

theorem read_cases (t : ClientTransaction) (received : List UInt8) (verdict : Bool) :
    (t.responseSize = received.length ∧ verdict = true ∧
      t.read received verdict =
        ({ t with responseBuf := received, state := DONE, validated := some received }.release,
          decide (t.responseSize = 0))) ∨
    (t.responseSize = received.length ∧ verdict = false ∧
      t.read received verdict =
        ({ t with responseBuf := received, responseSize := 0, state := TIMEOUT }.release, true)) ∨
    (t.responseSize ≠ received.length ∧
      t.read received verdict =
        ({ t with responseBuf := received, state := TIMEOUT }.release, decide (t.responseSize = 0))) := by
  unfold read
  by_cases full : t.responseSize = received.length
  · cases verdict <;> simp [full]
  · simp [full]

end ClientTransaction

/-- `clientThreadFunc` over a fixed queue with one outcome per transaction, until it stops or the
outcomes run out: the transactions as the worker leaves them, the round trips it records, and
whether it stopped. -/
def drain : List ClientTransaction → List Outcome → List ClientTransaction × List Int × Bool
  | t :: queue, o :: outcomes =>
    match t.process o with
    | (t, sample, true) => (t :: queue, sample.toList, true)
    | (t, sample, false) =>
      ((t :: (drain queue outcomes).1), sample.toList ++ (drain queue outcomes).2.1,
        (drain queue outcomes).2.2)
  | queue, _ => (queue, [], false)

/-- A transaction expecting one byte, scheduled with a one-byte request. -/
def oneByteExchange : ClientTransaction :=
  { ClientTransaction.create [1] 1 0 with state := SCHEDULED }

/-- Two queued exchanges: a full response the validator rejects stops the worker and leaves the
second exchange `SCHEDULED`; a short read lets the worker go on and finish the second. -/
theorem worker_stops_on_rejection_not_on_short_read :
    (drain [oneByteExchange, oneByteExchange] [⟨1, [7], false, 5⟩, ⟨1, [8], true, 5⟩]).2.2 = true ∧
      (drain [oneByteExchange, oneByteExchange]
        [⟨1, [7], false, 5⟩, ⟨1, [8], true, 5⟩]).1.map (·.state) = [TIMEOUT, SCHEDULED] ∧
      (drain [oneByteExchange, oneByteExchange] [⟨1, [], true, 5⟩, ⟨1, [8], true, 5⟩]).2.2 = false ∧
      (drain [oneByteExchange, oneByteExchange]
        [⟨1, [], true, 5⟩, ⟨1, [8], true, 5⟩]).1.map (·.state) = [TIMEOUT, DONE] := by
  decide

end Mniam.Connection
