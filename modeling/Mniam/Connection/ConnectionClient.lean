import Mniam.Connection.Worker

/-! `ConnectionClient` of `connection_client.cpp`: the liveness flag, the queue of scheduled
transactions (addresses into the server's heap), the RTT log, and its worker's program point. -/
namespace Mniam.Connection

open ConnectionTransactionState

/-- Where the worker thread of a connection is. -/
inductive Worker where
  /-- At the head of its loop, no stop requested. -/
  | polling
  /-- Blocked in the read for the transaction at this address. -/
  | reading (address : Nat)
  /-- A stop was requested; the loop ends at its next test. -/
  | stopping
  /-- The thread function returned after clearing `active`. -/
  | exited
  deriving DecidableEq, Repr

/-- Where the worker goes after writing the transaction at `address`. -/
def Worker.afterWrite (address : Nat) : AfterWrite → Worker
  | .poll => .polling
  | .read => .reading address
  | .stop => .stopping

/-- `ConnectionClient`. `clientThread` is the worker's program point; `serial` (its acceptance
number) and `written` (the addresses its worker wrote, in order) are ghost. -/
structure ConnectionClient where
  clientId : UInt32
  active : Bool
  clientThread : Worker
  transactions : List Nat
  rttLog : List Nat
  serial : Nat
  written : List Nat
  deriving DecidableEq, Repr

namespace ConnectionClient

/-- The constructor: active, worker polling, empty queue and log. -/
def create (clientId : UInt32) (serial : Nat) : ConnectionClient where
  clientId := clientId
  active := true
  clientThread := .polling
  transactions := []
  rttLog := []
  serial := serial
  written := []

/-- `ConnectionClient::runTransaction` on the transaction at `address`: if active, mark it
`SCHEDULED` and append it to the queue. -/
def runTransaction (c : ConnectionClient) (address : Nat) (t : ClientTransaction) :
    Bool × ConnectionClient × ClientTransaction :=
  if c.active then
    (true, { c with transactions := c.transactions ++ [address] },
      { t with state := SCHEDULED })
  else (false, c, t)

/-- Drop the oldest samples while the log holds more than ten. -/
def trimLog : List Nat → List Nat
  | [] => []
  | sample :: rest => if rest.length + 1 > 10 then trimLog rest else sample :: rest

/-- `notifyRtt`: the count stored as `unsigned int`, then the log trimmed to ten samples. -/
def notifyRtt (c : ConnectionClient) (rtt : Int) : ConnectionClient :=
  { c with rttLog := trimLog (c.rttLog ++ [(rtt % 2 ^ 32).toNat]) }

/-- `getRtt`: the samples summed from the `int` zero of `std::accumulate` into an
`unsigned int`, divided by their number; zero for an empty log. -/
def getRtt (c : ConnectionClient) : Nat :=
  if c.rttLog.length > 0 then
    c.rttLog.foldl (fun sum sample => (sum + sample) % 2 ^ 32) 0 / c.rttLog.length
  else 0

@[simp] theorem create_clientId (k : UInt32) (n : Nat) : (create k n).clientId = k := rfl
@[simp] theorem create_serial (k : UInt32) (n : Nat) : (create k n).serial = n := rfl
@[simp] theorem create_transactions (k : UInt32) (n : Nat) : (create k n).transactions = [] := rfl
@[simp] theorem create_written (k : UInt32) (n : Nat) : (create k n).written = [] := rfl
@[simp] theorem create_clientThread (k : UInt32) (n : Nat) : (create k n).clientThread = .polling :=
  rfl
@[simp] theorem notifyRtt_clientId (c : ConnectionClient) (r : Int) :
    (c.notifyRtt r).clientId = c.clientId := rfl
@[simp] theorem notifyRtt_active (c : ConnectionClient) (r : Int) :
    (c.notifyRtt r).active = c.active := rfl
@[simp] theorem notifyRtt_clientThread (c : ConnectionClient) (r : Int) :
    (c.notifyRtt r).clientThread = c.clientThread := rfl
@[simp] theorem notifyRtt_transactions (c : ConnectionClient) (r : Int) :
    (c.notifyRtt r).transactions = c.transactions := rfl
@[simp] theorem notifyRtt_serial (c : ConnectionClient) (r : Int) :
    (c.notifyRtt r).serial = c.serial := rfl
@[simp] theorem notifyRtt_written (c : ConnectionClient) (r : Int) :
    (c.notifyRtt r).written = c.written := rfl

end ConnectionClient

end Mniam.Connection
