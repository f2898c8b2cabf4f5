import Mniam.Connection.ConnectionClient
import Mniam.Connection.Transaction

/-! `Server` of `connection_server.cpp` and the objects its threads share, with every operation a
step of one thread. `ClientTransaction` objects live in a heap whose storage a reset releases and
a later `try_emplace` may take again. -/
namespace Mniam.Connection

open ConnectionTransactionState

/-- A `ClientTransaction` object in the heap, with its ghost provenance: the `Transaction` that made
it and in which of its dispatches, the key it was made under, and the acceptance number of the
connection it was made for. -/
structure Cell where
  object : ClientTransaction
  owner : Nat
  generation : Nat
  client : UInt32
  connection : Nat
  deriving DecidableEq, Repr

/-- Where the accept thread (`serverThreadFunc`) is. -/
inductive Acceptor where
  /-- Blocked in `accept`. -/
  | waiting
  /-- Past the unlocked check, which read these values of `isAccepting` and `clients.size()`. -/
  | admitted (accepting : Bool) (size : Nat)
  /-- `accept` failed and the loop was left. -/
  | ended
  deriving DecidableEq, Repr

/-- A dispatch loop run by the holder of the table lock: its `Transaction`, the clients still to
visit as (table key, map key), and a client transaction made for the visited client that
`ConnectionClient::runTransaction` has yet to take. -/
structure Dispatch where
  transaction : Nat
  remaining : List (UInt32 × UInt32)
  pending : Option (UInt32 × Nat)
  deriving DecidableEq, Repr

/-- The exception `std::map::at` throws. -/
inductive Exception where
  | outOfRange
  deriving DecidableEq, Repr

/-- `Server` and the objects its threads share. No storage at or above `next` has been handed out
yet. `generations` (how often each map was cleared) and `accepted` (ids inserted into the table,
in order) are ghost. -/
structure Server where
  clients : KeyMap ConnectionClient
  isAccepting : Bool
  clientLimit : Nat
  clientId : UInt32
  acceptor : Acceptor
  transactions : Nat → Transaction
  heap : Nat → Option Cell
  next : Nat
  dispatch : Option Dispatch
  generations : Nat → Nat
  accepted : List UInt32

namespace Server

/-- A server just constructed, with the application's `Transaction` objects. -/
def init (clientLimit : Nat) (transactions : Nat → Transaction) : Server where
  clients := []
  isAccepting := true
  clientLimit := clientLimit
  clientId := 0
  acceptor := .waiting
  transactions := fun tid => (transactions tid).reset
  heap := fun _ => none
  next := 0
  dispatch := none
  generations := fun _ => 0
  accepted := []

/-- The connection under `key` replaced. -/
@[simps]
def setClient (s : Server) (key : UInt32) (c : ConnectionClient) : Server :=
  { s with clients := s.clients.modify key fun _ => c }

/-- The object at `address` replaced. -/
@[simps]
def setCell (s : Server) (address : Nat) (cell : Cell) : Server :=
  { s with heap := Function.update s.heap address (some cell) }

/-! ## The dispatch of a `Transaction` -/

/-- `clientTransactions.clear()`, run by `Transaction::reset` and by the map's destructor: every
client transaction of the map is destroyed and its storage released, whether or not a queue still
refers to it. -/
@[simps]
def resetTransaction (s : Server) (tid : Nat) : Server :=
  { s with
    transactions := Function.update s.transactions tid (s.transactions tid).reset
    heap := fun address =>
      if address ∈ (s.transactions tid).clientTransactions.map (·.2) then none else s.heap address
    generations := Function.update s.generations tid (s.generations tid + 1) }

/-- `try_emplace` under `mapKey` of a new ClientTransaction with the `Transaction`'s request,
response size and validator, for the connection with acceptance number `connection`, in the
storage the allocator hands out. -/
@[simps]
def allocate (s : Server) (tid : Nat) (mapKey : UInt32) (connection storage : Nat) : Server :=
  { s.setCell storage ⟨.create (s.transactions tid).request (s.transactions tid).responseSize
      (s.transactions tid).validator, tid, s.generations tid, mapKey, connection⟩ with
    next := max s.next (storage + 1)
    transactions := Function.update s.transactions tid
      { s.transactions tid with
        clientTransactions := (s.transactions tid).clientTransactions.emplace mapKey storage } }

/-- One visit of the dispatch loop: `isActive` on the client under `key`, and if it holds, the
client transaction under `mapKey`, made in `storage` if there is none. Returns the address of the
client transaction to run, if any. -/
def visit (s : Server) (tid : Nat) (key mapKey : UInt32) (storage : Nat) : Server × Option Nat :=
  match s.clients.find key with
  | some client =>
    if client.active then
      match (s.transactions tid).clientTransactions.find mapKey with
      | some address => (s, some address)
      | none => (s.allocate tid mapKey client.serial storage, some storage)
    else (s, none)
  | none => (s, none)

theorem visit_eq (s : Server) (tid : Nat) (key mapKey : UInt32) (storage : Nat) :
    s.visit tid key mapKey storage = (s, none) ∨
      (∃ address, (s.transactions tid).clientTransactions.find mapKey = some address ∧
        s.visit tid key mapKey storage = (s, some address)) ∨
      ∃ client, s.clients.find key = some client ∧ client.active = true ∧
        (s.transactions tid).clientTransactions.find mapKey = none ∧
        s.visit tid key mapKey storage =
          (s.allocate tid mapKey client.serial storage, some storage) := by
  unfold visit
  split
  · rename_i client found
    split
    · split
      · exact .inr (.inl ⟨_, ‹_›, rfl⟩)
      · exact .inr (.inr ⟨client, found, ‹_›, ‹_›, rfl⟩)
    · exact .inl rfl
  · exact .inl rfl

/-- `ConnectionClient::runTransaction` of the client under `key` on the transaction at `address`. -/
def gate (s : Server) (key : UInt32) (address : Nat) : Server :=
  match s.clients.find key, s.heap address with
  | some client, some cell =>
    (s.setClient key (client.runTransaction address cell.object).2.1).setCell address
      { cell with object := (client.runTransaction address cell.object).2.2 }
  | _, _ => s

theorem gate_of_found {s : Server} {key : UInt32} {address : Nat} {client : ConnectionClient}
    {cell : Cell} (found : s.clients.find key = some client) (stored : s.heap address = some cell) :
    s.gate key address = (s.setClient key (client.runTransaction address cell.object).2.1).setCell
      address { cell with object := (client.runTransaction address cell.object).2.2 } := by
  simp [gate, found, stored]

theorem gate_of_missing {s : Server} {key : UInt32} {address : Nat}
    (missing : s.clients.find key = none) : s.gate key address = s := by
  simp [gate, missing]

/-- One iteration of a dispatch loop, with no other thread running; a new node takes storage that
was never handed out. -/
def dispatchOne (s : Server) (tid : Nat) (keys : UInt32 × UInt32) : Server :=
  match s.visit tid keys.1 keys.2 s.next with
  | (s, some address) => s.gate keys.1 address
  | (s, none) => s

/-- `Server::runTransactionWithSingleClient` as one call with no other thread running; `clients.at`
throws for an id not in the table. -/
def runTransactionWithSingleClient (s : Server) (clientId : UInt32) (tid : Nat) :
    Server × Except Exception Unit :=
  match (s.resetTransaction tid).clients.find clientId with
  | some client => ((s.resetTransaction tid).dispatchOne tid (clientId, client.clientId), .ok ())
  | none => (s.resetTransaction tid, .error .outOfRange)

/-- With an empty table, a single-client dispatch to id 5 throws `std::out_of_range`. -/
theorem single_client_absent_throws :
    ((init 1 fun _ => ⟨[1], 1, 0, []⟩).runTransactionWithSingleClient 5 0).2 = .error .outOfRange :=
  rfl

/-! ## Workers -/

/-- A worker at the head of its loop pops the front of its queue and, if the object there is
`SCHEDULED`, writes it. Storage released and not taken again is dropped: the code reads freed
memory there, which the model does not follow. -/
def pop (s : Server) (key : UInt32) (written : Nat) : Option Server :=
  match s.clients.find key with
  | some c =>
    match c.clientThread, c.transactions with
    | .polling, address :: rest =>
      match s.heap address with
      | some cell =>
        if cell.object.state = SCHEDULED then
          some ((s.setClient key
            { c with
              transactions := rest
              written := c.written ++ [address]
              clientThread := .afterWrite address (cell.object.write written).2 }).setCell address
            { cell with object := (cell.object.write written).1 })
        else some (s.setClient key { c with transactions := rest })
      | none => some (s.setClient key { c with transactions := rest })
    | _, _ => none
  | none => none

theorem pop_eq {s s' : Server} {key : UInt32} {written : Nat} (h : s.pop key written = some s') :
    ∃ c address rest, s.clients.find key = some c ∧ c.clientThread = .polling ∧
      c.transactions = address :: rest ∧
      ((∃ cell, s.heap address = some cell ∧ cell.object.state = SCHEDULED ∧
        s' = (s.setClient key
          { c with
            transactions := rest
            written := c.written ++ [address]
            clientThread := .afterWrite address (cell.object.write written).2 }).setCell address
          { cell with object := (cell.object.write written).1 }) ∨
      ((∀ cell, s.heap address = some cell → cell.object.state ≠ SCHEDULED) ∧
        s' = s.setClient key { c with transactions := rest })) := by
  unfold pop at h
  split at h
  · rename_i c found
    split at h
    · rename_i address rest polling queue
      refine ⟨c, address, rest, found, polling, queue, ?_⟩
      split at h
      · rename_i cell stored
        split at h
        · exact .inl ⟨cell, stored, ‹_›, (Option.some.inj h).symm⟩
        · exact .inr ⟨by simpa [stored], (Option.some.inj h).symm⟩
      · exact .inr ⟨by simp [*], (Option.some.inj h).symm⟩
    · cases h
  · cases h

/-- A worker blocked in a read gets its bytes and the validator's verdict, records the round trip
and releases the transaction; it then stops if `responseSize` reads zero. -/
def read (s : Server) (key : UInt32) (received : List UInt8) (verdict : Bool) (rtt : Int) :
    Option Server :=
  match s.clients.find key with
  | some c =>
    match c.clientThread with
    | .reading address =>
      match s.heap address with
      | some cell =>
        some ((s.setClient key
          { c.notifyRtt rtt with
            clientThread := if (cell.object.read received verdict).2 then .stopping else .polling }).setCell
          address { cell with object := (cell.object.read received verdict).1 })
      | none => none
    | _ => none
  | none => none

theorem read_eq {s s' : Server} {key : UInt32} {received : List UInt8} {verdict : Bool} {rtt : Int}
    (h : s.read key received verdict rtt = some s') :
    ∃ c address cell, s.clients.find key = some c ∧ c.clientThread = .reading address ∧
      s.heap address = some cell ∧
      s' = (s.setClient key
        { c.notifyRtt rtt with
          clientThread := if (cell.object.read received verdict).2 then .stopping else .polling }).setCell
        address { cell with object := (cell.object.read received verdict).1 } := by
  unfold read at h
  split at h
  · split at h
    · split at h
      · exact ⟨_, _, _, ‹_›, ‹_›, ‹_›, (Option.some.inj h).symm⟩
      · cases h
    · cases h
  · cases h

/-- A worker whose stop was requested leaves its loop: the connection becomes inactive. -/
def exit (s : Server) (key : UInt32) : Option Server :=
  match s.clients.find key with
  | some c =>
    if c.clientThread = .stopping then
      some (s.setClient key { c with clientThread := .exited, active := false })
    else none
  | none => none

theorem exit_eq {s s' : Server} {key : UInt32} (h : s.exit key = some s') :
    ∃ c, s.clients.find key = some c ∧ c.clientThread = .stopping ∧
      s' = s.setClient key { c with clientThread := .exited, active := false } := by
  unfold exit at h
  split at h
  · split at h
    · exact ⟨_, ‹_›, ‹_›, (Option.some.inj h).symm⟩
    · cases h
  · cases h

/-! ## The accept thread -/

/-- `acc.accept()` returns: a socket is checked, without the lock, against the gate and the limit;
a failure ends the loop. -/
def accept (s : Server) (socket : Bool) : Option Server :=
  match s.acceptor with
  | .waiting =>
    if socket then
      if s.isAccepting ∧ s.clients.length < s.clientLimit then
        some { s with acceptor := .admitted s.isAccepting s.clients.length }
      else some s
    else some { s with acceptor := .ended }
  | _ => none

/-- An accepted socket admits a connection only past a check that saw the gate open and room in
the table; the accept changes nothing but the accept thread. -/
theorem accept_eq {s s' : Server} {socket : Bool} (h : s.accept socket = some s') :
    s' = { s with acceptor := s'.acceptor } ∧
      ∀ accepting size, s'.acceptor = .admitted accepting size →
        accepting = true ∧ s.isAccepting = true ∧ size = s.clients.length ∧
          size < s.clientLimit := by
  unfold accept at h
  split at h
  · rename_i waiting
    split at h
    · split at h
      · rename_i check
        cases h
        exact ⟨rfl, by simp_all⟩
      · cases h
        exact ⟨rfl, by simp [waiting]⟩
    · cases h
      exact ⟨rfl, by simp⟩
  · cases h

/-- The locked insertion of an admitted connection under the next id, and the id's increment. -/
@[simps]
def insert (s : Server) : Server :=
  { s with
    clients := s.clients.emplace s.clientId (.create s.clientId s.accepted.length)
    clientId := s.clientId + 1
    acceptor := .waiting
    accepted := if s.clientId ∈ s.clients.map (·.1) then s.accepted else s.accepted ++ [s.clientId] }

/-- `removeClient`. -/
def removeClient (s : Server) (clientId : UInt32) : Server :=
  { s with clients := s.clients.erase clientId }

/-- `removeAllInactiveClients`. -/
def removeAllInactiveClients (s : Server) : Server :=
  { s with clients := s.clients.filter (·.2.active) }

end Server

/-- What one thread of the system does in one atomic step. -/
inductive Action where
  | accept (socket : Bool)
  | insert
  | removeClient (clientId : UInt32)
  | removeAllInactiveClients
  | rejectIncomingConnections
  | acceptIncomingConnections
  | runTransaction (transaction : Nat)
  | runTransactionWithSingleClient (clientId : UInt32) (transaction : Nat)
  | destroy (transaction : Nat)
  | visit (storage : Nat)
  | gate
  | finish
  | waitUntil (address : Nat) (inTime : Bool)
  | pop (clientId : UInt32) (written : Nat)
  | read (clientId : UInt32) (received : List UInt8) (verdict : Bool) (rtt : Int)
  | exit (clientId : UInt32)
  deriving DecidableEq, Repr

namespace Server

/-- The system's step. Operations that take the table lock wait while a dispatch holds it. A
`Transaction` going out of scope (`destroy`) takes no lock; a visit is offered free storage by the
allocator, which a new node takes. -/
def step (s : Server) : Action → Option Server
  | .accept socket => s.accept socket
  | .insert =>
    match s.acceptor, s.dispatch with
    | .admitted _ _, none => some s.insert
    | _, _ => none
  | .removeClient clientId => if s.dispatch = none then some (s.removeClient clientId) else none
  | .removeAllInactiveClients =>
    if s.dispatch = none then some s.removeAllInactiveClients else none
  | .rejectIncomingConnections => some { s with isAccepting := false }
  | .acceptIncomingConnections => some { s with isAccepting := true }
  | .runTransaction tid =>
    if s.dispatch = none then
      some { s.resetTransaction tid with
        dispatch := some ⟨tid, s.clients.map fun entry => (entry.1, entry.1), none⟩ }
    else none
  | .runTransactionWithSingleClient clientId tid =>
    if s.dispatch = none then
      match s.clients.find clientId with
      | some client =>
        some { s.resetTransaction tid with
          dispatch := some ⟨tid, [(clientId, client.clientId)], none⟩ }
      | none => some (s.resetTransaction tid)
    else none
  | .destroy tid => some (s.resetTransaction tid)
  | .visit storage =>
    match s.dispatch with
    | some ⟨tid, keys :: rest, none⟩ =>
      if s.heap storage = none then
        some { (s.visit tid keys.1 keys.2 storage).1 with
          dispatch := some ⟨tid, rest, (s.visit tid keys.1 keys.2 storage).2.map (keys.1, ·)⟩ }
      else none
    | _ => none
  | .gate =>
    match s.dispatch with
    | some ⟨tid, rest, some (key, address)⟩ =>
      some { s.gate key address with dispatch := some ⟨tid, rest, none⟩ }
    | _ => none
  | .finish =>
    match s.dispatch with
    | some ⟨_, [], none⟩ => some { s with dispatch := none }
    | _ => none
  | .waitUntil address inTime =>
    match s.heap address with
    | some cell => some (s.setCell address { cell with object := (cell.object.waitUntil inTime).2 })
    | none => none
  | .pop clientId written => s.pop clientId written
  | .read clientId received verdict rtt => s.read clientId received verdict rtt
  | .exit clientId => s.exit clientId

section Inversion

variable {s s' : Server}

theorem step_insert (h : s.step .insert = some s') :
    (∃ accepting size, s.acceptor = .admitted accepting size) ∧ s.dispatch = none ∧
      s' = s.insert := by
  simp only [step] at h
  split at h
  · cases h
    exact ⟨⟨_, _, ‹_›⟩, ‹_›, rfl⟩
  · cases h

theorem step_removeClient {clientId : UInt32} (h : s.step (.removeClient clientId) = some s') :
    s.dispatch = none ∧ s' = s.removeClient clientId := by
  simp only [step, Option.ite_none_right_eq_some, Option.some.injEq] at h
  exact ⟨h.1, h.2.symm⟩

theorem step_removeAllInactiveClients (h : s.step .removeAllInactiveClients = some s') :
    s.dispatch = none ∧ s' = s.removeAllInactiveClients := by
  simp only [step, Option.ite_none_right_eq_some, Option.some.injEq] at h
  exact ⟨h.1, h.2.symm⟩

theorem step_runTransaction {tid : Nat} (h : s.step (.runTransaction tid) = some s') :
    s.dispatch = none ∧ s' = { s.resetTransaction tid with
      dispatch := some ⟨tid, s.clients.map fun entry => (entry.1, entry.1), none⟩ } := by
  simp only [step, Option.ite_none_right_eq_some, Option.some.injEq] at h
  exact ⟨h.1, h.2.symm⟩

theorem step_runTransactionWithSingleClient {clientId : UInt32} {tid : Nat}
    (h : s.step (.runTransactionWithSingleClient clientId tid) = some s') :
    s.dispatch = none ∧
      ((∃ client, s.clients.find clientId = some client ∧
        s' = { s.resetTransaction tid with
          dispatch := some ⟨tid, [(clientId, client.clientId)], none⟩ }) ∨
      (s.clients.find clientId = none ∧ s' = s.resetTransaction tid)) := by
  simp only [step] at h
  split at h
  · refine ⟨‹_›, ?_⟩
    split at h
    · exact .inl ⟨_, ‹_›, (Option.some.inj h).symm⟩
    · exact .inr ⟨‹_›, (Option.some.inj h).symm⟩
  · cases h

theorem step_visit {storage : Nat} (h : s.step (.visit storage) = some s') :
    ∃ tid keys rest, s.dispatch = some ⟨tid, keys :: rest, none⟩ ∧ s.heap storage = none ∧
      s' = { (s.visit tid keys.1 keys.2 storage).1 with
        dispatch := some ⟨tid, rest, (s.visit tid keys.1 keys.2 storage).2.map (keys.1, ·)⟩ } := by
  simp only [step] at h
  split at h
  · simp only [Option.ite_none_right_eq_some, Option.some.injEq] at h
    exact ⟨_, _, _, ‹_›, h.1, h.2.symm⟩
  · cases h

theorem step_gate (h : s.step .gate = some s') :
    ∃ tid rest key address, s.dispatch = some ⟨tid, rest, some (key, address)⟩ ∧
      s' = { s.gate key address with dispatch := some ⟨tid, rest, none⟩ } := by
  simp only [step] at h
  split at h
  · exact ⟨_, _, _, _, ‹_›, (Option.some.inj h).symm⟩
  · cases h

theorem step_finish (h : s.step .finish = some s') :
    ∃ tid, s.dispatch = some ⟨tid, [], none⟩ ∧ s' = { s with dispatch := none } := by
  simp only [step] at h
  split at h
  · exact ⟨_, ‹_›, (Option.some.inj h).symm⟩
  · cases h

theorem step_waitUntil {address : Nat} {inTime : Bool}
    (h : s.step (.waitUntil address inTime) = some s') :
    ∃ cell, s.heap address = some cell ∧
      s' = s.setCell address { cell with object := (cell.object.waitUntil inTime).2 } := by
  simp only [step] at h
  split at h
  · exact ⟨_, ‹_›, (Option.some.inj h).symm⟩
  · cases h

end Inversion

/-- The states a server reaches from its construction. -/
inductive Reachable (clientLimit : Nat) (transactions : Nat → Transaction) : Server → Prop
  | init : Reachable clientLimit transactions (init clientLimit transactions)
  | step {s s' : Server} (action : Action) :
      Reachable clientLimit transactions s → s.step action = some s' →
        Reachable clientLimit transactions s'

/-- A sequence of actions run from a state; `none` once one is not enabled. -/
def run (s : Server) : List Action → Option Server
  | [] => some s
  | action :: rest => (s.step action).bind fun s' => s'.run rest

theorem run_append (s : Server) (first second : List Action) :
    s.run (first ++ second) = (s.run first).bind fun s' => s'.run second := by
  induction first generalizing s with
  | nil => rfl
  | cons action rest ih =>
    simp only [List.cons_append, run]
    cases s.step action <;> simp [ih]

theorem Reachable.run {clientLimit : Nat} {transactions : Nat → Transaction} {s s' : Server}
    {actions : List Action} (reach : Reachable clientLimit transactions s)
    (ran : s.run actions = some s') : Reachable clientLimit transactions s' := by
  induction actions generalizing s with
  | nil => exact Option.some.inj ran ▸ reach
  | cons action rest ih =>
    simp only [Server.run, Option.bind_eq_some] at ran
    obtain ⟨next, stepped, ran⟩ := ran
    exact ih (.step action reach stepped) ran

end Server

end Mniam.Connection
