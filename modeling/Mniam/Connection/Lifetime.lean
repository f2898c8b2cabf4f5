import Mniam.Connection.Table

/-! What a reset does to the client transactions a queue or a worker still refers to: it destroys
them, and the next dispatch may build a new object in the released storage, which the old
references then reach. -/
namespace Mniam.Connection

open ConnectionTransactionState

namespace Server

/-- A second dispatch of a `Transaction` destroys the client transaction still queued from the
first, and builds the new one in its storage: the queue then holds that storage twice, the map
once. -/
theorem reset_frees_queued_transaction :
    ((init 1 oneByteRequest).run (dispatched ++ [.runTransaction 0])).map
        (fun s => (s.clients.map (·.2.transactions), (s.transactions 0).clientTransactions,
          (s.heap 0).isSome)) = some ([[0]], [], false) ∧
      ((init 1 oneByteRequest).run (dispatched ++ [.runTransaction 0, .visit 0, .gate, .finish])).map
        (fun s => (s.clients.map (·.2.transactions), (s.transactions 0).clientTransactions,
          (s.heap 0).map (·.generation))) = some ([[0, 0]], [(0, 0)], some 2) := by
  decide

/-- Two connections, and a `Transaction` dispatched to the first and then, while that worker is in
its read, to the second, in the same storage. The first worker's short read times the second
connection's transaction out and releases it; the second worker's read then makes it `DONE` and
releases it again. -/
def readDuringReset : List Action :=
  [.accept true, .insert, .accept true, .insert, .runTransactionWithSingleClient 0 0, .visit 0,
    .gate, .finish, .pop 0 1, .runTransactionWithSingleClient 1 0, .visit 0, .gate, .finish,
    .pop 1 1, .read 0 [] true 5, .read 1 [9] true 5]

/-- The reset destroys the object the first worker reads; the object built in its storage for the
second connection goes from `TIMEOUT` back to `DONE` and its signal is released twice. -/
theorem reused_transaction_released_twice :
    ((init 2 oneByteRequest).run (readDuringReset.take 10)).map
        (fun s => (s.clients.map (·.2.clientThread), (s.heap 0).isSome)) =
      some ([.reading 0, .polling], false) ∧
      ((init 2 oneByteRequest).run (readDuringReset.take 15)).map
        (fun s => (s.heap 0).map fun cell => (cell.connection, cell.object.state,
          cell.object.releases)) = some (some (1, TIMEOUT, 1)) ∧
      ((init 2 oneByteRequest).run readDuringReset).map
        (fun s => (s.heap 0).map fun cell => (cell.connection, cell.object.state,
          cell.object.releases)) = some (some (1, DONE, 2)) := by
  decide

/-- A dispatch that resets a `Transaction` whose first client transaction is still queued: the
worker writes the second object in the first one's place, then skips the second reference to the
same storage, so of the two appended objects only the later one is written. -/
theorem worker_writes_reused_storage :
    ((init 1 oneByteRequest).run dispatched).map
        (fun s => (s.clients.map (·.2.transactions), (s.heap 0).map (·.generation))) =
      some ([[0]], some 1) ∧
      ((init 1 oneByteRequest).run
          (dispatched ++ [.runTransaction 0, .visit 0, .gate, .finish, .pop 0 1])).map
        (fun s => (s.clients.map (·.2.written),
          (s.heap 0).map fun cell => (cell.generation, cell.object.state))) =
        some ([[0]], some (2, WAITING)) ∧
      ((init 1 oneByteRequest).run (dispatched ++
          [.runTransaction 0, .visit 0, .gate, .finish, .pop 0 1, .read 0 [7] true 5, .pop 0 1])).map
        (fun s => s.clients.map fun entry => (entry.2.transactions, entry.2.written)) =
        some [([], [0])] := by
  decide

end Server

end Mniam.Connection
