import Mniam.Remote.Connection

/-! The statements of `setupTransaction` and of `connectionThread` that touch the transaction and
the player update queue, which no lock guards, each a step of its own, so that a statement of one
thread can fall between two of another's. Run back to back, a thread's statements are the calls
that `System.step` takes whole. -/
namespace Mniam.Remote

open PacketType State Amgame

namespace RemoteConnectionTransaction

/-- One store into the transaction. -/
inductive Store where
  | request (request : PacketType)
  | confirmation (confirmation : PacketType)
  | state (state : State)
  deriving DecidableEq, Repr

def store (t : RemoteConnectionTransaction) : Store → RemoteConnectionTransaction
  | .request request => { t with request := request }
  | .confirmation confirmation => { t with confirmation := confirmation }
  | .state state => { t with state := state }

/-- The stores of `setupTransaction`, in program order. -/
def setupStores (request confirmation : PacketType) : List Store :=
  [.request request, .confirmation confirmation, .state REQUEST_TO_SEND]

/-- The state `indicateTransmission` stores for the confirmation it read. -/
def transmissionState (confirmation : PacketType) : State :=
  if confirmation ≠ AMCOM_NO_PACKET then AWAITING_CONFIRMATION else FINISHED

theorem indicateTransmission_store (t : RemoteConnectionTransaction) :
    t.indicateTransmission = t.store (.state (transmissionState t.confirmation)) := by
  unfold indicateTransmission transmissionState
  split <;> rfl

end RemoteConnectionTransaction

open RemoteConnectionTransaction

/-- A connection thread between two statements that touch the shared data, with what it read. -/
inductive Stage where
  /-- At the loop's `getRequestToSend`, which reads `state` first. -/
  | head
  /-- `getRequestToSend` read `REQUEST_TO_SEND`; it reads `request` next. -/
  | requested
  /-- Filling a PLAYER_UPDATE payload with the states taken so far. -/
  | draining (taken : List PlayerState)
  /-- `front()` read this state; `pop()` comes next. -/
  | fronted (taken : List PlayerState) (front : PlayerState)
  /-- In `send` with this request type and payload. -/
  | sending (request : PacketType) (payload : List PlayerState)
  /-- `send` returned and `indicateTransmission` read this confirmation; it stores the state
  next. -/
  | transmitted (confirmation : PacketType)
  deriving DecidableEq, Repr

/-- Where the loop's `switch` goes on the request it read: a PLAYER_UPDATE fills its payload from
the queue, the other requests it has a case for are sent, and the rest send nothing. The food queue
a FOOD_UPDATE drains is left out. -/
def Stage.afterRequest : PacketType → Stage
  | AMCOM_PLAYER_UPDATE_REQUEST => .draining []
  | AMCOM_IDENTIFY_REQUEST => .sending AMCOM_IDENTIFY_REQUEST []
  | AMCOM_NEW_GAME_REQUEST => .sending AMCOM_NEW_GAME_REQUEST []
  | AMCOM_FOOD_UPDATE_REQUEST => .sending AMCOM_FOOD_UPDATE_REQUEST []
  | AMCOM_MOVE_REQUEST => .sending AMCOM_MOVE_REQUEST []
  | _ => .head

/-- The transaction, the player update queue and the connection threads. `sent` (each `send`,
with its thread, request type and payload) is ghost. -/
structure Shared where
  transaction : RemoteConnectionTransaction
  playerStateUpdateQueue : List PlayerState
  threads : List Stage
  sent : List (Nat × PacketType × List PlayerState)
  deriving DecidableEq, Repr

/-- One statement: a store or a push of the game thread, or a statement of connection thread
`thread`. -/
inductive Statement where
  | store (store : Store)
  | push (state : PlayerState)
  | readState (thread : Nat)
  | readRequest (thread : Nat)
  /-- The drain loop's test and its `front()`. -/
  | front (thread : Nat)
  | pop (thread : Nat)
  /-- `send` returns, and `indicateTransmission` reads `confirmation`. -/
  | send (thread : Nat)
  | writeState (thread : Nat)
  deriving DecidableEq, Repr

namespace Shared

variable (maxPlayerUpdates : Nat)

/-- A new connection's shared data with `threads` connection threads at the head of their loops. -/
def create (threads : Nat) : Shared := ⟨.init, [], List.replicate threads .head, []⟩

def setStage (s : Shared) (thread : Nat) (stage : Stage) : Shared :=
  { s with threads := s.threads.set thread stage }

/-- One statement. A thread's statement runs only from the stage it follows. -/
def exec (s : Shared) : Statement → Shared
  | .store st => { s with transaction := s.transaction.store st }
  | .push state => { s with playerStateUpdateQueue := s.playerStateUpdateQueue ++ [state] }
  | .readState i =>
    if s.threads[i]? = some .head ∧ REQUEST_TO_SEND = s.transaction.state then
      s.setStage i .requested
    else s
  | .readRequest i =>
    if s.threads[i]? = some .requested then s.setStage i (.afterRequest s.transaction.request)
    else s
  | .front i =>
    match s.threads[i]?, s.playerStateUpdateQueue with
    | some (.draining taken), front :: _ =>
      if taken.length < maxPlayerUpdates then s.setStage i (.fronted taken front)
      else s.setStage i (.sending AMCOM_PLAYER_UPDATE_REQUEST taken)
    | some (.draining taken), [] => s.setStage i (.sending AMCOM_PLAYER_UPDATE_REQUEST taken)
    | _, _ => s
  | .pop i =>
    match s.threads[i]? with
    | some (.fronted taken front) =>
      { s.setStage i (.draining (taken ++ [front])) with
        playerStateUpdateQueue := s.playerStateUpdateQueue.tail }
    | _ => s
  | .send i =>
    match s.threads[i]? with
    | some (.sending request payload) =>
      { s.setStage i (.transmitted s.transaction.confirmation) with
        sent := s.sent ++ [(i, request, payload)] }
    | _ => s
  | .writeState i =>
    match s.threads[i]? with
    | some (.transmitted confirmation) =>
      { s.setStage i .head with
        transaction := s.transaction.store (.state (transmissionState confirmation)) }
    | _ => s

/-- The shared data after a sequence of statements. -/
def run (s : Shared) (statements : List Statement) : Shared := statements.foldl (exec maxPlayerUpdates) s

@[simp] theorem run_nil (s : Shared) : s.run maxPlayerUpdates [] = s := rfl

@[simp] theorem run_cons (s : Shared) (statement : Statement) (rest : List Statement) :
    s.run maxPlayerUpdates (statement :: rest) = (s.exec maxPlayerUpdates statement).run maxPlayerUpdates rest :=
  rfl

theorem run_append (s : Shared) (first second : List Statement) :
    s.run maxPlayerUpdates (first ++ second) =
      (s.run maxPlayerUpdates first).run maxPlayerUpdates second :=
  List.foldl_append _ _ _ _

@[simp] theorem setStage_transaction (s : Shared) (i : Nat) (stage : Stage) :
    (s.setStage i stage).transaction = s.transaction := rfl

@[simp] theorem setStage_queue (s : Shared) (i : Nat) (stage : Stage) :
    (s.setStage i stage).playerStateUpdateQueue = s.playerStateUpdateQueue := rfl

@[simp] theorem setStage_sent (s : Shared) (i : Nat) (stage : Stage) :
    (s.setStage i stage).sent = s.sent := rfl

theorem setStage_self {s : Shared} {i : Nat} {stage : Stage} (at_ : s.threads[i]? = some stage)
    (stage' : Stage) : (s.setStage i stage').threads[i]? = some stage' :=
  List.getElem?_set_self (List.getElem?_eq_some_iff.1 at_).1

theorem setStage_setStage (s : Shared) (i : Nat) (stage stage' : Stage) :
    (s.setStage i stage).setStage i stage' = s.setStage i stage' := by
  simp [setStage, List.set_set]

/-! ## A thread alone -/

/-- The drain loop's statements for `n` states: `n` rounds of test, `front()` and `pop()`, then
the test that ends it. -/
def drainStatements (i : Nat) : Nat → List Statement
  | 0 => [.front i]
  | n + 1 => .front i :: .pop i :: drainStatements i n

/-- The drain loop run alone takes the states `drainQueue` takes and leaves the rest queued. -/
theorem run_drainStatements (transaction : RemoteConnectionTransaction)
    (sent : List (Nat × PacketType × List PlayerState)) (i : Nat) :
    ∀ (queue taken : List PlayerState) (threads : List Stage),
      threads[i]? = some (.draining taken) →
      (Shared.mk transaction queue threads sent).run maxPlayerUpdates
          (drainStatements i (queue.take (maxPlayerUpdates - taken.length)).length) =
        ⟨transaction, (drainQueue maxPlayerUpdates taken.length queue).2,
          threads.set i (.sending AMCOM_PLAYER_UPDATE_REQUEST
            (taken ++ (drainQueue maxPlayerUpdates taken.length queue).1)), sent⟩
  | [], taken, threads, draining => by
    simp [drainStatements, exec, draining, drainQueue, setStage]
  | front :: rest, taken, threads, draining => by
    have at_ : i < threads.length := (List.getElem?_eq_some_iff.1 draining).1
    by_cases room : taken.length < maxPlayerUpdates
    · have shift : maxPlayerUpdates - taken.length = maxPlayerUpdates - (taken ++ [front]).length + 1 := by
        simp only [List.length_append, List.length_singleton]
        omega
      rw [shift, List.take_succ_cons, List.length_cons, drainStatements, run_cons, run_cons]
      simp only [exec, draining, if_pos room, setStage, List.getElem?_set_self at_, List.set_set,
        List.tail_cons]
      rw [run_drainStatements transaction sent i rest (taken ++ [front]) _
        (List.getElem?_set_self at_), drainQueue, if_pos room]
      simp [List.set_set]
    · have none : maxPlayerUpdates - taken.length = 0 := by omega
      simp [none, drainStatements, exec, draining, drainQueue, if_neg room, setStage]

/-- The statements of one pass of thread `i`'s loop that sends `request`, with `drained` states
taken from the queue for a PLAYER_UPDATE. -/
def pass (i : Nat) (request : PacketType) (drained : Nat) : List Statement :=
  [.readState i, .readRequest i] ++
    (if request = AMCOM_PLAYER_UPDATE_REQUEST then drainStatements i drained else []) ++
    [.send i, .writeState i]

/-- A pass run with no other statement between its own is `getRequestToSend`, the drain loop of
the atomic `prepare`, `send` and `indicateTransmission`: the thread sends the request set up and
the states `drainQueue` takes, and is back at the head of its loop. -/
theorem run_pass {s : Shared} {i : Nat} (polling : s.threads[i]? = some .head)
    (pending : s.transaction.getRequestToSend = s.transaction.request)
    (handled : Stage.afterRequest s.transaction.request ≠ .head) :
    let drained := drainQueue maxPlayerUpdates 0 s.playerStateUpdateQueue
    s.run maxPlayerUpdates (pass i s.transaction.request drained.1.length) =
      { s with
        transaction := s.transaction.indicateTransmission
        playerStateUpdateQueue := if s.transaction.request = AMCOM_PLAYER_UPDATE_REQUEST
          then drained.2 else s.playerStateUpdateQueue
        sent := s.sent ++ [(i, s.transaction.request,
          if s.transaction.request = AMCOM_PLAYER_UPDATE_REQUEST then drained.1 else [])] } := by
  intro drained
  have requested : REQUEST_TO_SEND = s.transaction.state := by
    rw [getRequestToSend_eq] at pending
    split at pending
    · exact (‹_ = _›).symm
    · rw [← pending] at handled
      exact absurd rfl handled
  have at_ : i < s.threads.length := (List.getElem?_eq_some_iff.1 polling).1
  have back : s.threads.set i .head = s.threads := List.ext_getElem? fun j => by
    by_cases same : i = j
    · rw [← same, List.getElem?_set_self at_, polling]
    · rw [List.getElem?_set_ne same]
  rw [pass, run_append, run_append]
  simp only [run_cons, run_nil, exec, polling, requested, and_self, if_true,
    setStage_self polling .requested, setStage_setStage, setStage_transaction]
  cases request : s.transaction.request <;> simp only [request, Stage.afterRequest] at handled ⊢ <;>
    first
    | exact absurd rfl handled
    | simp [exec, setStage, at_, List.set_set, back, indicateTransmission_store, store]
  have taken : drained.1.length =
      (s.playerStateUpdateQueue.take (maxPlayerUpdates - ([] : List PlayerState).length)).length := by
    simp [drained, drainQueue_eq]
  rw [taken, run_drainStatements maxPlayerUpdates _ _ i _ [] _ (List.getElem?_set_self at_)]
  simp [exec, setStage, at_, List.set_set, back, indicateTransmission_store, store, drained]

/-- Three player states queued and a PLAYER_UPDATE set up: thread 0's pass alone sends the two
that fit and leaves the third queued. -/
theorem run_pass_update :
    let s := (create 1).run 2 ([.push ⟨0, 1⟩, .push ⟨1, 2⟩, .push ⟨2, 3⟩] ++
      (setupStores AMCOM_PLAYER_UPDATE_REQUEST AMCOM_NO_PACKET).map .store)
    let drained := drainQueue 2 0 s.playerStateUpdateQueue
    (s.threads[0]? = some .head ∧ s.transaction.getRequestToSend = s.transaction.request ∧
        Stage.afterRequest s.transaction.request ≠ .head) ∧
      s.run 2 (pass 0 s.transaction.request drained.1.length) =
        { s with
          transaction := s.transaction.indicateTransmission
          playerStateUpdateQueue := if s.transaction.request = AMCOM_PLAYER_UPDATE_REQUEST
            then drained.2 else s.playerStateUpdateQueue
          sent := s.sent ++ [(0, s.transaction.request,
            if s.transaction.request = AMCOM_PLAYER_UPDATE_REQUEST then drained.1 else [])] } := by
  intro s drained
  exact ⟨⟨by decide, by decide, by decide⟩, run_pass 2 (by decide) (by decide) (by decide)⟩

/-! ## Interleavings the code does not exclude -/

end Shared

end Mniam.Remote
