import Mniam.Remote.Transaction
import Mniam.AMCOM.Codec
import Mniam.Amgame.Batch

/-! `RemoteConnection` of `remote_connection.cpp`: the game thread's calls and the loop of each
connection thread, as one system in which every call, and every stretch of the loop between two
blocking calls, is one step (`Race.lean` splits the unlocked statements). -/
namespace Mniam.Remote

open PacketType State Amgame AMCOM

/-- What the absent `amcom_packets.h` fixes for the connection: the number of each packet type and
`AMCOM_MAX_PLAYER_UPDATES`, `AMCOM_MAX_FOOD_UPDATES`. -/
structure Header where
  code : PacketType → UInt8
  maxPlayerUpdates : Nat
  maxFoodUpdates : Nat

/-- `AMCOM_InitReceiver` and `AMCOM_Deserialize`, as the connection thread calls them. -/
structure Receiving (Receiver : Type) where
  initReceiver : Receiver → Receiver
  deserialize : Receiver → List UInt8 → Receiver × List Packet

/-- The receiver functions `amcom.c` has: its stubs. -/
def amcom {Receiver : Type} : Receiving Receiver := ⟨initReceiver, deserialize⟩

/-- A request payload as the connection thread fills it. -/
inductive Request where
  | identify (gameVerHi gameVerLo gameRevision : UInt8)
  | newGame (playerNumber numberOfPlayers : UInt8)
  | playerUpdate (playerState : List PlayerState)
  | foodUpdate (foodState : List FoodState)
  | move
  deriving DecidableEq, Repr

/-- The packet type a payload is serialized with. -/
def Request.type : Request → PacketType
  | .identify .. => AMCOM_IDENTIFY_REQUEST
  | .newGame .. => AMCOM_NEW_GAME_REQUEST
  | .playerUpdate _ => AMCOM_PLAYER_UPDATE_REQUEST
  | .foodUpdate _ => AMCOM_FOOD_UPDATE_REQUEST
  | .move => AMCOM_MOVE_REQUEST

/-- The fields of `RemoteConnection` the calls and the loop read and write. -/
structure RemoteConnection (Receiver : Type) where
  amReceiver : Receiver
  alive : Bool
  identified : Bool
  remoteTransaction : RemoteConnectionTransaction
  playerNumber : UInt8
  numberOfPlayers : UInt8
  playerStateUpdateQueue : List PlayerState
  foodStateUpdateQueue : List FoodState

/-- The loop that fills an update payload: pop the queue's front while it is not empty and fewer
than `max` states are taken. It returns the states taken and the queue left. -/
def drainQueue {α : Type} (max : Nat) (p : Nat) : List α → List α × List α
  | [] => ([], [])
  | front :: rest =>
    if p < max then
      let next := drainQueue max (p + 1) rest
      (front :: next.1, next.2)
    else ([], front :: rest)

theorem drainQueue_eq {α : Type} (max : Nat) :
    ∀ (p : Nat) (queue : List α), drainQueue max p queue = (queue.take (max - p), queue.drop (max - p))
  | _, [] => by simp [drainQueue]
  | p, front :: rest => by
    unfold drainQueue
    split
    · have shift : max - p = max - (p + 1) + 1 := by omega
      rw [drainQueue_eq max (p + 1) rest, shift, List.take_succ_cons, List.drop_succ_cons]
    · have none : max - p = 0 := by omega
      simp [none]

namespace RemoteConnection

variable {Receiver : Type} (header : Header) (receiving : Receiving Receiver)

/-- The constructor `RemoteConnection(ip, port)`: not alive, not identified, an idle transaction
and empty queues. The receiver and the player numbers are not initialised by the code; they are
arguments here. -/
def create (receiver : Receiver) (playerNumber numberOfPlayers : UInt8) : RemoteConnection Receiver :=
  ⟨receiver, false, false, .init, playerNumber, numberOfPlayers, [], []⟩

/-- `connectPlayer`, without the thread it creates. -/
def connectPlayer (c : RemoteConnection Receiver) : RemoteConnection Receiver :=
  { c with alive := false, identified := false }

/-- `disconnectPlayer`. -/
def disconnectPlayer (c : RemoteConnection Receiver) : RemoteConnection Receiver :=
  { c with alive := false, identified := false }

/-- The shape of `identify`, `sendMoveRequest`, `sendPlayerUpdate` and `sendFoodUpdate`: while
alive, set up the transaction; answer whether the connection is alive. -/
def startTransaction (c : RemoteConnection Receiver) (request confirmation : PacketType) :
    RemoteConnection Receiver × Bool :=
  (if c.alive then
    { c with remoteTransaction := c.remoteTransaction.setupTransaction request confirmation }
  else c, c.alive)

/-- `identify`. -/
def identify (c : RemoteConnection Receiver) : RemoteConnection Receiver × Bool :=
  c.startTransaction AMCOM_IDENTIFY_REQUEST AMCOM_IDENTIFY_RESPONSE

/-- `newGame`; the map size it also stores is not modelled. -/
def newGame (c : RemoteConnection Receiver) (playerNo numberOfPlayers : UInt8) :
    RemoteConnection Receiver × Bool :=
  (if c.alive then
    { c with
      playerNumber := playerNo
      numberOfPlayers := numberOfPlayers
      remoteTransaction :=
        c.remoteTransaction.setupTransaction AMCOM_NEW_GAME_REQUEST AMCOM_NEW_GAME_RESPONSE }
  else c, c.alive)

/-- `sendMoveRequest`; the position it also stores is never read. -/
def sendMoveRequest (c : RemoteConnection Receiver) : RemoteConnection Receiver × Bool :=
  c.startTransaction AMCOM_MOVE_REQUEST AMCOM_MOVE_RESPONSE

/-- `sendPlayerUpdate`. -/
def sendPlayerUpdate (c : RemoteConnection Receiver) : RemoteConnection Receiver × Bool :=
  c.startTransaction AMCOM_PLAYER_UPDATE_REQUEST AMCOM_NO_PACKET

/-- `sendFoodUpdate`. -/
def sendFoodUpdate (c : RemoteConnection Receiver) : RemoteConnection Receiver × Bool :=
  c.startTransaction AMCOM_FOOD_UPDATE_REQUEST AMCOM_NO_PACKET

/-- The `switch` of the loop on the request to send: the payload of each case, with the update
queues drained; `none` for `AMCOM_NO_PACKET` and the types it has no case for. -/
def prepare (c : RemoteConnection Receiver) : PacketType → Option (Request × RemoteConnection Receiver)
  | AMCOM_IDENTIFY_REQUEST => some (.identify 0 1 0, c)
  | AMCOM_NEW_GAME_REQUEST => some (.newGame c.playerNumber c.numberOfPlayers, c)
  | AMCOM_PLAYER_UPDATE_REQUEST =>
    let drained := drainQueue header.maxPlayerUpdates 0 c.playerStateUpdateQueue
    some (.playerUpdate drained.1, { c with playerStateUpdateQueue := drained.2 })
  | AMCOM_FOOD_UPDATE_REQUEST =>
    let drained := drainQueue header.maxFoodUpdates 0 c.foodStateUpdateQueue
    some (.foodUpdate drained.1, { c with foodStateUpdateQueue := drained.2 })
  | AMCOM_MOVE_REQUEST => some (.move, c)
  | _ => none

/-- After `send` returns: a failed send ends the loop at its next test, and either way the
transmission is indicated. -/
def transmitted (c : RemoteConnection Receiver) (delivered : Bool) : RemoteConnection Receiver :=
  let c := if delivered then c else { c with alive := false }
  { c with remoteTransaction := c.remoteTransaction.indicateTransmission }

/-- `packetReceived`; the player name and the move angle it also stores are not modelled. -/
def packetReceived (c : RemoteConnection Receiver) (packet : Packet) : RemoteConnection Receiver :=
  let c := if packet.type = header.code AMCOM_IDENTIFY_RESPONSE then { c with identified := true } else c
  { c with remoteTransaction := c.remoteTransaction.indicateReception header.code packet.type }

/-- After `recv` returned `received` with `data` in the buffer: the result is stored in the
`size_t recvSize`; a positive size is deserialized, and the packets the receiver hands on go to
`packetReceived`. It returns those packets too. -/
def receive (c : RemoteConnection Receiver) (received : Int) (data : List UInt8) :
    RemoteConnection Receiver × List Packet :=
  let recvSize : Nat := (received % 2 ^ 64).toNat
  if recvSize > 0 then
    let deserialized := receiving.deserialize c.amReceiver data
    (deserialized.2.foldl (packetReceived header) { c with amReceiver := deserialized.1 },
      deserialized.2)
  else if recvSize < 0 then ({ c with alive := false }, [])
  else (c, [])

end RemoteConnection

/-- Where a connection thread is in `connectionThread`. -/
inductive Point where
  | connecting
  | polling
  | sending (request : Request) (epoch : Nat)
  | receiving
  | shuttingDown
  | ended
  deriving DecidableEq, Repr

/-- A ghost record of what happened: a transaction set up, a request a thread picked (with the
number of set-ups made when it read the transaction), a `send` done, a packet handed to
`packetReceived`. -/
inductive Note where
  | setup (request confirmation : PacketType)
  | picked (thread epoch : Nat) (request : Request)
  | transmitted (thread : Nat) (delivered : Bool)
  | received (packet : Packet)
  deriving DecidableEq, Repr

/-- The transactions set up, in order. -/
def setups : List Note → List (PacketType × PacketType)
  | [] => []
  | .setup request confirmation :: rest => (request, confirmation) :: setups rest
  | _ :: rest => setups rest

/-- The connection, the connection threads in the order `connectPlayer` created them, and the
journal. -/
structure System (Receiver : Type) where
  connection : RemoteConnection Receiver
  threads : List Point
  journal : List Note

/-- A step of the game thread (a call, or a state pushed on an update queue) or of the connection
thread `thread`. -/
inductive Event where
  | connectPlayer
  | disconnectPlayer
  | identify
  | newGame (playerNo numberOfPlayers : UInt8)
  | sendMoveRequest
  | sendPlayerUpdate
  | sendFoodUpdate
  | pushPlayerState (state : PlayerState)
  | pushFoodState (state : FoodState)
  | connect (thread : Nat) (connected : Bool)
  | poll (thread : Nat)
  | transmit (thread : Nat) (delivered : Bool)
  | idle (thread : Nat)
  | receive (thread : Nat) (received : Int) (data : List UInt8)
  | shutdown (thread : Nat)
  deriving DecidableEq, Repr

namespace System

variable {Receiver : Type} (header : Header) (receiving : Receiving Receiver)

/-- A new `RemoteConnection` and no thread. -/
def create (receiver : Receiver) (playerNumber numberOfPlayers : UInt8) : System Receiver :=
  ⟨.create receiver playerNumber numberOfPlayers, [], []⟩

/-- A call of the game thread that may set up the transaction: it answers whether it did. -/
def call (s : System Receiver) (result : RemoteConnection Receiver × Bool) : System Receiver :=
  { s with
    connection := result.1
    journal := if result.2 then
      s.journal ++ [.setup result.1.remoteTransaction.request result.1.remoteTransaction.confirmation]
    else s.journal }

/-- The start of `connectionThread`: `AMCOM_InitReceiver`, then the connection attempts; on success
the thread sets `alive` and enters its loop, otherwise it returns. -/
def connect (s : System Receiver) (thread : Nat) (connected : Bool) : System Receiver :=
  let c := { s.connection with amReceiver := receiving.initReceiver s.connection.amReceiver }
  if connected then { s with connection := { c with alive := true }, threads := s.threads.set thread .polling }
  else { s with connection := c, threads := s.threads.set thread .ended }

/-- The loop's test of `alive`, `getRequestToSend` and the payload of its case. -/
def poll (s : System Receiver) (thread : Nat) : System Receiver :=
  if s.connection.alive then
    match s.connection.prepare header s.connection.remoteTransaction.getRequestToSend with
    | some (request, c) =>
      { s with
        connection := c
        threads := s.threads.set thread (.sending request (setups s.journal).length)
        journal := s.journal ++ [.picked thread (setups s.journal).length request] }
    | none => { s with threads := s.threads.set thread .receiving }
  else { s with threads := s.threads.set thread .shuttingDown }

/-- `send` returned, delivered or failed; then `indicateTransmission`. -/
def transmit (s : System Receiver) (thread : Nat) (delivered : Bool) : System Receiver :=
  { s with
    connection := s.connection.transmitted delivered
    threads := s.threads.set thread .receiving
    journal := s.journal ++ [.transmitted thread delivered] }

/-- `recv` returned. -/
def receive (s : System Receiver) (thread : Nat) (received : Int) (data : List UInt8) :
    System Receiver :=
  let result := s.connection.receive header receiving received data
  { s with
    connection := result.1
    threads := s.threads.set thread .polling
    journal := s.journal ++ result.2.map .received }

/-- One step. A thread step happens only from the point it starts at; otherwise nothing
changes. -/
def step (s : System Receiver) : Event → System Receiver
  | .connectPlayer =>
    { s with connection := s.connection.connectPlayer, threads := s.threads ++ [.connecting] }
  | .disconnectPlayer => { s with connection := s.connection.disconnectPlayer }
  | .identify => s.call s.connection.identify
  | .newGame playerNo numberOfPlayers => s.call (s.connection.newGame playerNo numberOfPlayers)
  | .sendMoveRequest => s.call s.connection.sendMoveRequest
  | .sendPlayerUpdate => s.call s.connection.sendPlayerUpdate
  | .sendFoodUpdate => s.call s.connection.sendFoodUpdate
  | .pushPlayerState state =>
    { s with connection := { s.connection with
        playerStateUpdateQueue := s.connection.playerStateUpdateQueue ++ [state] } }
  | .pushFoodState state =>
    { s with connection := { s.connection with
        foodStateUpdateQueue := s.connection.foodStateUpdateQueue ++ [state] } }
  | .connect thread connected =>
    if s.threads[thread]? = some .connecting then s.connect receiving thread connected else s
  | .poll thread => if s.threads[thread]? = some .polling then s.poll header thread else s
  | .transmit thread delivered =>
    match s.threads[thread]? with
    | some (.sending _ _) => s.transmit thread delivered
    | _ => s
  | .idle thread =>
    if s.threads[thread]? = some .receiving then { s with threads := s.threads.set thread .polling }
    else s
  | .receive thread received data =>
    if s.threads[thread]? = some .receiving then s.receive header receiving thread received data
    else s
  | .shutdown thread =>
    if s.threads[thread]? = some .shuttingDown then { s with threads := s.threads.set thread .ended }
    else s

/-- The system after a sequence of steps. -/
def run (s : System Receiver) (events : List Event) : System Receiver :=
  events.foldl (step header receiving) s

@[simp] theorem run_nil (s : System Receiver) : run header receiving s [] = s := rfl

@[simp] theorem run_cons (s : System Receiver) (event : Event) (events : List Event) :
    run header receiving s (event :: events) = run header receiving (s.step header receiving event) events :=
  rfl

end System

end Mniam.Remote
