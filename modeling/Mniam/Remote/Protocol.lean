import Mniam.Remote.Connection

/-! The invariant of a `RemoteConnection` over every interleaving of its calls and loop steps,
derived from one lemma that says what a step can do. -/
namespace Mniam.Remote

open PacketType State Amgame AMCOM

namespace RemoteConnectionTransaction

variable (code : PacketType → UInt8)

theorem foldl_indicateReception (packets : List Packet) (t : RemoteConnectionTransaction) :
    (packets.foldl (fun t p => t.indicateReception code p.type) t).request = t.request ∧
      (packets.foldl (fun t p => t.indicateReception code p.type) t).confirmation = t.confirmation ∧
      (packets.foldl (fun t p => t.indicateReception code p.type) t).state =
        if t.state = AWAITING_CONFIRMATION ∧ ∃ p ∈ packets, p.type = code t.confirmation then FINISHED
        else t.state := by
  induction packets generalizing t with
  | nil => simp
  | cons p rest ih =>
    obtain ⟨request, confirmation, state⟩ := ih (t.indicateReception code p.type)
    simp only [List.foldl_cons, indicateReception_request, indicateReception_confirmation] at *
    refine ⟨request, confirmation, ?_⟩
    rw [state, indicateReception_state]
    by_cases awaiting : t.state = AWAITING_CONFIRMATION
    · by_cases hit : p.type = code t.confirmation <;> simp [awaiting, hit]
    · simp [awaiting]

end RemoteConnectionTransaction

@[simp] theorem setups_append (a b : List Note) : setups (a ++ b) = setups a ++ setups b := by
  induction a with
  | nil => rfl
  | cons n rest ih => cases n <;> simp [setups, ih]

@[simp] theorem setups_setup (r c : PacketType) : setups [.setup r c] = [(r, c)] := rfl

@[simp] theorem setups_picked (i e : Nat) (request : Request) : setups [.picked i e request] = [] :=
  rfl

@[simp] theorem setups_transmitted (i : Nat) (d : Bool) : setups [.transmitted i d] = [] := rfl

@[simp] theorem setups_received (packets : List Packet) : setups (packets.map .received) = [] := by
  induction packets with
  | nil => rfl
  | cons p rest ih => exact ih

/-- The epoch of a request picked by `thread`. -/
def Note.epochOf (thread : Nat) : Note → Option Nat
  | .picked i epoch _ => if i = thread then some epoch else none
  | _ => none

/-- The epochs of the requests thread `thread` picked, in order. -/
def epochs (thread : Nat) (journal : List Note) : List Nat := journal.filterMap (Note.epochOf thread)

@[simp] theorem epochs_append (thread : Nat) (a b : List Note) :
    epochs thread (a ++ b) = epochs thread a ++ epochs thread b := List.filterMap_append _ _ _

@[simp] theorem epochs_setup (thread : Nat) (r c : PacketType) : epochs thread [.setup r c] = [] := rfl

@[simp] theorem epochs_transmitted (thread i : Nat) (d : Bool) :
    epochs thread [.transmitted i d] = [] := rfl

@[simp] theorem epochs_received (thread : Nat) (packets : List Packet) :
    epochs thread (packets.map .received) = [] := by
  simp [epochs, List.filterMap_map, Function.comp_def, Note.epochOf]

theorem epochs_picked (thread i epoch : Nat) (request : Request) :
    epochs thread [.picked i epoch request] = if i = thread then [epoch] else [] := by
  unfold epochs
  by_cases same : i = thread <;> simp [Note.epochOf, same]

theorem mem_epochs {thread epoch : Nat} {journal : List Note} :
    epoch ∈ epochs thread journal ↔ ∃ request, .picked thread epoch request ∈ journal := by
  simp only [epochs, List.mem_filterMap]
  constructor
  · rintro ⟨n, mem, h⟩
    cases n <;> simp only [Note.epochOf, reduceCtorEq, Option.ite_none_right_eq_some, Option.some.injEq] at h
    obtain ⟨rfl, rfl⟩ := h
    exact ⟨_, mem⟩
  · rintro ⟨request, mem⟩
    exact ⟨_, mem, by simp [Note.epochOf]⟩

/-- The journal's latest set-up is of `request` and `confirmation`, and `middle` is what was
journalled after it. -/
def Latest (journal : List Note) (request confirmation : PacketType) (middle : List Note) : Prop :=
  ∃ before, journal = before ++ .setup request confirmation :: middle ∧ setups middle = []

theorem latest_setup (journal : List Note) (r c : PacketType) :
    Latest (journal ++ [.setup r c]) r c [] :=
  ⟨journal, rfl, rfl⟩

theorem Latest.append {journal middle : List Note} {r c : PacketType}
    (latest : Latest journal r c middle) {notes : List Note} (quiet : setups notes = []) :
    Latest (journal ++ notes) r c (middle ++ notes) := by
  obtain ⟨before, rfl, none⟩ := latest
  exact ⟨before, by simp, by simp [none, quiet]⟩

theorem Latest.getElem? {journal middle : List Note} {r c : PacketType}
    (latest : Latest journal r c middle) :
    0 < (setups journal).length ∧ (setups journal)[(setups journal).length - 1]? = some (r, c) := by
  obtain ⟨before, rfl, none⟩ := latest
  have split : setups (before ++ .setup r c :: middle) = setups before ++ [(r, c)] := by
    rw [← List.singleton_append, setups_append, setups_append, none, setups_setup, List.append_nil]
  simp [split]

/-- What the transaction's state says about the journal: no set-up while idle, and otherwise the
latest set-up is the transaction's. -/
structure TransactionInv (t : RemoteConnectionTransaction) (journal : List Note) : Prop where
  idle : t.state = IDLE → setups journal = []
  latest : t.state ≠ IDLE → ∃ middle, Latest journal t.request t.confirmation middle

namespace TransactionInv

variable {t : RemoteConnectionTransaction} {journal : List Note}

theorem create : TransactionInv .init [] :=
  ⟨fun _ => rfl, fun started => absurd rfl started⟩

theorem setup (t : RemoteConnectionTransaction) (journal : List Note) (r c : PacketType) :
    TransactionInv (t.setupTransaction r c) (journal ++ [.setup r c]) :=
  ⟨nofun, fun _ => ⟨[], latest_setup journal r c⟩⟩

theorem append (inv : TransactionInv t journal) {notes : List Note} (quiet : setups notes = []) :
    TransactionInv t (journal ++ notes) := by
  refine ⟨fun idle => by rw [setups_append, inv.idle idle, quiet]; rfl, fun started => ?_⟩
  obtain ⟨middle, latest⟩ := inv.latest started
  exact ⟨_, latest.append quiet⟩

theorem transmit (inv : TransactionInv t journal) (started : t.state ≠ IDLE) (i : Nat)
    (delivered : Bool) :
    TransactionInv t.indicateTransmission (journal ++ [.transmitted i delivered]) := by
  obtain ⟨middle, latest⟩ := inv.latest started
  refine ⟨fun idle => ?_, fun _ => ⟨middle ++ [.transmitted i delivered], by
    simpa using latest.append (setups_transmitted i delivered)⟩⟩
  rw [t.indicateTransmission_state] at idle
  split at idle <;> cases idle

theorem receive (code : PacketType → UInt8) (inv : TransactionInv t journal) (packets : List Packet) :
    TransactionInv (packets.foldl (fun t p => t.indicateReception code p.type) t)
      (journal ++ packets.map .received) := by
  obtain ⟨request, confirmation, state⟩ :=
    RemoteConnectionTransaction.foldl_indicateReception code packets t
  split at state
  · rename_i hit
    obtain ⟨middle, latest⟩ := inv.latest (by rw [hit.1]; nofun)
    refine ⟨by simp [state], fun _ => ⟨middle ++ packets.map .received, ?_⟩⟩
    rw [request, confirmation]
    exact latest.append (setups_received packets)
  · rw [RemoteConnectionTransaction.ext request confirmation state]
    exact inv.append (setups_received packets)

end TransactionInv

namespace RemoteConnection

variable {Receiver : Type} (header : Header) (receiving : Receiving Receiver)

theorem prepare_some {c c' : RemoteConnection Receiver} {type : PacketType} {request : Request}
    (h : c.prepare header type = some (request, c')) :
    request.type = type ∧ type ≠ AMCOM_NO_PACKET ∧ c'.remoteTransaction = c.remoteTransaction ∧
      c'.alive = c.alive := by
  cases type <;> simp only [prepare, Option.some.injEq, Prod.mk.injEq, reduceCtorEq] at h <;>
    obtain ⟨rfl, rfl⟩ := h <;> exact ⟨rfl, nofun, rfl, rfl⟩

theorem startTransaction_transaction (c : RemoteConnection Receiver) (request confirmation : PacketType) :
    (c.startTransaction request confirmation).2 = c.alive ∧
      (c.startTransaction request confirmation).1.remoteTransaction =
        if c.alive then c.remoteTransaction.setupTransaction request confirmation
        else c.remoteTransaction := by
  unfold startTransaction
  split <;> simp_all

theorem newGame_transaction (c : RemoteConnection Receiver) (playerNo numberOfPlayers : UInt8) :
    (c.newGame playerNo numberOfPlayers).2 = c.alive ∧
      (c.newGame playerNo numberOfPlayers).1.remoteTransaction =
        if c.alive then
          c.remoteTransaction.setupTransaction AMCOM_NEW_GAME_REQUEST AMCOM_NEW_GAME_RESPONSE
        else c.remoteTransaction := by
  unfold newGame
  split <;> simp_all

theorem foldl_packetReceived_transaction (packets : List Packet) (c : RemoteConnection Receiver) :
    (packets.foldl (packetReceived header) c).remoteTransaction =
      packets.foldl (fun t p => t.indicateReception header.code p.type) c.remoteTransaction := by
  induction packets generalizing c with
  | nil => rfl
  | cons p rest ih =>
    rw [List.foldl_cons, List.foldl_cons, ih]
    congr 1
    unfold packetReceived
    split <;> rfl

theorem receive_transaction (c : RemoteConnection Receiver) (received : Int) (data : List UInt8) :
    (c.receive header receiving received data).1.remoteTransaction =
      (c.receive header receiving received data).2.foldl
        (fun t p => t.indicateReception header.code p.type) c.remoteTransaction := by
  simp only [receive]
  split
  · exact foldl_packetReceived_transaction header _ _
  · split <;> rfl

theorem packetReceived_frame (c : RemoteConnection Receiver) (p : Packet) :
    (c.packetReceived header p).alive = c.alive ∧
      (c.packetReceived header p).playerStateUpdateQueue = c.playerStateUpdateQueue ∧
      (c.packetReceived header p).foodStateUpdateQueue = c.foodStateUpdateQueue := by
  unfold packetReceived
  split <;> exact ⟨rfl, rfl, rfl⟩

theorem foldl_packetReceived_frame (packets : List Packet) (c : RemoteConnection Receiver) :
    (packets.foldl (packetReceived header) c).alive = c.alive ∧
      (packets.foldl (packetReceived header) c).playerStateUpdateQueue = c.playerStateUpdateQueue ∧
      (packets.foldl (packetReceived header) c).foodStateUpdateQueue = c.foodStateUpdateQueue := by
  induction packets generalizing c with
  | nil => exact ⟨rfl, rfl, rfl⟩
  | cons p rest ih =>
    obtain ⟨alive, players, food⟩ := ih (c.packetReceived header p)
    obtain ⟨alive', players', food'⟩ := c.packetReceived_frame header p
    rw [List.foldl_cons]
    exact ⟨alive.trans alive', players.trans players', food.trans food'⟩

theorem receive_frame (c : RemoteConnection Receiver) (received : Int) (data : List UInt8) :
    (c.receive header receiving received data).1.alive = c.alive ∧
      (c.receive header receiving received data).1.playerStateUpdateQueue = c.playerStateUpdateQueue ∧
      (c.receive header receiving received data).1.foodStateUpdateQueue = c.foodStateUpdateQueue := by
  simp only [receive]
  split
  · exact foldl_packetReceived_frame header _ _
  · rw [if_neg (Nat.not_lt_zero _)]
    exact ⟨rfl, rfl, rfl⟩

theorem foldl_packetReceived_identified (packets : List Packet) (c : RemoteConnection Receiver)
    (identified : (packets.foldl (packetReceived header) c).identified = true) :
    c.identified = true ∨ ∃ p ∈ packets, p.type = header.code AMCOM_IDENTIFY_RESPONSE := by
  induction packets generalizing c with
  | nil => exact .inl identified
  | cons p rest ih =>
    rcases ih _ identified with before | ⟨q, mem, type⟩
    · unfold packetReceived at before
      split at before
      · exact .inr ⟨p, List.mem_cons_self _ _, ‹_›⟩
      · exact .inl before
    · exact .inr ⟨q, List.mem_cons_of_mem _ mem, type⟩

theorem receive_identified (c : RemoteConnection Receiver) (received : Int) (data : List UInt8)
    (identified : (c.receive header receiving received data).1.identified = true) :
    c.identified = true ∨
      ∃ p ∈ (c.receive header receiving received data).2, p.type = header.code AMCOM_IDENTIFY_RESPONSE := by
  simp only [receive] at identified ⊢
  split at identified
  · rw [if_pos ‹_›]
    exact foldl_packetReceived_identified header (receiving.deserialize c.amReceiver data).2
      { c with amReceiver := (receiving.deserialize c.amReceiver data).1 } identified
  · rw [if_neg (Nat.not_lt_zero _)] at identified
    exact .inl identified

@[simp] theorem receive_amcom (c : RemoteConnection Receiver) (received : Int) (data : List UInt8) :
    (c.receive header amcom received data).2 = [] := by
  simp only [receive]
  split
  · rfl
  · split <;> rfl

end RemoteConnection

theorem sending_set {threads : List Point} {thread : Nat} {old new : Point}
    (found : threads[thread]? = some old) (oldNot : ∀ r e, old ≠ .sending r e)
    (newNot : ∀ r e, new ≠ .sending r e) (i : Nat) (r : Request) (e : Nat) :
    (threads.set thread new)[i]? = some (.sending r e) ↔ threads[i]? = some (.sending r e) := by
  by_cases same : thread = i
  · subst same
    rw [List.getElem?_set_self (List.getElem?_eq_some_iff.1 found).1, found]
    simp only [Option.some.injEq]
    exact ⟨fun h => absurd h (newNot r e), fun h => absurd h (oldNot r e)⟩
  · rw [List.getElem?_set_ne same]

theorem sending_append_connecting (threads : List Point) (i : Nat) (r : Request) (e : Nat) :
    (threads ++ [.connecting])[i]? = some (.sending r e) ↔ threads[i]? = some (.sending r e) := by
  by_cases inside : i < threads.length
  · rw [List.getElem?_append_left inside]
  · have none : threads[i]? = none := List.getElem?_eq_none (by omega)
    rw [List.getElem?_append_right (by omega), none]
    cases i - threads.length <;> simp

namespace System

variable {Receiver : Type} (header : Header) (receiving : Receiving Receiver)

theorem call_cases (s : System Receiver) (result : RemoteConnection Receiver × Bool)
    (transaction : result.1.remoteTransaction =
      if result.2 then s.connection.remoteTransaction.setupTransaction
        result.1.remoteTransaction.request result.1.remoteTransaction.confirmation
      else s.connection.remoteTransaction) :
    (∃ r c, (s.call result).connection.remoteTransaction =
        s.connection.remoteTransaction.setupTransaction r c ∧
      (s.call result).journal = s.journal ++ [.setup r c] ∧ (s.call result).threads = s.threads) ∨
    ((s.call result).connection.remoteTransaction = s.connection.remoteTransaction ∧
      (s.call result).journal = s.journal ∧
      ∀ (i : Nat) (r : Request) (e : Nat),
        (s.call result).threads[i]? = some (.sending r e) ↔ s.threads[i]? = some (.sending r e)) := by
  unfold call
  cases set : result.2
  · rw [set, if_neg Bool.false_ne_true] at transaction
    exact .inr ⟨transaction, rfl, fun _ _ _ => Iff.rfl⟩
  · rw [set, if_pos rfl] at transaction
    exact .inl ⟨_, _, transaction, rfl, rfl⟩

/-- What one step can do: set up the transaction; let a polling thread pick the request of a
transaction with a request to send; let a sending thread indicate its transmission; hand a
receiving thread's packets to `packetReceived`; or leave the transaction and the journal as they
are and no new thread sending. -/
theorem step_cases (s : System Receiver) (event : Event) :
    (∃ r c, (s.step header receiving event).connection.remoteTransaction =
        s.connection.remoteTransaction.setupTransaction r c ∧
      (s.step header receiving event).journal = s.journal ++ [.setup r c] ∧
      (s.step header receiving event).threads = s.threads) ∨
    (∃ i request, s.threads[i]? = some .polling ∧
      s.connection.remoteTransaction.state = REQUEST_TO_SEND ∧
      request.type = s.connection.remoteTransaction.request ∧
      (s.step header receiving event).connection.remoteTransaction = s.connection.remoteTransaction ∧
      (s.step header receiving event).journal =
        s.journal ++ [.picked i (setups s.journal).length request] ∧
      (s.step header receiving event).threads =
        s.threads.set i (.sending request (setups s.journal).length)) ∨
    (∃ i request epoch delivered, s.threads[i]? = some (.sending request epoch) ∧
      (s.step header receiving event).connection.remoteTransaction =
        s.connection.remoteTransaction.indicateTransmission ∧
      (s.step header receiving event).journal = s.journal ++ [.transmitted i delivered] ∧
      (s.step header receiving event).threads = s.threads.set i .receiving) ∨
    (∃ i received data, s.threads[i]? = some .receiving ∧
      (s.step header receiving event).connection.remoteTransaction =
        (s.connection.receive header receiving received data).2.foldl
          (fun t p => t.indicateReception header.code p.type) s.connection.remoteTransaction ∧
      (s.step header receiving event).journal =
        s.journal ++ (s.connection.receive header receiving received data).2.map .received ∧
      (s.step header receiving event).threads = s.threads.set i .polling) ∨
    ((s.step header receiving event).connection.remoteTransaction = s.connection.remoteTransaction ∧
      (s.step header receiving event).journal = s.journal ∧
      ∀ (i : Nat) (r : Request) (e : Nat),
        (s.step header receiving event).threads[i]? = some (.sending r e) ↔
        s.threads[i]? = some (.sending r e)) := by
  have setupOrSame : ∀ request confirmation,
      (s.connection.startTransaction request confirmation).1.remoteTransaction =
        if (s.connection.startTransaction request confirmation).2 then
          s.connection.remoteTransaction.setupTransaction
            (s.connection.startTransaction request confirmation).1.remoteTransaction.request
            (s.connection.startTransaction request confirmation).1.remoteTransaction.confirmation
        else s.connection.remoteTransaction := fun request confirmation => by
    obtain ⟨alive, transaction⟩ := s.connection.startTransaction_transaction request confirmation
    rw [alive, transaction]
    split <;> simp
  have same : ∀ s' : System Receiver, s'.connection.remoteTransaction = s.connection.remoteTransaction →
      s'.journal = s.journal → s'.threads = s.threads →
      (s'.connection.remoteTransaction = s.connection.remoteTransaction ∧ s'.journal = s.journal ∧
        ∀ (i : Nat) (r : Request) (e : Nat),
          s'.threads[i]? = some (.sending r e) ↔ s.threads[i]? = some (.sending r e)) :=
    fun s' transaction journal threads => ⟨transaction, journal, fun _ _ _ => by rw [threads]⟩
  generalize stepped : s.step header receiving event = s'
  cases event with
  | connectPlayer =>
    subst stepped
    exact .inr (.inr (.inr (.inr ⟨rfl, rfl, sending_append_connecting s.threads⟩)))
  | disconnectPlayer | pushPlayerState _ | pushFoodState _ =>
    subst stepped
    exact .inr (.inr (.inr (.inr (same _ rfl rfl rfl))))
  | identify | sendMoveRequest | sendPlayerUpdate | sendFoodUpdate =>
    subst stepped
    rcases call_cases s _ (setupOrSame _ _) with h | h
    exacts [.inl h, .inr (.inr (.inr (.inr h)))]
  | newGame playerNo numberOfPlayers =>
    subst stepped
    have transaction : (s.connection.newGame playerNo numberOfPlayers).1.remoteTransaction =
        if (s.connection.newGame playerNo numberOfPlayers).2 then
          s.connection.remoteTransaction.setupTransaction
            (s.connection.newGame playerNo numberOfPlayers).1.remoteTransaction.request
            (s.connection.newGame playerNo numberOfPlayers).1.remoteTransaction.confirmation
        else s.connection.remoteTransaction := by
      obtain ⟨alive, transaction⟩ := s.connection.newGame_transaction playerNo numberOfPlayers
      rw [alive, transaction]
      split <;> simp
    rcases call_cases s _ transaction with h | h
    exacts [.inl h, .inr (.inr (.inr (.inr h)))]
  | connect thread connected =>
    simp only [step] at stepped
    split at stepped
    · rename_i found
      unfold connect at stepped
      split at stepped <;> subst stepped <;>
        exact .inr (.inr (.inr (.inr ⟨rfl, rfl, sending_set found (fun _ _ h => by cases h)
          (fun _ _ h => by cases h)⟩)))
    · subst stepped
      exact .inr (.inr (.inr (.inr (same _ rfl rfl rfl))))
  | poll thread =>
    simp only [step] at stepped
    split at stepped
    · rename_i found
      unfold poll at stepped
      split at stepped
      · split at stepped <;> subst stepped
        · rename_i request c prepared
          obtain ⟨type, notNone, transaction, -⟩ := RemoteConnection.prepare_some header prepared
          rw [RemoteConnectionTransaction.getRequestToSend_eq] at type notNone
          split at type
          · exact .inr (.inl ⟨thread, request, found, ‹_›, type, transaction, rfl, rfl⟩)
          · exact absurd (if_neg ‹_›) notNone
        · exact .inr (.inr (.inr (.inr ⟨rfl, rfl, sending_set found (fun _ _ h => by cases h)
            (fun _ _ h => by cases h)⟩)))
      · subst stepped
        exact .inr (.inr (.inr (.inr ⟨rfl, rfl, sending_set found (fun _ _ h => by cases h)
          (fun _ _ h => by cases h)⟩)))
    · subst stepped
      exact .inr (.inr (.inr (.inr (same _ rfl rfl rfl))))
  | transmit thread delivered =>
    simp only [step] at stepped
    split at stepped <;> subst stepped
    · rename_i request epoch found
      refine .inr (.inr (.inl ⟨thread, request, epoch, delivered, found, ?_, rfl, rfl⟩))
      simp only [transmit, RemoteConnection.transmitted]
      split <;> rfl
    · exact .inr (.inr (.inr (.inr (same _ rfl rfl rfl))))
  | idle thread | shutdown thread =>
    simp only [step] at stepped
    split at stepped <;> subst stepped
    · exact .inr (.inr (.inr (.inr ⟨rfl, rfl, sending_set ‹_› (fun _ _ h => by cases h)
        (fun _ _ h => by cases h)⟩)))
    · exact .inr (.inr (.inr (.inr (same _ rfl rfl rfl))))
  | receive thread received data =>
    simp only [step] at stepped
    split at stepped <;> subst stepped
    · exact .inr (.inr (.inr (.inl ⟨thread, received, data, ‹_›,
        RemoteConnection.receive_transaction header receiving _ _ _, rfl, rfl⟩)))
    · exact .inr (.inr (.inr (.inr (same _ rfl rfl rfl))))

theorem length_threads_step (s : System Receiver) (event : Event) :
    (s.step header receiving event).threads.length =
      s.threads.length + if event = .connectPlayer then 1 else 0 := by
  cases event with
  | connectPlayer => simp [step]
  | connect thread connected =>
    simp only [step, reduceCtorEq, if_false, Nat.add_zero]
    split
    · unfold connect
      split <;> simp
    · rfl
  | poll thread =>
    simp only [step, reduceCtorEq, if_false, Nat.add_zero]
    split
    · unfold poll
      split
      · split <;> simp
      · simp
    · rfl
  | transmit thread delivered =>
    simp only [step, reduceCtorEq, if_false, Nat.add_zero]
    split <;> simp [transmit]
  | receive thread received data =>
    simp only [step, reduceCtorEq, if_false, Nat.add_zero]
    split <;> simp [receive]
  | idle thread =>
    simp only [step, reduceCtorEq, if_false, Nat.add_zero]
    split <;> simp
  | shutdown thread =>
    simp only [step, reduceCtorEq, if_false, Nat.add_zero]
    split <;> simp
  | _ => simp [step, call]

/-- What holds of every reachable system: the transaction's invariant; a sending thread read an
existing set-up; each pick is the request of the set-up it read, a pick of the latest set-up
while a request is still to be sent is being sent by its thread, and each thread's picks have
increasing epochs. -/
structure Invariant (s : System Receiver) : Prop where
  transaction : TransactionInv s.connection.remoteTransaction s.journal
  sending : ∀ (i : Nat) (request : Request) (epoch : Nat),
    s.threads[i]? = some (.sending request epoch) → 0 < epoch ∧ epoch ≤ (setups s.journal).length
  picked : ∀ (i epoch : Nat) (request : Request), .picked i epoch request ∈ s.journal →
    0 < epoch ∧ epoch ≤ (setups s.journal).length ∧
    (∃ c, (setups s.journal)[epoch - 1]? = some (request.type, c)) ∧
    (epoch = (setups s.journal).length → s.connection.remoteTransaction.state = REQUEST_TO_SEND →
      ∃ r, s.threads[i]? = some (.sending r epoch))
  ordered : ∀ i, (epochs i s.journal).Pairwise (· < ·)
  latest : ∀ (i : Nat) (request : Request) (epoch : Nat),
    s.threads[i]? = some (.sending request epoch) → (epochs i s.journal).getLast? = some epoch
  existing : ∀ (i epoch : Nat) (request : Request), .picked i epoch request ∈ s.journal →
    i < s.threads.length

section Preservation

variable {header} {s s' : System Receiver} (inv : Invariant s)
include inv

theorem Invariant.afterSetup {r c : PacketType}
    (transaction : s'.connection.remoteTransaction = s.connection.remoteTransaction.setupTransaction r c)
    (journal : s'.journal = s.journal ++ [.setup r c]) (threads : s'.threads = s.threads) :
    Invariant s' where
  transaction := by rw [transaction, journal]; exact .setup _ _ r c
  sending i request epoch found := by
    obtain ⟨positive, le⟩ := inv.sending i request epoch (threads ▸ found)
    simp only [journal, setups_append, setups_setup, List.length_append, List.length_singleton]
    omega
  picked i epoch request mem := by
    rw [journal, List.mem_append, List.mem_singleton] at mem
    obtain ⟨positive, le, ⟨c', found⟩, -⟩ := inv.picked i epoch request (mem.resolve_right nofun)
    simp only [journal, setups_append, setups_setup, List.length_append, List.length_singleton]
    refine ⟨positive, by omega, ⟨c', by rw [List.getElem?_append_left (by omega), found]⟩, by omega⟩
  ordered i := by simpa [journal] using inv.ordered i
  latest i request epoch found := by simpa [journal] using inv.latest i request epoch (threads ▸ found)
  existing i epoch request mem := by
    rw [journal, List.mem_append, List.mem_singleton] at mem
    exact threads ▸ inv.existing i epoch request (mem.resolve_right nofun)

theorem Invariant.afterPick {i : Nat} {request : Request} (polling : s.threads[i]? = some .polling)
    (requested : s.connection.remoteTransaction.state = REQUEST_TO_SEND)
    (type : request.type = s.connection.remoteTransaction.request)
    (transaction : s'.connection.remoteTransaction = s.connection.remoteTransaction)
    (journal : s'.journal = s.journal ++ [.picked i (setups s.journal).length request])
    (threads : s'.threads = s.threads.set i (.sending request (setups s.journal).length)) :
    Invariant s' := by
  obtain ⟨middle, latest⟩ := inv.transaction.latest (by rw [requested]; nofun)
  obtain ⟨positive, last⟩ := latest.getElem?
  have bound : i < s.threads.length := (List.getElem?_eq_some_iff.1 polling).1
  have notSending : ∀ r e, s.threads[i]? ≠ some (.sending r e) := by
    intro r e found
    rw [polling] at found
    cases found
  refine ⟨?_, fun k r e found => ?_, fun k e r mem => ?_, fun k => ?_, fun k r e found => ?_,
    fun k e r mem => ?_⟩
  · rw [transaction, journal]
    exact inv.transaction.append (setups_picked _ _ _)
  · simp only [journal, setups_append, setups_picked, List.append_nil]
    rw [threads] at found
    by_cases same : i = k
    · subst same
      rw [List.getElem?_set_self bound, Option.some.injEq, Point.sending.injEq] at found
      exact ⟨found.2 ▸ positive, found.2 ▸ le_rfl⟩
    · exact inv.sending k r e (by rwa [List.getElem?_set_ne same] at found)
  · simp only [journal, setups_append, setups_picked, List.append_nil, transaction] at mem ⊢
    rcases List.mem_append.1 mem with old | new
    · obtain ⟨positive', le, confirmed, sending⟩ := inv.picked k e r old
      refine ⟨positive', le, confirmed, fun latestEpoch stillRequested => ?_⟩
      obtain ⟨r', found⟩ := sending latestEpoch stillRequested
      have apart : i ≠ k := by
        rintro rfl
        exact notSending r' e found
      exact ⟨r', by rw [threads, List.getElem?_set_ne apart, found]⟩
    · rw [List.mem_singleton, Note.picked.injEq] at new
      obtain ⟨rfl, rfl, rfl⟩ := new
      exact ⟨positive, le_rfl, ⟨_, by rw [last, type]⟩,
        fun _ _ => ⟨r, by rw [threads, List.getElem?_set_self bound]⟩⟩
  · rw [journal, epochs_append, epochs_picked]
    refine List.pairwise_append.2 ⟨inv.ordered k, ?_, fun a old b new => ?_⟩
    · split <;> simp
    · split at new
      · subst k
        rw [List.mem_singleton] at new
        obtain ⟨r', picked⟩ := mem_epochs.1 old
        obtain ⟨-, le, -, sending⟩ := inv.picked i a r' picked
        have apart : a ≠ (setups s.journal).length := fun same => by
          obtain ⟨r'', found⟩ := sending same requested
          exact notSending r'' a found
        omega
      · cases new
  · rw [threads] at found
    rw [journal, epochs_append, epochs_picked]
    by_cases same : i = k
    · subst same
      rw [List.getElem?_set_self bound, Option.some.injEq, Point.sending.injEq] at found
      simp [found.2]
    · rw [List.getElem?_set_ne same] at found
      simpa [same] using inv.latest k r e found
  · rw [threads, List.length_set]
    rw [journal, List.mem_append, List.mem_singleton, Note.picked.injEq] at mem
    rcases mem with old | ⟨rfl, -, -⟩
    exacts [inv.existing k e r old, bound]

theorem Invariant.afterTransmit {i : Nat} {request : Request} {epoch : Nat} {delivered : Bool}
    (sending : s.threads[i]? = some (.sending request epoch))
    (transaction : s'.connection.remoteTransaction = s.connection.remoteTransaction.indicateTransmission)
    (journal : s'.journal = s.journal ++ [.transmitted i delivered])
    (threads : s'.threads = s.threads.set i .receiving) :
    Invariant s' := by
  have started : s.connection.remoteTransaction.state ≠ IDLE := fun idle => by
    have bound := inv.sending i request epoch sending
    rw [inv.transaction.idle idle, List.length_nil] at bound
    omega
  have notRequested : s'.connection.remoteTransaction.state ≠ REQUEST_TO_SEND := by
    rw [transaction, RemoteConnectionTransaction.indicateTransmission_state]
    split <;> nofun
  refine ⟨?_, fun k r e found => ?_, fun k e r mem => ?_, fun k => ?_, fun k r e found => ?_,
    fun k e r mem => ?_⟩
  · rw [transaction, journal]
    exact inv.transaction.transmit started i delivered
  · simp only [journal, setups_append, setups_transmitted, List.append_nil]
    rw [threads] at found
    by_cases same : i = k
    · subst same
      rw [List.getElem?_set_self (List.getElem?_eq_some_iff.1 sending).1] at found
      cases found
    · exact inv.sending k r e (by rwa [List.getElem?_set_ne same] at found)
  · rw [journal, List.mem_append, List.mem_singleton] at mem
    obtain ⟨positive, le, confirmed, -⟩ := inv.picked k e r (mem.resolve_right nofun)
    simp only [journal, setups_append, setups_transmitted, List.append_nil]
    exact ⟨positive, le, confirmed, fun _ requested => absurd requested notRequested⟩
  · simpa [journal] using inv.ordered k
  · rw [threads] at found
    by_cases same : i = k
    · subst same
      rw [List.getElem?_set_self (List.getElem?_eq_some_iff.1 sending).1] at found
      cases found
    · rw [List.getElem?_set_ne same] at found
      simpa [journal] using inv.latest k r e found
  · rw [journal, List.mem_append, List.mem_singleton] at mem
    rw [threads, List.length_set]
    exact inv.existing k e r (mem.resolve_right nofun)

theorem Invariant.afterReceive {i : Nat} {packets : List Packet}
    (receiving : s.threads[i]? = some .receiving)
    (transaction : s'.connection.remoteTransaction =
      packets.foldl (fun t p => t.indicateReception header.code p.type) s.connection.remoteTransaction)
    (journal : s'.journal = s.journal ++ packets.map .received)
    (threads : s'.threads = s.threads.set i .polling) :
    Invariant s' := by
  obtain ⟨-, -, state⟩ := RemoteConnectionTransaction.foldl_indicateReception header.code packets
    s.connection.remoteTransaction
  have notSending : ∀ r e, s.threads[i]? ≠ some (.sending r e) := by
    intro r e found
    rw [receiving] at found
    cases found
  refine ⟨?_, fun k r e found => ?_, fun k e r mem => ?_, fun k => ?_, fun k r e found => ?_,
    fun k e r mem => ?_⟩
  · rw [transaction, journal]
    exact inv.transaction.receive header.code packets
  · simp only [journal, setups_append, setups_received, List.append_nil]
    rw [threads] at found
    by_cases same : i = k
    · subst same
      rw [List.getElem?_set_self (List.getElem?_eq_some_iff.1 receiving).1] at found
      cases found
    · exact inv.sending k r e (by rwa [List.getElem?_set_ne same] at found)
  · rw [journal, List.mem_append, List.mem_map] at mem
    obtain ⟨positive, le, confirmed, sending⟩ :=
      inv.picked k e r (mem.resolve_right fun ⟨_, _, same⟩ => by cases same)
    simp only [journal, setups_append, setups_received, List.append_nil]
    refine ⟨positive, le, confirmed, fun latest requested => ?_⟩
    rw [transaction, state] at requested
    split at requested
    · cases requested
    · obtain ⟨r', found⟩ := sending latest requested
      have apart : i ≠ k := by
        rintro rfl
        exact notSending r' e found
      exact ⟨r', by rw [threads, List.getElem?_set_ne apart, found]⟩
  · simpa [journal] using inv.ordered k
  · rw [threads] at found
    by_cases same : i = k
    · subst same
      rw [List.getElem?_set_self (List.getElem?_eq_some_iff.1 receiving).1] at found
      cases found
    · rw [List.getElem?_set_ne same] at found
      simpa [journal] using inv.latest k r e found
  · rw [journal, List.mem_append, List.mem_map] at mem
    rw [threads, List.length_set]
    exact inv.existing k e r (mem.resolve_right fun ⟨_, _, same⟩ => by cases same)

theorem Invariant.afterQuiet
    (transaction : s'.connection.remoteTransaction = s.connection.remoteTransaction)
    (journal : s'.journal = s.journal)
    (threads : ∀ (i : Nat) (r : Request) (e : Nat),
      s'.threads[i]? = some (.sending r e) ↔ s.threads[i]? = some (.sending r e))
    (longer : s.threads.length ≤ s'.threads.length) :
    Invariant s' where
  transaction := by rw [transaction, journal]; exact inv.transaction
  sending i r e found := by rw [journal]; exact inv.sending i r e ((threads i r e).1 found)
  picked i e r mem := by
    rw [journal] at mem ⊢
    obtain ⟨positive, le, confirmed, sending⟩ := inv.picked i e r mem
    refine ⟨positive, le, confirmed, fun latest requested => ?_⟩
    obtain ⟨r', found⟩ := sending latest (transaction ▸ requested)
    exact ⟨r', (threads i r' e).2 found⟩
  ordered i := by rw [journal]; exact inv.ordered i
  latest i r e found := by rw [journal]; exact inv.latest i r e ((threads i r e).1 found)
  existing i e r mem := Nat.lt_of_lt_of_le (inv.existing i e r (journal ▸ mem)) longer

theorem Invariant.step (event : Event) : Invariant (s.step header receiving event) := by
  rcases step_cases header receiving s event with
    ⟨r, c, transaction, journal, threads⟩ |
    ⟨i, request, polling, requested, type, transaction, journal, threads⟩ |
    ⟨i, request, epoch, delivered, sending, transaction, journal, threads⟩ |
    ⟨i, received, data, receiving, transaction, journal, threads⟩ |
    ⟨transaction, journal, threads⟩
  · exact inv.afterSetup transaction journal threads
  · exact inv.afterPick polling requested type transaction journal threads
  · exact inv.afterTransmit sending transaction journal threads
  · exact inv.afterReceive receiving transaction journal threads
  · exact inv.afterQuiet transaction journal threads
      (by rw [length_threads_step]; exact Nat.le_add_right _ _)

end Preservation

theorem invariant_create (receiver : Receiver) (playerNumber numberOfPlayers : UInt8) :
    Invariant (create receiver playerNumber numberOfPlayers) :=
  ⟨.create, nofun, nofun, fun _ => List.Pairwise.nil, nofun, nofun⟩

theorem Invariant.run {s : System Receiver} (inv : Invariant s) (events : List Event) :
    Invariant (s.run header receiving events) := by
  induction events generalizing s with
  | nil => exact inv
  | cons event rest ih => exact ih (inv.step receiving event)

/-- Only `connectPlayer`, `disconnectPlayer` and a failed `send` clear `alive`. -/
theorem alive_step (s : System Receiver) (event : Event) (alive : s.connection.alive = true)
    (notConnect : event ≠ .connectPlayer) (notDisconnect : event ≠ .disconnectPlayer)
    (sent : ∀ i, event ≠ .transmit i false) :
    (s.step header receiving event).connection.alive = true := by
  have startAlive : ∀ request confirmation,
      (s.call (s.connection.startTransaction request confirmation)).connection.alive = true :=
    fun request confirmation => by
      simp only [call, RemoteConnection.startTransaction]
      split <;> exact alive
  cases event with
  | connectPlayer => exact absurd rfl notConnect
  | disconnectPlayer => exact absurd rfl notDisconnect
  | identify | sendMoveRequest | sendPlayerUpdate | sendFoodUpdate => exact startAlive _ _
  | newGame playerNo numberOfPlayers =>
    simp only [step, call, RemoteConnection.newGame]
    split <;> exact alive
  | pushPlayerState state => exact alive
  | pushFoodState state => exact alive
  | connect thread connected =>
    simp only [step]
    split
    · unfold connect
      split
      · rfl
      · exact alive
    · exact alive
  | poll thread =>
    simp only [step]
    split
    · unfold poll
      rw [if_pos alive]
      cases prepared : s.connection.prepare header s.connection.remoteTransaction.getRequestToSend with
      | none => exact alive
      | some result =>
        rw [← alive]
        exact (RemoteConnection.prepare_some header prepared).2.2.2
    · exact alive
  | transmit thread delivered =>
    cases delivered
    · exact absurd rfl (sent thread)
    · simp only [step]
      split
      · exact alive
      · exact alive
  | receive thread received data =>
    simp only [step]
    split
    · rw [← alive]
      exact (RemoteConnection.receive_frame header receiving _ _ _).1
    · exact alive
  | idle thread =>
    simp only [step]
    split <;> exact alive
  | shutdown thread =>
    simp only [step]
    split <;> exact alive

/-- Only a packet handed to `packetReceived` with the IDENTIFY response's type marks the connection
identified. -/
theorem identified_step (s : System Receiver) (event : Event)
    (identified : (s.step header receiving event).connection.identified = true) :
    s.connection.identified = true ∨ ∃ (received : Int) (data : List UInt8),
      ∃ p ∈ (s.connection.receive header receiving received data).2,
        p.type = header.code AMCOM_IDENTIFY_RESPONSE := by
  have startKeeps : ∀ request confirmation,
      (s.call (s.connection.startTransaction request confirmation)).connection.identified =
        s.connection.identified := fun request confirmation => by
    simp only [call, RemoteConnection.startTransaction]
    split <;> rfl
  cases event with
  | connectPlayer => cases identified
  | disconnectPlayer => cases identified
  | identify => exact .inl ((startKeeps _ _) ▸ identified)
  | sendMoveRequest => exact .inl ((startKeeps _ _) ▸ identified)
  | sendPlayerUpdate => exact .inl ((startKeeps _ _) ▸ identified)
  | sendFoodUpdate => exact .inl ((startKeeps _ _) ▸ identified)
  | newGame playerNo numberOfPlayers =>
    simp only [step, call, RemoteConnection.newGame] at identified
    split at identified <;> exact .inl identified
  | pushPlayerState state => exact .inl identified
  | pushFoodState state => exact .inl identified
  | connect thread connected =>
    simp only [step] at identified
    split at identified
    · unfold connect at identified
      split at identified <;> exact .inl identified
    · exact .inl identified
  | poll thread =>
    simp only [step] at identified
    split at identified
    · unfold poll at identified
      split at identified
      · split at identified
        · rename_i prepared
          obtain ⟨-, -, -, -⟩ := RemoteConnection.prepare_some header prepared
          revert identified prepared
          cases s.connection.remoteTransaction.getRequestToSend <;>
            simp only [RemoteConnection.prepare, Option.some.injEq, Prod.mk.injEq, reduceCtorEq,
              false_imp_iff] <;>
            rintro ⟨rfl, rfl⟩ identified <;> exact .inl identified
        · exact .inl identified
      · exact .inl identified
    · exact .inl identified
  | transmit thread delivered =>
    simp only [step] at identified
    split at identified
    · simp only [transmit, RemoteConnection.transmitted] at identified
      split at identified <;> exact .inl identified
    · exact .inl identified
  | receive thread received data =>
    simp only [step] at identified
    split at identified
    · rcases RemoteConnection.receive_identified header receiving _ _ _ identified with before | hit
      exacts [.inl before, .inr ⟨received, data, hit⟩]
    · exact .inl identified
  | idle thread =>
    simp only [step] at identified
    split at identified <;> exact .inl identified
  | shutdown thread =>
    simp only [step] at identified
    split at identified <;> exact .inl identified

end System

end Mniam.Remote
