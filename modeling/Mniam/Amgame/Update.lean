import Mniam.Engine.Contact
import Mniam.Amgame.Batch
import Mniam.AMCOM.Transactions

/-! `Game::update` (`amgame.cpp`) as a state machine over its phases, with what each update hands
to the server. A `Dispatch` is what a transaction is constructed with: with the stub
`AMCOM_Serialize`, the update transactions send the empty span it reports, and IDENTIFY, NEW_GAME
and MOVE send their never-written `requestPayload` of `sizeof(requestPayload)` bytes. -/
namespace Mniam.Amgame

open Engine

/-- The phases of `Game` (`amgame.h`). -/
inductive Phase
  | mainMenu
  | tester
  | gameIdle
  | newGameRequest
  | playerUpdateRequest
  | foodUpdateRequest
  | moveRequest
  | gameOverRequest
  | gameEnd
  deriving DecidableEq, Repr

/-- `amgame::Player`: the client it plays for and its engine player, a reference into the world's
player list. -/
structure Player where
  clientId : UInt32
  enginePlayer : Nat
  deriving DecidableEq, Repr

/-- `amgame::Food`: its engine food, a reference into the world's food list, and whether it is
still shown alive. -/
structure Food where
  engineFood : Nat
  isAlive : Bool
  deriving DecidableEq, Repr

/-- The engine object a reference names; a reference past the end reads as a dead object. -/
def engineObject (objects : List Mortal) (reference : Nat) : Mortal := objects.getD reference ⟨0⟩

/-- `Food::updateSprite`: food shown alive whose engine object has died is shown dead, and the
call reports it. -/
def Food.updateSprite (engineFood : Mortal) (f : Food) : Food × Bool :=
  if f.isAlive then
    if !engineFood.alive then ({ f with isAlive := false }, true) else (f, false)
  else (f, false)

/-- The request payload of `NewGameTransaction(playerNumber, numberOfPlayers)`; the map size it
also carries is the constant 1000 × 1000. -/
structure NewGameRequest where
  playerNumber : UInt8
  numberOfPlayers : UInt8
  deriving DecidableEq, Repr

/-- The transactions one update runs, in order, each with what it is constructed with. -/
inductive Dispatch
  /-- `NewGameTransaction(playerNumber, numberOfPlayers)`, run with one client. -/
  | newGame (clientId : UInt32) (request : NewGameRequest)
  | foodUpdate (batch : List FoodState)
  | playerUpdate (batch : List PlayerState)
  /-- `MoveTransaction(gameTime)`: the time reaches only the stub `AMCOM_Serialize`. -/
  | move (gameTime : UInt32)
  | gameOver (batch : List PlayerState)
  deriving DecidableEq, Repr

/-- A batch of food states, from a FOOD_UPDATE request. -/
def Dispatch.foodBatch : Dispatch → Option (List FoodState)
  | .foodUpdate batch => some batch
  | _ => none

/-- A batch of player states, from a PLAYER_UPDATE or a GAME_OVER request. -/
def Dispatch.playerBatch : Dispatch → Option (List PlayerState)
  | .playerUpdate batch => some batch
  | .gameOver batch => some batch
  | _ => none

/-- What an update reads from outside the game: the connected clients, in the order
`Server::getClients` gives them, each with whether its NEW_GAME exchange ended `DONE` within
500 ms; and the hitpoint events of the five world steps of a MOVE. -/
structure Environment where
  clients : List (UInt32 × Bool)
  contacts : List Event

/-- The state `Game::update` reads and writes; `gameTime` is the `static` counter of the MOVE
case. -/
structure Game where
  phase : Phase
  players : List Player
  food : List Food
  world : World
  gameTime : UInt32
  deriving DecidableEq, Repr

namespace Game

/-- `Game::Game`: no players or food, in the main menu. -/
def create : Game := ⟨.mainMenu, [], [], ⟨[], []⟩, 0⟩

/-- `Game::newMatch`, as `main` calls it once two clients are connected. -/
def newMatch (g : Game) : Game := { g with phase := .newGameRequest }

/-- `new Player(...)` for a client that answered: a new engine player, appended. -/
def addPlayer (g : Game) (clientId : UInt32) : Game :=
  { g with players := g.players ++ [⟨clientId, g.world.players.length⟩], world := g.world.addPlayer }

@[simp] theorem addPlayer_players (g : Game) (clientId : UInt32) :
    (g.addPlayer clientId).players = g.players ++ [⟨clientId, g.world.players.length⟩] := rfl

@[simp] theorem addPlayer_enginePlayers (g : Game) (clientId : UInt32) :
    (g.addPlayer clientId).world.players = g.world.players ++ [⟨2⟩] := rfl

@[simp] theorem addPlayer_food (g : Game) (clientId : UInt32) : (g.addPlayer clientId).food = g.food :=
  rfl

@[simp] theorem addPlayer_engineFood (g : Game) (clientId : UInt32) :
    (g.addPlayer clientId).world.food = g.world.food := rfl

/-- `food.emplace_back(world)`: a new engine food, shown alive. -/
def addFood (g : Game) : Game :=
  { g with food := g.food ++ [⟨g.world.food.length, true⟩], world := g.world.addFood }

/-- `Game::positionFood`: six food per player. -/
def positionFood (g : Game) : Game := Nat.repeat addFood (g.players.length * 6) g

/-- The NEW_GAME loop over the clients with its `uint8_t playerNo`. -/
def newGameLoop (numberOfPlayers : UInt8) : UInt8 → List (UInt32 × Bool) → Game → Game × List Dispatch
  | _, [], g => (g, [])
  | playerNo, (clientId, answered) :: rest, g =>
    let next := newGameLoop numberOfPlayers (playerNo + 1) rest (if answered then g.addPlayer clientId else g)
    (next.1, .newGame clientId ⟨playerNo, numberOfPlayers⟩ :: next.2)

/-- The NEW_GAME_REQUEST case: the loop over the clients, then `positionFood` and
`updateSprite` on every food. -/
def newGameRequest (g : Game) (clients : List (UInt32 × Bool)) : Game × List Dispatch :=
  let joined := (newGameLoop (UInt8.ofNat clients.length) 0 clients g).1.positionFood
  ({ joined with
      food := joined.food.map fun f => (f.updateSprite (engineObject joined.world.food f.engineFood)).1
      phase := .foodUpdateRequest },
    (newGameLoop (UInt8.ofNat clients.length) 0 clients g).2)

end Game

/-- The FOOD_UPDATE_REQUEST case: every food's `{foodNo, hp}`, flushed when full or at the last
food. -/
def foodUpdateRequest (maxFoodUpdates : Nat) (world : World) (food : List Food) : List (List FoodState) :=
  updateBatches maxFoodUpdates (fun foodNo f => ⟨foodNo, (engineObject world.food f.engineFood).hp⟩) food

/-- The PLAYER_UPDATE_REQUEST case: every player's `{playerNo, hp}`, flushed when full or at the
last player. -/
def playerUpdateRequest (maxPlayerUpdates : Nat) (world : World) (players : List Player) :
    List (List PlayerState) :=
  updateBatches maxPlayerUpdates
    (fun playerNo p => ⟨playerNo, (engineObject world.players p.enginePlayer).hp⟩) players

/-- The GAME_OVER_REQUEST case: the PLAYER_UPDATE loop on a `GameOverTransaction`. -/
def gameOverRequest (maxPlayerUpdates : Nat) (world : World) (players : List Player) :
    List (List PlayerState) :=
  updateBatches maxPlayerUpdates
    (fun playerNo p => ⟨playerNo, (engineObject world.players p.enginePlayer).hp⟩) players

/-- The food loop of the MOVE_REQUEST case: `updateSprite` on each food, the food it reports added
with state 0, and the transaction flushed when full or, if not empty, at the last food. It returns
the food as updated and the batches. -/
def moveFoodLoop (maxFoodUpdates : Nat) (world : World) :
    UInt16 → List FoodState → List Food → List Food × List (List FoodState)
  | _, _, [] => ([], [])
  | foodNo, pending, f :: rest =>
    let sprite := f.updateSprite (engineObject world.food f.engineFood)
    let pending := if sprite.2 then pending ++ [⟨foodNo, 0⟩] else pending
    let flush := pending.length = maxFoodUpdates || rest.isEmpty && !pending.isEmpty
    let next := moveFoodLoop maxFoodUpdates world (foodNo + 1) (if flush then [] else pending) rest
    (sprite.1 :: next.1, if flush then pending :: next.2 else next.2)

namespace Game

/-- `Game::update`, with the batch maxima `AMCOM_MAX_FOOD_UPDATES` and `AMCOM_MAX_PLAYER_UPDATES`
of the absent `amcom_packets.h` as parameters. -/
def update (maxFoodUpdates maxPlayerUpdates : Nat) (g : Game) (env : Environment) : Game × List Dispatch :=
  match g.phase with
  | .newGameRequest => g.newGameRequest env.clients
  | .foodUpdateRequest =>
    ({ g with phase := .playerUpdateRequest },
      (foodUpdateRequest maxFoodUpdates g.world g.food).map .foodUpdate)
  | .playerUpdateRequest =>
    ({ g with phase := .moveRequest },
      (playerUpdateRequest maxPlayerUpdates g.world g.players).map .playerUpdate)
  | .moveRequest =>
    let world := g.world.run env.contacts
    let moved := moveFoodLoop maxFoodUpdates world 0 [] g.food
    ({ g with phase := .playerUpdateRequest, world, food := moved.1, gameTime := g.gameTime + 1 },
      .move g.gameTime :: moved.2.map .foodUpdate)
  | .gameOverRequest =>
    ({ g with phase := .gameEnd }, (gameOverRequest maxPlayerUpdates g.world g.players).map .gameOver)
  | _ => (g, [])

/-- The game after a sequence of updates. -/
def run (maxFoodUpdates maxPlayerUpdates : Nat) (g : Game) (envs : List Environment) : Game :=
  envs.foldl (fun g env => (update maxFoodUpdates maxPlayerUpdates g env).1) g

end Game

/-! ### The food sprite and the MOVE loop -/

theorem updateSprite_fst (m : Mortal) (f : Food) :
    (f.updateSprite m).1 = { f with isAlive := f.isAlive && m.alive } := by
  rcases f with ⟨reference, _ | _⟩ <;> cases alive : m.alive <;>
    simp only [Food.updateSprite, alive, Bool.not_false, Bool.not_true, if_true, if_false,
      Bool.false_eq_true, Bool.and_true, Bool.and_false, Bool.false_and]

theorem updateSprite_snd (m : Mortal) (f : Food) :
    (f.updateSprite m).2 = (f.isAlive && !m.alive) := by
  rcases f with ⟨reference, _ | _⟩ <;> cases alive : m.alive <;>
    simp only [Food.updateSprite, alive, Bool.not_false, Bool.not_true, if_true, if_false,
      Bool.false_eq_true, Bool.and_true, Bool.and_false, Bool.false_and, Bool.true_and]

theorem moveFoodLoop_eq (maxFoodUpdates : Nat) (world : World) :
    ∀ (foodNo : UInt16) (pending : List FoodState) (food : List Food),
      moveFoodLoop maxFoodUpdates world foodNo pending food =
        (food.map fun f => (f.updateSprite (engineObject world.food f.engineFood)).1,
          batchLoop maxFoodUpdates (fun pending => !pending.isEmpty)
            (fun foodNo f => if (f.updateSprite (engineObject world.food f.engineFood)).2
              then some ⟨foodNo, 0⟩ else none) foodNo pending food) := by
  intro foodNo pending food
  induction food generalizing foodNo pending with
  | nil => rfl
  | cons f rest ih =>
    simp only [moveFoodLoop, batchLoop, List.map_cons]
    by_cases died : (f.updateSprite (engineObject world.food f.engineFood)).2 = true <;>
      simp only [died, Bool.false_eq_true, ite_false, ite_true, Option.toList_none,
        Option.toList_some, List.append_nil] <;>
      split <;> simp only [ih]

/-- The MOVE batches hold, in order, the food that `updateSprite` reports, each with its index
modulo `2 ^ 16` and state 0. -/
theorem moveFoodLoop_flatten (maxFoodUpdates : Nat) (world : World) (food : List Food) :
    (moveFoodLoop maxFoodUpdates world 0 [] food).2.flatten =
      (food.mapIdx fun i f => if (f.updateSprite (engineObject world.food f.engineFood)).2
        then some ⟨UInt16.ofNat i, 0⟩ else none).filterMap id := by
  rw [moveFoodLoop_eq, batchLoop_flatten _ _ _ (fun _ nonempty => by simpa using nonempty) _ _ _
    (.inl rfl), List.nil_append, contributions]
  simp only [zero_add_ofNat]

theorem moveFoodLoop_sizes {maxFoodUpdates : Nat} (positive : 0 < maxFoodUpdates) (world : World)
    (food : List Food) :
    ∀ batch ∈ (moveFoodLoop maxFoodUpdates world 0 [] food).2,
      0 < batch.length ∧ batch.length ≤ maxFoodUpdates := by
  rw [moveFoodLoop_eq]
  exact batchLoop_sizes _ _ _ positive (.inl rfl) _ _ _ positive

/-! ### NEW_GAME -/

theorem UInt8.ofNat_succ (n : Nat) : UInt8.ofNat (n + 1) = UInt8.ofNat n + 1 := by
  apply UInt8.eq_of_toBitVec_eq
  simp [UInt8.add_def, UInt8.ofNat, BitVec.ofNat_add]

theorem UInt8.add_ofNat_succ (no : UInt8) (i : Nat) :
    no + UInt8.ofNat (i + 1) = no + 1 + UInt8.ofNat i := by
  rw [UInt8.ofNat_succ]
  apply UInt8.eq_of_toBitVec_eq
  simp only [UInt8.add_def]
  ac_rfl

theorem UInt8.add_ofNat_zero (no : UInt8) : no + UInt8.ofNat 0 = no := by
  apply UInt8.eq_of_toBitVec_eq
  simp [UInt8.add_def, UInt8.ofNat]

theorem UInt8.zero_add_ofNat (i : Nat) : (0 : UInt8) + UInt8.ofNat i = UInt8.ofNat i := by
  apply UInt8.eq_of_toBitVec_eq
  simp [UInt8.add_def]

namespace Game

theorem newGameLoop_sent (numberOfPlayers : UInt8) :
    ∀ (playerNo : UInt8) (clients : List (UInt32 × Bool)) (g : Game),
      (newGameLoop numberOfPlayers playerNo clients g).2 =
        clients.mapIdx fun i c => .newGame c.1 ⟨playerNo + UInt8.ofNat i, numberOfPlayers⟩
  | _, [], _ => rfl
  | playerNo, (clientId, answered) :: rest, g => by
    rw [newGameLoop, newGameLoop_sent, List.mapIdx_cons, UInt8.add_ofNat_zero]
    simp only [UInt8.add_ofNat_succ]

theorem newGameLoop_game (numberOfPlayers : UInt8) :
    ∀ (playerNo : UInt8) (clients : List (UInt32 × Bool)) (g : Game),
      (newGameLoop numberOfPlayers playerNo clients g).1 =
        (clients.filter (·.2)).foldl (fun g c => g.addPlayer c.1) g
  | _, [], _ => rfl
  | playerNo, (clientId, answered) :: rest, g => by
    cases answered <;> simp [newGameLoop, newGameLoop_game _ _ rest]

theorem foldl_addPlayer (clients : List (UInt32 × Bool)) (g : Game) :
    (clients.foldl (fun g c => g.addPlayer c.1) g).players =
        g.players ++ clients.mapIdx (fun j c => ⟨c.1, g.world.players.length + j⟩) ∧
      (clients.foldl (fun g c => g.addPlayer c.1) g).world.players.length =
        g.world.players.length + clients.length ∧
      (clients.foldl (fun g c => g.addPlayer c.1) g).food = g.food ∧
      (clients.foldl (fun g c => g.addPlayer c.1) g).world.food = g.world.food := by
  induction clients generalizing g with
  | nil => simp
  | cons c rest ih =>
    obtain ⟨players, count, food, engineFood⟩ := ih (g.addPlayer c.1)
    refine ⟨?_, ?_, food, engineFood⟩
    · rw [List.foldl_cons, players, List.mapIdx_cons]
      simp only [addPlayer_players, addPlayer_enginePlayers, List.length_append,
        List.length_singleton, List.append_assoc, List.singleton_append, Nat.add_zero, Nat.add_assoc,
        Nat.add_comm 1]
    · rw [List.foldl_cons, count]
      simp only [addPlayer_enginePlayers, List.length_append, List.length_cons, List.length_nil]
      omega

theorem repeat_addFood (n : Nat) (g : Game) :
    (Nat.repeat addFood n g).food =
        g.food ++ (List.range n).map (fun j => ⟨g.world.food.length + j, true⟩) ∧
      (Nat.repeat addFood n g).world.food = g.world.food ++ List.replicate n ⟨1⟩ := by
  induction n with
  | zero => simp [Nat.repeat]
  | succ n ih =>
    simp only [Nat.repeat, addFood, World.addFood, ih.1, ih.2, List.range_succ, List.map_append,
      List.append_assoc, List.length_append, List.length_replicate, List.map_cons, List.map_nil,
      List.replicate_succ', and_self]

theorem engineObject_append_replicate (objects : List Mortal) {n j : Nat} (m : Mortal) (fresh : j < n) :
    engineObject (objects ++ List.replicate n m) (objects.length + j) = m := by
  rw [engineObject, List.getD_eq_getElem?_getD, List.getElem?_append_right (by omega),
    Nat.add_sub_cancel_left, List.getElem?_replicate, if_pos fresh]
  rfl

theorem repeat_addFood_players (n : Nat) (g : Game) : (Nat.repeat addFood n g).players = g.players := by
  induction n with
  | zero => rfl
  | succ n ih => exact ih

theorem newGameRequest_shown {g : Game} (noFood : g.food = []) (clients : List (UInt32 × Bool)) :
    ∀ f ∈ (g.newGameRequest clients).1.food, f.isAlive = true := by
  simp only [newGameRequest, positionFood, List.mem_map]
  rintro _ ⟨f, mem, rfl⟩
  obtain ⟨-, -, food, engineFood⟩ := foldl_addPlayer (clients.filter (·.2)) g
  rw [newGameLoop_game] at mem ⊢
  rw [(repeat_addFood _ _).1, food, noFood, List.nil_append, List.mem_map] at mem
  obtain ⟨j, range, rfl⟩ := mem
  rw [updateSprite_fst, (repeat_addFood _ _).2, engineFood,
    engineObject_append_replicate _ _ (List.mem_range.1 range)]
  rfl

end Game

/-! ### What each phase dispatches -/

namespace Game

variable (maxFoodUpdates maxPlayerUpdates : Nat) (g : Game) (env : Environment)

theorem newGameLoop_batches (numberOfPlayers playerNo : UInt8) (clients : List (UInt32 × Bool)) :
    (newGameLoop numberOfPlayers playerNo clients g).2.filterMap Dispatch.foodBatch = [] ∧
      (newGameLoop numberOfPlayers playerNo clients g).2.filterMap Dispatch.playerBatch = [] := by
  rw [newGameLoop_sent]
  constructor <;> exact List.filterMap_eq_nil_iff.2 fun d mem => by
    obtain ⟨i, _, rfl⟩ := List.mem_mapIdx.1 mem
    rfl

theorem foodBatches_update :
    (g.update maxFoodUpdates maxPlayerUpdates env).2.filterMap Dispatch.foodBatch =
      match g.phase with
      | .foodUpdateRequest => foodUpdateRequest maxFoodUpdates g.world g.food
      | .moveRequest => (moveFoodLoop maxFoodUpdates (g.world.run env.contacts) 0 [] g.food).2
      | _ => [] := by
  unfold update
  split <;> rename_i phase <;> simp [phase, newGameRequest, newGameLoop_batches, List.filterMap_map,
    Function.comp_def, Dispatch.foodBatch]

theorem playerBatches_update :
    (g.update maxFoodUpdates maxPlayerUpdates env).2.filterMap Dispatch.playerBatch =
      match g.phase with
      | .playerUpdateRequest => playerUpdateRequest maxPlayerUpdates g.world g.players
      | .gameOverRequest => gameOverRequest maxPlayerUpdates g.world g.players
      | _ => [] := by
  unfold update
  split <;> rename_i phase <;> simp [phase, newGameRequest, newGameLoop_batches, List.filterMap_map,
    Function.comp_def, Dispatch.playerBatch]

theorem food_update :
    (g.update maxFoodUpdates maxPlayerUpdates env).1.food =
      match g.phase with
      | .newGameRequest => (g.newGameRequest env.clients).1.food
      | .moveRequest => g.food.map fun f =>
          (f.updateSprite (engineObject (g.world.run env.contacts).food f.engineFood)).1
      | _ => g.food := by
  unfold update
  split <;> rename_i phase <;> simp [phase, moveFoodLoop_eq]

theorem phase_update : (g.update maxFoodUpdates maxPlayerUpdates env).1.phase ≠ .newGameRequest := by
  unfold update
  split <;> simp_all [newGameRequest]

theorem length_food_le_update :
    g.food.length ≤ (g.update maxFoodUpdates maxPlayerUpdates env).1.food.length := by
  rw [food_update]
  split
  · simp [newGameRequest, positionFood, newGameLoop_game, (repeat_addFood _ _).1,
      (foldl_addPlayer _ _).2.2.1]
  · simp
  · exact Nat.le_refl _

end Game

/-! ### Deaths over a run -/

namespace Game

/-- The MOVE update of `g` reports food `i` dead: `updateSprite` on the world after the steps
reports it. -/
def reportsDeath (g : Game) (env : Environment) (i : Nat) : Bool :=
  decide (g.phase = .moveRequest) &&
    g.food[i]?.any fun f => (f.updateSprite (engineObject (g.world.run env.contacts).food f.engineFood)).2

theorem isAlive_update (maxFoodUpdates maxPlayerUpdates : Nat) {g : Game} {env : Environment}
    (fresh : g.phase = .newGameRequest → g.food = []) {i : Nat} {f' : Food}
    (found : (g.update maxFoodUpdates maxPlayerUpdates env).1.food[i]? = some f') :
    (g.phase = .newGameRequest ∧ f'.isAlive = true) ∨
      ∃ f, g.food[i]? = some f ∧ f'.isAlive = (f.isAlive && !g.reportsDeath env i) := by
  rw [food_update] at found
  split at found
  · rename_i phase
    exact .inl ⟨phase, newGameRequest_shown (fresh phase) env.clients f' (List.getElem?_mem found)⟩
  · rename_i phase
    rw [List.getElem?_map] at found
    obtain ⟨f, before, rfl⟩ := Option.map_eq_some'.1 found
    refine .inr ⟨f, before, ?_⟩
    simp only [updateSprite_fst, reportsDeath, phase, before, updateSprite_snd, decide_True,
      Bool.true_and, Option.any_some]
    cases f.isAlive <;> cases (engineObject (g.world.run env.contacts).food f.engineFood).alive <;> rfl
  · rename_i notNew notMove
    exact .inr ⟨f', found, by simp [reportsDeath, decide_eq_false notMove]⟩

section Runs

variable (maxFoodUpdates maxPlayerUpdates : Nat) (start : Game) (envs : List Environment)

/-- Update `k` of the run from `start` reports food `i` dead. -/
def reportedAt (k i : Nat) : Prop :=
  ∃ env, envs[k]? = some env ∧
    (run maxFoodUpdates maxPlayerUpdates start (envs.take k)).reportsDeath env i = true

theorem run_take_succ (k : Nat) :
    run maxFoodUpdates maxPlayerUpdates start (envs.take (k + 1)) =
      match envs[k]? with
      | some env => (update maxFoodUpdates maxPlayerUpdates
          (run maxFoodUpdates maxPlayerUpdates start (envs.take k)) env).1
      | none => run maxFoodUpdates maxPlayerUpdates start (envs.take k) := by
  rw [List.take_succ, run, List.foldl_append]
  cases envs[k]? <;> rfl

/-- What holds after `k` updates of a run: a game still in NEW_GAME has no food, every reported
food is in the list, and food is shown alive exactly when no update so far reported it. -/
structure Shown (k : Nat) : Prop where
  fresh : (run maxFoodUpdates maxPlayerUpdates start (envs.take k)).phase = .newGameRequest →
    (run maxFoodUpdates maxPlayerUpdates start (envs.take k)).food = []
  reported_lt : ∀ j < k, ∀ i, reportedAt maxFoodUpdates maxPlayerUpdates start envs j i →
    i < (run maxFoodUpdates maxPlayerUpdates start (envs.take k)).food.length
  shown : ∀ i f, (run maxFoodUpdates maxPlayerUpdates start (envs.take k)).food[i]? = some f →
    (f.isAlive = true ↔ ∀ j < k, ¬ reportedAt maxFoodUpdates maxPlayerUpdates start envs j i)

variable {maxFoodUpdates maxPlayerUpdates start envs}

theorem Shown.zero (fresh : start.phase = .newGameRequest → start.food = [])
    (alive : ∀ f ∈ start.food, f.isAlive = true) : Shown maxFoodUpdates maxPlayerUpdates start envs 0 :=
  ⟨fresh, fun _ lt => absurd lt (Nat.not_lt_zero _),
    fun _ f found => ⟨fun _ _ lt => absurd lt (Nat.not_lt_zero _),
      fun _ => alive f (List.getElem?_mem found)⟩⟩

theorem Shown.succ {k : Nat} (inv : Shown maxFoodUpdates maxPlayerUpdates start envs k) :
    Shown maxFoodUpdates maxPlayerUpdates start envs (k + 1) := by
  have step := run_take_succ maxFoodUpdates maxPlayerUpdates start envs k
  cases next : envs[k]? with
  | none =>
    simp only [next] at step
    have silent : ∀ i, ¬ reportedAt maxFoodUpdates maxPlayerUpdates start envs k i := by
      rintro i ⟨env, found, -⟩
      rw [next] at found
      cases found
    refine ⟨step ▸ inv.fresh, fun j lt i reported => ?_, fun i f found => ?_⟩
    · rcases Nat.lt_succ_iff_lt_or_eq.1 lt with lt | rfl
      · exact step ▸ inv.reported_lt j lt i reported
      · exact absurd reported (silent i)
    · rw [Nat.forall_lt_succ_right, inv.shown i f (step ▸ found)]
      exact ⟨fun before => ⟨before, silent i⟩, And.left⟩
  | some env =>
    simp only [next] at step
    set g := run maxFoodUpdates maxPlayerUpdates start (envs.take k)
    have reportsAt : ∀ i, reportedAt maxFoodUpdates maxPlayerUpdates start envs k i ↔
        g.reportsDeath env i = true := fun i =>
      ⟨fun ⟨env', found, reports⟩ => by rw [next] at found; cases found; exact reports,
        fun reports => ⟨env, next, reports⟩⟩
    refine ⟨fun new => absurd new (step ▸ phase_update _ _ g env), fun j lt i reported => ?_,
      fun i f found => ?_⟩
    · have longer : g.food.length ≤
          (run maxFoodUpdates maxPlayerUpdates start (envs.take (k + 1))).food.length := by
        rw [step]
        exact length_food_le_update maxFoodUpdates maxPlayerUpdates g env
      rcases Nat.lt_succ_iff_lt_or_eq.1 lt with lt | rfl
      · exact Nat.lt_of_lt_of_le (inv.reported_lt j lt i reported) longer
      · have reports := (reportsAt i).1 reported
        cases found : g.food[i]? with
        | none => simp [reportsDeath, found] at reports
        | some f => exact Nat.lt_of_lt_of_le (List.getElem?_eq_some_iff.1 found).1 longer
    · rw [Nat.forall_lt_succ_right, reportsAt]
      rw [step] at found
      rcases isAlive_update maxFoodUpdates maxPlayerUpdates inv.fresh found with
        ⟨phase, alive⟩ | ⟨old, before, flag⟩
      · have new : g.phase = .newGameRequest := phase
        have never : ∀ j < k, ¬ reportedAt maxFoodUpdates maxPlayerUpdates start envs j i :=
          fun j lt reported => by simpa [inv.fresh phase] using inv.reported_lt j lt i reported
        exact ⟨fun _ => ⟨never, by simp [reportsDeath, new]⟩, fun _ => alive⟩
      · rw [flag, Bool.and_eq_true, inv.shown i old before]
        simp only [Bool.not_eq_true', Bool.not_eq_true]

theorem shown_run (fresh : start.phase = .newGameRequest → start.food = [])
    (alive : ∀ f ∈ start.food, f.isAlive = true) :
    ∀ k, Shown maxFoodUpdates maxPlayerUpdates start envs k
  | 0 => .zero fresh alive
  | k + 1 => (shown_run fresh alive k).succ

/-- Over a run from a game with no food in NEW_GAME and all its food alive, update `k` reports
food `i` exactly when it is a MOVE whose world steps leave the food's engine object dead and no
earlier update reported it. -/
theorem reportedAt_iff (fresh : start.phase = .newGameRequest → start.food = [])
    (alive : ∀ f ∈ start.food, f.isAlive = true) (k i : Nat) :
    reportedAt maxFoodUpdates maxPlayerUpdates start envs k i ↔
      (∃ env, envs[k]? = some env ∧
        (run maxFoodUpdates maxPlayerUpdates start (envs.take k)).phase = .moveRequest ∧
        ∃ f, (run maxFoodUpdates maxPlayerUpdates start (envs.take k)).food[i]? = some f ∧
          (engineObject ((run maxFoodUpdates maxPlayerUpdates start
            (envs.take k)).world.run env.contacts).food f.engineFood).alive = false) ∧
      ∀ j < k, ¬ reportedAt maxFoodUpdates maxPlayerUpdates start envs j i := by
  have shown := (shown_run fresh alive k : Shown maxFoodUpdates maxPlayerUpdates start envs k).shown i
  constructor
  · rintro ⟨env, found, reports⟩
    simp only [reportsDeath, Bool.and_eq_true, decide_eq_true_eq] at reports
    obtain ⟨moving, any⟩ := reports
    cases food : (run maxFoodUpdates maxPlayerUpdates start (envs.take k)).food[i]? with
    | none => simp [food] at any
    | some f =>
      simp only [food, Option.any_some, updateSprite_snd, Bool.and_eq_true, Bool.not_eq_true'] at any
      exact ⟨⟨env, found, moving, f, rfl, any.2⟩, (shown f food).1 any.1⟩
  · rintro ⟨⟨env, found, moving, f, food, dead⟩, never⟩
    refine ⟨env, found, ?_⟩
    simp only [reportsDeath, moving, food, updateSprite_snd, (shown f food).2 never, dead,
      decide_True, Option.any_some, Bool.not_false, Bool.and_self]

end Runs

end Game

/-! ### What the phases send -/

namespace Game

/-- The batches of every update: each holds between one entry and its transaction's maximum;
FOOD_UPDATE sends the state of every food, PLAYER_UPDATE and GAME_OVER the state of every player,
in list order and each with its index modulo `2 ^ 16`; MOVE sends, in order, the food whose death
the update reports. Over the run from a new match, update `k` reports food `i` exactly when it is
a MOVE whose world steps leave the food's engine object dead and no earlier update reported it. -/
theorem update_batches (maxFoodUpdates maxPlayerUpdates : Nat) (foodPositive : 0 < maxFoodUpdates)
    (playersPositive : 0 < maxPlayerUpdates) :
    (∀ (g : Game) (env : Environment),
      (∀ batch ∈ (g.update maxFoodUpdates maxPlayerUpdates env).2.filterMap Dispatch.foodBatch,
        0 < batch.length ∧ batch.length ≤ maxFoodUpdates) ∧
      (∀ batch ∈ (g.update maxFoodUpdates maxPlayerUpdates env).2.filterMap Dispatch.playerBatch,
        0 < batch.length ∧ batch.length ≤ maxPlayerUpdates) ∧
      (g.phase = .foodUpdateRequest →
        ((g.update maxFoodUpdates maxPlayerUpdates env).2.filterMap Dispatch.foodBatch).flatten =
          g.food.mapIdx fun i f => ⟨UInt16.ofNat i, (engineObject g.world.food f.engineFood).hp⟩) ∧
      (g.phase = .playerUpdateRequest ∨ g.phase = .gameOverRequest →
        ((g.update maxFoodUpdates maxPlayerUpdates env).2.filterMap Dispatch.playerBatch).flatten =
          g.players.mapIdx fun i p =>
            ⟨UInt16.ofNat i, (engineObject g.world.players p.enginePlayer).hp⟩) ∧
      (g.phase = .moveRequest →
        ((g.update maxFoodUpdates maxPlayerUpdates env).2.filterMap Dispatch.foodBatch).flatten =
          (g.food.mapIdx fun i _ =>
            if g.reportsDeath env i then some ⟨UInt16.ofNat i, 0⟩ else none).filterMap id)) ∧
    ∀ (envs : List Environment) (k i : Nat),
      reportedAt maxFoodUpdates maxPlayerUpdates create.newMatch envs k i ↔
        (∃ env, envs[k]? = some env ∧
          (run maxFoodUpdates maxPlayerUpdates create.newMatch (envs.take k)).phase = .moveRequest ∧
          ∃ f, (run maxFoodUpdates maxPlayerUpdates create.newMatch (envs.take k)).food[i]? = some f ∧
            (engineObject ((run maxFoodUpdates maxPlayerUpdates create.newMatch
              (envs.take k)).world.run env.contacts).food f.engineFood).alive = false) ∧
        ∀ j < k, ¬ reportedAt maxFoodUpdates maxPlayerUpdates create.newMatch envs j i := by
  refine ⟨fun g env => ⟨?_, ?_, fun phase => ?_, fun phase => ?_, fun phase => ?_⟩, fun envs k i => ?_⟩
  · rw [foodBatches_update]
    split
    · exact updateBatches_sizes _ _ foodPositive _
    · exact moveFoodLoop_sizes foodPositive _ _
    · simp
  · rw [playerBatches_update]
    split
    · exact updateBatches_sizes _ _ playersPositive _
    · exact updateBatches_sizes _ _ playersPositive _
    · simp
  · rw [foodBatches_update, phase]
    exact updateBatches_flatten _ _ _
  · rw [playerBatches_update]
    rcases phase with phase | phase <;> rw [phase] <;> exact updateBatches_flatten _ _ _
  · rw [foodBatches_update, phase, moveFoodLoop_flatten]
    congr 1
    refine List.mapIdx_eq_mapIdx_iff.2 fun j bound => ?_
    simp [reportsDeath, phase, List.getElem?_eq_getElem bound]
  · exact reportedAt_iff (fun _ => rfl) (fun _ mem => (List.not_mem_nil _ mem).elim) k i

/-- The batch law at the maxima 8 and 8. -/
theorem update_batches_eight :
    (0 < 8 ∧ 0 < 8) ∧
    (∀ (g : Game) (env : Environment),
      (∀ batch ∈ (g.update 8 8 env).2.filterMap Dispatch.foodBatch,
        0 < batch.length ∧ batch.length ≤ 8) ∧
      (∀ batch ∈ (g.update 8 8 env).2.filterMap Dispatch.playerBatch,
        0 < batch.length ∧ batch.length ≤ 8) ∧
      (g.phase = .foodUpdateRequest →
        ((g.update 8 8 env).2.filterMap Dispatch.foodBatch).flatten =
          g.food.mapIdx fun i f => ⟨UInt16.ofNat i, (engineObject g.world.food f.engineFood).hp⟩) ∧
      (g.phase = .playerUpdateRequest ∨ g.phase = .gameOverRequest →
        ((g.update 8 8 env).2.filterMap Dispatch.playerBatch).flatten =
          g.players.mapIdx fun i p =>
            ⟨UInt16.ofNat i, (engineObject g.world.players p.enginePlayer).hp⟩) ∧
      (g.phase = .moveRequest →
        ((g.update 8 8 env).2.filterMap Dispatch.foodBatch).flatten =
          (g.food.mapIdx fun i _ =>
            if g.reportsDeath env i then some ⟨UInt16.ofNat i, 0⟩ else none).filterMap id)) ∧
    ∀ (envs : List Environment) (k i : Nat),
      reportedAt 8 8 create.newMatch envs k i ↔
        (∃ env, envs[k]? = some env ∧
          (run 8 8 create.newMatch (envs.take k)).phase = .moveRequest ∧
          ∃ f, (run 8 8 create.newMatch (envs.take k)).food[i]? = some f ∧
            (engineObject ((run 8 8 create.newMatch
              (envs.take k)).world.run env.contacts).food f.engineFood).alive = false) ∧
        ∀ j < k, ¬ reportedAt 8 8 create.newMatch envs j i :=
  ⟨⟨by decide, by decide⟩, update_batches 8 8 (by decide) (by decide)⟩

/-- With more than `2 ^ 16` food, the FOOD_UPDATE batches give food 65536 the `foodNo` 0. -/
theorem food_index_wraps :
    (((({ create with phase := .foodUpdateRequest, food := List.replicate 65537 ⟨0, true⟩ } : Game).update
      1 1 ⟨[], []⟩).2.filterMap Dispatch.foodBatch).flatten[65536]?).map (·.foodNo.toNat) = some 0 := by
  rw [foodBatches_update]
  simp only [foodUpdateRequest, updateBatches_flatten, List.getElem?_mapIdx, List.getElem?_replicate]
  decide

/-- With a codec whose validator accepts client 8's answer and not client 7's, client 8 is told it
is player 1 of 2, but the match has one player, and PLAYER_UPDATE calls it player 0. -/
theorem new_game_numbers_diverge :
    let env : Environment := ⟨[(7, false), (8, true)], []⟩
    let joined := create.newMatch.update 8 8 env
    joined.2 = [.newGame 7 ⟨0, 2⟩, .newGame 8 ⟨1, 2⟩] ∧ joined.1.players = [⟨8, 0⟩] ∧
      ((joined.1.update 8 8 env).1.update 8 8 env).2 = [.playerUpdate [⟨0, 2⟩]] := by
  decide

/-- When every client answers, client `i` is sent player number `i` and the number of players,
both modulo `2 ^ 8`, and becomes player `i`, which PLAYER_UPDATE and GAME_OVER send with `playerNo`
`i` modulo `2 ^ 16`. -/
theorem newGame_when_all_answer (maxFoodUpdates maxPlayerUpdates : Nat)
    (clients : List (UInt32 × Bool)) (contacts : List Event) (all : ∀ c ∈ clients, c.2 = true) :
    (create.newMatch.update maxFoodUpdates maxPlayerUpdates ⟨clients, contacts⟩).2 =
        clients.mapIdx (fun i c => .newGame c.1 ⟨UInt8.ofNat i, UInt8.ofNat clients.length⟩) ∧
      (create.newMatch.update maxFoodUpdates maxPlayerUpdates ⟨clients, contacts⟩).1.players =
        clients.mapIdx fun i c => ⟨c.1, i⟩ := by
  show (create.newMatch.newGameRequest clients).2 = _ ∧ (create.newMatch.newGameRequest clients).1.players = _
  refine ⟨by simp only [newGameRequest, newGameLoop_sent, UInt8.zero_add_ofNat], ?_⟩
  simp only [newGameRequest, positionFood, repeat_addFood_players, newGameLoop_game,
    List.filter_eq_self.2 fun c mem => all c mem, (foldl_addPlayer _ _).1]
  simp [newMatch, create]

end Game

end Mniam.Amgame
