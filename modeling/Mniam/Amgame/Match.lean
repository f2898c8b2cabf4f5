import Mniam.Amgame.Update

/-! A match as `main` runs it, `Game::newMatch` once and then `Game::update` for ever: the player
hitpoints the updates report follow the engine's law, and the phases never reach GAME_OVER. -/
namespace Mniam.Amgame

open Engine

namespace Game

variable (maxFoodUpdates maxPlayerUpdates : Nat)

theorem run_append (g : Game) (envs envs' : List Environment) :
    run maxFoodUpdates maxPlayerUpdates g (envs ++ envs') =
      run maxFoodUpdates maxPlayerUpdates (run maxFoodUpdates maxPlayerUpdates g envs) envs' :=
  List.foldl_append _ _ _ _

/-! ### The world and the players over a run -/

theorem newGameRequest_joined (keeps : Game → Prop) (player : ∀ g c, keeps g → keeps (g.addPlayer c))
    (food : ∀ g, keeps g → keeps g.addFood) {g : Game} (start : keeps g) (clients : List (UInt32 × Bool)) :
    keeps (newGameLoop (UInt8.ofNat clients.length) 0 clients g).1.positionFood := by
  have joined : ∀ (answered : List (UInt32 × Bool)) (g : Game), keeps g →
      keeps (answered.foldl (fun g c => g.addPlayer c.1) g) := by
    intro answered
    induction answered with
    | nil => exact fun _ start => start
    | cons c rest ih => exact fun g start => ih _ (player g c.1 start)
  have placed : ∀ (n : Nat) (g : Game), keeps g → keeps (Nat.repeat addFood n g) := by
    intro n g start
    induction n with
    | zero => exact start
    | succ n ih => exact food _ ih
  rw [positionFood, newGameLoop_game]
  exact placed _ _ (joined _ g start)

theorem nonneg_newGameRequest {g : Game} (nonneg : g.world.Nonneg) (clients : List (UInt32 × Bool)) :
    (g.newGameRequest clients).1.world.Nonneg :=
  newGameRequest_joined (fun g => g.world.Nonneg) (fun _ _ nonneg => nonneg.addPlayer)
    (fun _ nonneg => nonneg.addFood) nonneg clients

theorem nonneg_update {g : Game} (nonneg : g.world.Nonneg) (env : Environment) :
    (g.update maxFoodUpdates maxPlayerUpdates env).1.world.Nonneg := by
  unfold update
  split <;>
    first
    | exact nonneg
    | exact nonneg_newGameRequest nonneg env.clients
    | exact (World.settles_run nonneg env.contacts).nonneg

theorem nonneg_run {g : Game} (nonneg : g.world.Nonneg) (envs : List Environment) :
    (run maxFoodUpdates maxPlayerUpdates g envs).world.Nonneg := by
  induction envs generalizing g with
  | nil => exact nonneg
  | cons env rest ih => exact ih (nonneg_update maxFoodUpdates maxPlayerUpdates nonneg env)

/-- Outside NEW_GAME an update keeps the players and changes the world only by running the
engine: MOVE on its contacts, every other phase on none. -/
theorem update_frame {g : Game} (playing : g.phase ≠ .newGameRequest) (env : Environment) :
    (g.update maxFoodUpdates maxPlayerUpdates env).1.players = g.players ∧
      ∃ events, (g.update maxFoodUpdates maxPlayerUpdates env).1.world = g.world.run events := by
  unfold update
  split
  · contradiction
  all_goals first | exact ⟨rfl, [], rfl⟩ | exact ⟨rfl, env.contacts, rfl⟩

theorem run_frame {g : Game} (playing : g.phase ≠ .newGameRequest) (envs : List Environment) :
    (run maxFoodUpdates maxPlayerUpdates g envs).players = g.players ∧
      ∃ events, (run maxFoodUpdates maxPlayerUpdates g envs).world = g.world.run events := by
  induction envs generalizing g with
  | nil => exact ⟨rfl, [], rfl⟩
  | cons env rest ih =>
    obtain ⟨players, events, world⟩ := update_frame maxFoodUpdates maxPlayerUpdates playing env
    obtain ⟨players', events', world'⟩ := ih (phase_update maxFoodUpdates maxPlayerUpdates g env)
    exact ⟨players'.trans players, events ++ events', by rw [World.run_append, ← world]; exact world'⟩

/-! ### What PLAYER_UPDATE and GAME_OVER report -/

/-- The hitpoints that update `k` of the run from `start` sends in the `i`-th player state of its
PLAYER_UPDATE or GAME_OVER batches, if it sends one. -/
def playerReport (start : Game) (envs : List Environment) (k i : Nat) : Option Int :=
  envs[k]?.bind fun env =>
    ((((run maxFoodUpdates maxPlayerUpdates start (envs.take k)).update maxFoodUpdates
      maxPlayerUpdates env).2.filterMap Dispatch.playerBatch).flatten[i]?).map PlayerState.hp

theorem playerReport_eq_some {start : Game} {envs : List Environment} {k i : Nat} {h : Int}
    (reported : playerReport maxFoodUpdates maxPlayerUpdates start envs k i = some h) :
    (run maxFoodUpdates maxPlayerUpdates start (envs.take k)).phase ≠ .newGameRequest ∧
      ∃ p, (run maxFoodUpdates maxPlayerUpdates start (envs.take k)).players[i]? = some p ∧
        h = (engineObject (run maxFoodUpdates maxPlayerUpdates start (envs.take k)).world.players
          p.enginePlayer).hp := by
  obtain ⟨env, -, sent⟩ := Option.bind_eq_some.1 reported
  set g := run maxFoodUpdates maxPlayerUpdates start (envs.take k)
  have reads : (g.players.mapIdx fun i p =>
        (⟨UInt16.ofNat i, (engineObject g.world.players p.enginePlayer).hp⟩ : PlayerState))[i]?.map
          PlayerState.hp = some h →
      ∃ p, g.players[i]? = some p ∧ h = (engineObject g.world.players p.enginePlayer).hp := by
    rw [List.getElem?_mapIdx, Option.map_map]
    intro read
    obtain ⟨p, found, rfl⟩ := Option.map_eq_some'.1 read
    exact ⟨p, found, rfl⟩
  rw [playerBatches_update] at sent
  split at sent
  · rename_i phase
    exact ⟨by simp [phase], reads (by rwa [playerUpdateRequest, updateBatches_flatten] at sent)⟩
  · rename_i phase
    exact ⟨by simp [phase], reads (by rwa [gameOverRequest, updateBatches_flatten] at sent)⟩
  · simp at sent

/-- From a game whose world has no negative hitpoints, over every run of updates: the hitpoints
that PLAYER_UPDATE and GAME_OVER report for the `i`-th player are never negative, a player once
reported at `0` is reported at `0` by every later update, and its reported hitpoints never fall
except to `0`. -/
theorem player_reports_thrive (start : Game) (nonneg : start.world.Nonneg) (envs : List Environment)
    {k k' i : Nat} (le : k ≤ k') {h h' : Int}
    (first : playerReport maxFoodUpdates maxPlayerUpdates start envs k i = some h)
    (later : playerReport maxFoodUpdates maxPlayerUpdates start envs k' i = some h') :
    0 ≤ h' ∧ (h = 0 → h' = 0) ∧ (h' = 0 ∨ h ≤ h') := by
  obtain ⟨playing, p, found, rfl⟩ := playerReport_eq_some maxFoodUpdates maxPlayerUpdates first
  obtain ⟨-, p', found', rfl⟩ := playerReport_eq_some maxFoodUpdates maxPlayerUpdates later
  have split := (List.take_append_drop k (envs.take k')).symm
  rw [List.take_take, Nat.min_eq_left le] at split
  rw [split, run_append] at found' ⊢
  obtain ⟨players, events, world⟩ := run_frame maxFoodUpdates maxPlayerUpdates playing
    ((envs.take k').drop k)
  rw [players, found, Option.some.injEq] at found'
  subst found'
  rw [world]
  obtain ⟨⟨nonneg', stays⟩, grows⟩ := World.thrives_getD
    (World.thrives_run (nonneg_run maxFoodUpdates maxPlayerUpdates nonneg _) events) p.enginePlayer
  exact ⟨nonneg', stays, grows⟩

/-- Two players eat and fight: player 1, reported at 2 by the first PLAYER_UPDATE, is absorbed in
the MOVE and reported at 0 by the next. -/
theorem player_reports_thrive_absorbed :
    let envs : List Environment := [⟨[(7, true), (8, true)], []⟩, ⟨[], []⟩, ⟨[], []⟩,
      ⟨[], [.beginContact (.food 0) (.player 0), .beginContact (.player 0) (.player 1)]⟩, ⟨[], []⟩]
    (2 ≤ 4 ∧ playerReport 8 8 create.newMatch envs 2 1 = some 2 ∧
        playerReport 8 8 create.newMatch envs 4 1 = some 0) ∧
      (0 ≤ (0 : Int) ∧ ((2 : Int) = 0 → (0 : Int) = 0) ∧ ((0 : Int) = 0 ∨ (2 : Int) ≤ 0)) := by
  intro envs
  exact ⟨⟨by decide, by decide, by decide⟩,
    @player_reports_thrive 8 8 create.newMatch (World.create_nonneg 0 0) envs 2 4 1 (by decide) 2 0
      (by decide) (by decide)⟩

theorem newGameRequest_world (clients : List (UInt32 × Bool)) :
    (create.newMatch.newGameRequest clients).1.world =
      World.create (create.newMatch.newGameRequest clients).1.players.length
        (6 * (create.newMatch.newGameRequest clients).1.players.length) := by
  have mirrored := newGameRequest_joined (fun g => g.world = World.create g.players.length g.food.length)
    (fun g c mirrored => by simp [mirrored, addPlayer, World.addPlayer, World.create, List.replicate_succ'])
    (fun g mirrored => by simp [mirrored, addFood, World.addFood, World.create, List.replicate_succ'])
    (show create.newMatch.world = World.create 0 0 from rfl) clients
  have noFood : (newGameLoop (UInt8.ofNat clients.length) 0 clients create.newMatch).1.food = [] := by
    rw [newGameLoop_game]
    exact (foldl_addPlayer _ _).2.2.1
  set joined := (newGameLoop (UInt8.ofNat clients.length) 0 clients create.newMatch).1
  have placed : joined.positionFood.food.length = 6 * joined.positionFood.players.length := by
    simp [positionFood, (repeat_addFood _ _).1, repeat_addFood_players, noFood, Nat.mul_comm]
  show joined.positionFood.world = World.create joined.positionFood.players.length
    (6 * joined.positionFood.players.length)
  rw [mirrored, placed]

/-- Over every run from a new match, no PLAYER_UPDATE or GAME_OVER reports more hitpoints for a
player than the match started with in all: 2 for each of its `n` players and 1 for each of its
`6 * n` food. -/
theorem player_reports_bounded (envs : List Environment) {k i : Nat} {h : Int}
    (reported : playerReport maxFoodUpdates maxPlayerUpdates create.newMatch envs k i = some h) :
    h ≤ 8 * (run maxFoodUpdates maxPlayerUpdates create.newMatch (envs.take k)).players.length := by
  obtain ⟨playing, p, -, rfl⟩ := playerReport_eq_some maxFoodUpdates maxPlayerUpdates reported
  rcases envs with _ | ⟨first, rest⟩
  · simp [run, newMatch] at playing
  rcases k with _ | k
  · exact absurd rfl playing
  obtain ⟨players, events, world⟩ := run_frame maxFoodUpdates maxPlayerUpdates
    (phase_update maxFoodUpdates maxPlayerUpdates create.newMatch first) (rest.take k)
  show (engineObject (run maxFoodUpdates maxPlayerUpdates (create.newMatch.update maxFoodUpdates
      maxPlayerUpdates first).1 (rest.take k)).world.players p.enginePlayer).hp ≤
    8 * (run maxFoodUpdates maxPlayerUpdates (create.newMatch.update maxFoodUpdates maxPlayerUpdates
      first).1 (rest.take k)).players.length
  rw [world, players, show (create.newMatch.update maxFoodUpdates maxPlayerUpdates first).1 =
    (create.newMatch.newGameRequest first.clients).1 from rfl, newGameRequest_world first.clients]
  set n := (create.newMatch.newGameRequest first.clients).1.players.length
  cases found : ((World.create n (6 * n)).run events).players[p.enginePlayer]? with
  | none =>
    simp only [engineObject, List.getD_eq_getElem?_getD, found, Option.getD_none, Mortal.hp_eq]
    omega
  | some m =>
    have bound := @World.hitpoints_le_create n (6 * n) events (.player p.enginePlayer) m.hitpoints
      (by simp [World.hitpoints, found])
    simp only [engineObject, List.getD_eq_getElem?_getD, found, Option.getD_some, Mortal.hp_eq]
    omega

/-- The player who eats and then absorbs the other is reported at 5 of the 16 hitpoints of the
match. -/
theorem player_reports_bounded_absorbed :
    let envs : List Environment := [⟨[(7, true), (8, true)], []⟩, ⟨[], []⟩, ⟨[], []⟩,
      ⟨[], [.beginContact (.food 0) (.player 0), .beginContact (.player 0) (.player 1)]⟩, ⟨[], []⟩]
    playerReport 8 8 create.newMatch envs 4 0 = some 5 ∧
      (5 : Int) ≤ 8 * (run 8 8 create.newMatch (envs.take 4)).players.length := by
  intro envs
  exact ⟨by decide, @player_reports_bounded 8 8 envs 4 0 5 (by decide)⟩

/-! ### The schedule of `main` -/

theorem UInt32.ofNat_succ (n : Nat) : UInt32.ofNat (n + 1) = UInt32.ofNat n + 1 := by
  apply UInt32.eq_of_toBitVec_eq
  simp [UInt32.add_def, UInt32.ofNat, BitVec.ofNat_add]

/-- The phase after `n` updates of a new match: NEW_GAME, FOOD_UPDATE, and then PLAYER_UPDATE and
MOVE in turn. -/
def scheduledPhase : Nat → Phase
  | 0 => .newGameRequest
  | 1 => .foodUpdateRequest
  | n + 2 => if n % 2 = 0 then .playerUpdateRequest else .moveRequest

theorem scheduledPhase_ne_gameOver : ∀ n, scheduledPhase n ≠ .gameOverRequest
  | 0 | 1 => by decide
  | n + 2 => by rw [scheduledPhase]; split <;> decide

theorem gameTime_newGameRequest (g : Game) (clients : List (UInt32 × Bool)) :
    (g.newGameRequest clients).1.gameTime = g.gameTime :=
  newGameRequest_joined (fun g' => g'.gameTime = g.gameTime) (fun _ _ same => same) (fun _ same => same)
    rfl clients

theorem scheduled_update {g : Game} {n : Nat} (phase : g.phase = scheduledPhase n)
    (time : g.gameTime = UInt32.ofNat ((n - 2) / 2)) (env : Environment) :
    (g.update maxFoodUpdates maxPlayerUpdates env).1.phase = scheduledPhase (n + 1) ∧
      (g.update maxFoodUpdates maxPlayerUpdates env).1.gameTime = UInt32.ofNat ((n + 1 - 2) / 2) := by
  unfold update
  rcases n with _ | _ | n
  · rw [phase]
    exact ⟨rfl, (gameTime_newGameRequest g env.clients).trans time⟩
  · rw [phase]
    exact ⟨rfl, time⟩
  · by_cases even : n % 2 = 0
    · rw [phase, scheduledPhase, if_pos even]
      refine ⟨by simp only [scheduledPhase]; rw [if_neg (by omega)], time.trans ?_⟩
      congr 1
      omega
    · rw [phase, scheduledPhase, if_neg even]
      refine ⟨by simp only [scheduledPhase]; rw [if_pos (by omega)], ?_⟩
      show g.gameTime + 1 = _
      rw [time, ← UInt32.ofNat_succ]
      congr 1
      omega

theorem scheduled_run {g : Game} {n : Nat} (phase : g.phase = scheduledPhase n)
    (time : g.gameTime = UInt32.ofNat ((n - 2) / 2)) (envs : List Environment) :
    (run maxFoodUpdates maxPlayerUpdates g envs).phase = scheduledPhase (n + envs.length) ∧
      (run maxFoodUpdates maxPlayerUpdates g envs).gameTime =
        UInt32.ofNat ((n + envs.length - 2) / 2) := by
  induction envs generalizing g n with
  | nil => exact ⟨phase, time⟩
  | cons env rest ih =>
    obtain ⟨phase', time'⟩ := scheduled_update maxFoodUpdates maxPlayerUpdates phase time env
    rw [List.length_cons, ← Nat.add_assoc, Nat.add_right_comm]
    exact ih phase' time'

theorem gameOver_mem_update {g : Game} {env : Environment} {batch : List PlayerState}
    (sent : .gameOver batch ∈ (g.update maxFoodUpdates maxPlayerUpdates env).2) :
    g.phase = .gameOverRequest := by
  unfold update at sent
  split at sent <;> simp_all [newGameRequest, newGameLoop_sent, List.mem_mapIdx]

theorem move_mem_update {g : Game} {env : Environment} {t : UInt32}
    (sent : .move t ∈ (g.update maxFoodUpdates maxPlayerUpdates env).2) : t = g.gameTime := by
  unfold update at sent
  split at sent <;> simp_all [newGameRequest, newGameLoop_sent, List.mem_mapIdx]

/-- Over every run from a new match, update `n` finds the game in `scheduledPhase n`: no update
ever runs a GAME_OVER, and every `MoveTransaction` is constructed with the number of MOVEs before
it, modulo `2 ^ 32`. -/
theorem match_never_over (envs : List Environment) (env : Environment) :
    (run maxFoodUpdates maxPlayerUpdates create.newMatch envs).phase = scheduledPhase envs.length ∧
      (∀ batch, .gameOver batch ∉
        ((run maxFoodUpdates maxPlayerUpdates create.newMatch envs).update maxFoodUpdates
          maxPlayerUpdates env).2) ∧
      ∀ t, .move t ∈ ((run maxFoodUpdates maxPlayerUpdates create.newMatch envs).update
        maxFoodUpdates maxPlayerUpdates env).2 → t = UInt32.ofNat ((envs.length - 2) / 2) := by
  obtain ⟨phase, time⟩ := scheduled_run maxFoodUpdates maxPlayerUpdates
    (show create.newMatch.phase = scheduledPhase 0 from rfl) rfl envs
  rw [Nat.zero_add] at phase time
  refine ⟨phase, fun batch sent => ?_, fun t sent => ?_⟩
  · exact scheduledPhase_ne_gameOver _ (phase ▸ gameOver_mem_update maxFoodUpdates maxPlayerUpdates sent)
  · rw [move_mem_update maxFoodUpdates maxPlayerUpdates sent, time]

end Game

end Mniam.Amgame
