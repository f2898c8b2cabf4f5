import Mathlib.Data.List.Forall2
import Mathlib.Algebra.BigOperators.Group.List
import Mathlib.Algebra.Group.Int
import Mathlib.Algebra.Order.Ring.Nat
import Mathlib.Algebra.Ring.Int.Defs

/-! The hitpoint rules of the physics engine's contact handlers (`engine/engine.cpp`): over every
run of contact events the hitpoints stay non-negative, a dead object stays dead, and the total
never rises. -/
namespace Mniam.Engine

/-- `Mortal`: a world object with hitpoints (C++ `int`). -/
structure Mortal where
  hitpoints : Int
  deriving DecidableEq, Repr

namespace Mortal

/-- `Mortal::alive`. -/
def alive (m : Mortal) : Bool := m.hitpoints > 0

/-- `Mortal::harm`. -/
def harm (m : Mortal) (damage : Int) : Mortal := ⟨m.hitpoints - damage⟩

/-- `Mortal::kill`: lethal damage, all of its hitpoints. -/
def kill (m : Mortal) : Mortal := m.harm m.hitpoints

/-- `Mortal::heal`. -/
def heal (m : Mortal) (healPower : Int) : Mortal := ⟨m.hitpoints + healPower⟩

/-- `Mortal::hp`. -/
def hp (m : Mortal) : Int := m.hitpoints

@[simp] theorem hitpoints_kill (m : Mortal) : m.kill.hitpoints = 0 := Int.sub_self _

@[simp] theorem hitpoints_heal (m : Mortal) (healPower : Int) :
    (m.heal healPower).hitpoints = m.hitpoints + healPower := rfl

@[simp] theorem hp_eq (m : Mortal) : m.hp = m.hitpoints := rfl

@[simp] theorem alive_eq (m : Mortal) : m.alive = decide (0 < m.hitpoints) := rfl

/-- What the engine may do to one object: its hitpoints end non-negative, and once `0` they
stay `0`. -/
def Settles (m m' : Mortal) : Prop := 0 ≤ m'.hitpoints ∧ (m.hitpoints = 0 → m'.hitpoints = 0)

theorem Settles.refl {m : Mortal} (nonneg : 0 ≤ m.hitpoints) : Settles m m := ⟨nonneg, id⟩

theorem Settles.trans {m m' m'' : Mortal} (first : Settles m m') (second : Settles m' m'') :
    Settles m m'' :=
  ⟨second.1, fun dead => second.2 (first.2 dead)⟩

theorem settles_kill (m : Mortal) : Settles m m.kill := by simp [Settles]

end Mortal

/-- The objects of `engine::World` that have hitpoints: its food and its players, in the order
`addFood` and `addPlayer` appended them. -/
structure World where
  food : List Mortal
  players : List Mortal
  deriving DecidableEq, Repr

/-- A world object as a contact names it: the map boundaries, or a food object or a player by its
place in the world's list. -/
inductive WorldObject
  | boundaries
  | food (index : Nat)
  | player (index : Nat)
  deriving DecidableEq, Repr

namespace World

/-- `World::addFood`: a `Food` starts with 1 hitpoint. -/
def addFood (w : World) : World := { w with food := w.food ++ [⟨1⟩] }

/-- `World::addPlayer`: a `Player` starts with 2 hitpoints. -/
def addPlayer (w : World) : World := { w with players := w.players ++ [⟨2⟩] }

/-- A world of `players` players and `food` food objects, as `addPlayer` and `addFood` make them. -/
def create (players food : Nat) : World := ⟨List.replicate food ⟨1⟩, List.replicate players ⟨2⟩⟩

/-- The hitpoints of a world object; the boundaries have none. -/
def hitpoints (w : World) : WorldObject → Option Int
  | .boundaries => none
  | .food index => w.food[index]?.map Mortal.hp
  | .player index => w.players[index]?.map Mortal.hp

/-- The total hitpoints of all food and players. -/
def total (w : World) : Int := (w.food.map Mortal.hp).sum + (w.players.map Mortal.hp).sum

/-- No object has negative hitpoints. -/
structure Nonneg (w : World) : Prop where
  food : ∀ m ∈ w.food, 0 ≤ m.hitpoints
  players : ∀ m ∈ w.players, 0 ≤ m.hitpoints

/-- What the engine may do to a world: each object settles, and the total does not grow. -/
structure Settles (w w' : World) : Prop where
  food : List.Forall₂ Mortal.Settles w.food w'.food
  players : List.Forall₂ Mortal.Settles w.players w'.players
  total_le : w'.total ≤ w.total

end World

namespace ContactListener

/-- `handle(MapBoundaries&, Food&)`: food touching the boundaries is killed. -/
def handleBoundariesFood (w : World) (food : Nat) : World :=
  match w.food[food]? with
  | some o2 => { w with food := w.food.set food o2.kill }
  | none => w

/-- `handle(Food&, Player&)`: a living player eats living food, gaining its hitpoints. -/
def handleFoodPlayer (w : World) (food player : Nat) : World :=
  match w.food[food]?, w.players[player]? with
  | some o1, some o2 =>
    if o1.alive && o2.alive then
      { food := w.food.set food o1.kill, players := w.players.set player (o2.heal o1.hp) }
    else w
  | _, _ => w

/-- `handle(Player&, Player&)`: of two living players the one with more hitpoints absorbs the
other's; on a tie nothing happens. -/
def handlePlayerPlayer (w : World) (p1 p2 : Nat) : World :=
  match w.players[p1]?, w.players[p2]? with
  | some o1, some o2 =>
    if o1.alive && o2.alive then
      if o1.hp > o2.hp then
        { w with players := (w.players.set p1 (o1.heal o2.hp)).set p2 o2.kill }
      else if o2.hp > o1.hp then
        { w with players := (w.players.set p2 (o2.heal o1.hp)).set p1 o1.kill }
      else w
    else w
  | _, _ => w

/-- `ContactListener::handle`: the template dispatches on the second object's type to the overload
for the pair; the overloads with the boundaries or food second call the one for the swapped pair,
and boundaries-boundaries, boundaries-player and food-food do nothing. -/
def handle (w : World) : WorldObject → WorldObject → World
  | .boundaries, .boundaries => w
  | .boundaries, .food o2 => handleBoundariesFood w o2
  | .boundaries, .player _ => w
  | .food o1, .boundaries => handleBoundariesFood w o1
  | .food _, .food _ => w
  | .food o1, .player o2 => handleFoodPlayer w o1 o2
  | .player _, .boundaries => w
  | .player o1, .food o2 => handleFoodPlayer w o2 o1
  | .player o1, .player o2 => handlePlayerPlayer w o1 o2

/-- `ContactListener::BeginContact`: the objects of fixtures A and B, dispatched on A's type. -/
def beginContact (w : World) (o1 o2 : WorldObject) : World := handle w o1 o2

end ContactListener

namespace World

/-- One touching contact of `processOngioingContacts`: handled when both objects are players. -/
def ongoingContact (w : World) : WorldObject × WorldObject → World
  | (.player o1, .player o2) => ContactListener.handlePlayerPlayer w o1 o2
  | _ => w

/-- `World::processOngioingContacts`: the touching contacts in the order of Box2D's contact list. -/
def processOngioingContacts (w : World) (touching : List (WorldObject × WorldObject)) : World :=
  touching.foldl ongoingContact w

end World

/-- What changes hitpoints during `World::step`: a contact that Box2D begins in `b2World::Step`,
or the pass over the contacts still touching after it. -/
inductive Event
  | beginContact (o1 o2 : WorldObject)
  | processOngioingContacts (touching : List (WorldObject × WorldObject))
  deriving DecidableEq, Repr

namespace World

/-- The world after one event. -/
def step (w : World) : Event → World
  | .beginContact o1 o2 => ContactListener.beginContact w o1 o2
  | .processOngioingContacts touching => w.processOngioingContacts touching

/-- The world after a sequence of events. -/
def run (w : World) (events : List Event) : World := events.foldl step w

end World

/-! ### Lists of mortals under `List.set` -/

section Lists

variable {α : Type} {R : α → α → Prop}

private theorem forall₂_set {l : List α} {i : Nat} {a b : α} (refl : ∀ x ∈ l, R x x)
    (found : l[i]? = some a) (related : R a b) : List.Forall₂ R l (l.set i b) := by
  induction l generalizing i with
  | nil => simp at found
  | cons x rest ih =>
    cases i with
    | zero =>
      simp only [List.getElem?_cons_zero, Option.some.injEq] at found
      subst found
      exact .cons related (List.forall₂_same.2 fun y mem => refl y (List.mem_cons_of_mem _ mem))
    | succ i =>
      rw [List.getElem?_cons_succ] at found
      exact .cons (refl x (List.mem_cons_self _ _))
        (ih (fun y mem => refl y (List.mem_cons_of_mem _ mem)) found)

private theorem forall₂_trans (trans : ∀ {a b c : α}, R a b → R b c → R a c) :
    ∀ {l₁ l₂ l₃ : List α}, List.Forall₂ R l₁ l₂ → List.Forall₂ R l₂ l₃ → List.Forall₂ R l₁ l₃
  | _, _, _, .nil, .nil => .nil
  | _, _, _, .cons first rest, .cons second rest' =>
    .cons (trans first second) (forall₂_trans trans rest rest')

private theorem forall₂_getElem? {l l' : List α} (related : List.Forall₂ R l l') {i : Nat} {a : α}
    (found : l[i]? = some a) : ∃ b, l'[i]? = some b ∧ R a b := by
  induction related generalizing i with
  | nil => simp at found
  | @cons x y rest rest' head _ ih =>
    cases i with
    | zero =>
      simp only [List.getElem?_cons_zero, Option.some.injEq] at found
      exact ⟨y, List.getElem?_cons_zero, found ▸ head⟩
    | succ i =>
      rw [List.getElem?_cons_succ] at found ⊢
      exact ih found

end Lists

namespace World

theorem sum_hp_set {l : List Mortal} {i : Nat} {m : Mortal} (found : l[i]? = some m) (m' : Mortal) :
    ((l.set i m').map Mortal.hp).sum = (l.map Mortal.hp).sum - m.hitpoints + m'.hitpoints := by
  induction l generalizing i with
  | nil => simp at found
  | cons x rest ih =>
    cases i with
    | zero =>
      simp only [List.getElem?_cons_zero, Option.some.injEq] at found
      subst found
      simp only [List.set_cons_zero, List.map_cons, List.sum_cons, Mortal.hp_eq]
      omega
    | succ i =>
      simp only [List.getElem?_cons_succ] at found
      simp only [List.set_cons_succ, List.map_cons, List.sum_cons, ih found]
      omega

theorem Settles.refl {w : World} (nonneg : w.Nonneg) : Settles w w :=
  ⟨List.forall₂_same.2 fun m mem => .refl (nonneg.food m mem),
    List.forall₂_same.2 fun m mem => .refl (nonneg.players m mem), Int.le_refl _⟩

theorem Settles.trans {w w' w'' : World} (first : Settles w w') (second : Settles w' w'') :
    Settles w w'' :=
  ⟨forall₂_trans .trans first.food second.food, forall₂_trans .trans first.players second.players,
    Int.le_trans second.total_le first.total_le⟩

private theorem forall₂_nonneg {l l' : List Mortal} (related : List.Forall₂ Mortal.Settles l l') :
    ∀ m ∈ l', 0 ≤ m.hitpoints := by
  induction related with
  | nil => simp
  | cons head _ ih => exact List.forall_mem_cons.2 ⟨head.1, ih⟩

theorem Settles.nonneg {w w' : World} (settles : Settles w w') : w'.Nonneg :=
  ⟨forall₂_nonneg settles.food, forall₂_nonneg settles.players⟩

private theorem dead_of_forall₂ {l l' : List Mortal} (related : List.Forall₂ Mortal.Settles l l')
    {i : Nat} (dead : l[i]?.map Mortal.hp = some 0) : l'[i]?.map Mortal.hp = some 0 := by
  simp only [Option.map_eq_some', Mortal.hp_eq] at dead ⊢
  obtain ⟨m, found, zero⟩ := dead
  obtain ⟨m', found', settles⟩ := forall₂_getElem? related found
  exact ⟨m', found', settles.2 zero⟩

private theorem nonneg_of_getElem? {l : List Mortal} (nonneg : ∀ m ∈ l, 0 ≤ m.hitpoints) {i : Nat}
    {h : Int} (found : l[i]?.map Mortal.hp = some h) : 0 ≤ h := by
  simp only [Option.map_eq_some', Mortal.hp_eq] at found
  obtain ⟨m, found, rfl⟩ := found
  exact nonneg m (List.getElem?_mem found)

theorem Settles.dead {w w' : World} (settles : Settles w w') {o : WorldObject}
    (dead : w.hitpoints o = some 0) : w'.hitpoints o = some 0 := by
  cases o with
  | boundaries => simp [hitpoints] at dead
  | food _ => exact dead_of_forall₂ settles.food dead
  | player _ => exact dead_of_forall₂ settles.players dead

theorem Nonneg.hitpoints {w : World} (nonneg : w.Nonneg) {o : WorldObject} {h : Int}
    (found : w.hitpoints o = some h) : 0 ≤ h := by
  cases o with
  | boundaries => simp [World.hitpoints] at found
  | food _ => exact nonneg_of_getElem? nonneg.food found
  | player _ => exact nonneg_of_getElem? nonneg.players found

/-! ### The three updates a handler can make -/

theorem settles_killFood {w : World} (nonneg : w.Nonneg) {food : Nat} {o : Mortal}
    (found : w.food[food]? = some o) : Settles w { w with food := w.food.set food o.kill } := by
  have eaten := nonneg.food o (List.getElem?_mem found)
  refine ⟨forall₂_set (fun m mem => .refl (nonneg.food m mem)) found (Mortal.settles_kill o),
    List.forall₂_same.2 fun m mem => .refl (nonneg.players m mem), ?_⟩
  simp only [total, sum_hp_set found, Mortal.hitpoints_kill]
  omega

theorem total_eat {w : World} {food player : Nat} {o1 o2 : Mortal} (found1 : w.food[food]? = some o1)
    (found2 : w.players[player]? = some o2) :
    (World.mk (w.food.set food o1.kill) (w.players.set player (o2.heal o1.hp))).total = w.total := by
  simp only [total, sum_hp_set found1, sum_hp_set found2, Mortal.hitpoints_kill,
    Mortal.hitpoints_heal, Mortal.hp_eq]
  omega

theorem settles_eat {w : World} (nonneg : w.Nonneg) {food player : Nat} {o1 o2 : Mortal}
    (found1 : w.food[food]? = some o1) (found2 : w.players[player]? = some o2)
    (alive1 : 0 < o1.hitpoints) (alive2 : 0 < o2.hitpoints) :
    Settles w ⟨w.food.set food o1.kill, w.players.set player (o2.heal o1.hp)⟩ :=
  ⟨forall₂_set (fun m mem => .refl (nonneg.food m mem)) found1 (Mortal.settles_kill o1),
    forall₂_set (fun m mem => .refl (nonneg.players m mem)) found2
      ⟨by simp only [Mortal.hitpoints_heal, Mortal.hp_eq]; omega, by omega⟩,
    Int.le_of_eq (total_eat found1 found2)⟩

private theorem getElem?_set_other {l : List Mortal} {winner loser : Nat} {b : Mortal}
    (apart : winner ≠ loser) (foundLoser : l[loser]? = some b) (m : Mortal) :
    (l.set winner m)[loser]? = some b := by
  rw [List.getElem?_set_ne apart, foundLoser]

theorem total_absorb {w : World} {winner loser : Nat} {a b : Mortal}
    (foundWinner : w.players[winner]? = some a) (foundLoser : w.players[loser]? = some b)
    (apart : winner ≠ loser) :
    { w with players := (w.players.set winner (a.heal b.hp)).set loser b.kill }.total = w.total := by
  simp only [total]
  rw [sum_hp_set (getElem?_set_other apart foundLoser _), sum_hp_set foundWinner]
  simp only [Mortal.hitpoints_kill, Mortal.hitpoints_heal, Mortal.hp_eq]
  omega

theorem settles_absorb {w : World} (nonneg : w.Nonneg) {winner loser : Nat} {a b : Mortal}
    (foundWinner : w.players[winner]? = some a) (foundLoser : w.players[loser]? = some b)
    (apart : winner ≠ loser) (alive : 0 < a.hitpoints) :
    Settles w { w with players := (w.players.set winner (a.heal b.hp)).set loser b.kill } := by
  have loserNonneg := nonneg.players b (List.getElem?_mem foundLoser)
  have healed : Mortal.Settles a (a.heal b.hp) :=
    ⟨by simp only [Mortal.hitpoints_heal, Mortal.hp_eq]; omega, by omega⟩
  have nonneg' : ∀ m ∈ w.players.set winner (a.heal b.hp), 0 ≤ m.hitpoints := fun m mem =>
    (List.mem_or_eq_of_mem_set mem).elim (nonneg.players m) (· ▸ healed.1)
  exact ⟨List.forall₂_same.2 fun m mem => .refl (nonneg.food m mem),
    forall₂_trans .trans (forall₂_set (fun m mem => .refl (nonneg.players m mem)) foundWinner healed)
      (forall₂_set (fun m mem => .refl (nonneg' m mem)) (getElem?_set_other apart foundLoser _)
        (Mortal.settles_kill b)),
    Int.le_of_eq (total_absorb foundWinner foundLoser apart)⟩

end World

/-! ### What each handler does -/

namespace ContactListener

theorem handleBoundariesFood_cases (w : World) (food : Nat) :
    handleBoundariesFood w food = w ∨ ∃ o2, w.food[food]? = some o2 ∧
      handleBoundariesFood w food = { w with food := w.food.set food o2.kill } := by
  unfold handleBoundariesFood
  split
  · exact .inr ⟨_, ‹_›, rfl⟩
  · exact .inl rfl

theorem handleFoodPlayer_cases (w : World) (food player : Nat) :
    handleFoodPlayer w food player = w ∨ ∃ o1 o2, w.food[food]? = some o1 ∧
      w.players[player]? = some o2 ∧ 0 < o1.hitpoints ∧ 0 < o2.hitpoints ∧
      handleFoodPlayer w food player = ⟨w.food.set food o1.kill, w.players.set player (o2.heal o1.hp)⟩ := by
  unfold handleFoodPlayer
  split
  · rename_i o1 o2 found1 found2
    split
    · rename_i both
      simp only [Bool.and_eq_true, Mortal.alive_eq, decide_eq_true_eq] at both
      exact .inr ⟨o1, o2, found1, found2, both.1, both.2, rfl⟩
    · exact .inl rfl
  · exact .inl rfl

theorem handlePlayerPlayer_cases (w : World) (p1 p2 : Nat) :
    handlePlayerPlayer w p1 p2 = w ∨ ∃ winner loser a b, w.players[winner]? = some a ∧
      w.players[loser]? = some b ∧ winner ≠ loser ∧ 0 < a.hitpoints ∧
      handlePlayerPlayer w p1 p2 =
        { w with players := (w.players.set winner (a.heal b.hp)).set loser b.kill } := by
  unfold handlePlayerPlayer
  split
  · rename_i o1 o2 found1 found2
    split
    · rename_i both
      simp only [Bool.and_eq_true, Mortal.alive_eq, decide_eq_true_eq] at both
      split
      · rename_i more
        have apart : p1 ≠ p2 := by
          rintro rfl
          rw [found1, Option.some.injEq] at found2
          exact Int.lt_irrefl _ (found2 ▸ more)
        exact .inr ⟨p1, p2, o1, o2, found1, found2, apart, both.1, rfl⟩
      · split
        · rename_i more
          have apart : p2 ≠ p1 := by
            rintro rfl
            rw [found1, Option.some.injEq] at found2
            exact Int.lt_irrefl _ (found2 ▸ more)
          exact .inr ⟨p2, p1, o2, o1, found2, found1, apart, both.2, rfl⟩
        · exact .inl rfl
    · exact .inl rfl
  · exact .inl rfl

end ContactListener

namespace World

open ContactListener

theorem settles_handle {w : World} (nonneg : w.Nonneg) (o1 o2 : WorldObject) :
    Settles w (handle w o1 o2) := by
  have boundariesFood (food : Nat) : Settles w (handleBoundariesFood w food) := by
    obtain same | ⟨o, found, result⟩ := handleBoundariesFood_cases w food
    · rw [same]; exact .refl nonneg
    · exact result ▸ settles_killFood nonneg found
  have foodPlayer (food player : Nat) : Settles w (handleFoodPlayer w food player) := by
    obtain same | ⟨a, b, found1, found2, alive1, alive2, result⟩ := handleFoodPlayer_cases w food player
    · rw [same]; exact .refl nonneg
    · exact result ▸ settles_eat nonneg found1 found2 alive1 alive2
  have playerPlayer (p1 p2 : Nat) : Settles w (handlePlayerPlayer w p1 p2) := by
    obtain same | ⟨winner, loser, a, b, found1, found2, apart, alive, result⟩ :=
      handlePlayerPlayer_cases w p1 p2
    · rw [same]; exact .refl nonneg
    · exact result ▸ settles_absorb nonneg found1 found2 apart alive
  cases o1 <;> cases o2 <;> simp only [handle] <;>
    first
    | exact .refl nonneg
    | exact boundariesFood _
    | exact foodPlayer _ _
    | exact playerPlayer _ _

theorem total_handlePlayerPlayer (w : World) (p1 p2 : Nat) :
    (handlePlayerPlayer w p1 p2).total = w.total := by
  obtain same | ⟨winner, loser, a, b, found1, found2, apart, -, result⟩ :=
    handlePlayerPlayer_cases w p1 p2
  · rw [same]
  · rw [result, total_absorb found1 found2 apart]

theorem total_handleFoodPlayer (w : World) (food player : Nat) :
    (handleFoodPlayer w food player).total = w.total := by
  obtain same | ⟨a, b, found1, found2, -, -, result⟩ := handleFoodPlayer_cases w food player
  · rw [same]
  · rw [result, total_eat found1 found2]

theorem total_processOngioingContacts (w : World) (touching : List (WorldObject × WorldObject)) :
    (w.processOngioingContacts touching).total = w.total := by
  induction touching generalizing w with
  | nil => rfl
  | cons contact rest ih =>
    have one : (w.ongoingContact contact).total = w.total := by
      unfold ongoingContact
      split
      · exact total_handlePlayerPlayer w _ _
      · rfl
    exact (ih _).trans one

theorem settles_processOngioingContacts {w : World} (nonneg : w.Nonneg)
    (touching : List (WorldObject × WorldObject)) : Settles w (w.processOngioingContacts touching) := by
  induction touching generalizing w with
  | nil => exact .refl nonneg
  | cons contact rest ih =>
    have one : Settles w (w.ongoingContact contact) := by
      unfold ongoingContact
      split
      · exact settles_handle nonneg (.player _) (.player _)
      · exact .refl nonneg
    exact one.trans (ih one.nonneg)

/-! ### Runs -/

theorem settles_step {w : World} (nonneg : w.Nonneg) : ∀ e : Event, Settles w (w.step e)
  | .beginContact o1 o2 => settles_handle nonneg o1 o2
  | .processOngioingContacts touching => settles_processOngioingContacts nonneg touching

theorem boundaryFood_of_total_lt (w : World) (e : Event) (lower : (w.step e).total < w.total) :
    ∃ food, e = .beginContact .boundaries (.food food) ∨ e = .beginContact (.food food) .boundaries := by
  cases e with
  | beginContact o1 o2 =>
    cases o1 <;> cases o2 <;>
      simp [step, beginContact, handle, total_handleFoodPlayer, total_handlePlayerPlayer] at lower ⊢
  | processOngioingContacts touching =>
    simp [step, total_processOngioingContacts] at lower

@[simp] theorem run_append (w : World) (events events' : List Event) :
    w.run (events ++ events') = (w.run events).run events' := List.foldl_append _ _ _ _

theorem settles_run {w : World} (nonneg : w.Nonneg) (events : List Event) :
    Settles w (w.run events) := by
  induction events generalizing w with
  | nil => exact .refl nonneg
  | cons e rest ih => exact (settles_step nonneg e).trans (ih (settles_step nonneg e).nonneg)

theorem settles_between {w : World} (nonneg : w.Nonneg) (events : List Event) {k k' : Nat}
    (le : k ≤ k') : Settles (w.run (events.take k)) (w.run (events.take k')) := by
  have split := (List.take_append_drop k (events.take k')).symm
  rw [List.take_take, Nat.min_eq_left le] at split
  rw [split, run_append]
  exact settles_run (settles_run nonneg _).nonneg _

theorem create_nonneg (players food : Nat) : (create players food).Nonneg :=
  ⟨fun m mem => by simp [create, List.eq_of_mem_replicate mem],
    fun m mem => by simp [create, List.eq_of_mem_replicate mem]⟩

private theorem sum_hp_bounds : ∀ {l : List Mortal}, (∀ m ∈ l, 0 ≤ m.hitpoints) →
    0 ≤ (l.map Mortal.hp).sum ∧ ∀ m ∈ l, m.hitpoints ≤ (l.map Mortal.hp).sum
  | [], _ => ⟨Int.le_refl 0, by simp⟩
  | x :: rest, nonneg => by
    obtain ⟨restNonneg, restBound⟩ := sum_hp_bounds fun m mem => nonneg m (List.mem_cons_of_mem _ mem)
    have head := nonneg x (List.mem_cons_self _ _)
    simp only [List.map_cons, List.sum_cons, Mortal.hp_eq, List.forall_mem_cons]
    exact ⟨by omega, by omega, fun m mem => by have := restBound m mem; omega⟩

theorem hitpoints_le_total {w : World} (nonneg : w.Nonneg) {o : WorldObject} {h : Int}
    (found : w.hitpoints o = some h) : h ≤ w.total := by
  have food := sum_hp_bounds nonneg.food
  have players := sum_hp_bounds nonneg.players
  cases o with
  | boundaries => simp [hitpoints] at found
  | food index =>
    simp only [hitpoints, Option.map_eq_some', Mortal.hp_eq] at found
    obtain ⟨m, found, rfl⟩ := found
    have := food.2 m (List.getElem?_mem found)
    simp only [total]
    omega
  | player index =>
    simp only [hitpoints, Option.map_eq_some', Mortal.hp_eq] at found
    obtain ⟨m, found, rfl⟩ := found
    have := players.2 m (List.getElem?_mem found)
    simp only [total]
    omega

theorem total_create (players food : Nat) : (create players food).total = 2 * players + food := by
  simp only [total, create, List.map_replicate, List.sum_replicate]
  show (food : Int) * 1 + (players : Int) * 2 = _
  omega

/-- Along any run from `create players food` no object holds more than `2 * players + food`
hitpoints, so the C++ `int` never overflows while that is below `2 ^ 31`. -/
theorem hitpoints_le_create (players food : Nat) (events : List Event) {o : WorldObject} {h : Int}
    (found : ((create players food).run events).hitpoints o = some h) : h ≤ 2 * players + food := by
  have settles := settles_run (create_nonneg players food) events
  have := hitpoints_le_total settles.nonneg found
  have := settles.total_le
  rw [total_create] at this
  omega

/-- Every run of contact events from players at 2 hitpoints and food at 1: hitpoints stay
non-negative, a dead object stays dead, and the total never grows, falling only at a contact of
the boundaries with food. -/
theorem contacts_keep_hitpoints (players food : Nat) (events : List Event) :
    (∀ k o h, ((create players food).run (events.take k)).hitpoints o = some h → 0 ≤ h) ∧
    (∀ k k' o, k ≤ k' → ((create players food).run (events.take k)).hitpoints o = some 0 →
      ((create players food).run (events.take k')).hitpoints o = some 0) ∧
    (∀ k k', k ≤ k' → ((create players food).run (events.take k')).total ≤
      ((create players food).run (events.take k)).total) ∧
    (∀ k, ((create players food).run (events.take (k + 1))).total <
        ((create players food).run (events.take k)).total →
      ∃ f, events[k]? = some (.beginContact .boundaries (.food f)) ∨
        events[k]? = some (.beginContact (.food f) .boundaries)) := by
  have start := create_nonneg players food
  refine ⟨fun k o h found => (settles_between start events (Nat.zero_le k)).nonneg.hitpoints found,
    fun k k' o le dead => (settles_between start events le).dead dead,
    fun k k' le => (settles_between start events le).total_le, fun k lower => ?_⟩
  rw [List.take_succ, run_append] at lower
  cases next : events[k]? with
  | none => simp [next, run] at lower
  | some e =>
    simp only [next, Option.toList_some, run, List.foldl_cons, List.foldl_nil] at lower
    obtain ⟨f, event⟩ := boundaryFood_of_total_lt _ e lower
    exact ⟨f, event.imp (congrArg some) (congrArg some)⟩

end World

/-! ### A player loses hitpoints only by dying -/

namespace Mortal

/-- What the engine may do to a player: it settles, and its hitpoints fall only to `0`. -/
def Thrives (m m' : Mortal) : Prop := Settles m m' ∧ (m'.hitpoints = 0 ∨ m.hitpoints ≤ m'.hitpoints)

theorem Thrives.refl {m : Mortal} (nonneg : 0 ≤ m.hitpoints) : Thrives m m :=
  ⟨.refl nonneg, .inr (Int.le_refl _)⟩

theorem Thrives.trans {m m' m'' : Mortal} (first : Thrives m m') (second : Thrives m' m'') :
    Thrives m m'' := by
  refine ⟨first.1.trans second.1, ?_⟩
  rcases second.2 with dead | rises
  · exact .inl dead
  · rcases first.2 with dead | rose
    · exact .inl (second.1.2 dead)
    · exact .inr (Int.le_trans rose rises)

theorem thrives_kill (m : Mortal) : Thrives m m.kill := ⟨settles_kill m, .inl (hitpoints_kill m)⟩

theorem thrives_heal {m : Mortal} (alive : 0 < m.hitpoints) {healPower : Int} (gain : 0 ≤ healPower) :
    Thrives m (m.heal healPower) := by
  refine ⟨⟨?_, fun dead => ?_⟩, .inr ?_⟩ <;> simp only [hitpoints_heal] <;> omega

end Mortal

namespace World

open ContactListener

theorem Nonneg.addPlayer {w : World} (nonneg : w.Nonneg) : w.addPlayer.Nonneg :=
  ⟨nonneg.food, List.forall_mem_append.2 ⟨nonneg.players, by simp⟩⟩

theorem Nonneg.addFood {w : World} (nonneg : w.Nonneg) : w.addFood.Nonneg :=
  ⟨List.forall_mem_append.2 ⟨nonneg.food, by simp⟩, nonneg.players⟩

private theorem forall₂_thrives_same {l : List Mortal} (nonneg : ∀ m ∈ l, 0 ≤ m.hitpoints) :
    List.Forall₂ Mortal.Thrives l l :=
  List.forall₂_same.2 fun m mem => .refl (nonneg m mem)

theorem thrives_absorb {w : World} (nonneg : w.Nonneg) {winner loser : Nat} {a b : Mortal}
    (foundWinner : w.players[winner]? = some a) (foundLoser : w.players[loser]? = some b)
    (apart : winner ≠ loser) (alive : 0 < a.hitpoints) :
    List.Forall₂ Mortal.Thrives w.players ((w.players.set winner (a.heal b.hp)).set loser b.kill) := by
  have healed := Mortal.thrives_heal alive (nonneg.players b (List.getElem?_mem foundLoser))
  have nonneg' : ∀ m ∈ w.players.set winner (a.heal b.hp), 0 ≤ m.hitpoints := fun m mem =>
    (List.mem_or_eq_of_mem_set mem).elim (nonneg.players m) (· ▸ healed.1.1)
  exact forall₂_trans .trans (forall₂_set (fun m mem => .refl (nonneg.players m mem)) foundWinner healed)
    (forall₂_set (fun m mem => .refl (nonneg' m mem)) (getElem?_set_other apart foundLoser _)
      (Mortal.thrives_kill b))

theorem thrives_handle {w : World} (nonneg : w.Nonneg) (o1 o2 : WorldObject) :
    List.Forall₂ Mortal.Thrives w.players (handle w o1 o2).players := by
  have same := forall₂_thrives_same nonneg.players
  have boundariesFood (food : Nat) :
      List.Forall₂ Mortal.Thrives w.players (handleBoundariesFood w food).players := by
    obtain unchanged | ⟨o, -, result⟩ := handleBoundariesFood_cases w food
    · rw [unchanged]; exact same
    · rw [result]; exact same
  have foodPlayer (food player : Nat) :
      List.Forall₂ Mortal.Thrives w.players (handleFoodPlayer w food player).players := by
    obtain unchanged | ⟨a, b, -, found2, alive1, alive2, result⟩ := handleFoodPlayer_cases w food player
    · rw [unchanged]; exact same
    · rw [result]
      exact forall₂_set (fun m mem => .refl (nonneg.players m mem)) found2
        (Mortal.thrives_heal alive2 (Int.le_of_lt alive1))
  have playerPlayer (p1 p2 : Nat) :
      List.Forall₂ Mortal.Thrives w.players (handlePlayerPlayer w p1 p2).players := by
    obtain unchanged | ⟨winner, loser, a, b, found1, found2, apart, alive, result⟩ :=
      handlePlayerPlayer_cases w p1 p2
    · rw [unchanged]; exact same
    · rw [result]; exact thrives_absorb nonneg found1 found2 apart alive
  cases o1 <;> cases o2 <;> simp only [handle] <;>
    first
    | exact same
    | exact boundariesFood _
    | exact foodPlayer _ _
    | exact playerPlayer _ _

theorem thrives_processOngioingContacts {w : World} (nonneg : w.Nonneg)
    (touching : List (WorldObject × WorldObject)) :
    List.Forall₂ Mortal.Thrives w.players (w.processOngioingContacts touching).players := by
  induction touching generalizing w with
  | nil => exact forall₂_thrives_same nonneg.players
  | cons contact rest ih =>
    have one : List.Forall₂ Mortal.Thrives w.players (w.ongoingContact contact).players := by
      unfold ongoingContact
      split
      · exact thrives_handle nonneg (.player _) (.player _)
      · exact forall₂_thrives_same nonneg.players
    exact forall₂_trans .trans one (ih (settles_processOngioingContacts nonneg [contact]).nonneg)

theorem thrives_step {w : World} (nonneg : w.Nonneg) :
    ∀ e : Event, List.Forall₂ Mortal.Thrives w.players (w.step e).players
  | .beginContact o1 o2 => thrives_handle nonneg o1 o2
  | .processOngioingContacts touching => thrives_processOngioingContacts nonneg touching

/-- Along any run from a world without negative hitpoints, every player's hitpoints stay
non-negative, fall only to `0`, and stay `0` once there. -/
theorem thrives_run {w : World} (nonneg : w.Nonneg) (events : List Event) :
    List.Forall₂ Mortal.Thrives w.players (w.run events).players := by
  induction events generalizing w with
  | nil => exact forall₂_thrives_same nonneg.players
  | cons e rest ih =>
    exact forall₂_trans .trans (thrives_step nonneg e) (ih (settles_step nonneg e).nonneg)

theorem thrives_getD {l l' : List Mortal} (related : List.Forall₂ Mortal.Thrives l l') (i : Nat) :
    Mortal.Thrives (l.getD i ⟨0⟩) (l'.getD i ⟨0⟩) := by
  rw [List.getD_eq_getElem?_getD, List.getD_eq_getElem?_getD]
  cases found : l[i]? with
  | none =>
    have past : l'[i]? = none :=
      List.getElem?_eq_none (related.length_eq ▸ List.getElem?_eq_none_iff.1 found)
    rw [past]
    exact .refl (Int.le_refl 0)
  | some m =>
    obtain ⟨m', found', thrives⟩ := forall₂_getElem? related found
    rw [found']
    exact thrives

end World

end Mniam.Engine
