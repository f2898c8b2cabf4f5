import Mniam.Connection.Server

/-! The client table across every run of the server: it never exceeds `clientLimit`, since between
the accept thread's unlocked check and its insertion every other thread can only shrink it. -/
namespace Mniam.Connection

namespace Server

/-- What the table invariant reads of an entry: its key and stored id. -/
def profile (entry : UInt32 × ConnectionClient) : UInt32 × UInt32 :=
  (entry.1, entry.2.clientId)

/-- A step that keeps or drops table entries, changing none of their keys or ids, and leaves the
accepted ids, the limit, the accept thread and the id counter alone. -/
structure Shrinks (s s' : Server) : Prop where
  profiles : List.Sublist (s'.clients.map profile) (s.clients.map profile)
  accepted : s'.accepted = s.accepted
  clientLimit : s'.clientLimit = s.clientLimit
  acceptor : s'.acceptor = s.acceptor
  clientId : s'.clientId = s.clientId

variable {s s' : Server}

theorem Shrinks.same (clients : s'.clients = s.clients) (accepted : s'.accepted = s.accepted)
    (limit : s'.clientLimit = s.clientLimit) (acceptor : s'.acceptor = s.acceptor)
    (counter : s'.clientId = s.clientId) : Shrinks s s' :=
  ⟨clients ▸ .refl _, accepted, limit, acceptor, counter⟩

theorem Shrinks.withDispatch (shrinks : Shrinks s s') {d : Option Dispatch} :
    Shrinks s { s' with dispatch := d } :=
  ⟨shrinks.1, shrinks.2, shrinks.3, shrinks.4, shrinks.5⟩

theorem Shrinks.setCell (shrinks : Shrinks s s') (address : Nat) (cell : Cell) :
    Shrinks s (s'.setCell address cell) :=
  ⟨shrinks.1, shrinks.2, shrinks.3, shrinks.4, shrinks.5⟩

theorem Shrinks.setClient {key : UInt32} {c c' : ConnectionClient}
    (keys : (s.clients.map (·.1)).Nodup) (found : s.clients.find key = some c)
    (clientId : c'.clientId = c.clientId) : Shrinks s (s.setClient key c') :=
  ⟨by
    rw [setClient_clients, KeyMap.map_modify_const profile keys found
      (show profile (key, c') = profile (key, c) by simp [profile, clientId])],
    rfl, rfl, rfl, rfl⟩

theorem Shrinks.filter (p : UInt32 × ConnectionClient → Bool) :
    Shrinks s { s with clients := s.clients.filter p } :=
  ⟨(List.filter_sublist _).map _, rfl, rfl, rfl, rfl⟩

theorem Shrinks.keys (shrinks : Shrinks s s') :
    List.Sublist (s'.clients.map (·.1)) (s.clients.map (·.1)) := by
  simpa [List.map_map, Function.comp_def, profile] using shrinks.profiles.map Prod.fst

theorem Shrinks.mem (shrinks : Shrinks s s') {entry : UInt32 × ConnectionClient}
    (member : entry ∈ s'.clients) : ∃ old ∈ s.clients, profile old = profile entry := by
  simpa using shrinks.profiles.subset (List.mem_map_of_mem profile member)

theorem Shrinks.length (shrinks : Shrinks s s') : s'.clients.length ≤ s.clients.length := by
  simpa using shrinks.profiles.length_le

theorem shrinks_visit (tid : Nat) (key mapKey : UInt32) (storage : Nat) :
    Shrinks s (s.visit tid key mapKey storage).1 := by
  rcases visit_eq s tid key mapKey storage with visited | ⟨_, _, visited⟩ | ⟨_, _, _, _, visited⟩ <;>
    rw [visited] <;> exact .same rfl rfl rfl rfl rfl

theorem shrinks_gate (keys : (s.clients.map (·.1)).Nodup) (key : UInt32) (address : Nat) :
    Shrinks s (s.gate key address) := by
  cases found : s.clients.find key with
  | none => rw [gate_of_missing found]; exact .same rfl rfl rfl rfl rfl
  | some client =>
    cases stored : s.heap address with
    | none => simpa [gate, found, stored] using Shrinks.same rfl rfl rfl rfl rfl
    | some cell =>
      rw [gate_of_found found stored]
      refine (Shrinks.setClient keys found ?_).setCell _ _
      unfold ConnectionClient.runTransaction
      split <;> rfl

/-- What one step does to the table: it shrinks it, or it is an accept, which changes only the
accept thread, or it is the locked insertion of an admitted connection. -/
theorem step_table {action : Action} (keys : (s.clients.map (·.1)).Nodup)
    (h : s.step action = some s') :
    Shrinks s s' ∨ (∃ socket, action = .accept socket ∧ s.accept socket = some s') ∨
      (action = .insert ∧ (∃ accepting size, s.acceptor = .admitted accepting size) ∧
        s' = s.insert) := by
  cases action with
  | accept socket => exact .inr (.inl ⟨socket, rfl, h⟩)
  | insert =>
    obtain ⟨admitted, -, rfl⟩ := step_insert h
    exact .inr (.inr ⟨rfl, admitted, rfl⟩)
  | removeClient clientId =>
    obtain ⟨-, rfl⟩ := step_removeClient h
    exact .inl (.filter _)
  | removeAllInactiveClients =>
    obtain ⟨-, rfl⟩ := step_removeAllInactiveClients h
    exact .inl (.filter _)
  | rejectIncomingConnections | acceptIncomingConnections =>
    cases h
    exact .inl (.same rfl rfl rfl rfl rfl)
  | runTransaction tid =>
    obtain ⟨-, rfl⟩ := step_runTransaction h
    exact .inl (.same rfl rfl rfl rfl rfl)
  | runTransactionWithSingleClient clientId tid =>
    obtain ⟨-, ⟨_, _, rfl⟩ | ⟨_, rfl⟩⟩ := step_runTransactionWithSingleClient h <;>
      exact .inl (.same rfl rfl rfl rfl rfl)
  | destroy tid =>
    cases h
    exact .inl (.same rfl rfl rfl rfl rfl)
  | visit storage =>
    obtain ⟨tid, keys, rest, -, -, rfl⟩ := step_visit h
    exact .inl (shrinks_visit tid keys.1 keys.2 storage).withDispatch
  | gate =>
    obtain ⟨tid, rest, key, address, -, rfl⟩ := step_gate h
    exact .inl (shrinks_gate keys key address).withDispatch
  | finish =>
    obtain ⟨tid, -, rfl⟩ := step_finish h
    exact .inl (.same rfl rfl rfl rfl rfl)
  | waitUntil address inTime =>
    obtain ⟨cell, -, rfl⟩ := step_waitUntil h
    exact .inl (.same rfl rfl rfl rfl rfl)
  | pop key written =>
    obtain ⟨c, address, rest, found, -, -, ⟨cell, -, -, rfl⟩ | ⟨-, rfl⟩⟩ := pop_eq h
    · exact .inl ((Shrinks.setClient keys found (by rfl)).setCell _ _)
    · exact .inl (.setClient keys found rfl)
  | read key received verdict rtt =>
    obtain ⟨c, address, cell, found, -, -, rfl⟩ := read_eq h
    exact .inl ((Shrinks.setClient keys found (by rfl)).setCell _ _)
  | exit key =>
    obtain ⟨c, found, -, rfl⟩ := exit_eq h
    exact .inl (.setClient keys found rfl)

/-- The table facts that hold in every reachable state. -/
structure TableInvariant (s : Server) : Prop where
  keys_nodup : (s.clients.map (·.1)).Nodup
  key_eq_id : ∀ entry ∈ s.clients, entry.2.clientId = entry.1
  bounded : s.clients.length ≤ s.clientLimit
  admitted : ∀ accepting size, s.acceptor = .admitted accepting size →
    accepting = true ∧ size < s.clientLimit ∧ s.clients.length ≤ size

theorem TableInvariant.shrinks (inv : TableInvariant s) (shrinks : Shrinks s s') :
    TableInvariant s' where
  keys_nodup := inv.keys_nodup.sublist shrinks.keys
  key_eq_id entry member := by
    obtain ⟨old, mem, same⟩ := shrinks.mem member
    simp only [profile, Prod.mk.injEq] at same
    rw [← same.2, ← same.1]
    exact inv.key_eq_id old mem
  bounded := shrinks.clientLimit ▸ shrinks.length.trans inv.bounded
  admitted accepting size acceptor := by
    obtain ⟨yes, room, fits⟩ := inv.admitted accepting size (shrinks.acceptor ▸ acceptor)
    exact ⟨yes, shrinks.clientLimit ▸ room, shrinks.length.trans fits⟩

theorem TableInvariant.accept (inv : TableInvariant s) {socket : Bool}
    (h : s.accept socket = some s') : TableInvariant s' := by
  obtain ⟨same, admitted⟩ := accept_eq h
  rw [same]
  exact { inv with
    admitted := fun accepting size acceptor => by
      obtain ⟨yes, -, rfl, room⟩ := admitted accepting size acceptor
      exact ⟨yes, room, le_rfl⟩ }

theorem TableInvariant.insert (inv : TableInvariant s) {accepting : Bool} {size : Nat}
    (admitted : s.acceptor = .admitted accepting size) : TableInvariant s.insert := by
  obtain ⟨-, room, fits⟩ := inv.admitted accepting size admitted
  by_cases present : s.clientId ∈ s.clients.map (·.1)
  · have same : s.insert.clients = s.clients := KeyMap.emplace_of_mem present _
    exact ⟨same ▸ inv.keys_nodup, same ▸ inv.key_eq_id, same ▸ inv.bounded, by simp⟩
  · have perm := KeyMap.perm_emplace present (ConnectionClient.create s.clientId s.accepted.length)
    refine ⟨(perm.map _).nodup_iff.mpr (List.nodup_cons.mpr ⟨present, inv.keys_nodup⟩), ?_, ?_,
      by simp⟩
    · intro entry member
      rcases List.mem_cons.mp (perm.mem_iff.mp member) with rfl | old
      · rfl
      · exact inv.key_eq_id entry old
    · simp only [insert_clients, insert_clientLimit, perm.length_eq, List.length_cons]
      omega

theorem TableInvariant.step (inv : TableInvariant s) {action : Action}
    (h : s.step action = some s') : TableInvariant s' := by
  rcases step_table inv.keys_nodup h with shrinks | ⟨socket, -, accepted⟩ |
    ⟨-, ⟨accepting, size, admitted⟩, rfl⟩
  · exact inv.shrinks shrinks
  · exact inv.accept accepted
  · exact inv.insert admitted

theorem tableInvariant_init (clientLimit : Nat) (transactions : Nat → Transaction) :
    TableInvariant (init clientLimit transactions) :=
  ⟨.nil, by simp [init], by simp [init], by simp [init]⟩

theorem step_clientLimit {action : Action} (keys : (s.clients.map (·.1)).Nodup)
    (h : s.step action = some s') : s'.clientLimit = s.clientLimit := by
  rcases step_table keys h with shrinks | ⟨socket, -, accepted⟩ | ⟨-, -, rfl⟩
  · exact shrinks.clientLimit
  · rw [(accept_eq accepted).1]
  · rfl

theorem Reachable.table {clientLimit : Nat} {transactions : Nat → Transaction}
    (reach : Reachable clientLimit transactions s) :
    TableInvariant s ∧ s.clientLimit = clientLimit := by
  induction reach with
  | init => exact ⟨tableInvariant_init _ _, rfl⟩
  | step action _ stepped ih =>
    exact ⟨ih.1.step stepped, (step_clientLimit ih.1.keys_nodup stepped).trans ih.2⟩

/-- The table never holds more than `clientLimit` connections, and a step that brings a new key
into it is the insertion of a connection whose check saw the gate accepting and room. -/
theorem table_within_limit {clientLimit : Nat} {transactions : Nat → Transaction}
    (reach : Reachable clientLimit transactions s) :
    s.clients.length ≤ clientLimit ∧
      ∀ action s', s.step action = some s' → ∀ key ∈ s'.clients.map (·.1),
        key ∉ s.clients.map (·.1) →
          action = .insert ∧ ∃ size < clientLimit, s.acceptor = .admitted true size := by
  obtain ⟨inv, limit⟩ := reach.table
  refine ⟨limit ▸ inv.bounded, fun action s' h key added fresh => ?_⟩
  rcases step_table inv.keys_nodup h with shrinks | ⟨socket, -, accepted⟩ |
    ⟨rfl, ⟨accepting, size, admitted⟩, -⟩
  · exact absurd (shrinks.keys.subset added) fresh
  · rw [(accept_eq accepted).1] at added
    exact absurd added fresh
  · obtain ⟨rfl, room, -⟩ := inv.admitted accepting size admitted
    exact ⟨rfl, size, limit ▸ room, admitted⟩

/-- The `Transaction`s of the runs below: each sends one byte and expects one back. -/
def oneByteRequest : Nat → Transaction := fun _ => ⟨[1], 1, 0, []⟩

/-- A connection accepted and inserted, then `Transaction` 0 dispatched to it in storage 0. -/
def dispatched : List Action := [.accept true, .insert, .runTransaction 0, .visit 0, .gate, .finish]

theorem table_within_limit_dispatched :
    let s := ((init 1 oneByteRequest).run dispatched).getD (init 1 oneByteRequest)
    Reachable 1 oneByteRequest s ∧ s.clients.length = 1 ∧ s.clients.length ≤ 1 ∧
      ∀ action s', s.step action = some s' → ∀ key ∈ s'.clients.map (·.1),
        key ∉ s.clients.map (·.1) → action = .insert ∧ ∃ size < 1, s.acceptor = .admitted true size := by
  intro s
  have reach : Reachable 1 oneByteRequest s :=
    @Reachable.run 1 oneByteRequest (init 1 oneByteRequest) s dispatched .init rfl
  exact ⟨reach, by decide, table_within_limit reach⟩

/-- `rounds` connections in turn accepted, inserted and removed again. -/
def churn : Nat → List Action
  | 0 => []
  | rounds + 1 => churn rounds ++ [.accept true, .insert, .removeClient (UInt32.ofNat rounds)]

private theorem ofNat_add_one (n : Nat) : UInt32.ofNat n + 1 = UInt32.ofNat (n + 1) := by
  apply UInt32.eq_of_toBitVec_eq
  apply BitVec.eq_of_toNat_eq
  simp [UInt32.ofNat, UInt32.add_def, BitVec.toNat_add, Nat.add_mod]

theorem run_churn (transactions : Nat → Transaction) (rounds : Nat) :
    (init 1 transactions).run (churn rounds) = some { init 1 transactions with
      clientId := UInt32.ofNat rounds, accepted := (List.range rounds).map UInt32.ofNat } := by
  induction rounds with
  | zero => rfl
  | succ rounds ih =>
    rw [churn, run_append, ih]
    simp [run, step, accept, Server.insert, removeClient, init, KeyMap.emplace, KeyMap.erase,
      List.range_succ, ofNat_add_one]

theorem accepted_churn (transactions : Nat → Transaction) (rounds : Nat) :
    ((init 1 transactions).run (churn rounds ++ [.accept true, .insert])).map (·.accepted) =
      some ((List.range (rounds + 1)).map UInt32.ofNat) := by
  rw [run_append, run_churn]
  simp [run, step, accept, init, List.range_succ]

/-- After `2 ^ 32` connections came and went, the next one is inserted under id `0`, the id of the
first: ids repeat, and the last two ids inserted decrease. -/
theorem clientId_reassigned (transactions : Nat → Transaction) :
    ((init 1 transactions).run (churn (2 ^ 32) ++ [.accept true, .insert])).map
        (fun s => (s.accepted[0]?, s.accepted[2 ^ 32 - 1]?, s.accepted[2 ^ 32]?)) =
      some (some 0, some 4294967295, some 0) := by
  have accepted := accepted_churn transactions (2 ^ 32)
  rw [show (fun s : Server => (s.accepted[0]?, s.accepted[2 ^ 32 - 1]?, s.accepted[2 ^ 32]?)) =
    (fun ids : List UInt32 => (ids[0]?, ids[2 ^ 32 - 1]?, ids[2 ^ 32]?)) ∘ (·.accepted) from rfl,
    ← Option.map_map, accepted]
  simp only [Option.map_some', Function.comp, List.getElem?_map,
    List.getElem?_range (show 0 < 2 ^ 32 + 1 by decide),
    List.getElem?_range (show 2 ^ 32 - 1 < 2 ^ 32 + 1 by decide),
    List.getElem?_range (show 2 ^ 32 < 2 ^ 32 + 1 by decide)]
  decide

end Server

end Mniam.Connection
