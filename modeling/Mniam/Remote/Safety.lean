import Mniam.Remote.Protocol

/-! What every interleaving of the game thread and the connection threads keeps, taking each call
whole: only a disconnect, a new connect or a failed `send` ends the loop, a set-up made during a
`send` is never sent, and with the stubs of `amcom.c` no packet reaches `packetReceived`. -/
namespace Mniam.Remote

open PacketType State Amgame AMCOM

namespace System

variable {Receiver : Type} (header : Header) (receiving : Receiving Receiver)

theorem alive_run (s : System Receiver) (events : List Event) (alive : s.connection.alive = true)
    (kept : ∀ event ∈ events,
      event ≠ .connectPlayer ∧ event ≠ .disconnectPlayer ∧ ∀ i, event ≠ .transmit i false) :
    (s.run header receiving events).connection.alive = true := by
  induction events generalizing s with
  | nil => exact alive
  | cons event rest ih =>
    obtain ⟨notConnect, notDisconnect, sent⟩ := kept event (List.mem_cons_self _ _)
    exact ih _ (alive_step header receiving s event alive notConnect notDisconnect sent)
      fun event' mem => kept event' (List.mem_cons_of_mem _ mem)

/-- Once the connection is alive, only `connectPlayer`, `disconnectPlayer` or a failed `send` ends
it, whatever else the threads do: a `recv` that fails or finds the peer closed leaves the loop
running, since its result is kept in a `size_t` and `recvSize < 0` never holds. -/
theorem alive_until_disconnect (s : System Receiver) (events : List Event)
    (alive : s.connection.alive = true)
    (kept : ∀ event ∈ events,
      event ≠ .connectPlayer ∧ event ≠ .disconnectPlayer ∧ ∀ i, event ≠ .transmit i false) :
    (s.run header receiving events).connection.alive = true ∧
      ∀ i, (s.run header receiving events).threads[i]? = some .polling →
        ((s.run header receiving events).step header receiving (.poll i)).threads[i]? ≠
          some .shuttingDown := by
  have stays := alive_run header receiving s events alive kept
  refine ⟨stays, fun i polling shutting => ?_⟩
  simp only [step, polling, if_true, poll, stays] at shutting
  split at shutting <;>
    rw [List.getElem?_set_self (List.getElem?_eq_some_iff.1 polling).1] at shutting <;> cases shutting

/-- A connected thread polls with nothing to send, then gets `-1` from `recv`, then `0`: the
connection stays alive and its thread keeps polling. -/
theorem alive_until_disconnect_recv_error :
    let s := (create () 0 0).run ⟨fun _ => 0, 8, 8⟩ amcom [.connectPlayer, .connect 0 true]
    let events : List Event := [.poll 0, .receive 0 (-1) [], .poll 0, .receive 0 0 []]
    s.connection.alive = true ∧
      (∀ event ∈ events,
        event ≠ .connectPlayer ∧ event ≠ .disconnectPlayer ∧ ∀ i, event ≠ .transmit i false) ∧
      (s.run ⟨fun _ => 0, 8, 8⟩ amcom events).connection.alive = true ∧
      ∀ i, (s.run ⟨fun _ => 0, 8, 8⟩ amcom events).threads[i]? = some .polling →
        ((s.run ⟨fun _ => 0, 8, 8⟩ amcom events).step ⟨fun _ => 0, 8, 8⟩ amcom (.poll i)).threads[i]? ≠
          some .shuttingDown :=
  have alive : ((create () 0 0).run ⟨fun _ => 0, 8, 8⟩ amcom
      [.connectPlayer, .connect 0 true]).connection.alive = true := by decide
  have kept : ∀ event ∈ ([.poll 0, .receive 0 (-1) [], .poll 0, .receive 0 0 []] : List Event),
      event ≠ .connectPlayer ∧ event ≠ .disconnectPlayer ∧ ∀ i, event ≠ .transmit i false := by
    simp
  ⟨alive, kept, alive_until_disconnect ⟨fun _ => 0, 8, 8⟩ amcom _ _ alive kept⟩

theorem invariant_reached (receiver : Receiver) (playerNumber numberOfPlayers : UInt8)
    (events : List Event) :
    Invariant ((create receiver playerNumber numberOfPlayers).run header receiving events) :=
  (invariant_create receiver playerNumber numberOfPlayers).run header receiving events

theorem stub_step (s : System Receiver) (event : Event) :
    ((s.step header amcom event).connection.identified = true → s.connection.identified = true) ∧
      ∀ p, .received p ∈ (s.step header amcom event).journal → .received p ∈ s.journal := by
  refine ⟨fun identified => ?_, fun p mem => ?_⟩
  · rcases identified_step header amcom s event identified with before | ⟨_, _, p, mem, _⟩
    · exact before
    · simp at mem
  · rcases step_cases header amcom s event with
      ⟨_, _, _, journal, _⟩ | ⟨_, _, _, _, _, _, journal, _⟩ | ⟨_, _, _, _, _, _, journal, _⟩ |
      ⟨_, _, _, _, _, journal, _⟩ | ⟨_, journal, _⟩ <;>
      rw [journal] at mem <;> simpa using mem

theorem stub_run (s : System Receiver) (events : List Event) :
    ((s.run header amcom events).connection.identified = true → s.connection.identified = true) ∧
      ∀ p, .received p ∈ (s.run header amcom events).journal → .received p ∈ s.journal := by
  induction events generalizing s with
  | nil => exact ⟨id, fun _ => id⟩
  | cons event rest ih =>
    obtain ⟨identified, received⟩ := stub_step header s event
    obtain ⟨identified', received'⟩ := ih (s.step header amcom event)
    exact ⟨identified ∘ identified', fun p mem => received p (received' p mem)⟩

/-- With the stubs of `amcom.c`, over any interleaving from a new connection and whatever the
peer sends, no packet reaches `packetReceived` and the connection is never identified. -/
theorem stub_connection_never_confirmed (receiver : Receiver) (playerNumber numberOfPlayers : UInt8)
    (events : List Event) :
    let s := (create receiver playerNumber numberOfPlayers).run header amcom events
    (∀ p, .received p ∉ s.journal) ∧ s.connection.identified = false := by
  intro s
  obtain ⟨identified, received⟩ := stub_run header (create receiver playerNumber numberOfPlayers) events
  exact ⟨fun p mem => by simpa [create] using received p mem,
    Bool.eq_false_iff.2 fun yes => by simpa [create, RemoteConnection.create] using identified yes⟩

/-- Set-up number `setup` will never be picked: no pick of it is journalled, no later set-up was
made, and while it is the latest with a request to send, the one connection thread is inside
`send` with an older request. -/
structure Lost (setup : Nat) (u : System Receiver) : Prop where
  gone : ∀ i r, .picked i setup r ∉ u.journal
  atLeast : setup ≤ (setups u.journal).length
  alone : u.threads.length = 1
  busy : (setups u.journal).length = setup →
    u.connection.remoteTransaction.state = REQUEST_TO_SEND → ∃ r e, u.threads[0]? = some (.sending r e)

theorem Lost.step {setup : Nat} {u : System Receiver} (lost : Lost setup u) (event : Event)
    (notConnect : event ≠ .connectPlayer) : Lost setup (u.step header receiving event) := by
  have alone : (u.step header receiving event).threads.length = 1 := by
    rw [length_threads_step, if_neg notConnect, Nat.add_zero, lost.alone]
  have only : ∀ {i : Nat} {p : Point}, u.threads[i]? = some p → i = 0 := fun found => by
    have := (List.getElem?_eq_some_iff.1 found).1
    rw [lost.alone] at this
    omega
  rcases step_cases header receiving u event with
    ⟨r, c, transaction, journal, threads⟩ |
    ⟨i, request, polling, requested, type, transaction, journal, threads⟩ |
    ⟨i, request, epoch, delivered, sending, transaction, journal, threads⟩ |
    ⟨i, received, data, receiving', transaction, journal, threads⟩ |
    ⟨transaction, journal, threads⟩
  · have longer : (setups (u.step header receiving event).journal).length =
        (setups u.journal).length + 1 := by simp [journal]
    have atLeast := lost.atLeast
    refine ⟨fun k r' mem => ?_, by omega, alone, fun same => by omega⟩
    rw [journal, List.mem_append, List.mem_singleton] at mem
    exact lost.gone k r' (mem.resolve_right nofun)
  · have later : (setups u.journal).length ≠ setup := fun same => by
      obtain ⟨r, e, found⟩ := lost.busy same requested
      rw [← only polling, polling] at found
      cases found
    have count : (setups (u.step header receiving event).journal).length = (setups u.journal).length := by
      simp [journal]
    refine ⟨fun k r' mem => ?_, count ▸ lost.atLeast, alone, fun same => absurd (count ▸ same) later⟩
    rw [journal, List.mem_append, List.mem_singleton, Note.picked.injEq] at mem
    rcases mem with old | ⟨-, same, -⟩
    exacts [lost.gone k r' old, later same.symm]
  · refine ⟨fun k r' mem => ?_, by simpa [journal] using lost.atLeast, alone, fun _ requested => ?_⟩
    · rw [journal, List.mem_append, List.mem_singleton] at mem
      exact lost.gone k r' (mem.resolve_right nofun)
    · rw [transaction, RemoteConnectionTransaction.indicateTransmission_state] at requested
      split at requested <;> cases requested
  · refine ⟨fun k r' mem => ?_, by simpa [journal] using lost.atLeast, alone, fun same requested => ?_⟩
    · rw [journal, List.mem_append, List.mem_map] at mem
      exact lost.gone k r' (mem.resolve_right fun ⟨_, _, same⟩ => by cases same)
    · obtain ⟨-, -, state⟩ := RemoteConnectionTransaction.foldl_indicateReception header.code
        (u.connection.receive header receiving received data).2 u.connection.remoteTransaction
      rw [transaction, state] at requested
      split at requested
      · cases requested
      · obtain ⟨r, e, found⟩ := lost.busy (by simpa [journal] using same) requested
        rw [← only receiving', receiving'] at found
        cases found
  · refine ⟨journal ▸ lost.gone, journal ▸ lost.atLeast, alone, fun same requested => ?_⟩
    obtain ⟨r, e, found⟩ := lost.busy (journal ▸ same) (transaction ▸ requested)
    exact ⟨r, e, (threads 0 r e).2 found⟩

theorem Lost.run {setup : Nat} {u : System Receiver} (lost : Lost setup u) (events : List Event)
    (noThread : .connectPlayer ∉ events) : Lost setup (u.run header receiving events) := by
  induction events generalizing u with
  | nil => exact lost
  | cons event rest ih =>
    rw [List.mem_cons, not_or] at noThread
    exact ih (lost.step header receiving event (Ne.symm noThread.1)) noThread.2

theorem le_of_getLast? {l : List Nat} (increasing : l.Pairwise (· < ·)) {last : Nat}
    (found : l.getLast? = some last) : ∀ x ∈ l, x ≤ last := by
  rw [← List.dropLast_append_getLast? _ found] at increasing ⊢
  intro x mem
  rcases List.mem_append.1 mem with early | final
  · exact Nat.le_of_lt ((List.pairwise_append.1 increasing).2.2 x early last (List.mem_singleton_self _))
  · exact Nat.le_of_eq (List.mem_singleton.1 final)

/-- A set-up made while the only connection thread is inside `send` with an earlier request is
never sent: after `send` returns, `indicateTransmission` moves the transaction on as if it had
been, so no later poll finds a request to send, unless the game thread sets up another
transaction or starts another thread. A PLAYER_UPDATE or FOOD_UPDATE set up so is then reported
finished, and one that awaits a confirmation awaits it for a request the peer never got. -/
theorem setup_during_send_never_sent (receiver : Receiver) (playerNumber numberOfPlayers : UInt8)
    (before after : List Event) {request : Request} {epoch : Nat}
    (alone : ((create receiver playerNumber numberOfPlayers).run header receiving before).threads =
      [.sending request epoch])
    (newer : epoch <
      (setups ((create receiver playerNumber numberOfPlayers).run header receiving before).journal).length)
    (noThread : .connectPlayer ∉ after) :
    let s := (create receiver playerNumber numberOfPlayers).run header receiving before
    ∀ i r, .picked i (setups s.journal).length r ∉ (s.run header receiving after).journal := by
  intro s
  have inv := invariant_reached header receiving receiver playerNumber numberOfPlayers before
  have sending : s.threads[0]? = some (.sending request epoch) := by rw [alone]; rfl
  have gone : ∀ i r, .picked i (setups s.journal).length r ∉ s.journal := fun i r picked => by
    have first : i = 0 := by
      have := inv.existing i _ r picked
      rw [alone] at this
      simpa using this
    subst first
    have bound := le_of_getLast? (inv.ordered 0) (inv.latest 0 request epoch sending) _
      (mem_epochs.2 ⟨r, picked⟩)
    have earlier : epoch < (setups s.journal).length := newer
    omega
  exact ((Lost.mk gone le_rfl (by rw [alone]; rfl) fun _ _ => ⟨request, epoch, sending⟩).run
    header receiving after noThread).gone

/-- The one thread picks IDENTIFY and is inside `send` when PLAYER_UPDATE is set up; after `send`
returns and the thread polls again, the PLAYER_UPDATE was never picked. -/
theorem setup_during_send_never_sent_update :
    let s := (create () 0 0).run ⟨fun _ => 0, 8, 8⟩ amcom
      [.connectPlayer, .connect 0 true, .identify, .poll 0, .sendPlayerUpdate]
    let after : List Event := [.transmit 0 true, .idle 0, .poll 0]
    s.threads = [.sending (.identify 0 1 0) 1] ∧ 1 < (setups s.journal).length ∧
      Event.connectPlayer ∉ after ∧
      ∀ i r, .picked i (setups s.journal).length r ∉ (s.run ⟨fun _ => 0, 8, 8⟩ amcom after).journal :=
  ⟨by decide, by decide, by decide,
    @setup_during_send_never_sent Unit ⟨fun _ => 0, 8, 8⟩ amcom () 0 0 _ _ (.identify 0 1 0) 1
      (by decide) (by decide) (by decide)⟩

end System

end Mniam.Remote
