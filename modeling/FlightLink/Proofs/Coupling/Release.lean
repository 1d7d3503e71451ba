import FlightLink.Proofs.Channel.Awaiting
import FlightLink.Proofs.Coupling.Tracking
import FlightLink.Proofs.Transport.Due

/-!
# Nothing stays on hold

A channel holds messages while it awaits events.  Each of these events belongs
to a packet that is somewhere on its way: among the actions or orders that
wait, in the session, or in a signal that tells what has become of it.  The
exceptions are packets that are never reported on because their session comes to
its end.  In that case the controller is going to be told so, and awaits nothing
after that.

So once nothing is on its way any more, nothing is awaited and nothing is held.
-/

namespace FlightLink.Coupling

open Transport Channel Effect

/-- How many packets are on their way whose event the channel awaits. -/
def owed (x : Coupling) : Nat :=
  x.controller.pending.toList.countP Action.awaitsEvent +
    x.orders.countP (·.2.isTracked) + x.station.link.due +
      x.signals.countP (·.2.settles)

/-- The controller has been told of the end of a connection. -/
def IsToldOfEnd (x : Coupling) : Prop :=
  ∃ p ∈ x.signals, p.2 = .connected false

/-- Every event awaited is that of a packet on its way, unless the connection
comes to its end. -/
structure Releases (r : Role) (x : Coupling) : Prop extends Tracks r x where
  sound : x.station.link.Sound
  bounded : x.station.isRunning = true →
    x.IsToldOfEnd ∨ x.station.link.IsEnding ∨
      x.controller.channel.awaiting ≤ x.owed

/-- Whether nothing is on its way.  Orders to a station that is over are lost. -/
def isAtRest (x : Coupling) : Bool :=
  x.controller.pending.toList.isEmpty && (x.orders.isEmpty || !x.station.isRunning) &&
    x.signals.isEmpty && x.station.link.isQuiet

variable {r : Role} {x y : Coupling}

/-! ## Steps of the station -/

theorem countP_told (f : Signal → Option Nat) (outputs : List Output) :
    ((Transport.signals outputs).map fun s => (f s, s)).countP (·.2.settles) =
      (tidings outputs).countP Signal.settles := by
  rw [tidings, List.countP_map, List.countP_filter]
  apply List.countP_congr
  intro s _
  cases s <;> simp [Signal.settles, Signal.isTiding]

/-- The station does something, and `handed` packets among the orders are handed
to its link. -/
theorem Releases.settle (h : x.Releases r) {meant? : Option Nat} {s : Station}
    {outputs : List Output} {rest : List (Option Nat × Order)} {handed : Nat}
    (hy : (Coupling.settle { x with orders := rest } meant? (s, outputs)).Tracks r)
    (horders : x.orders.countP (·.2.isTracked) =
      handed + rest.countP (·.2.isTracked))
    (hsound : s.link.Sound)
    (hrunning : s.isRunning = true → x.station.isRunning = true ∧
      x.station.link.Accounts s.link handed (tidings outputs)) :
    (Coupling.settle { x with orders := rest } meant? (s, outputs)).Releases r := by
  refine ⟨hy, hsound, ?_⟩
  intro hrun
  obtain ⟨hbefore, haccounts⟩ := hrunning hrun
  -- What a session owes does not count once its end is told or under way.
  rcases haccounts.due with htold | hending | ⟨hending, hdue⟩
  · have hmem : .connected false ∈ Transport.signals outputs := List.mem_of_mem_filter htold
    exact .inl ⟨_, List.mem_append_right _ (List.mem_map.mpr ⟨_, hmem, rfl⟩), rfl⟩
  · exact .inr (.inl hending)
  · rcases h.bounded hbefore with ⟨p, hp, hend⟩ | hold | hle
    · exact .inl ⟨p, List.mem_append_left _ hp, hend⟩
    · exact absurd hold hending
    · refine .inr (.inr ?_)
      have hsignals := countP_told (subject s.link.opened meant?) outputs
      simp only [owed, Coupling.settle, List.countP_append] at hle ⊢
      rw [hsignals]
      omega

/-- The station takes something. -/
theorem Releases.take (h : x.Releases r) {clock : Clock} {now : Nat} {i : Station.Input}
    {s : Station} {outputs : List Output} (htake : x.station.take? clock now i = some (s, outputs))
    {meant? : Option Nat} {rest : List (Option Nat × Order)}
    (horders : x.orders.countP (·.2.isTracked) =
      Link.handed i + rest.countP (·.2.isTracked)) :
    (Coupling.settle { x with orders := rest } meant? (s, outputs)).Releases r := by
  have htracks := h.toTracks.take htake meant? rest
  have hbefore := Station.isRunning_of_take? htake
  rcases (Station.change_of_take? h.apart htake).2 with
    ⟨-, hchange⟩ | ⟨hcrashed, -, hnone, -⟩
  · have haccounts := hchange.accounts h.sound
    exact h.settle htracks horders haccounts.sound fun _ => ⟨hbefore, haccounts⟩
  · exact h.settle htracks horders (Link.sound_of_none hnone) (by simp [hcrashed])

theorem Releases.order (h : x.Releases r) {clock : Clock} {now : Nat}
    (hy : x.next? (.order clock now) = some y) : y.Releases r := by
  obtain ⟨meant?, o, rest, s, outputs, horders, htake, rfl⟩ := order_spec hy
  refine h.take htake ?_
  rw [horders, List.countP_cons, Nat.add_comm]
  cases o with
  | send p => cases hp : p.isTracked <;>
      simp [Link.handed, Station.Input.parcel?, Order.isTracked, hp]
  | _ => rfl

theorem Releases.station (h : x.Releases r) {clock : Clock} {now : Nat} {i : Station.Input}
    (hy : x.next? (.station clock now i) = some y) : y.Releases r := by
  obtain ⟨hi, s, outputs, htake, rfl⟩ := station_spec hy
  have hnothing : Link.handed i = 0 := by
    cases i with
    | order o => exact absurd rfl (hi o)
    | _ => rfl
  refine h.take htake ?_
  rw [hnothing, Nat.zero_add]

theorem Releases.session (h : x.Releases r) {id : Nat} {m : Session.Move}
    (hy : x.next? (.session id m) = some y) : y.Releases r := by
  have htracks := h.toTracks.session hy
  obtain ⟨s, outputs, hmove, rfl⟩ := session_spec hy
  obtain ⟨hrunning, -, -, htidings, t, t', reports, hid, ht, hreports, hsession⟩ :=
    Station.session_of_move? hmove
  have haccounts := Link.accounts_of_move h.sound hid ht hreports hsession
  refine h.settle htracks (Nat.zero_add _).symm haccounts.sound ?_
  intro hrun
  rw [htidings]
  exact ⟨hrunning ▸ hrun, haccounts⟩

/-! ## Steps of the controller -/

/-- The channel takes in something, and `spared` events are settled by it. -/
theorem Releases.follow (h : x.Releases r) {c : Controller} {l : List Channel.Input}
    (hy : y.Tracks r) (hc : c.Follows l y.controller) (hstation : y.station = x.station)
    (hbounded : x.station.isRunning = true →
      x.IsToldOfEnd ∨ x.station.link.IsEnding ∨
        x.controller.channel.awaiting ≤ x.owed →
      y.IsToldOfEnd ∨ y.station.link.IsEnding ∨
        sparedBy l c.channel.awaiting ≤ c.pending.toList.countP Action.awaitsEvent +
          y.orders.countP (·.2.isTracked) + y.station.link.due +
            y.signals.countP (·.2.settles)) :
    y.Releases r := by
  refine ⟨hy, hstation ▸ h.sound, ?_⟩
  intro hrun
  rw [hstation] at hrun
  refine (hbounded hrun (h.bounded hrun)).imp id (Or.imp id ?_)
  intro hle
  have hawaiting := c.channel.awaiting_stepAll_le l
  rw [owed, hc.channel, hc.pending, List.countP_append, countP_actions]
  omega

theorem Releases.input (h : x.Releases r) {i : Controller.Input}
    (hy : x.next? (.input i) = some y) : y.Releases r := by
  have htracks := h.toTracks.input hy
  obtain ⟨-, c, hfollows, rfl⟩ := input_spec hy
  refine h.follow htracks hfollows rfl fun _ hbounded => ?_
  refine hbounded.imp id (Or.imp id fun hle => ?_)
  exact (sparedBy_le_self _ _).trans hle

theorem Releases.signal (h : x.Releases r) (hy : x.next? .signal = some y) :
    y.Releases r := by
  have htracks := h.toTracks.signal hy
  obtain ⟨p, rest, c, hsignals, hfollows, rfl⟩ := signal_spec hy
  refine h.follow htracks hfollows rfl fun _ hbounded => ?_
  have hspared : ∀ n N, n ≤ N + p.2.settles.toNat →
      sparedBy (x.controller.inputs (.signal p.2)) n ≤ N := by
    intro n N hle
    obtain ⟨id?, s⟩ := p
    have hsame := sparedBy_le_self (x.controller.inputs (.signal s)) n
    cases s with
    | sent e =>
        have hone : sparedBy [.confirm e] n = n - 1 := rfl
        simp only [Controller.inputs, Signal.settles, Bool.toNat_true] at hle ⊢
        omega
    | unsent after? =>
        cases after? with
        | none => exact hsame.trans hle
        | some e =>
            have hone : sparedBy [.unsent (some e)] n = n - 1 := rfl
            simp only [Controller.inputs, Signal.settles, Option.isSome_some,
              Bool.toNat_true] at hle ⊢
            omega
    | _ => exact hsame.trans hle
  rcases hbounded with ⟨q, hq, hend⟩ | hending | hle
  · rw [hsignals, List.mem_cons] at hq
    rcases hq with rfl | hq
    · -- The channel is told that the connection has come to its end.
      have hzero : sparedBy (x.controller.inputs (.signal q.2))
          x.controller.channel.awaiting = 0 := by
        rw [hend]
        rfl
      rw [hzero]
      exact .inr (.inr (Nat.zero_le _))
    · exact .inl ⟨q, hq, hend⟩
  · exact .inr (.inl hending)
  · refine .inr (.inr (hspared _ _ (hle.trans ?_)))
    have hcount : x.signals.countP (·.2.settles) =
        rest.countP (·.2.settles) + p.2.settles.toNat := by
      rw [hsignals, List.countP_cons]
      cases p.2.settles <;> rfl
    rw [owed, hcount]
    dsimp only
    omega

/-- An action that awaits an event becomes an order or is given up. -/
theorem sparedBy_echoes_le (c : Controller) (a : Action) {n N : Nat}
    (h : n ≤ N + a.awaitsEvent.toNat) :
    sparedBy (c.echoes a) n ≤ N + (c.orderOf? a).toList.countP Order.isTracked := by
  cases a with
  | send m after? =>
      simp only [Controller.echoes, Controller.orderOf?]
      cases m.encode c.channel.config.charset with
      | ok bytes =>
          cases after? <;> exact h
      | error fault =>
          cases after? with
          | none => exact h
          | some e => exact Nat.sub_le_of_le_add h
  | _ => exact h

theorem Releases.perform (h : x.Releases r) {now : Nat}
    (hy : x.next? (.perform now) = some y) : y.Releases r := by
  have htracks := h.toTracks.perform hy
  obtain ⟨a, rest, c, hpop, hfollows, rfl⟩ := perform_spec hy
  refine h.follow htracks hfollows rfl fun hrun hbounded => ?_
  refine hbounded.imp id (Or.imp id fun hle => ?_)
  have hcount : x.controller.pending.toList.countP Action.awaitsEvent =
      rest.toList.countP Action.awaitsEvent + a.awaitsEvent.toNat := by
    rw [Fifo.toList_of_pop? hpop, List.countP_cons]
    cases a.awaitsEvent <;> rfl
  have hspared := sparedBy_echoes_le x.controller a
    (n := x.controller.channel.awaiting)
    (N := rest.toList.countP Action.awaitsEvent + x.orders.countP (·.2.isTracked) +
      x.station.link.due + x.signals.countP (·.2.settles))
    (by rw [owed, hcount] at hle; omega)
  rw [if_pos hrun, List.countP_append, List.countP_map]
  have hsame : ((·.2.isTracked) ∘ (x.view?, ·) : Order → Bool) = Order.isTracked := rfl
  rw [hsame]
  dsimp only at hspared ⊢
  omega

/-! ## Runs -/

theorem Releases.move (h : x.Releases r) {m : Move} (hy : x.next? m = some y) :
    y.Releases r := by
  cases m with
  | elapse timers =>
      have htracks := h.toTracks.move hy
      cases hy
      exact ⟨htracks, h.sound, h.bounded⟩
  | input i => exact h.input hy
  | signal => exact h.signal hy
  | perform now => exact h.perform hy
  | order clock now => exact h.order hy
  | station clock now i => exact h.station hy
  | session id m => exact h.session hy

theorem releases_ofConfig (config : Config) : (ofConfig config).Releases config.role :=
  ⟨tracks_ofConfig config, Link.sound_of_none (station_ofConfig config).1,
    fun _ => .inr (.inr (Nat.zero_le _))⟩

theorem Reaches.releases {config : Config} {ok : Coupling → Bool}
    (h : Reaches config ok x) : x.Releases config.role := by
  induction h with
  | init => exact releases_ofConfig config
  | move _ hy _ ih => exact ih.move hy

/-- Once nothing is on its way any more, nothing is awaited. -/
theorem Releases.awaiting_eq_zero (h : x.Releases r) (hrest : x.isAtRest = true) :
    x.controller.channel.awaiting = 0 := by
  simp only [isAtRest, Bool.and_eq_true, List.isEmpty_iff] at hrest
  obtain ⟨⟨⟨hactions, horders⟩, hsignals⟩, hquiet⟩ := hrest
  cases hrunning : x.station.isRunning with
  | false => exact h.toTracks.awaiting_eq_zero hsignals (h.ended hrunning)
  | true =>
      have hnone : x.orders = [] := by simpa [hrunning] using horders
      have htold : ¬x.IsToldOfEnd := by
        rintro ⟨p, hp, -⟩
        rw [hsignals] at hp
        cases hp
      obtain ⟨hending, hdue⟩ := Link.due_of_isQuiet h.sound hquiet
      have howed : x.owed = 0 := by
        rw [owed, hactions, hnone, hsignals, hdue]
        rfl
      have hle := ((h.bounded hrunning).resolve_left htold).resolve_left hending
      omega

/-- However the controller, the station and everything around them have moved:
once nothing is on its way any more, nothing is awaited and no message is on
hold. -/
theorem Reaches.nothing_on_hold {config : Config}
    (h : Reaches config (fun _ => true) x) (hrest : x.isAtRest = true) :
    x.controller.channel.awaiting = 0 ∧ x.controller.channel.held = #[] := by
  have hzero := h.releases.awaiting_eq_zero hrest
  exact ⟨hzero, h.releases.holds.held_eq_nil hzero⟩

/-- A client holds the identification of its peer until its own has been
written, answers it, and comes to rest while it waits for an association. -/
theorem nothing_on_hold_associationPending :
    ∃ x, Reaches (.sample .client) (fun _ => true) x ∧ x.isAtRest = true ∧
      x.controller.channel.state = .associationPending ∧
      x.controller.channel.awaiting = 0 ∧ x.controller.channel.held = #[] := by
  let identification : ByteArray :=
    ⟨#[2, 0, 0, 14, 3, 66, 66, 66, 66, 45, 65, 65, 65, 65]⟩
  let receives : List Move :=
    [.order .standard 0, .session 1 (.receive identification), .session 1 .takeRequest,
      .station .standard 0 .report, .signal, .session 1 (.write 14), .station .standard 0 .report,
      .signal] ++ performs 9
  let answers : List Move :=
    [.order .standard 0, .order .standard 0, .session 1 .takeRequest, .session 1 (.write 11),
      .session 1 .takeRequest, .session 1 (.write 7), .station .standard 0 .report,
      .signal] ++ performs 2
  have hrun : ((ofConfig (.sample .client)).run? (fun _ => true)
      (greets ++ receives ++ answers)).any (fun x =>
        x.controller.channel.state = .associationPending && x.isAtRest) := by
    decide +kernel
  obtain ⟨x, hx, hlast⟩ := (Option.any_eq_true _ _).mp hrun
  obtain ⟨hstate, hrest⟩ := Bool.and_eq_true_iff.mp hlast
  have h : Reaches (.sample .client) (fun _ => true) x := (Reaches.init rfl).run? hx
  exact ⟨x, h, hrest, of_decide_eq_true hstate, h.nothing_on_hold hrest⟩

end FlightLink.Coupling
