import FlightLink.Proofs.Channel.Retrying
import FlightLink.Proofs.Controller.Silence
import FlightLink.Proofs.Coupling.Moves

/-!
# No client is lost in idle

A client and its controller are followed through everything that can happen to
them, with timers that expire when they should and not otherwise.  Whenever the
controller has carried out its actions and finds itself in `State.idle`, a
connection will be looked for: the reconnect timer is armed, the order is on its
way, the client is at it, or it has told of the outcome.

The order and its answer are handed on from one queue to the next: from the pending
actions to the orders, from there to the client, and from the client to the signals.
When the controller takes the answer, the channel either leaves `State.idle` or
starts its timer.
-/

namespace FlightLink

open Transport Channel Effect

/-- Whether a station looks for a connection. -/
def Transport.Station.isSeeking : Station → Bool
  | client c => c.isSeeking
  | server _ => false

namespace Transport.Client

/-- A step of a client: it is not stopped, and it goes on looking for a connection or
tells of the outcome. -/
structure Goes (c : Client) (r : Result) : Prop where
  phase : r.1.phase ≠ .stopped
  seeking : c.isSeeking = true →
    r.1.isSeeking = true ∨ ∃ up, .connected up ∈ Transport.signals r.2

variable {c : Client}

theorem mem_signals {outputs : List Output} {s : Signal} (h : .signal s ∈ outputs) :
    s ∈ Transport.signals outputs :=
  List.mem_filterMap.2 ⟨.signal s, h, rfl⟩

theorem goes_giveUp (c : Client) (text : String) : c.Goes (c.giveUp text) where
  phase := nofun
  seeking _ :=
    .inr ⟨false, mem_signals (List.mem_append_right _ (List.mem_singleton_self _))⟩

theorem goes_attempt (c : Client) (text : String) (targets : List SocketAddress) :
    c.Goes (c.attempt text targets) := by
  cases targets with
  | nil => exact c.goes_giveUp text
  | cons target rest => exact ⟨nofun, fun _ => .inl rfl⟩

theorem goes_takeAnswer (c : Client) (now : Nat) (target : SocketAddress)
    (rest : List SocketAddress) (answer : Network.Dialled) :
    c.Goes (c.takeAnswer now target rest answer) := by
  cases answer with
  | connected s =>
      refine ⟨nofun, fun _ => .inr ⟨true, mem_signals ?_⟩⟩
      show _ ∈ (c.link.establish target s none).2
      simp [Link.establish]
  | failed p => exact c.goes_attempt _ rest
  | silence => exact ⟨by simp [takeAnswer], fun _ => .inl rfl⟩

theorem phase_obey (c : Client) (o : Order) :
    (c.obey o).1.phase = if o = .reconnect then .resolving else c.phase := by
  cases o with
  | reconfigure endpoint => cases endpoint <;> rfl
  | _ => rfl

/-- A client with a connection looks for none. -/
theorem goes_of_serving (hserving : c.phase = .serving) {r : Result}
    (hphase : r.1.phase ≠ .stopped) : c.Goes r where
  phase := hphase
  seeking := by
    rw [isSeeking, hserving]
    exact nofun

/-- Unless its orders have come to their end, a client goes on; an order to connect
makes it look for a connection. -/
theorem goes_of_take? {now : Nat} {i : Input} {r : Result}
    (h : c.take? now i = some r) (hi : i ≠ .ordersClosed) :
    c.Goes r ∧ (i = .order .reconnect → r.1.isSeeking = true) := by
  cases i with
  | report =>
      simp only [take?] at h
      split at h
      · next hserving =>
          obtain ⟨l, -, rfl⟩ := Option.map_eq_some_iff.mp h
          refine ⟨goes_of_serving hserving ?_, by simp⟩
          show c.phase ≠ _
          simp [hserving]
      · cases h
  | order o =>
      simp only [take?] at h
      split at h
      · next hserving =>
          cases h
          refine ⟨goes_of_serving hserving ?_, ?_⟩
          · rw [phase_obey, hserving]
            split <;> simp
          · rintro ⟨⟩
            rfl
      · cases h
  | ordersClosed => exact absurd rfl hi
  | resolved answer =>
      simp only [take?] at h
      split at h
      · cases h
        refine ⟨?_, by simp⟩
        cases answer with
        | error p => exact c.goes_giveUp _
        | ok ips => exact c.goes_attempt _ _
      · cases h
  | dialled answer =>
      simp only [take?] at h
      split at h
      · next target rest _ =>
          cases h
          exact ⟨c.goes_takeAnswer now target rest answer, by simp⟩
      · cases h
  | timedOut =>
      simp only [take?] at h
      split at h
      · split at h
        · cases h
          exact ⟨c.goes_attempt _ _, by simp⟩
        · cases h
      · cases h

end Transport.Client

namespace Transport.Station

/-- The station is a client at work. -/
def IsClient (s : Station) : Prop :=
  ∃ c, s = .client c ∧ c.phase ≠ .stopped

theorem IsClient.isRunning {s : Station} (h : s.IsClient) : s.isRunning = true := by
  obtain ⟨c, rfl, hphase⟩ := h
  simpa [Station.isRunning] using hphase

theorem IsClient.take? {s s' : Station} {clock : Clock} {now : Nat} {i : Input}
    {outputs : List Output} (h : s.IsClient)
    (htake : s.take? clock now i = some (s', outputs)) :
    s'.IsClient ∧
      (s.isSeeking = true →
        s'.isSeeking = true ∨ ∃ up, .connected up ∈ Transport.signals outputs) ∧
      (i = .order .reconnect → s'.isSeeking = true) := by
  obtain ⟨c, rfl, -⟩ := h
  obtain ⟨r, hr, heq⟩ := Option.map_eq_some_iff.mp htake
  cases heq
  obtain ⟨j, hj, hr⟩ := Option.bind_eq_some_iff.mp hr
  have hopen : j ≠ .ordersClosed := by
    rintro rfl
    cases i <;> cases hj
  obtain ⟨hgoes, hreconnect⟩ := Client.goes_of_take? hr hopen
  refine ⟨⟨r.1, rfl, hgoes.phase⟩, hgoes.seeking, ?_⟩
  rintro rfl
  exact hreconnect (Option.some.inj hj).symm

/-- What a session does by itself is no concern of the client. -/
theorem IsClient.move? {s s' : Station} {id : Nat} {m : Session.Move}
    {outputs : List Output} (h : s.IsClient)
    (hmove : s.move? id m = some (s', outputs)) :
    s'.IsClient ∧ s'.isSeeking = s.isSeeking := by
  obtain ⟨c, rfl, hphase⟩ := h
  obtain ⟨r, -, heq⟩ := Option.map_eq_some_iff.mp hmove
  cases heq
  exact ⟨⟨_, rfl, hphase⟩, rfl⟩

end Transport.Station

namespace Controller

variable {c c' : Controller} {l : List Channel.Input} {sought : Prop}

/-- What the channel takes in, and what becomes of the timers, decides whether a
controller is forgotten in idle. -/
theorem Follows.retries (hfollows : c.Follows l c')
    (harmed : c'.armed = arming c.armed (timings (c.channel.stepAll l).effects))
    (h : (c.channel.stepAll l).Retries (.reconnect ∈ c.pending.toList ∨ sought) c.armed) :
    c'.channel.Retries (.reconnect ∈ c'.pending.toList ∨ sought) c'.armed := by
  rw [hfollows.channel, hfollows.pending, harmed]
  refine h.mono ?_
  rw [List.mem_append]
  tauto

theorem retries_take {i : Input}
    (h : (c.channel.stepAll (c.inputs i)).Retries
      (.reconnect ∈ c.pending.toList ∨ sought) c.armed) :
    (c.take i).1.channel.Retries
      (.reconnect ∈ (c.take i).1.pending.toList ∨ sought) (c.take i).1.armed :=
  (c.follows_take i).1.retries (armed_take c i) h

/-- Nothing but an expiry is taken for one. -/
theorem ne_timerExpired_of_mem_inputs {i : Input} (hi : ∀ kind, i ≠ .expired kind) :
    ∀ j ∈ c.inputs i, ∀ kind, j ≠ .timerExpired kind := by
  intro j hj kind hkind
  subst hkind
  cases i with
  | signal s =>
      cases s with
      | received bytes =>
          obtain ⟨cut, -, hj⟩ := List.mem_flatMap.mp hj
          cases cut with
          | incomplete => cases hj
          | _ => cases List.mem_singleton.mp hj
      | _ => cases List.mem_singleton.mp hj
  | expired kind => exact hi kind rfl
  | start | command y => cases List.mem_singleton.mp hj
  | signalsClosed | commandsClosed | tick => cases hj

theorem ne_timerExpired_of_mem_echoes {a : Action} :
    ∀ j ∈ c.echoes a, ∀ kind, j ≠ .timerExpired kind := by
  intro j hj kind hkind
  subst hkind
  unfold echoes at hj
  split at hj
  · split at hj
    · cases hj
    · rcases List.mem_pair.mp hj with hj | hj <;> cases hj
  · cases hj

/-- Carrying out an action brings about what was pending for the timers. -/
theorem armed_perform {a : Action} {rest : Fifo Action} (now : Nat)
    (hpop : c.pending.pop? = some (a, rest)) :
    ({ c with pending := rest }.perform now a).1.armed =
      arming c.armed (timings (c.channel.stepAll (c.echoes a)).effects) := by
  let d : Controller := { c with pending := rest }
  have hfollows := (d.follows_perform now a).1
  have hsingle : [a].filterMap Action.timing? = a.timing?.toList := by
    rw [List.filterMap_cons]
    cases a.timing? <;> rfl
  calc (d.perform now a).1.armed
      = arming (arming c.timers.isArmed a.timing?.toList)
          ((d.perform now a).1.pending.toList.filterMap Action.timing?) := by
        rw [armed, timers_perform, TimerBank.isArmed_carryOut]
    _ = arming (arming c.timers.isArmed
          ((a :: rest.toList).filterMap Action.timing?))
          (timings (c.channel.stepAll (c.echoes a)).effects) := by
        rw [hfollows.pending, List.filterMap_append, arming_append,
          ← List.singleton_append, List.filterMap_append, arming_append, hsingle]
        rfl
    _ = _ := by rw [armed, Fifo.toList_of_pop? hpop]

/-- The order to connect is handed on when the action is carried out. -/
theorem retries_performNext? {now : Nat} {r : Result}
    (h : c.channel.Retries (.reconnect ∈ c.pending.toList ∨ sought) c.armed)
    (hgone : c.transportGone = false) (hr : c.performNext? now = some r) :
    r.1.channel.Retries
      (.reconnect ∈ r.1.pending.toList ∨ .reconnect ∈ orders r.2 ∨ sought)
      r.1.armed := by
  obtain ⟨a, rest, hpop, rfl⟩ := exists_perform_of_performNext? hr
  obtain ⟨hfollows, -, -, horders⟩ :=
    follows_perform { c with pending := rest } now a
  have hgiven : orders ({ c with pending := rest }.perform now a).2 =
      (c.orderOf? a).toList := by
    rw [horders, hgone]
    rfl
  have hafter := h.stepAll (l := c.echoes a) ne_timerExpired_of_mem_echoes
  rw [hfollows.channel, hfollows.pending, armed_perform now hpop, hgiven]
  refine hafter.mono ?_
  rw [Fifo.toList_of_pop? hpop, List.mem_append]
  rintro ((hmem | hsought) | hnew)
  · rcases List.mem_cons.mp hmem with rfl | hrest
    · exact .inr (.inl (List.mem_singleton_self _))
    · exact .inl (.inl hrest)
  · exact .inr (.inr hsought)
  · exact .inl (.inr hnew)

end Controller

namespace Coupling

/-- Moves that have nothing to do with timers. -/
def Move.isTimeless : Move → Bool
  | elapse _ | input (.expired _) => false
  | _ => true

/-- The controller goes through the expiries that are queued, up to the first that
counts. -/
def expire (x : Coupling) : Coupling :=
  let c := x.informed.nextExpiry.2.1
  match x.informed.nextExpiry.1 with
  | none => { x with controller := c }
  | some kind => { x with controller := (c.take (.expired kind)).1 }

/-- What a new controller with its station can become once it has been started.  The
timers expire as time passes, and their expiries are taken when the controller is
ready. -/
inductive Runs (config : Config) : Coupling → Prop where
  | start :
      Runs config { ofConfig config with
        controller := ((ofConfig config).informed.take .start).1 }
  | move {x y : Coupling} (h : Runs config x) {m : Move} (hm : m.isTimeless = true)
      (hy : x.next? m = some y) : Runs config y
  | elapse {x : Coupling} (h : Runs config x) (clock : Clock) (now : Nat) :
      Runs config { x with
        controller := { x.controller with timers := x.controller.timers.elapse clock now } }
  | expire {x : Coupling} (h : Runs config x) (hready : x.isReady = true) :
      Runs config x.expire

/-- Something besides the timer sees to it that a connection is looked for, or the
outcome has been told. -/
def Sought (x : Coupling) : Prop :=
  (∃ p ∈ x.orders, p.2 = .reconnect) ∨ x.station.isSeeking = true ∨
    ∃ p ∈ x.signals, ∃ up, p.2 = .connected up

/-- A client at work whose controller is not forgotten in idle. -/
structure Attended (x : Coupling) : Prop where
  station : x.station.IsClient
  channel : x.controller.channel.Retries
    (.reconnect ∈ x.controller.pending.toList ∨ x.Sought) x.controller.armed

namespace Attended

variable {x y : Coupling}

theorem start {config : Config} (hrole : config.role = .client) {address : String}
    {port : Port} (hendpoint : config.endpoint = .connect address port) :
    Attended { ofConfig config with
      controller := ((ofConfig config).informed.take .start).1 } := by
  refine ⟨⟨.ofRemote address port, ?_, nofun⟩, ?_⟩
  · show Station.ofConfig config = _
    rw [Station.ofConfig, hendpoint]
  · have hstart : ((ofConfig config).informed.channel.stepAll [.start]).Retries
        (.reconnect ∈ (ofConfig config).informed.pending.toList ∨ (ofConfig config).Sought)
        (ofConfig config).informed.armed :=
      (Retries.start hrole hrole).andThen fun _ _ h => h.stepAll nofun
    exact Controller.retries_take hstart

theorem input (h : x.Attended) {i : Controller.Input} (hi : ∀ kind, i ≠ .expired kind)
    (hy : x.next? (.input i) = some y) : y.Attended := by
  simp only [next?] at hy
  split at hy
  · cases hy
    have hsteps := h.channel.stepAll
      (Controller.ne_timerExpired_of_mem_inputs (c := x.informed) hi)
    exact ⟨h.station, Controller.retries_take hsteps⟩
  · cases hy

/-- A signal that tells of no connection leaves the others in the queue. -/
theorem signal (h : x.Attended) (hy : x.next? .signal = some y) : y.Attended := by
  simp only [next?] at hy
  split at hy
  · cases hy
  · next p rest hsignals =>
      split at hy
      · cases hy
        refine ⟨h.station, ?_⟩
        let c := x.informed
        have hsteps : (c.channel.stepAll (c.inputs (.signal p.2))).Retries
            (.reconnect ∈ c.pending.toList ∨ Sought { x with signals := rest })
            c.armed := by
          by_cases hp : ∃ up, p.2 = .connected up
          · obtain ⟨up, hup⟩ := hp
            rw [hup]
            exact Outcome.Retries.andThen
              (Retries.connectionChanged h.channel.role h.channel.config up)
              fun _ _ h => h.stepAll (by simp)
          · have hrest : x.Sought → Sought { x with signals := rest } := by
              rintro (horder | hseeking | ⟨q, hq, hup⟩)
              · exact .inl horder
              · exact .inr (.inl hseeking)
              · rw [hsignals] at hq
                rcases List.mem_cons.mp hq with rfl | hq
                · exact absurd hup hp
                · exact .inr (.inr ⟨q, hq, hup⟩)
            have hbefore := h.channel.mono (Or.imp_right hrest)
            exact hbefore.stepAll
              (Controller.ne_timerExpired_of_mem_inputs (c := c) (by simp))
        exact Controller.retries_take hsteps
      · cases hy

theorem perform (h : x.Attended) {now : Nat} (hy : x.next? (.perform now) = some y) :
    y.Attended := by
  simp only [next?] at hy
  obtain ⟨⟨c, outputs⟩, hnext, rfl⟩ := Option.map_eq_some_iff.mp hy
  have hgone : x.informed.transportGone = false := by
    rw [informed, h.station.isRunning]
    rfl
  have hbefore : x.informed.channel.Retries
      (.reconnect ∈ x.informed.pending.toList ∨ x.Sought) x.informed.armed := h.channel
  have hafter := Controller.retries_performNext? hbefore hgone hnext
  refine ⟨h.station, hafter.mono ?_⟩
  rintro (hpending | horder | hsought)
  · exact .inl hpending
  · refine .inr (.inl ⟨(x.view?, .reconnect), ?_, rfl⟩)
    exact List.mem_append_right _ (List.mem_map.mpr ⟨_, horder, rfl⟩)
  · refine .inr ?_
    rcases hsought with ⟨p, hp, hreconnect⟩ | hothers
    · exact .inl ⟨p, List.mem_append_left _ hp, hreconnect⟩
    · exact .inr hothers

/-- A step of the client, which may have answered the order to connect. -/
theorem settle (h : x.Attended) {meant? : Option Nat} {s : Station}
    {outputs : List Transport.Output} (hstation : s.IsClient)
    (hsought : x.Sought → (∃ p ∈ y.orders, p.2 = .reconnect) ∨ s.isSeeking = true ∨
      (∃ p ∈ x.signals, ∃ up, p.2 = .connected up) ∨
      ∃ up, .connected up ∈ Transport.signals outputs)
    (hcontroller : y.controller = x.controller) (hsignals : y.signals = x.signals) :
    (y.settle meant? (s, outputs)).Attended := by
  refine ⟨hstation, ?_⟩
  show y.controller.channel.Retries _ y.controller.armed
  rw [hcontroller]
  refine h.channel.mono (Or.imp ?_ ?_)
  · intro hpending
    show _ ∈ y.controller.pending.toList
    rw [hcontroller]
    exact hpending
  · intro hbefore
    rcases hsought hbefore with horder | hseeking | ⟨p, hp, hup⟩ | ⟨up, hup⟩
    · exact .inl horder
    · exact .inr (.inl hseeking)
    · refine .inr (.inr ⟨p, List.mem_append_left _ ?_, hup⟩)
      rw [hsignals]
      exact hp
    · have htold := List.mem_map_of_mem (f := fun s' =>
        (subject s.link.opened meant? s', s')) hup
      exact .inr (.inr ⟨_, List.mem_append_right _ htold, up, rfl⟩)

theorem order (h : x.Attended) {clock : Clock} {now : Nat}
    (hy : x.next? (.order clock now) = some y) : y.Attended := by
  obtain ⟨meant?, o, rest, s, outputs, horders, htake, rfl⟩ := order_spec hy
  obtain ⟨hstation, hseeking, hreconnect⟩ := h.station.take? htake
  refine h.settle (y := { x with orders := rest }) hstation ?_ rfl rfl
  rintro (⟨p, hp, hp'⟩ | hbefore | hsignal)
  · rw [horders] at hp
    rcases List.mem_cons.mp hp with rfl | hp
    · exact .inr (.inl (hreconnect (congrArg _ hp')))
    · exact .inl ⟨p, hp, hp'⟩
  · rcases hseeking hbefore with hafter | hup
    · exact .inr (.inl hafter)
    · exact .inr (.inr (.inr hup))
  · exact .inr (.inr (.inl hsignal))

theorem stationMove (h : x.Attended) {clock : Clock} {now : Nat} {i : Station.Input}
    (hy : x.next? (.station clock now i) = some y) : y.Attended := by
  obtain ⟨-, s, outputs, htake, rfl⟩ := station_spec hy
  obtain ⟨hstation, hseeking, -⟩ := h.station.take? htake
  refine h.settle hstation ?_ rfl rfl
  rintro (horder | hbefore | hsignal)
  · exact .inl horder
  · rcases hseeking hbefore with hafter | hup
    · exact .inr (.inl hafter)
    · exact .inr (.inr (.inr hup))
  · exact .inr (.inr (.inl hsignal))

theorem session (h : x.Attended) {id : Nat} {m : Session.Move}
    (hy : x.next? (.session id m) = some y) : y.Attended := by
  obtain ⟨s, outputs, hmove, rfl⟩ := session_spec hy
  obtain ⟨hstation, hseeking⟩ := h.station.move? hmove
  refine h.settle hstation ?_ rfl rfl
  rintro (horder | hbefore | hsignal)
  · exact .inl horder
  · exact .inr (.inl (hseeking.trans hbefore))
  · exact .inr (.inr (.inl hsignal))

theorem move (h : x.Attended) {m : Move} (hm : m.isTimeless = true)
    (hy : x.next? m = some y) : y.Attended := by
  cases m with
  | elapse timers => cases hm
  | input i =>
      refine h.input ?_ hy
      rintro kind rfl
      cases hm
  | signal => exact h.signal hy
  | perform now => exact h.perform hy
  | order clock now => exact h.order hy
  | station clock now i => exact h.stationMove hy
  | session id m => exact h.session hy

theorem elapse (h : x.Attended) (clock : Clock) (now : Nat) :
    Attended { x with
      controller := { x.controller with timers := x.controller.timers.elapse clock now } } := by
  refine ⟨h.station, ?_⟩
  have harmed := h.channel
  rw [Controller.armed, ← TimerBank.isArmed_elapse _ clock now] at harmed
  exact harmed

/-- An expiry that counts belongs to an armed timer. -/
theorem expire (h : x.Attended) (hready : x.isReady = true) : x.expire.Attended := by
  have hpending : x.controller.pending.toList = [] :=
    Fifo.isEmpty_iff.mp (Bool.and_eq_true_iff.mp hready).2
  let c : Controller := x.informed.nextExpiry.2.1
  have hc : c.armed = c.timers.isArmed ∧
      x.controller.armed = x.controller.timers.isArmed := by
    have hnone : c.pending.toList = [] := hpending
    rw [Controller.armed, Controller.armed, hnone, hpending, List.filterMap_nil,
      arming_nil, arming_nil]
    exact ⟨rfl, rfl⟩
  have hexpired := x.controller.timers.isArmed_expiredFrom x.controller.timers.queue
  unfold Coupling.expire
  cases hkind : x.informed.nextExpiry.1 with
  | none =>
      have hsame : c.armed = x.controller.armed := by
        rw [hc.1, hc.2]
        exact Controller.isArmed_expired_of_none hkind
      refine ⟨h.station, ?_⟩
      show x.controller.channel.Retries _ c.armed
      rw [hsame]
      exact h.channel
  | some kind =>
      refine ⟨h.station, ?_⟩
      have hdisarmed : c.armed = Function.update x.controller.armed kind false := by
        have hkind' : (x.controller.timers.expiredFrom x.controller.timers.queue).kind? =
          some kind := hkind
        rw [hkind'] at hexpired
        rw [hc.1, hc.2]
        exact hexpired.2
      have hsteps : (c.channel.stepAll (c.inputs (.expired kind))).Retries
          (.reconnect ∈ c.pending.toList ∨ x.Sought) c.armed := by
        rw [hdisarmed]
        exact (h.channel.timerExpired kind).andThen fun _ _ h => h.stepAll (by simp)
      exact Controller.retries_take hsteps

end Attended

theorem Runs.attended {config : Config} (hrole : config.role = .client)
    {address : String} {port : Port} (hendpoint : config.endpoint = .connect address port)
    {x : Coupling} (h : Runs config x) : x.Attended := by
  induction h with
  | start => exact .start hrole hendpoint
  | move h hm hy ih => exact ih.move hm hy
  | elapse h clock now ih => exact ih.elapse clock now
  | expire h hready ih => exact ih.expire hready

/-- Whenever a client has carried out its actions and is in idle, its reconnect timer
is armed, the order to connect is queued or being served, or the outcome is waiting
to be taken. -/
theorem Runs.client_keeps_trying {config : Config} (hrole : config.role = .client)
    {address : String} {port : Port} (hendpoint : config.endpoint = .connect address port)
    {x : Coupling} (h : Runs config x) (hidle : x.controller.channel.state = .idle)
    (hdone : x.controller.pending.toList = []) :
    x.controller.timers.isArmed .reconnect = true ∨
      (∃ p ∈ x.orders, p.2 = .reconnect) ∨ x.station.isSeeking = true ∨
      ∃ p ∈ x.signals, ∃ up, p.2 = .connected up := by
  have hpromise := (h.attended hrole hendpoint).channel.idle hidle
  rw [Controller.armed, hdone, List.filterMap_nil, arming_nil] at hpromise
  rcases hpromise with harmed | hpending | hsought
  · exact .inl harmed
  · cases hpending
  · exact .inr hsought

theorem Runs.run? {config : Config} {x y : Coupling} (h : Runs config x)
    {moves : List Move} (hmoves : ∀ m ∈ moves, m.isTimeless = true)
    (hy : x.run? (fun _ => true) moves = some y) : Runs config y := by
  induction moves generalizing x with
  | nil => cases hy; exact h
  | cons m rest ih =>
      rw [List.forall_mem_cons] at hmoves
      rw [Coupling.run?] at hy
      split at hy
      · cases hy
      · next z hz => exact ih (h.move hmoves.1 hz) hmoves.2 hy

/-- A client that is put out of service and back while it looks for a connection is
in idle without a timer. -/
theorem client_keeps_trying_enabled :
    let started := { ofConfig (.sample .client) with
      controller := ((ofConfig (.sample .client)).informed.take .start).1 }
    let moves := performs 2 ++ [.order .standard 0, .input (.command .disable)] ++ performs 6 ++
      [.input (.command .enable)] ++ performs 2
    ∃ x, started.run? (fun _ => true) moves = some x ∧
      x.controller.timers.isArmed .reconnect = false ∧
      (x.controller.timers.isArmed .reconnect = true ∨
        (∃ p ∈ x.orders, p.2 = .reconnect) ∨ x.station.isSeeking = true ∨
        ∃ p ∈ x.signals, ∃ up, p.2 = .connected up) := by
  intro started moves
  have hsome : (started.run? (fun _ => true) moves).isSome = true := by
    decide +kernel
  obtain ⟨x, hx⟩ := Option.isSome_iff_exists.mp hsome
  have hfacts : ((started.run? (fun _ => true) moves).all fun x =>
      x.controller.channel.state = .idle && x.controller.pending.toList.isEmpty &&
        !x.controller.timers.isArmed .reconnect) = true := by
    decide +kernel
  rw [hx] at hfacts
  simp only [Option.all_some, Bool.and_eq_true, decide_eq_true_eq, List.isEmpty_iff,
    Bool.not_eq_true'] at hfacts
  obtain ⟨⟨hidle, hdone⟩, harmed⟩ := hfacts
  have hruns : Runs (.sample .client) x := Runs.start.run? (by decide) hx
  exact ⟨x, hx, harmed, hruns.client_keeps_trying rfl rfl hidle hdone⟩

end Coupling

end FlightLink
