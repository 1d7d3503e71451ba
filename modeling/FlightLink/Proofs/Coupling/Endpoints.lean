import FlightLink.Proofs.Channel.Reconfiguring
import FlightLink.Proofs.Coupling.Moves
import FlightLink.Proofs.Transport.Endpoints

/-!
# Endpoints that a station has a use for

A client can only connect and a server can only listen.  Both have an answer to an
order that demands the other, but never need it: a controller orders the endpoint of
its channel's configuration, which is one for the role that its station was made for.
-/

namespace FlightLink.Coupling

open Transport Channel

/-- The channel is configured for its role, its station plays that role, and every
endpoint that has been ordered is one for it. -/
structure Consistent (r : Role) (x : Coupling) : Prop where
  holds : x.controller.channel.HoldsInOrder
  channel : x.controller.channel.Configured r
  station : x.station.role = r
  orders : ∀ p ∈ x.orders, ∀ e, p.2 = .reconfigure e → e.role = r

namespace Consistent

variable {r : Role} {x y : Coupling}

/-- A controller whose channel has taken in something. -/
theorem follow (h : x.Consistent r) {c c' : Controller} (hc : c.channel = x.controller.channel)
    {l : List Channel.Input} (hfollows : c.Follows l c') :
    ({ x with controller := c' } : Coupling).Consistent r := by
  have hchannel : c'.channel = (x.controller.channel.stepAll l).channel := by
    rw [hfollows.channel, hc]
  refine ⟨?_, ?_, h.station, h.orders⟩
  · rw [hchannel]
    exact holdsInOrder_stepAll h.holds l
  · rw [hchannel]
    exact h.channel.stepAll h.holds l

/-- A station of the same role has made a step. -/
theorem settle (h : x.Consistent r) (meant? : Option Nat) {o : Station.Result}
    (hrole : o.1.role = x.station.role) : (x.settle meant? o).Consistent r :=
  ⟨h.holds, h.channel, hrole.trans h.station, h.orders⟩

/-- The station has a use for the endpoint that the next order demands, if it demands
one. -/
theorem suits (h : x.Consistent r) {meant? : Option Nat} {o : Order}
    {rest : List (Option Nat × Order)} (horders : x.orders = (meant?, o) :: rest) :
    ∀ e, Station.Input.order o = .order (.reconfigure e) → e.role = x.station.role := by
  intro e he
  cases he
  refine (h.orders (meant?, .reconfigure e) ?_ e rfl).trans h.station.symm
  rw [horders]
  exact List.mem_cons_self

/-- The endpoint that is ordered is that of the configuration in force. -/
theorem perform (h : x.Consistent r) {now : Nat} (hy : x.next? (.perform now) = some y) :
    y.Consistent r := by
  obtain ⟨a, rest, c, -, hfollows, rfl⟩ := perform_spec hy
  obtain ⟨hholds, hchannel, hstation, -⟩ :=
    h.follow (c := { x.controller with pending := rest }) rfl hfollows
  refine ⟨hholds, hchannel, hstation, ?_⟩
  intro p hp e he
  rcases List.mem_append.mp hp with hold | hnew
  · exact h.orders p hold e he
  · obtain ⟨o, ho, rfl⟩ := List.mem_map.mp hnew
    obtain rfl : o = .reconfigure e := he
    have hordered : x.controller.orderOf? a = some (.reconfigure e) := by
      split at ho
      · exact Option.mem_toList.mp ho
      · cases ho
    cases a with
    | send m after? =>
        simp only [Controller.orderOf?] at hordered
        split at hordered <;> cases hordered
    | reconfigure =>
        cases hordered
        exact h.channel.endpoint
    | _ => cases hordered

theorem move (h : x.Consistent r) {m : Move} (hy : x.next? m = some y) : y.Consistent r := by
  cases m with
  | elapse timers =>
      cases hy
      exact ⟨h.holds, h.channel, h.station, h.orders⟩
  | input i =>
      obtain ⟨-, c, hfollows, rfl⟩ := input_spec hy
      exact h.follow rfl hfollows
  | signal =>
      obtain ⟨p, rest, c, -, hfollows, rfl⟩ := signal_spec hy
      obtain ⟨hholds, hchannel, hstation, horders⟩ := h.follow rfl hfollows
      exact ⟨hholds, hchannel, hstation, horders⟩
  | perform now => exact h.perform hy
  | order clock now =>
      obtain ⟨meant?, o, rest, s, outputs, horders, htake, rfl⟩ := order_spec hy
      have hrest : ({ x with orders := rest } : Coupling).Consistent r := by
        refine ⟨h.holds, h.channel, h.station, fun p hp => h.orders p ?_⟩
        rw [horders]
        exact List.mem_cons_of_mem _ hp
      exact hrest.settle meant? (Station.keeps_of_take? htake (h.suits horders)).role
  | station clock now i =>
      obtain ⟨hi, s, outputs, htake, rfl⟩ := station_spec hy
      exact h.settle _ (Station.keeps_of_take? htake fun e he => absurd he (hi _)).role
  | session id m =>
      obtain ⟨s, outputs, hmove, rfl⟩ := session_spec hy
      exact h.settle _ (Station.keeps_of_move? hmove).role

end Consistent

theorem consistent_ofConfig {s : Settings} {config : Config} (h : s.check = .ok config) :
    (ofConfig config).Consistent config.role where
  holds := holdsInOrder_ofConfig config
  channel := configured_ofConfig h
  station := (Station.role_ofConfig config).trans (configured_ofConfig h).endpoint
  orders := nofun

theorem Reaches.consistent {s : Settings} {config : Config} (hcheck : s.check = .ok config)
    {ok : Coupling → Bool} {x : Coupling} (h : Reaches config ok x) :
    x.Consistent config.role := by
  induction h with
  | init => exact consistent_ofConfig hcheck
  | move _ hy _ ih => exact ih.move hy

/-- Whatever has been done to a channel with a checked configuration: settings that
break a rule or name another role have no effect but one error in the queue of
actions.  All other settings replace the configuration by the one that they describe,
and leave the state, the goal and all that is awaited or on hold as it is.  So the
configuration always has passed the check, and both it and its endpoint are for the
role that selects the transition table.  And whatever a controller and its station do,
no order to use an endpoint of the other role ever waits for the station. -/
theorem reconfigures_whole_or_not {s : Settings} {config : Config}
    (hcheck : s.check = .ok config) :
    (∀ ops : List Queued.Operation,
      let q := (Queued.Course.run config ops).queued
      (∀ settings : Settings,
        ((∀ new, settings.check = .ok new → new.role ≠ q.channel.role) →
          ∃ text, q.step (.command (.reconfigure settings)) =
            (⟨q.channel, q.actions.push (.log (.plain q.channel.config.id .error text))⟩,
              [])) ∧
        ∀ new, settings.check = .ok new → new.role = q.channel.role →
          (q.step (.command (.reconfigure settings))).1.channel =
            { q.channel with config := new }) ∧
      q.channel.role = config.role ∧ q.channel.config.role = config.role ∧
      q.channel.config.endpoint.role = config.role ∧
      ∃ settings : Settings, settings.check = .ok q.channel.config) ∧
    ∀ x, Reaches config (fun _ => true) x →
      x.controller.channel.Configured config.role ∧ x.station.role = config.role ∧
      ∀ p ∈ x.orders, ∀ e, p.2 = .reconfigure e → e.role = x.station.role := by
  constructor
  · intro ops q
    have hconfigured : q.channel.Configured config.role :=
      Queued.Course.configured_run hcheck ops
    have hroles : q.channel.role = q.channel.config.role :=
      hconfigured.role.trans hconfigured.config.symm
    refine ⟨fun settings => ⟨fun hrefused => ?_, fun new hnew hrole => ?_⟩,
      hconfigured.role, hconfigured.config, hconfigured.endpoint, hconfigured.checked⟩
    · rw [hroles] at hrefused
      obtain ⟨text, heq⟩ := reconfigure_refused hrefused
      refine ⟨text, ?_⟩
      simp only [Queued.step, Channel.step, obey, heq]
      rfl
    · rw [hroles] at hrole
      simp only [Queued.step, Channel.step, obey, reconfigure_accepted hnew hrole]
  · intro x hx
    have hconsistent := hx.consistent hcheck
    refine ⟨hconsistent.channel, hconsistent.station, ?_⟩
    rw [hconsistent.station]
    exact hconsistent.orders

/-- A client that is disabled, and whose settings then name the other role. -/
theorem reconfigures_whole_or_not_sample :
    (Settings.sample .client).check = .ok (.sample .client) ∧
    (let q := (Queued.Course.run (.sample .client) [.input (.command .disable)]).queued
      ∃ text, q.step (.command (.reconfigure (.sample .server))) =
        (⟨q.channel, q.actions.push (.log (.plain q.channel.config.id .error text))⟩, [])) := by
  have hcheck := Settings.check_sample .client
  refine ⟨hcheck, ?_⟩
  obtain ⟨hsteps, -⟩ :=
    (reconfigures_whole_or_not hcheck).1 [.input (.command .disable)]
  refine (hsteps (.sample .server)).1 fun new hnew => ?_
  obtain rfl : Config.sample .server = new :=
    Except.ok.inj ((Settings.check_sample .server).symm.trans hnew)
  decide

end FlightLink.Coupling
