import FlightLink.Proofs.Coupling.Endpoints
import FlightLink.Proofs.Coupling.Retrying
import FlightLink.Proofs.Timer.Arms
import FlightLink.Proofs.Upkeep.Receipts

/-!
# Reconfigured or made anew

The settings of a channel are copied when its controller and its station are made:
into the channel, into the timers and into the station.  New settings take another way:
into the channel with the command, into the timers with the action that follows, and
into the station with the order that comes of it.

In the end both ways come to the same, with one exception.  The order brings the
endpoint only, so a server goes on waiting between its attempts to bind for as long as
the first settings said.
-/

namespace FlightLink

open Transport Channel Effect

/-! ## Timers and orders -/

namespace TimerBank

theorem interval_set (b : TimerBank) (kind kind' : TimerKind) {t : Timer}
    (ht : t.interval = (b.get kind).interval) :
    ((b.set kind t).get kind').interval = (b.get kind').interval := by
  rw [get_set]
  split
  · next h => rw [ht, h]
  · rfl

/-- Only new settings change the intervals. -/
theorem interval_carryOut (config : Config) (now : Nat) (b : TimerBank) (a : Action)
    (kind : TimerKind) :
    ((b.carryOut config now a).get kind).interval =
      if a = .reconfigure then interval config kind else (b.get kind).interval := by
  cases a with
  | restartTimer k => exact b.interval_set k kind (Timer.start_interval _ _)
  | stopTimer k => exact b.interval_set k kind (Timer.stop_interval _)
  | reconfigure =>
      rw [carryOut, get_reconfigure]
      rfl
  | _ => rfl

theorem interval_expired (b : TimerBank) (kind : TimerKind) :
    (b.expired.bank.get kind).interval = (b.get kind).interval := by
  obtain ⟨-, x, rest, -, -, -, -, hbank⟩ | ⟨-, -, hbank⟩ := b.expiredFrom_cases b.queue
  · rw [expired, hbank]
    exact b.interval_set x.kind kind rfl
  · rw [expired, hbank]
    cases kind <;> rfl

theorem interval_ofConfig (config : Config) (kind : TimerKind) :
    ((ofConfig config).get kind).interval = interval config kind := by
  cases kind <;> rfl

end TimerBank

namespace Controller

variable {c : Controller}

/-- New settings that have been accepted are going to be carried out. -/
theorem config_take (hholds : c.channel.HoldsInOrder) (i : Input) :
    (c.take i).1.channel.config = c.channel.config ∨
      .reconfigure ∈ (c.take i).1.pending.toList := by
  have hfollows := (c.follows_take i).1
  by_cases hi : ∃ s, i = .command (.reconfigure s)
  · obtain ⟨s, rfl⟩ := hi
    rw [hfollows.pending, hfollows.channel, inputs, stepAll_singleton]
    by_cases hrefused : ∀ new, s.check = .ok new → new.role ≠ c.channel.config.role
    · obtain ⟨text, heq⟩ := reconfigure_refused hrefused
      left
      rw [Channel.step, obey, heq]
    · push Not at hrefused
      obtain ⟨new, hnew, hrole⟩ := hrefused
      right
      rw [Channel.step, obey, reconfigure_accepted hnew hrole, ← List.singleton_append,
        actions_append]
      exact List.mem_append_right _ (List.mem_append_right _ (List.mem_singleton_self _))
  · push Not at hi
    left
    rw [hfollows.channel]
    exact config_stepAll hholds (Recorded.ne_reconfigure_of_mem_inputs hi)

/-- Carrying out an action leaves the configuration alone. -/
theorem config_perform (hholds : c.channel.HoldsInOrder) (now : Nat) (a : Action) :
    (c.perform now a).1.channel.config = c.channel.config := by
  rw [(c.follows_perform now a).1.channel]
  refine config_stepAll hholds ?_
  rintro i hi settings rfl
  exact (c.permits_echoes a _ hi).2 (fun _ => True) (fun _ => False) c.channel

/-- The order that an action amounts to redirects the station if it is to carry out
new settings. -/
theorem redirect_orderOf? (c : Controller) (a : Action) (e : Endpoint) :
    (c.orderOf? a).toList.foldl Order.redirect e =
      if a = .reconfigure then c.channel.config.endpoint else e := by
  cases a with
  | send m after? =>
      simp only [orderOf?]
      split <;> rfl
  | _ => rfl

end Controller

/-! ## Parameters -/

/-- What governs the later behaviour of a controller with its station. -/
structure Parameters where
  config : Config
  /-- The intervals that the timers will be started with. -/
  interval : TimerKind → Nat
  endpoint : Endpoint
  /-- The delay between a failed attempt to bind and the next one. -/
  retryDelay? : Option Nat

namespace Coupling

/-- The parameters in force. -/
def parameters (x : Coupling) : Parameters where
  config := x.controller.channel.config
  interval kind := (x.controller.timers.get kind).interval
  endpoint := x.station.endpoint
  retryDelay? := x.station.retryDelay?

theorem parameters_ofConfig (config : Config) :
    (ofConfig config).parameters =
      ⟨config, TimerBank.interval config, config.endpoint,
        (Station.ofConfig config).retryDelay?⟩ := by
  have hinterval : (fun kind => ((TimerBank.ofConfig config).get kind).interval) =
      TimerBank.interval config := funext (TimerBank.interval_ofConfig config)
  rw [← hinterval, ← Station.endpoint_ofConfig]
  rfl

/-- The endpoint that the station will use once it has taken all orders. -/
def endpointAhead (x : Coupling) : Endpoint :=
  (x.orders.map Prod.snd).foldl Order.redirect x.station.endpoint

/-- If no order demands another endpoint, the station uses it already. -/
theorem endpointAhead_of_forall {x : Coupling}
    (h : ∀ p ∈ x.orders, ∀ e, p.2 ≠ .reconfigure e) :
    x.endpointAhead = x.station.endpoint := by
  have hfoldl : ∀ (l : List Order) (e : Endpoint), (∀ o ∈ l, ∀ e', o ≠ .reconfigure e') →
      l.foldl Order.redirect e = e := by
    intro l e hl
    induction l with
    | nil => rfl
    | cons o rest ih =>
        rw [List.forall_mem_cons] at hl
        have ho : Order.redirect e o = e := by
          cases o with
          | reconfigure e' => exact absurd rfl (hl.1 e')
          | _ => rfl
        rw [List.foldl_cons, ho, ih hl.2]
  refine hfoldl _ _ fun o ho => ?_
  obtain ⟨p, hp, rfl⟩ := List.mem_map.mp ho
  exact h p hp

/-- Timers and station follow the configuration of the channel, unless new settings
have yet to be carried out.  The delay of a server is the one that it was made with. -/
structure Adjusted (config : Config) (x : Coupling) : Prop
    extends Consistent config.role x where
  retry : x.station.retryDelay? = (Station.ofConfig config).retryDelay?
  interval : .reconfigure ∉ x.controller.pending.toList → ∀ kind,
    (x.controller.timers.get kind).interval =
      TimerBank.interval x.controller.channel.config kind
  endpoint : x.station.isRunning = true → .reconfigure ∉ x.controller.pending.toList →
    x.endpointAhead = x.controller.channel.config.endpoint

namespace Adjusted

variable {config : Config} {x y : Coupling}

theorem ofConfig {s : Settings} (hcheck : s.check = .ok config) :
    (ofConfig config).Adjusted config where
  toConsistent := consistent_ofConfig hcheck
  retry := rfl
  interval _ := TimerBank.interval_ofConfig config
  endpoint _ _ := Station.endpoint_ofConfig config

/-- The controller goes on, perhaps with new settings to be carried out. -/
theorem follow (h : x.Adjusted config) {c : Controller}
    (hconsistent : ({ x with controller := c } : Coupling).Consistent config.role)
    (hinterval : ∀ kind,
      (c.timers.get kind).interval = (x.controller.timers.get kind).interval)
    (hpending : x.controller.pending.toList ⊆ c.pending.toList)
    (hconfig : c.channel.config = x.controller.channel.config ∨
      .reconfigure ∈ c.pending.toList) :
    ({ x with controller := c } : Coupling).Adjusted config := by
  refine ⟨hconsistent, h.retry, fun hnone kind => ?_, fun hrunning hnone => ?_⟩
  · rw [hconfig.resolve_right hnone, hinterval]
    exact h.interval (fun hmem => hnone (hpending hmem)) kind
  · exact (h.endpoint hrunning fun hmem => hnone (hpending hmem)).trans
      (congrArg Config.endpoint (hconfig.resolve_right hnone)).symm

/-- The controller, perhaps with other timers, takes an input. -/
theorem take (h : x.Adjusted config) {c : Controller}
    (hchannel : c.channel = x.controller.channel)
    (hpending : c.pending = x.controller.pending)
    (hinterval : ∀ kind,
      (c.timers.get kind).interval = (x.controller.timers.get kind).interval)
    (i : Controller.Input) :
    ({ x with controller := (c.take i).1 } : Coupling).Adjusted config := by
  have hfollows := (c.follows_take i).1
  refine h.follow (h.toConsistent.follow hchannel hfollows) ?_ ?_ ?_
  · rwa [c.take_timers i]
  · rw [hfollows.pending, hpending]
    exact List.subset_append_left _ _
  · rw [← hchannel]
    exact Controller.config_take (hchannel ▸ h.holds) i

/-- The station goes on to the endpoint that it has been ordered to use. -/
theorem settle (h : x.Adjusted config) {meant? : Option Nat} {rest : List (Option Nat × Order)}
    {o : Station.Result} {e : Endpoint} (hkeeps : x.station.Keeps e o.1)
    (hconsistent : (Coupling.settle { x with orders := rest } meant? o).Consistent config.role)
    (hahead : (rest.map Prod.snd).foldl Order.redirect e = x.endpointAhead)
    (hrunning : o.1.isRunning = true → x.station.isRunning = true) :
    (Coupling.settle { x with orders := rest } meant? o).Adjusted config := by
  refine ⟨hconsistent, hkeeps.retryDelay?.trans h.retry, h.interval, fun hrun hnone => ?_⟩
  have hnext : (Coupling.settle { x with orders := rest } meant? o).endpointAhead =
      x.endpointAhead := by
    rw [← hahead, ← hkeeps.endpoint]
    rfl
  rw [hnext]
  exact h.endpoint (hrunning hrun) hnone

/-- Once new settings are carried out, the timers have them, and so will the station. -/
theorem perform (h : x.Adjusted config) {now : Nat} (hy : x.next? (.perform now) = some y) :
    y.Adjusted config := by
  have hconsistent := h.toConsistent.perform hy
  simp only [next?] at hy
  obtain ⟨⟨c, outputs⟩, hnext, rfl⟩ := Option.map_eq_some_iff.mp hy
  obtain ⟨a, rest, hpop, heq⟩ := Controller.exists_perform_of_performNext? hnext
  let d : Controller := { x.informed with pending := rest }
  obtain ⟨hfollows, -, -, horders⟩ := d.follows_perform now a
  have hconfig : c.channel.config = x.controller.channel.config := by
    have hperform : c = (d.perform now a).1 := congrArg Prod.fst heq
    rw [hperform]
    exact Controller.config_perform (c := d) h.holds now a
  -- Unless it is this action, new settings were not pending before.
  have hbefore : .reconfigure ∉ c.pending.toList → a ≠ .reconfigure →
      .reconfigure ∉ x.controller.pending.toList := by
    intro hnone ha hmem
    have hsplit : x.controller.pending.toList = a :: rest.toList := Fifo.toList_of_pop? hpop
    have hpending : c.pending.toList = rest.toList ++ _ :=
      (congrArg (·.1.pending.toList) heq).trans hfollows.pending
    rw [hsplit] at hmem
    rcases List.mem_cons.mp hmem with ha' | hrest
    · exact ha ha'.symm
    · rw [hpending] at hnone
      exact hnone (List.mem_append_left _ hrest)
  refine ⟨hconsistent, h.retry, fun hnone kind => ?_, fun hrunning hnone => ?_⟩
  · have htimers : c.timers = x.controller.timers.carryOut x.controller.channel.config now a :=
      (congrArg (·.1.timers) heq).trans (d.timers_perform now a)
    simp only [htimers, hconfig, TimerBank.interval_carryOut]
    split
    · rfl
    · next ha => exact h.interval (hbefore hnone ha) kind
  · have hgiven : Controller.orders outputs = (x.controller.orderOf? a).toList := by
      have hall : Controller.orders outputs =
          if d.transportGone then [] else (d.orderOf? a).toList :=
        (congrArg (Controller.orders ·.2) heq).trans horders
      have hgone : d.transportGone = false := congrArg not hrunning
      rw [hall, hgone]
      rfl
    have hahead : Coupling.endpointAhead { x with
        controller := c
        orders := x.orders ++ (Controller.orders outputs).map (x.view?, ·) } =
          (x.controller.orderOf? a).toList.foldl Order.redirect x.endpointAhead := by
      simp [endpointAhead, hgiven, Function.comp_def, List.foldl_append]
    rw [hahead, Controller.redirect_orderOf?, hconfig]
    split
    · rfl
    · next ha => exact h.endpoint hrunning (hbefore hnone ha)

theorem move (h : x.Adjusted config) {m : Move} (hm : m.isTimeless = true)
    (hy : x.next? m = some y) : y.Adjusted config := by
  have hconsistent := h.toConsistent.move hy
  cases m with
  | elapse timers => cases hm
  | input i =>
      simp only [next?] at hy
      split at hy
      · cases hy
        exact h.take (c := x.informed) rfl rfl (fun _ => rfl) i
      · cases hy
  | signal =>
      simp only [next?] at hy
      split at hy
      · cases hy
      · next p rest _ =>
          split at hy
          · cases hy
            have htaken := h.take (c := x.informed) rfl rfl (fun _ => rfl) (.signal p.2)
            exact ⟨hconsistent, htaken.retry, htaken.interval, htaken.endpoint⟩
          · cases hy
  | perform now => exact h.perform hy
  | order clock now =>
      obtain ⟨meant?, o, rest, s, outputs, horders, htake, rfl⟩ := order_spec hy
      refine h.settle (Station.keeps_of_take? htake (h.suits horders)) hconsistent ?_
        fun _ => Station.isRunning_of_take? htake
      rw [endpointAhead, horders]
      rfl
  | station clock now i =>
      obtain ⟨hi, s, outputs, htake, rfl⟩ := station_spec hy
      have hkeeps := Station.keeps_of_take? htake fun e he => absurd he (hi _)
      refine h.settle hkeeps hconsistent ?_ fun _ => Station.isRunning_of_take? htake
      cases i with
      | order o => exact absurd rfl (hi o)
      | _ => rfl
  | session id m =>
      obtain ⟨s, outputs, hmove, rfl⟩ := session_spec hy
      have hrunning : s.isRunning = x.station.isRunning :=
        (Station.session_of_move? hmove).1
      exact h.settle (Station.keeps_of_move? hmove) hconsistent rfl fun hrun =>
        hrunning.symm.trans hrun

theorem elapse (h : x.Adjusted config) (clock : Clock) (now : Nat) :
    Adjusted config { x with
      controller := { x.controller with timers := x.controller.timers.elapse clock now } } := by
  refine h.follow ⟨h.holds, h.channel, h.station, h.orders⟩ (fun kind => ?_)
    (List.Subset.refl _) (.inl rfl)
  show ((x.controller.timers.elapse clock now).get kind).interval = _
  rw [TimerBank.get_elapse]
  rfl

theorem expire (h : x.Adjusted config) : x.expire.Adjusted config := by
  have hinterval := x.controller.timers.interval_expired
  unfold Coupling.expire
  split
  · exact h.follow ⟨h.holds, h.channel, h.station, h.orders⟩ hinterval
      (List.Subset.refl _) (.inl rfl)
  · next kind _ =>
      exact h.take (c := x.informed.nextExpiry.2.1) rfl rfl hinterval (.expired kind)

end Adjusted

theorem Runs.adjusted {s : Settings} {config : Config} (hcheck : s.check = .ok config)
    {x : Coupling} (h : Runs config x) : x.Adjusted config := by
  induction h with
  | start =>
      exact (Adjusted.ofConfig hcheck).take (c := (ofConfig config).informed) rfl rfl
        (fun _ => rfl) .start
  | move _ hm hy ih => exact ih.move hm hy
  | elapse _ clock now ih => exact ih.elapse clock now
  | expire _ _ ih => exact ih.expire

/-! ## New settings -/

/-- What a coupling can become while it is given no further settings. -/
inductive Continues (x : Coupling) : Coupling → Prop where
  | refl : Continues x x
  | move {y z : Coupling} (h : Continues x y) {m : Move} (hm : m.isTimeless = true)
      (hsettings : ∀ s, m ≠ .input (.command (.reconfigure s))) (hz : y.next? m = some z) :
      Continues x z
  | elapse {y : Coupling} (h : Continues x y) (clock : Clock) (now : Nat) :
      Continues x { y with
        controller := { y.controller with timers := y.controller.timers.elapse clock now } }
  | expire {y : Coupling} (h : Continues x y) (hready : y.isReady = true) :
      Continues x y.expire

variable {config : Config} {x y z : Coupling}

theorem Continues.runs (h : x.Continues y) (hx : Runs config x) : Runs config y := by
  induction h with
  | refl => exact hx
  | move _ hm _ hz ih => exact ih.move hm hz
  | elapse _ clock now ih => exact ih.elapse clock now
  | expire _ hready ih => exact ih.expire hready

theorem Continues.run? (h : x.Continues y) {moves : List Move}
    (hmoves : ∀ m ∈ moves, m.isTimeless = true ∧
      ∀ s, m ≠ .input (.command (.reconfigure s)))
    (hz : y.run? (fun _ => true) moves = some z) : x.Continues z := by
  induction moves generalizing y with
  | nil => cases hz; exact h
  | cons m rest ih =>
      rw [List.forall_mem_cons] at hmoves
      rw [Coupling.run?] at hz
      split at hz
      · cases hz
      · next w hw => exact ih (h.move hmoves.1.1 hmoves.1.2 hw) hmoves.2 hz

/-- Without further settings the configuration stays. -/
theorem config_next? (hholds : x.controller.channel.HoldsInOrder) {m : Move}
    (hsettings : ∀ s, m ≠ .input (.command (.reconfigure s))) (hy : x.next? m = some y) :
    y.controller.channel.config = x.controller.channel.config := by
  cases m with
  | elapse timers =>
      cases hy
      rfl
  | input i =>
      obtain ⟨-, c, hfollows, rfl⟩ := input_spec hy
      rw [hfollows.channel]
      refine config_stepAll hholds (Controller.Recorded.ne_reconfigure_of_mem_inputs ?_)
      rintro s rfl
      exact hsettings s rfl
  | signal =>
      obtain ⟨p, rest, c, -, hfollows, rfl⟩ := signal_spec hy
      rw [hfollows.channel]
      exact config_stepAll hholds (Controller.Recorded.ne_reconfigure_of_mem_inputs nofun)
  | perform now =>
      simp only [next?] at hy
      obtain ⟨⟨c, outputs⟩, hnext, rfl⟩ := Option.map_eq_some_iff.mp hy
      obtain ⟨a, rest, -, heq⟩ := Controller.exists_perform_of_performNext? hnext
      let d : Controller := { x.informed with pending := rest }
      exact (congrArg (·.1.channel.config) heq).trans
        (Controller.config_perform (c := d) hholds now a)
  | order clock now =>
      obtain ⟨meant?, o, rest, s, outputs, -, -, rfl⟩ := order_spec hy
      rfl
  | station clock now i =>
      obtain ⟨-, s, outputs, -, rfl⟩ := station_spec hy
      rfl
  | session id m =>
      obtain ⟨s, outputs, -, rfl⟩ := session_spec hy
      rfl

theorem config_expire (hholds : x.controller.channel.HoldsInOrder) :
    x.expire.controller.channel.config = x.controller.channel.config := by
  unfold Coupling.expire
  split
  · rfl
  · next kind _ =>
      let c : Controller := x.informed.nextExpiry.2.1
      show (c.take (.expired kind)).1.channel.config = _
      rw [(c.follows_take (.expired kind)).1.channel]
      exact config_stepAll (c := c.channel) hholds
        (Controller.Recorded.ne_reconfigure_of_mem_inputs nofun)

theorem Continues.config_eq {s : Settings} (hcheck : s.check = .ok config)
    (hx : Runs config x) (h : x.Continues y) :
    y.controller.channel.config = x.controller.channel.config := by
  induction h with
  | refl => rfl
  | move h _ hsettings hz ih =>
      exact (config_next? ((h.runs hx).adjusted hcheck).holds hsettings hz).trans ih
  | elapse _ _ _ ih => exact ih
  | expire h _ ih => exact (config_expire ((h.runs hx).adjusted hcheck).holds).trans ih

/-- A controller with its station is given new settings of its role that pass the check.
Once the controller has carried them out and a station at work has taken the order that
comes of it, whatever else has happened: configuration, intervals and endpoint are those
of a controller made for the new settings.  A server waits between its attempts to bind
as it did before.  So all parameters are those of a new controller if the channel is a
client's, or the delay is the same. -/
theorem Runs.parameters_reconfigured {s settings : Settings} {config new : Config}
    (hcheck : s.check = .ok config) (hnew : settings.check = .ok new)
    (hrole : new.role = config.role) {x y z : Coupling} (hx : Runs config x)
    (hy : x.next? (.input (.command (.reconfigure settings))) = some y)
    (hz : y.Continues z) (hdone : .reconfigure ∉ z.controller.pending.toList)
    (horders : ∀ p ∈ z.orders, ∀ e, p.2 ≠ .reconfigure e)
    (hrunning : z.station.isRunning = true) :
    z.parameters =
        { (ofConfig new).parameters with
          retryDelay? := (ofConfig config).parameters.retryDelay? } ∧
      (z.parameters = (ofConfig new).parameters ↔
        config.role = .client ∨ Station.retry config = Station.retry new) := by
  have hyruns : Runs config y := hx.move rfl hy
  have hadjusted := (hz.runs hyruns).adjusted hcheck
  have hconfig : z.controller.channel.config = new := by
    rw [hz.config_eq hcheck hyruns]
    have hbefore := hx.adjusted hcheck
    obtain ⟨-, c, hfollows, rfl⟩ := input_spec hy
    rw [hfollows.channel, Controller.inputs, stepAll_singleton, Channel.step, obey,
      reconfigure_accepted hnew (hrole.trans hbefore.channel.config.symm)]
  have hparameters : z.parameters =
      { (ofConfig new).parameters with
        retryDelay? := (ofConfig config).parameters.retryDelay? } := by
    have hinterval : (fun kind => (z.controller.timers.get kind).interval) =
        TimerBank.interval new := by
      funext kind
      rw [hadjusted.interval hdone, hconfig]
    have hendpoint : z.station.endpoint = new.endpoint := by
      rw [← endpointAhead_of_forall horders, hadjusted.endpoint hrunning hdone, hconfig]
    rw [parameters, hconfig, hinterval, hendpoint, hadjusted.retry]
    simp only [parameters_ofConfig]
  refine ⟨hparameters, ?_⟩
  have hroles : ∀ {s' : Settings} {config' : Config}, s'.check = .ok config' →
      config'.role = config.role → config'.endpoint.role = config.role :=
    fun hcheck' hrole' => (Settings.endpoint_role_of_check hcheck').trans hrole'
  rw [hparameters, parameters_ofConfig, parameters_ofConfig]
  simp only [Parameters.mk.injEq, true_and, Station.retryDelay?_ofConfig, hroles hcheck rfl,
    hroles hnew hrole]
  cases config.role <;> simp

/-- Settings of a server that is to wait for a minute. -/
def patientSettings : Settings :=
  { Settings.sample .server with reconnectTimeout := 60 }

/-- The configuration that they describe. -/
def patientConfig : Config :=
  { Config.sample .server with reconnectTimeout := 60 }

theorem check_patientSettings : patientSettings.check = .ok patientConfig := by
  decide +kernel

/-- A server that has begun to listen is given these settings. -/
theorem exists_reconfigured_sample :
    ∃ x y z, Runs (.sample .server) x ∧
      x.next? (.input (.command (.reconfigure patientSettings))) = some y ∧ y.Continues z ∧
      .reconfigure ∉ z.controller.pending.toList ∧
      (∀ p ∈ z.orders, ∀ e, p.2 ≠ .reconfigure e) ∧ z.station.isRunning = true := by
  let started : Coupling := { ofConfig (.sample .server) with
    controller := ((ofConfig (.sample .server)).informed.take .start).1 }
  let moves : List Move := performs 2 ++ [.order .standard 0]
  have hrun : ((started.run? (fun _ => true) moves).bind fun x =>
      (x.next? (.input (.command (.reconfigure patientSettings)))).bind fun y =>
        y.run? (fun _ => true) moves).any (fun z =>
          z.controller.pending.toList.isEmpty && z.orders.isEmpty && z.station.isRunning) := by
    decide +kernel
  obtain ⟨z, hz, hlast⟩ := (Option.any_eq_true _ _).mp hrun
  obtain ⟨x, hx, hz⟩ := Option.bind_eq_some_iff.mp hz
  obtain ⟨y, hy, hz⟩ := Option.bind_eq_some_iff.mp hz
  simp only [Bool.and_eq_true, List.isEmpty_iff] at hlast
  obtain ⟨⟨hpending, horders⟩, hrunning⟩ := hlast
  have hmoves : ∀ m ∈ moves, m.isTimeless = true ∧
      ∀ s, m ≠ .input (.command (.reconfigure s)) := by
    simp [moves, performs, Move.isTimeless]
  refine ⟨x, y, z, Runs.start.run? (fun m hm => (hmoves m hm).1) hx, hy,
    Continues.refl.run? hmoves hz, ?_, ?_, hrunning⟩
  · simp [hpending]
  · simp [horders]

theorem parameters_reconfigured_sample :
    ∃ x y z, Runs (.sample .server) x ∧
      x.next? (.input (.command (.reconfigure patientSettings))) = some y ∧ y.Continues z ∧
      z.parameters = { (ofConfig patientConfig).parameters with
        retryDelay? := (ofConfig (.sample .server)).parameters.retryDelay? } := by
  obtain ⟨x, y, z, hx, hy, hz, hdone, horders, hrunning⟩ := exists_reconfigured_sample
  exact ⟨x, y, z, hx, hy, hz, (hx.parameters_reconfigured (Settings.check_sample .server)
    check_patientSettings rfl hy hz hdone horders hrunning).1⟩

/-- The server still waits for the five seconds that it was made with, where one made for
the new settings would wait for a minute. -/
theorem retry_not_reconfigured :
    ∃ x y z, Runs (.sample .server) x ∧
      x.next? (.input (.command (.reconfigure patientSettings))) = some y ∧ y.Continues z ∧
      .reconfigure ∉ z.controller.pending.toList ∧
      (∀ p ∈ z.orders, ∀ e, p.2 ≠ .reconfigure e) ∧ z.station.isRunning = true ∧
      z.parameters.retryDelay? = some 5000 ∧
      (ofConfig patientConfig).parameters.retryDelay? = some 60000 := by
  obtain ⟨x, y, z, hx, hy, hz, hdone, horders, hrunning⟩ := exists_reconfigured_sample
  have hyruns : Runs (.sample .server) y := hx.move rfl hy
  have hretry := ((hz.runs hyruns).adjusted (Settings.check_sample .server)).retry
  refine ⟨x, y, z, hx, hy, hz, hdone, horders, hrunning, hretry.trans ?_, ?_⟩
  · decide +kernel
  · decide +kernel

end Coupling

end FlightLink
