import FlightLink.Proofs.Controller.Silence
import FlightLink.Proofs.Settings.Rules
import FlightLink.Proofs.Upkeep.Run

/-!
# How a connection begins

A client and a server have been started, each at a time of its own, and have had no
connection yet.  Their channels are as they were made, and only the reconnect timer
may be armed.  When a connection is made, the client sends its identification and the
server waits for it.  The reconnect timer is stopped, so that every timer which is
armed then has just been started.
-/

namespace FlightLink

open Framing Channel Effect

/-! ## Two configurations -/

/-- Checked settings have a Ti. -/
theorem Settings.ti_pos_of_check {s : Settings} {config : Config}
    (h : s.check = .ok config) : 0 < config.ti := by
  have hinterval : 0 < config.ti * 1000 := interval_pos_of_check h .identification
  omega

/-- Checked configurations of a client and a server that expect each other and exchange
data in UTF-8.  Each has Ts below the Tr of the other, and an identification that fits
into a packet. -/
structure Suited (config : Role → Config) : Prop where
  checked : ∀ r, ∃ s : Settings, s.check = .ok (config r)
  role : ∀ r, (config r).role = r
  charset : ∀ r, (config r).charset = .utf8
  startState : ∀ r, (config r).startState = .dataReady
  mirrors : (config .client).Mirrors (config .server)
  fits : ∀ r, ((Vigil.identification config r).encode .utf8).isOk = true
  shorter : ∀ r, (config r).ts < (config r.peer).tr

theorem Suited.matched {config : Role → Config} (h : Suited config) {clock : Clock}
    (hclock : clock.Saturates) (hkept : ∀ r, Clock.seconds (config r).ts < clock.longest) :
    Matched clock config where
  saturates := hclock
  kept := hkept
  shorter := h.shorter
  identification r := by
    obtain ⟨s, hcheck⟩ := h.checked r
    exact Settings.ti_pos_of_check hcheck

theorem Suited.isPosted {config : Role → Config} (h : Suited config) (r : Role) :
    (Vigil.identification config r).IsPosted := by
  refine ⟨nofun, ?_, ?_⟩
  · simp [Vigil.identification, Message.identification, toString]
  · have hfits := h.fits r
    cases hencode : (Vigil.identification config r).encode .utf8 with
    | ok bytes => exact ⟨bytes, rfl⟩
    | error fault =>
        rw [hencode] at hfits
        cases hfits

/-! ## Before the connection -/

/-- While there is no connection, no timer but the reconnect timer is armed. -/
theorem Supervises.eq_reconnect {role : Role} {armed : TimerKind → Bool}
    (h : Supervises role .idle armed) {kind : TimerKind} (harmed : armed kind = true) :
    kind = .reconnect := by
  cases kind with
  | reconnect => rfl
  | send => cases h.send.mp harmed
  | receive => rcases h.receive.mp harmed with hstate | hstate <;> cases hstate
  | identification =>
      rcases h.identification.mp harmed with hstate | hstate <;> cases hstate

namespace Channel

/-- What a channel takes in while there is no connection. -/
def Input.IsPrior : Input → Prop
  | .start | .connectionChanged false | .timerExpired .reconnect | .log _ _ => True
  | _ => False

variable {config : Config}

/-- A channel that has not had a connection remains as it was made. -/
theorem step_ofConfig (hstart : config.startState = .dataReady) {i : Input}
    (hi : i.IsPrior) :
    ((ofConfig config).step i).channel = ofConfig config ∧
      packets ((ofConfig config).step i).effects = [] ∧
      ∀ armed, (ofConfig config).Supervised armed →
        ((ofConfig config).step i).Supervised armed := by
  -- Otherwise there is a record, and perhaps an attempt to connect.
  have hrecord : ∀ severity text (more : List Effect),
      more = [] ∨ more = [.action .reconnect] →
      let o : Outcome :=
        ⟨ofConfig config, (ofConfig config).logged severity text :: more⟩
      o.channel = ofConfig config ∧ packets o.effects = [] ∧
        ∀ armed, (ofConfig config).Supervised armed → o.Supervised armed := by
    intro severity text more hmore o
    have hpackets : packets o.effects = [] := by
      rcases hmore with rfl | rfl <;> simp [o]
    have htimings : timings o.effects = [] := by
      rcases hmore with rfl | rfl <;> simp [o]
    refine ⟨rfl, hpackets, fun armed h => h.still rfl rfl rfl htimings ?_⟩
    rw [expected, hpackets]
    exact List.not_mem_nil
  cases i with
  | start =>
      have hstep : (ofConfig config).step .start = ⟨ofConfig config,
          [(ofConfig config).logged .info
            s!"starting {config.role.title} channel {config.url}", .action .reconnect]⟩ := by
        simp only [step, start, ofConfig, hstart]
      rw [hstep]
      exact hrecord _ _ _ (.inr rfl)
  | connectionChanged up =>
      cases up with
      | true => cases hi
      | false =>
          have hleads : (ofConfig config).Leads ((ofConfig config).raise .remoteDisconnect)
              .idle [] := by
            have hnext : Table.next? (ofConfig config).role .idle .remoteDisconnect =
                some .idle := by
              cases (ofConfig config).role <;> rfl
            exact leads_raise rfl hnext rfl
          exact ⟨hleads.channel, hleads.packets, fun armed h => h.connectionChanged false⟩
  | timerExpired kind =>
      cases kind with
      | reconnect => exact hrecord .info "reconnecting" _ (.inr rfl)
      | _ => cases hi
  | log severity text => exact hrecord severity text [] (.inl rfl)
  | _ => cases hi

theorem stepAll_ofConfig (hstart : config.startState = .dataReady) {l : List Input}
    (hl : ∀ i ∈ l, i.IsPrior) :
    ((ofConfig config).stepAll l).channel = ofConfig config ∧
      packets ((ofConfig config).stepAll l).effects = [] ∧
      ∀ armed, (ofConfig config).Supervised armed →
        ((ofConfig config).stepAll l).Supervised armed := by
  induction l with
  | nil => exact ⟨rfl, rfl, fun armed h => h.same⟩
  | cons i rest ih =>
      obtain ⟨hi, hrest⟩ := List.forall_mem_cons.mp hl
      obtain ⟨hfirst, hnone, hsupervised⟩ := step_ofConfig hstart hi
      obtain ⟨hlast, hnone', hsupervised'⟩ := ih hrest
      refine ⟨?_, ?_, fun armed h => (hsupervised armed h).andThen ?_⟩
      · rw [stepAll, andThen_channel, hfirst]
        exact hlast
      · rw [stepAll, andThen_effects, packets, collect_append, hfirst]
        exact List.append_eq_nil_iff.mpr ⟨hnone, hnone'⟩
      · rw [hfirst]
        exact hsupervised'

end Channel

namespace Controller

/-- Whether an occurrence leaves a controller that has no connection without one. -/
def Occurrence.IsPrior : Occurrence → Prop
  | .signal (.connected up) => up = false
  | .signal (.log _ _) | .tick | .expiry | .elapse _ => True
  | _ => False

/-- A controller that was started some time ago and has had no connection yet. -/
def Waits (c : Controller) (clock : Clock) (config : Config) (now : Nat) : Prop :=
  ∃ awake before, (∀ o ∈ before, o.IsPrior) ∧
    ((Clocked.started clock config awake).run before).after = ⟨clock, c, now⟩

/-- What is known of a controller without a connection. -/
structure Waiting (c : Controller) (clock : Clock) (config : Config) (now : Nat) : Prop where
  settled : c.Settled
  channel : c.channel = .ofConfig config
  received : c.received = []
  tracks : ∃ arm?, c.timers.Tracks clock config now arm? ∧
    (Channel.ofConfig config).Supervised fun kind => (arm? kind).isSome

namespace Waiting

variable {clock : Clock} {config : Config} {now : Nat} {c : Controller} {x : Clocked}

theorem turn (hstart : config.startState = .dataReady) (h : c.Waiting clock config now)
    {i : Input}
    (hinputs : ∀ j ∈ c.inputs i, j.IsPrior)
    (hreceived : c.received = [] → (c.take i).1.received = [])
    (hsignals : i ≠ .signalsClosed) (hcommands : i ≠ .commandsClosed) :
    (c.turn now i).1.Waiting clock config now := by
  obtain ⟨hchannel, hpackets, hsupervised⟩ := stepAll_ofConfig hstart hinputs
  obtain ⟨arm?, htracks, harmed⟩ := h.tracks
  let o := (Channel.ofConfig config).stepAll (c.inputs i)
  have hall : c.channel.stepAll (c.inputs i) = o := by
    rw [h.channel]
  have hlost : lost (actions o.effects) = 0 := by
    apply lost_eq_zero
    rw [hpackets]
    exact nofun
  have hcharset : (Channel.ofConfig config).config.charset = .utf8 := by
    rw [← h.channel]
    exact h.settled.charset
  obtain ⟨hsettled, hend, htimers, -⟩ :=
    h.settled.turn now hsignals hcommands (holdsInOrder_ofConfig config) hcharset (by
      rw [hall, hlost]
      exact hchannel)
  refine ⟨hsettled, hend, ?_, rearm config now arm? (timings o.effects), ?_, ?_⟩
  · rw [received_turn h.settled.going]
    exact hreceived h.received
  · rw [htimers, hall]
    exact htracks.foldl_carryOut _
  · rw [isSome_rearm, ← hchannel]
    exact (hsupervised _ harmed).channel

theorem with_timers (h : c.Waiting clock config now) {b : TimerBank} {later : Nat}
    {arm? : TimerKind → Option Arm} (htracks : b.Tracks clock config later arm?)
    (harmed : (Channel.ofConfig config).Supervised fun kind => (arm? kind).isSome) :
    { c with timers := b }.Waiting clock config later :=
  ⟨h.settled.with_timers b, h.channel, h.received, arm?, htracks, harmed⟩

theorem step (hstart : config.startState = .dataReady)
    (h : x.controller.Waiting x.clock config x.now) {o : Occurrence} (ho : o.IsPrior) :
    (x.step o).after.controller.Waiting (x.step o).after.clock config (x.step o).after.now := by
  obtain ⟨arm?, htracks, harmed⟩ := h.tracks
  cases o with
  | signal s =>
      cases s with
      | connected up =>
          obtain rfl : up = false := ho
          exact h.turn hstart (by simp [inputs, Channel.Input.IsPrior]) (fun _ => rfl)
            (by simp) (by simp)
      | log severity text =>
          exact h.turn hstart (by simp [inputs, Channel.Input.IsPrior]) id (by simp)
            (by simp)
      | _ => cases ho
  | tick => exact h.turn hstart (List.forall_mem_nil _) id (by simp) (by simp)
  | elapse duration =>
      exact h.with_timers (htracks.elapse (Nat.le_add_right _ _)) harmed
  | expiry =>
      obtain ⟨kind, a, hkind, ha, -, htracks⟩ | ⟨hkind, -, htracks⟩ := htracks.expired
      · have hcounts : (arm? kind).isSome = true := by
          rw [ha]
          rfl
        obtain rfl := harmed.supervises.eq_reconnect hcounts
        have hdisarmed := (harmed.timerExpired hcounts).channel
        rw [← isSome_update_none] at hdisarmed
        simp only [Clocked.step, nextExpiry, hkind]
        exact (h.with_timers htracks hdisarmed).turn hstart
          (by simp [inputs, Channel.Input.IsPrior]) id (by simp) (by simp)
      · simp only [Clocked.step, nextExpiry, hkind]
        exact h.with_timers htracks harmed
  | _ => cases ho

theorem run (hstart : config.startState = .dataReady)
    (h : x.controller.Waiting x.clock config x.now) {l : List Occurrence}
    (hl : ∀ o ∈ l, o.IsPrior) :
    (x.run l).after.controller.Waiting (x.run l).after.clock config (x.run l).after.now := by
  induction l generalizing x with
  | nil => exact h
  | cons o rest ih =>
      obtain ⟨ho, hrest⟩ := List.forall_mem_cons.mp hl
      have hmeet : x.meet o = x.step o := by
        rw [Clocked.meet, h.settled.going]
        rfl
      apply ih _ hrest
      rw [hmeet]
      exact h.step hstart ho

end Waiting

/-- A controller that waits is still as it was made. -/
theorem Waits.waiting {clock : Clock} {config : Config}
    (hstart : config.startState = .dataReady) (hcharset : config.charset = .utf8) {now : Nat}
    {c : Controller} (h : c.Waits clock config now) : c.Waiting clock config now := by
  obtain ⟨awake, before, hbefore, hafter⟩ := h
  have hmade : (ofConfig config).Waiting clock config awake :=
    ⟨⟨hcharset, rfl, rfl, rfl⟩, rfl, rfl, _, .ofConfig clock config awake,
      .ofConfig config⟩
  have hstarted :
      (Clocked.started clock config awake).controller.Waiting clock config awake :=
    hmade.turn hstart (i := .start) (by simp [inputs, Channel.Input.IsPrior]) id nofun nofun
  have hwaiting := Waiting.run (x := .started clock config awake) hstart hstarted hbefore
  rw [hafter] at hwaiting
  exact hwaiting

end Controller

/-! ## The connection -/

namespace Channel

/-- What the channel of a side takes in when a connection is made. -/
def opening : Role → Input
  | .client => .connectionChanged true
  | .server => .raise .remoteSetup

theorem opening_ne_command (r : Role) (y : Command) : opening r ≠ .command y := by
  cases r <;> exact nofun

variable {config : Config}

theorem step_opening_config (config : Config) (r : Role) :
    ((ofConfig config).step (opening r)).channel.config = config :=
  (utters_stepAll (holdsInOrder_ofConfig config) (l := [opening r])
    (by simpa using opening_ne_command r)).1

theorem isPosted_opening (hposted : (ofConfig config).ownIdentification.IsPosted) (r : Role) :
    ∀ p ∈ packets ((ofConfig config).step (opening r)).effects, p.1.IsPosted := by
  have hutters := (utters_stepAll (holdsInOrder_ofConfig config) (l := [opening r])
    (by simpa using opening_ne_command r)).2
  rw [stepAll_singleton] at hutters
  intro p hp
  exact (hutters p hp).isPosted hposted

theorem supervised_opening {armed : TimerKind → Bool} (h : (ofConfig config).Supervised armed)
    (r : Role) : ((ofConfig config).step (opening r)).Supervised armed := by
  cases r with
  | client => exact h.connectionChanged true
  | server => exact h.raise nofun

/-- A server that hears of a connection waits until it is set up. -/
theorem step_connectionChanged_server (hrole : config.role = .server) :
    (ofConfig config).step (.connectionChanged true) = ⟨ofConfig config, []⟩ := by
  have hserver : (ofConfig config).config.role = .server := hrole
  rw [step, connectionChanged, hserver]
  rfl

end Channel

namespace Vigil

/-- Both sides before there is a connection. -/
def apart (config : Role → Config) (start : Nat) (arm? : Role → TimerKind → Option Arm) :
    Vigil where
  conversation := Conversation.apart (.ofConfig (config .client)) (.ofConfig (config .server))
  arm? := arm?
  now := start

/-- Both sides after the start of a connection. -/
def opened (config : Role → Config) (start : Nat) (arm? : Role → TimerKind → Option Arm) :
    Vigil where
  conversation := Conversation.opened (.ofConfig (config .client)) (.ofConfig (config .server))
  arm? r := rearm (config r) start (arm? r)
    (timings ((Channel.ofConfig (config r)).step (opening r)).effects)
  now := start

variable {config : Role → Config} {start : Nat} {arm? : Role → TimerKind → Option Arm}

theorem channel_opened (r : Role) : ((opened config start arm?).conversation r).channel =
    ((Channel.ofConfig (config r)).step (opening r)).channel := by
  cases r <;> rfl

/-- The turns in which both sides learn of a connection. -/
theorem next_apart (config : Role → Config) (start : Nat)
    (arm? : Role → TimerKind → Option Arm) :
    let w := apart config start arm?
    let u := w.next .client (w.arm? .client) (w.conversation .client) (opening .client)
    u.next .server (u.arm? .server) (u.conversation .server) (opening .server) =
      opened config start arm? := by
  intro w u
  have harm : (u.next .server (u.arm? .server) (u.conversation .server)
      (opening .server)).arm? = (opened config start arm?).arm? := by
    have hrearm : ∀ r, rearm ((Channel.ofConfig (config r)).step (opening r)).channel.config
        start (arm? r) (timings ((Channel.ofConfig (config r)).step (opening r)).effects) =
          (opened config start arm?).arm? r := by
      intro r
      rw [step_opening_config]
      rfl
    funext r
    cases r with
    | client => exact hrearm .client
    | server => exact hrearm .server
  exact congrArg (Vigil.mk _ · start) harm

/-- At the start of a connection, every timer that is armed has just been started. -/
theorem sound_opened (clock : Clock) (hconfig : Suited config)
    (harmed : ∀ r, (Channel.ofConfig (config r)).Supervised fun kind => (arm? r kind).isSome) :
    (opened config start arm?).Sound clock config start := by
  have hfresh : ∀ r, (Channel.ofConfig (config r)).Fresh r := fun r =>
    ⟨hconfig.role r, hconfig.role r, rfl, rfl, rfl, rfl⟩
  obtain ⟨hholds, hagreement⟩ :=
    Conversation.unheld_opened (hfresh .client) (hfresh .server) hconfig.mirrors
  have hident : (Conversation.apart (.ofConfig (config .client))
      (.ofConfig (config .server))).identification = identification config := by
    funext r
    cases r <;> rfl
  rw [hident] at hagreement
  have hsupervised : ∀ r, ((opened config start arm?).conversation r).channel.Supervised
      fun kind => ((opened config start arm?).arm? r kind).isSome := by
    intro r
    have harms : (fun kind => ((opened config start arm?).arm? r kind).isSome) =
        arming (fun kind => (arm? r kind).isSome) _ := isSome_rearm
    rw [channel_opened, harms]
    exact (supervised_opening (harmed r) r).channel
  -- What was armed before is stopped.
  have hnew : ∀ r kind a, (opened config start arm?).arm? r kind = some a →
      a = ⟨start, TimerBank.interval (config r) kind⟩ := by
    intro r kind a ha
    rcases rearm_cases ha with hbefore | hnew
    · exfalso
      have hsome : (arm? r kind).isSome = true := by
        rw [hbefore]
        rfl
      obtain rfl := (harmed r).supervises.eq_reconnect hsome
      have hidle := (hsupervised r).supervises.reconnect (by rw [ha]; rfl)
      exact hagreement.ne_idle r hidle.2
    · exact hnew
  refine ⟨?_, hholds, hagreement, hsupervised, ?_, ?_, .inl ⟨rfl, ?_⟩⟩
  · intro r
    rw [channel_opened, step_opening_config]
  · intro r kind a ha
    rw [hnew r kind a ha]
  · intro r kind a ha
    rw [hnew r kind a ha]
    exact Nat.le_refl _
  · intro r kind a ha
    rw [hnew r kind a ha]
    rfl

end Vigil

namespace Upkeep

/-- Two controllers, each at its end, before there is a connection. -/
def apart (clock : Clock) (start : Nat) (c : Role → Controller) : Upkeep where
  clock := clock
  line r := ⟨c r, [], [], []⟩
  now := start

/-- A connection is made, and both controllers are told of it. -/
def connected (clock : Clock) (start : Nat) (c : Role → Controller) : Upkeep :=
  let v := (apart clock start c).line
  let v := v.answer .client (v .client) start (.signal (.connected true))
  let v := v.answer .server (v .server) start (.signal (.connected true))
  ⟨clock, v.answer .server (v .server) start (.signal (.raised .remoteSetup)), start⟩

variable {clock : Clock} {config : Role → Config} {start : Nat} {c : Role → Controller}
  {arm? : Role → TimerKind → Option Arm}

theorem shows_apart (hwaiting : ∀ r, (c r).Waiting clock (config r) start)
    (htracks : ∀ r, (c r).timers.Tracks clock (config r) start (arm? r)) :
    (apart clock start c).Shows config (.apart config start arm?) := by
  have hreceived : ∀ r, ((apart clock start c).line r).controller.received = [] :=
    fun r => (hwaiting r).received
  have hstream : ∀ r, ((apart clock start c).line r).stream = [] := by
    intro r
    rw [Terminal.stream, hreceived]
    rfl
  refine ⟨rfl, ?_, ?_, htracks⟩
  · funext r
    have hchannel : ((apart clock start c).line r).controller.channel = .ofConfig (config r) :=
      (hwaiting r).channel
    rw [Line.conversation, hstream, hchannel, Framing.messages, cutAll_nil]
    cases r <;> rfl
  · intro r
    refine ⟨(hwaiting r).settled, ?_, ?_⟩
    · rw [hreceived, cutAll_nil]
    · rw [hstream]
      exact whole_nil

/-- The turns in which the controllers learn of the connection. -/
theorem shows_connected (hconfig : Suited config)
    (hwaiting : ∀ r, (c r).Waiting clock (config r) start)
    (htracks : ∀ r, (c r).timers.Tracks clock (config r) start (arm? r)) :
    (connected clock start c).Shows config (.opened config start arm?) := by
  let x := apart clock start c
  let w := Vigil.apart config start arm?
  let y : Upkeep := { x with
    line := x.line.answer .client (x.line .client) start (.signal (.connected true)) }
  let u := w.next .client (w.arm? .client) (w.conversation .client) (opening .client)
  let z : Upkeep := { y with
    line := y.line.answer .server (y.line .server) start (.signal (.connected true)) }
  have hx : x.Shows config w := shows_apart hwaiting htracks
  have hy : y.Shows config u :=
    hx.answer_input (holdsInOrder_ofConfig _) (step_opening_config _ .client) (fun _ => rfl)
      (hwaiting .client).received.symm nofun nofun (hconfig.charset .client)
      (isPosted_opening (hconfig.isPosted .client) .client)
  have hz : z.Shows config u := by
    have hignored : (u.conversation .server).channel.step (.connectionChanged true) =
        ⟨(u.conversation .server).channel, []⟩ :=
      step_connectionChanged_server (hconfig.role .server)
    have hsame : u.next .server (u.arm? .server) (u.conversation .server)
        (.connectionChanged true) = u := by
      rw [Vigil.next, hignored]
      exact u.act_of_no_effects .server
    rw [← hsame]
    refine hy.answer_input (holdsInOrder_ofConfig _) ?_ (fun _ => rfl)
      (hwaiting .server).received.symm (by simp) (by simp) (hconfig.charset .server) ?_
    · rw [hignored]
      rfl
    · rw [hignored]
      exact List.forall_mem_nil _
  rw [← Vigil.next_apart]
  exact hz.answer_input (holdsInOrder_ofConfig _) (step_opening_config _ .server)
    (fun _ => rfl) rfl (by simp) (by simp) (hconfig.charset .server)
    (isPosted_opening (hconfig.isPosted .server) .server)

/-- Two controllers that have just got a connection. -/
theorem kept_connected (hconfig : Suited config)
    (hwaits : ∀ r, (c r).Waits clock (config r) start) :
    (connected clock start c).Kept config start := by
  have hwaiting := fun r =>
    (hwaits r).waiting (hconfig.startState r) (hconfig.charset r)
  choose arm? htracks harmed using fun r => (hwaiting r).tracks
  exact ⟨_, shows_connected hconfig hwaiting htracks, Vigil.sound_opened clock hconfig harmed⟩

end Upkeep

end FlightLink
