import FlightLink.Host.Agent
import FlightLink.Proofs.Controller.Effort
import FlightLink.Proofs.Coupling.Moves

/-!
# Agents make moves

The controller and the station of an agent take turns.  In each turn the
controller takes one input and carries out all that comes of it.  Such a turn is
a number of moves of a coupling, as long as the controller goes on.  Whatever the
station or a session does is one move.
-/

namespace FlightLink

open Transport

namespace Coupling

/-- A coupling shows an agent between two steps of its tasks. -/
structure Shows (x : Coupling) (a : Agent) (d : Desk) : Prop where
  desk : a.desk? = some d
  going : d.controller.ending? = none
  pending : d.controller.pending.toList = []
  controller : ∃ gone, x.controller = { d.controller with transportGone := gone }
  station : x.station = a.station
  orders : x.orders.map (·.2) = a.orders.toList
  signals : x.signals.map (·.2) = a.signals.toList
  ordersOpen : a.ordersOpen = true
  signalsOpen : a.signalsOpen = true

variable {config : Config} {x : Coupling}

/-- A controller that carries out actions makes moves. -/
theorem Reaches.executeOnto (h : Reaches config (fun _ => true) x)
    (hgone : x.controller.transportGone = !x.station.isRunning) (now fuel : Nat)
    (done : List Controller.Output) :
    ∃ y l, Reaches config (fun _ => true) y ∧
      y.controller = (Controller.executeOnto now fuel done x.controller).1 ∧
      y.station = x.station ∧ y.signals = x.signals ∧
      y.orders.map (·.2) = x.orders.map (·.2) ++ l ∧
      Controller.orders (Controller.executeOnto now fuel done x.controller).2 =
        Controller.orders done.reverse ++ l ∧
      (x.station.isRunning = false → l = []) := by
  -- Each action is a move; `l` collects the orders that they give.
  induction fuel generalizing x done with
  | zero =>
      exact ⟨x, [], h, rfl, rfl, rfl, by simp, by simp [Controller.executeOnto],
        fun _ => rfl⟩
  | succ fuel ih =>
      rw [Controller.executeOnto]
      cases hnext : x.controller.performNext? now with
      | none => exact ⟨x, [], h, rfl, rfl, rfl, by simp, by simp, fun _ => rfl⟩
      | some p =>
          obtain ⟨c, outputs⟩ := p
          have hinformed : x.informed = x.controller := by
            rw [informed, ← hgone]
          let y : Coupling :=
            { x with
              controller := c
              orders := x.orders ++ (Controller.orders outputs).map (x.view?, ·) }
          have hy : x.next? (.perform now) = some y := by
            simp only [next?, hinformed, hnext]
            rfl
          obtain ⟨a, rest, -, -, hkept, hgiven⟩ := Controller.follows_performNext? hnext
          have hnone : x.station.isRunning = false → Controller.orders outputs = [] := by
            intro hstopped
            simpa [hgone, hstopped] using hgiven
          obtain ⟨z, l, hz, hcontroller, hstation, hsignals, horders, houtputs, hstopped⟩ :=
            ih (h.move hy rfl) (hkept.trans hgone) (outputs.reverse ++ done)
          refine ⟨z, Controller.orders outputs ++ l, hz, hcontroller, hstation, hsignals,
            ?_, ?_, ?_⟩
          · rw [horders]
            simp [y, Function.comp_def]
          · rw [houtputs]
            simp
          · intro hrun
            rw [hnone hrun, hstopped hrun, List.append_nil]

/-- A turn of a controller that has taken its input makes moves. -/
theorem Reaches.turn (h : Reaches config (fun _ => true) x) {c : Controller}
    {i : Controller.Input} (hc : x.controller = (c.take i).1)
    (hgone : c.transportGone = !x.station.isRunning) (hgoes : c.ending? = none)
    (now : Nat) :
    ∃ y, Reaches config (fun _ => true) y ∧ y.controller = (c.turn now i).1 ∧
      y.station = x.station ∧ y.signals = x.signals ∧
      y.orders.map (·.2) = x.orders.map (·.2) ++ Controller.orders (c.turn now i).2 ∧
      (x.station.isRunning = false → Controller.orders (c.turn now i).2 = []) := by
  have hkept : x.controller.transportGone = !x.station.isRunning := by
    rw [hc, Controller.take_transportGone, hgone]
  obtain ⟨y, l, hy, hcontroller, hstation, hsignals, horders, houtputs, hstopped⟩ :=
    h.executeOnto hkept now x.controller.effort []
  have hturn : c.turn now i =
      ((x.controller.execute now).1, (c.take i).2 ++ (x.controller.execute now).2) := by
    simp [Controller.turn, hgoes, hc]
  have hgiven : Controller.orders (c.turn now i).2 = l := by
    rw [hturn, Controller.orders_append, (c.follows_take i).2, Controller.execute, houtputs]
    rfl
  rw [hgiven]
  exact ⟨y, hy, by rw [hturn, hcontroller]; rfl, hstation, hsignals, horders, hstopped⟩

end Coupling

/-! ## Agents -/

/-- The controller of an agent has come to its end, or a coupling that can come
about shows the agent. -/
def Agent.IsShown (config : Config) (a : Agent) : Prop :=
  (∃ d, a.desk? = some d ∧ d.isRunning = false) ∨
    ∃ x d, Coupling.Reaches config (fun _ => true) x ∧ x.Shows a d

/-- What a desk gives to its controller, and what it does to it before. -/
theorem Desk.nextInput?_spec {d d' : Desk} {clock : Clock} {now : Nat} {signal? : Option Signal}
    {running : Bool} {input : Controller.Input} {early : List Controller.Output}
    (h : d.nextInput? clock now signal? running = some (input, d', early)) :
    d.isRunning = true ∧
      (∃ timers, d'.controller = { d.controller with timers }) ∧
      ((∃ s, input = .signal s ∧ signal? = some s) ∨ Coupling.isOuter input = true ∨
        input = .signalsClosed ∨ input = .commandsClosed) := by
  unfold Desk.nextInput? at h
  split at h
  · cases h
  · next hrunning =>
      refine ⟨by simpa using hrunning, ?_⟩
      split at h
      · cases h
        exact ⟨⟨_, rfl⟩, .inr (.inl rfl)⟩
      · split at h
        · cases h
          exact ⟨⟨_, rfl⟩, .inl ⟨_, rfl, rfl⟩⟩
        · split at h
          · cases h
            exact ⟨⟨_, rfl⟩, .inr (.inr (.inl rfl))⟩
          · dsimp only at h
            split at h
            · cases h
              exact ⟨⟨_, rfl⟩, .inr (.inl rfl)⟩
            · cases h
              exact ⟨⟨_, rfl⟩, .inr (.inl rfl)⟩
            · split at h
              · cases h
                exact ⟨⟨_, rfl⟩, .inr (.inr (.inr rfl))⟩
              · split at h
                · cases h
                  exact ⟨⟨_, rfl⟩, .inr (.inl rfl)⟩
                · cases h

/-- The end of a queue ends the run of the controller. -/
theorem Controller.ending?_turn_of_closed {c : Controller} (hgoes : c.ending? = none)
    {i : Input} (hi : i = .signalsClosed ∨ i = .commandsClosed) (now : Nat) :
    (c.turn now i).1.ending?.isSome = true := by
  have hover : ∀ (c : Controller) fuel done, c.ending?.isSome = true →
      (executeOnto now fuel done c).1 = c := by
    intro c fuel done hended
    cases fuel with
    | zero => rfl
    | succ fuel => simp [executeOnto, performNext?, hended]
  have hclosed : (c.take i).1.ending?.isSome = true := by
    rcases hi with rfl | rfl <;> rfl
  simp only [turn, hgoes, Option.isSome_none, Bool.false_eq_true, if_false, execute]
  rw [hover _ _ _ hclosed]
  exact hclosed

/-- An agent queues orders. -/
structure Agent.Collects (a b : Agent) (given : List Order) : Prop where
  station : b.station = a.station
  signals : b.signals = a.signals
  ordersOpen : b.ordersOpen = a.ordersOpen
  signalsOpen : b.signalsOpen = a.signalsOpen
  orders : b.orders.toList = a.orders.toList ++ given

theorem Agent.Collects.trans {a b c : Agent} {given given' : List Order}
    (h : a.Collects b given) (h' : b.Collects c given') :
    a.Collects c (given ++ given') := by
  constructor
  · exact h'.station.trans h.station
  · exact h'.signals.trans h.signals
  · exact h'.ordersOpen.trans h.ordersOpen
  · exact h'.signalsOpen.trans h.signalsOpen
  · rw [h'.orders, h.orders, List.append_assoc]

theorem Agent.collects_collect {a : Agent} (hopen : a.ordersOpen = true)
    (output : Controller.Output)
    (hrunning : Controller.orders [output] ≠ [] → a.station.isRunning = true) :
    a.Collects (a.collect output) (Controller.orders [output]) := by
  cases output with
  | order o =>
      have hpush : a.collect (.order o) = { a with orders := a.orders.push o } := by
        simp [collect, order, hopen, hrunning nofun]
      rw [hpush]
      exact ⟨rfl, rfl, rfl, rfl, Fifo.toList_push _ _⟩
  | payload m | status s | record r | note n =>
      exact ⟨rfl, rfl, rfl, rfl, (List.append_nil _).symm⟩

theorem Agent.collects_foldl {a : Agent} (hopen : a.ordersOpen = true)
    (outputs : List Controller.Output)
    (hrunning : Controller.orders outputs ≠ [] → a.station.isRunning = true) :
    a.Collects (outputs.foldl collect a) (Controller.orders outputs) := by
  induction outputs generalizing a with
  | nil => exact ⟨rfl, rfl, rfl, rfl, (List.append_nil _).symm⟩
  | cons output rest ih =>
      have hsplit : Controller.orders (output :: rest) =
          Controller.orders [output] ++ Controller.orders rest :=
        Controller.orders_append [output] rest
      rw [hsplit] at hrunning ⊢
      have hfirst : a.Collects (a.collect output) (Controller.orders [output]) := by
        apply collects_collect hopen
        intro hsome
        exact hrunning (by simp [hsome])
      have hrest : (a.collect output).Collects (rest.foldl collect (a.collect output))
          (Controller.orders rest) := by
        apply ih (hfirst.ordersOpen.trans hopen)
        intro hsome
        rw [hfirst.station]
        exact hrunning (by simp [hsome])
      exact hfirst.trans hrest

theorem Agent.exists_desk_foldl_collect {a : Agent} {d : Desk} (hd : a.desk? = some d)
    (outputs : List Controller.Output) :
    ∃ e, (outputs.foldl collect a).desk? = some e ∧ e.controller = d.controller := by
  induction outputs generalizing a d with
  | nil => exact ⟨d, hd, rfl⟩
  | cons output rest ih =>
      have hfirst : ∃ e, (a.collect output).desk? = some e ∧ e.controller = d.controller := by
        cases output with
        | order o =>
            simp only [collect, order]
            split <;> exact ⟨d, hd, rfl⟩
        | payload m =>
            exact ⟨{ d with payloads := m :: d.payloads }, by simp [collect, hd], rfl⟩
        | status s => exact ⟨{ d with status := s }, by simp [collect, hd], rfl⟩
        | record r | note n => exact ⟨d, hd, rfl⟩
      obtain ⟨e, he, hsame⟩ := hfirst
      obtain ⟨e', he', hsame'⟩ := ih he
      exact ⟨e', he', hsame'.trans hsame⟩

/-- A turn of a controller that goes on makes moves. -/
theorem Agent.isShown_foldl_collect {config : Config} {x : Coupling}
    (h : Coupling.Reaches config (fun _ => true) x) {c : Controller}
    {i : Controller.Input} {now : Nat} (hc : x.controller = (c.take i).1)
    (hgone : c.transportGone = !x.station.isRunning) (hbefore : c.ending? = none)
    (hgoes : (c.turn now i).1.ending? = none) {a : Agent} {d : Desk}
    (hdesk : a.desk? = some d) (hd : d.controller = (c.turn now i).1)
    (hstation : x.station = a.station) (horders : x.orders.map (·.2) = a.orders.toList)
    (hsignals : x.signals.map (·.2) = a.signals.toList)
    (hopen : a.ordersOpen = true ∧ a.signalsOpen = true) :
    ((c.turn now i).2.foldl collect a).IsShown config := by
  obtain ⟨y, hy, hcontroller, hstation', hsignals', horders', hstopped⟩ :=
    h.turn hc hgone hbefore now
  have hrunning : Controller.orders (c.turn now i).2 ≠ [] → a.station.isRunning = true := by
    intro hsome
    by_contra hover
    exact hsome (hstopped (hstation ▸ Bool.eq_false_iff.mpr hover))
  have hcollects := collects_foldl hopen.1 (c.turn now i).2 hrunning
  obtain ⟨e, he, hsame⟩ := exists_desk_foldl_collect hdesk (c.turn now i).2
  have hpending : (c.turn now i).1.pending.toList = [] := by
    have hturn : (c.turn now i).1 = ((c.take i).1.execute now).1 := by
      simp [Controller.turn, hbefore]
    rw [hturn] at hgoes ⊢
    exact Controller.pending_execute _ now hgoes
  refine .inr ⟨y, e, hy, he, ?_, ?_, ⟨y.controller.transportGone, ?_⟩, ?_, ?_, ?_,
    hcollects.ordersOpen.trans hopen.1, hcollects.signalsOpen.trans hopen.2⟩
  · rw [hsame, hd, hgoes]
  · rw [hsame, hd, hpending]
  · rw [hsame, hd, ← hcontroller]
  · rw [hstation', hstation, hcollects.station]
  · rw [horders', horders, hcollects.orders]
  · rw [hsignals', hsignals, hcollects.signals]

/-- The last turn may leave actions behind, and nothing is shown after it. -/
theorem Agent.isShown_hangUp {config : Config} {a : Agent} {d : Desk}
    (hdesk : a.desk? = some d) (hended : d.isRunning = false)
    (outputs : List Controller.Output) :
    (outputs.foldl collect a).hangUp.IsShown config := by
  obtain ⟨e, he, hsame⟩ := exists_desk_foldl_collect hdesk outputs
  refine .inl ⟨e, he, ?_⟩
  rw [Desk.isRunning, hsame]
  exact hended

/-- The signals left when the controller has been given an input. -/
def Agent.signalsAfter (a : Agent) : Controller.Input → Fifo Signal
  | .signal _ => a.signals.pop?.elim a.signals (·.2)
  | _ => a.signals

theorem Agent.deskTurn?_spec {a b : Agent} {clock : Clock} {now : Nat} {notes : List Note}
    (h : a.deskTurn? clock now = some (b, notes)) :
    ∃ d d' input early, a.desk? = some d ∧
      d.nextInput? clock now (a.signals.pop?.map (·.1)) a.station.isRunning =
        some (input, d', early) ∧
      ∃ c e, c = { d'.controller with transportGone := !a.station.isRunning } ∧
        e = { d' with controller := (c.turn now input).1 } ∧
        b = if e.isRunning then
            (c.turn now input).2.foldl collect
              { a with signals := a.signalsAfter input, desk? := some e }
          else
            ((c.turn now input).2.foldl collect
              { a with signals := a.signalsAfter input, desk? := some e }).hangUp := by
  unfold deskTurn? at h
  split at h
  · cases h
  · next d hdesk =>
      dsimp only at h
      split at h
      · cases h
      · next input d' early hnext =>
          simp only [Desk.turn, Option.some.injEq, Prod.mk.injEq] at h
          obtain ⟨rfl, -⟩ := h
          refine ⟨d, d', input, early, hdesk, hnext, _, _, rfl, rfl, ?_⟩
          cases input with
          | signal s =>
              unfold signalsAfter
              cases a.signals.pop? <;> rfl
          | _ => rfl

/-- A turn of the controller makes moves, unless it is its last. -/
theorem Agent.IsShown.deskTurn? {config : Config} {a b : Agent} (h : a.IsShown config)
    {clock : Clock} {now : Nat} {notes : List Note}
    (hturn : a.deskTurn? clock now = some (b, notes)) :
    b.IsShown config := by
  obtain ⟨d, d', input, early, hdesk, hnext, c, e, hc, he, rfl⟩ := deskTurn?_spec hturn
  obtain ⟨hrunning, ⟨timers, htimers⟩, hinput⟩ := Desk.nextInput?_spec hnext
  rcases h with ⟨d₀, hdesk₀, hended⟩ | ⟨x, d₀, hreaches, hshows⟩
  · cases hdesk.symm.trans hdesk₀
    rw [hrunning] at hended
    cases hended
  cases hdesk.symm.trans hshows.desk
  obtain ⟨gone, hcontroller⟩ := hshows.controller
  let x₁ : Coupling := { x with controller := { x.controller with timers } }
  have hx₁ : Coupling.Reaches config (fun _ => true) x₁ :=
    hreaches.move (m := .elapse timers) rfl rfl
  have hinformed : x₁.informed = c := by
    simp only [x₁, hc, Coupling.informed, hcontroller, htimers, hshows.station]
  have hready : x₁.isReady = true := by
    have hempty := Fifo.isEmpty_iff.mpr hshows.pending
    simp [x₁, Coupling.isReady, hcontroller, hshows.going, hempty]
  have hbefore : c.ending? = none := by
    simp only [hc, htimers, hshows.going]
  have hgone : c.transportGone = !x.station.isRunning := by
    rw [hc, hshows.station]
  have hopen := And.intro hshows.ordersOpen hshows.signalsOpen
  have hgoing : e.isRunning = (c.turn now input).1.ending?.isNone := by
    rw [he]
    rfl
  cases hgoes : (c.turn now input).1.ending? with
  | some ending =>
      have hended : e.isRunning = false := by
        rw [hgoing, hgoes]
        rfl
      rw [hended]
      exact isShown_hangUp rfl hended _
  | none =>
      rw [if_pos (by rw [hgoing, hgoes]; rfl)]
      rcases hinput with ⟨s, rfl, hs⟩ | houter | hclosed
      · obtain ⟨⟨s', rest⟩, hpop, rfl⟩ := Option.map_eq_some_iff.mp hs
        have hlist := Fifo.toList_of_pop? hpop
        rw [← hshows.signals] at hlist
        obtain ⟨p, later, hsignals, hp, hlater⟩ := List.map_eq_cons_iff.mp hlist
        have hmove : x₁.next? .signal = some { x₁ with
            controller := (c.take (.signal p.2)).1
            signals := later
            view? := Coupling.viewAfter x₁.view? p } := by
          have hsignals₁ : x₁.signals = p :: later := hsignals
          simp only [Coupling.next?, hsignals₁, hready, if_true, hinformed]
        have hafter : (a.signalsAfter (.signal s')) = rest := by
          rw [signalsAfter, hpop]
          rfl
        rw [hafter]
        exact isShown_foldl_collect (hx₁.move hmove rfl) (by rw [hp]) hgone hbefore hgoes
          rfl (by rw [he]) hshows.station hshows.orders hlater hopen
      · have hmove : x₁.next? (.input input) = some { x₁ with
            controller := (c.take input).1 } := by
          simp only [Coupling.next?, hready, houter, Bool.and_self, if_true, hinformed]
        have hafter : a.signalsAfter input = a.signals := by
          cases input with
          | signal s => cases houter
          | _ => rfl
        rw [hafter]
        exact isShown_foldl_collect (hx₁.move hmove rfl) rfl hgone hbefore hgoes rfl
          (by rw [he]) hshows.station hshows.orders hshows.signals hopen
      · have hended := Controller.ending?_turn_of_closed hbefore hclosed now
        rw [hgoes] at hended
        cases hended

/-! ## Stations and sessions -/

theorem Agent.foldl_signal {a : Agent} (hopen : a.signalsOpen = true) (l : List Signal) :
    l.foldl signal a = { a with signals := a.signals.append l } := by
  induction l generalizing a with
  | nil => rfl
  | cons s rest ih =>
      have hpush : a.signal s = { a with signals := a.signals.push s } := if_pos hopen
      rw [List.foldl_cons, hpush, ih (a := { a with signals := a.signals.push s }) hopen]
      rfl

theorem Agent.desk?_foldl_signal (a : Agent) (l : List Signal) :
    (l.foldl signal a).desk? = a.desk? := by
  induction l generalizing a with
  | nil => rfl
  | cons s rest ih =>
      rw [List.foldl_cons, ih]
      unfold signal
      split <;> rfl

/-- The station does something and has taken an order before, or none. -/
theorem Coupling.Shows.settle {x : Coupling} {a : Agent} {d : Desk} (h : x.Shows a d)
    {orders : List (Option Nat × Order)} {queue : Fifo Order}
    (horders : orders.map (·.2) = queue.toList) (meant? : Option Nat)
    (r : Station.Result) :
    (Coupling.settle { x with orders } meant? r).Shows
      ((Transport.signals r.2).foldl Agent.signal
        { a with orders := queue, station := r.1 }) d := by
  rw [Agent.foldl_signal (a := { a with orders := queue, station := r.1 }) h.signalsOpen]
  refine ⟨h.desk, h.going, h.pending, h.controller, rfl, horders, ?_, h.ordersOpen,
    h.signalsOpen⟩
  simp [Coupling.settle, h.signals, Function.comp_def]

/-- A station takes an order off the queue of its agent, or something else. -/
def Agent.Offers (a : Agent) (queue : Fifo Order) (i : Station.Input) : Prop :=
  (∃ o, i = .order o ∧ a.orders.toList = o :: queue.toList) ∨
    (∀ o, i ≠ .order o) ∧ queue = a.orders

/-- Whatever a station takes makes a move. -/
theorem Agent.IsShown.take? {config : Config} {a : Agent} (h : a.IsShown config)
    {queue : Fifo Order} {clock : Clock} {now : Nat} {r : Station.Result}
    (htake : a.ordersOpen = true → ∃ i : Station.Input, a.Offers queue i ∧
      a.station.take? clock now i = some r) :
    ((Transport.signals r.2).foldl signal { a with orders := queue, station := r.1 }).IsShown
      config := by
  rcases h with ⟨d, hdesk, hended⟩ | ⟨x, d, hreaches, h⟩
  · exact .inl ⟨d, (desk?_foldl_signal _ _).trans hdesk, hended⟩
  obtain ⟨i, hi, hr⟩ := htake h.ordersOpen
  rw [← h.station] at hr
  rcases hi with ⟨o, rfl, hqueue⟩ | ⟨hi, rfl⟩
  · rw [← h.orders] at hqueue
    obtain ⟨p, rest, horders, rfl, hrest⟩ := List.map_eq_cons_iff.mp hqueue
    have hmove : x.next? (.order clock now) =
        some (Coupling.settle { x with orders := rest } p.1 r) := by
      simp only [Coupling.next?, horders, hr, Option.map_some]
    exact .inr ⟨_, d, hreaches.move hmove rfl, h.settle hrest p.1 r⟩
  · have hmove : x.next? (.station clock now i) = some (x.settle x.reporter? r) := by
      cases i with
      | order o => exact absurd rfl (hi o)
      | _ => simp only [Coupling.next?, hr, Option.map_some]
    exact .inr ⟨_, d, hreaches.move hmove rfl, h.settle h.orders x.reporter? r⟩

/-- A move of a session is a move. -/
theorem Agent.IsShown.move? {config : Config} {a : Agent} (h : a.IsShown config)
    {id : Nat} {m : Session.Move} {r : Station.Result}
    (hr : a.station.move? id m = some r) :
    ((Transport.signals r.2).foldl signal { a with station := r.1 }).IsShown config := by
  rcases h with ⟨d, hdesk, hended⟩ | ⟨x, d, hreaches, h⟩
  · exact .inl ⟨d, (desk?_foldl_signal _ _).trans hdesk, hended⟩
  rw [← h.station] at hr
  have hmove : x.next? (.session id m) = some (x.settle none r) := by
    simp only [Coupling.next?, hr, Option.map_some]
  exact .inr ⟨_, d, hreaches.move hmove rfl, h.settle h.orders none r⟩

/-! ## Commands -/

theorem Desk.command_controller (d : Desk) (c : Command) :
    (d.command c).controller = d.controller := by
  unfold Desk.command
  split <;> rfl

/-- The application gives commands at any time. -/
theorem Agent.IsShown.command {config : Config} {a : Agent} (h : a.IsShown config)
    (c : Command) : (a.command c).IsShown config := by
  rcases h with ⟨d, hdesk, hended⟩ | ⟨x, d, hreaches, hx⟩
  · refine .inl ⟨d.command c, by simp [Agent.command, hdesk], ?_⟩
    rw [Desk.isRunning, d.command_controller]
    exact hended
  · refine .inr ⟨x, d.command c, hreaches, by simp [Agent.command, hx.desk], ?_, ?_, ?_,
      hx.station, hx.orders, hx.signals, hx.ordersOpen, hx.signalsOpen⟩
    · rw [d.command_controller, hx.going]
    · rw [d.command_controller, hx.pending]
    · rw [d.command_controller]
      exact hx.controller

end FlightLink
