import FlightLink.Host
import FlightLink.Proofs.Coupling.Agents
import FlightLink.Proofs.Coupling.Release

/-!
# Hosts make moves

A host runs the controller and the station of an agent as two of its tasks, and
the halves of sessions as further ones.  Whatever the tasks of a host do, and
whichever order they take turns in, is a number of moves of a coupling.  So what
holds of all couplings that can come about holds of the agents of a host.
-/

namespace FlightLink

open Transport

namespace Host

variable {h h' : Host} {i j : Nat}

theorem agents_modifyAgent (h : Host) (i j : Nat) (f : Agent → Agent) :
    (h.modifyAgent j f).agents[i]? = if j = i then h.agents[i]?.map f else h.agents[i]? :=
  Array.getElem?_modify

theorem agents_foldl_carryOut (h : Host) (i j : Nat) (outputs : List Output) :
    (outputs.foldl (carryOut · j) h).agents[i]? =
      if j = i then
        h.agents[i]?.map fun a => (Transport.signals outputs).foldl Agent.signal a
      else h.agents[i]? := by
  induction outputs generalizing h with
  | nil => simp [Transport.signals]
  | cons output rest ih =>
      rw [List.foldl_cons, ih]
      cases output with
      | signal s =>
          rw [carryOut, agents_modifyAgent]
          split
          · simp [Transport.signals, Transport.Output.signal?, Function.comp_def]
          · rfl
      | note n | finish s | close s | unlisten l => rfl

theorem agents_settleStation (h : Host) (i j : Nat) (r : Station.Result) :
    (h.settleStation j r).agents[i]? =
      if j = i then
        h.agents[i]?.map fun a =>
          (Transport.signals r.2).foldl Agent.signal { a with station := r.1 }
      else h.agents[i]? := by
  rw [settleStation, agents_foldl_carryOut, agents_modifyAgent]
  split
  · simp [Function.comp_def]
  · rfl

theorem nextOrder?_spec {a a' : Agent} {o? : Option Order}
    (h : nextOrder? a = some (o?, a')) :
    ∃ queue, a' = { a with orders := queue } ∧
      (a.ordersOpen = true → ∃ o, o? = some o ∧ a.orders.toList = o :: queue.toList) := by
  unfold nextOrder? at h
  split at h
  · next o rest hpop =>
      cases h
      exact ⟨rest, rfl, fun _ => ⟨o, rfl, Fifo.toList_of_pop? hpop⟩⟩
  · split at h
    · cases h
    · next hclosed =>
        cases h
        exact ⟨a.orders, rfl, fun hopen => absurd hopen hclosed⟩

theorem clientInput?_spec {a a' : Agent} {c : Client} {input : Client.Input}
    {network : Network} (hinput : h.clientInput? a c = some (input, a', network)) :
    ∃ queue, a' = { a with orders := queue } ∧
      (a.ordersOpen = true → ∃ i : Station.Input,
        i.client? = some input ∧ a.Offers queue i) := by
  have hsame : ∀ i : Station.Input, i.client? = some input → (∀ o, i ≠ .order o) →
      ∃ queue, a = { a with orders := queue } ∧
        (a.ordersOpen = true → ∃ i : Station.Input,
          i.client? = some input ∧ a.Offers queue i) :=
    fun i hi hno => ⟨a.orders, rfl, fun _ => ⟨i, hi, .inr ⟨hno, rfl⟩⟩⟩
  unfold clientInput? at hinput
  split at hinput
  · split at hinput
    · cases hinput
      exact hsame .report rfl nofun
    · obtain ⟨⟨o?, b⟩, hnext, heq⟩ := Option.map_eq_some_iff.mp hinput
      cases heq
      obtain ⟨queue, rfl, horder⟩ := nextOrder?_spec hnext
      refine ⟨queue, rfl, fun hopen => ?_⟩
      obtain ⟨o, rfl, hqueue⟩ := horder hopen
      exact ⟨.order o, rfl, .inl ⟨o, rfl, hqueue⟩⟩
  · cases hinput
    exact hsame (.resolved _) rfl nofun
  · cases hinput
    exact hsame (.dialled _) rfl nofun
  · split at hinput
    · cases hinput
      exact hsame .timedOut rfl nofun
    · cases hinput
  · cases hinput

theorem serverInput?_spec {a a' : Agent} {s : Server} {input : Server.Input}
    {network : Network} (hinput : h.serverInput? a s = some (input, a', network)) :
    ∃ queue, a' = { a with orders := queue } ∧
      (a.ordersOpen = true → ∃ i : Station.Input,
        i.server? = some input ∧ a.Offers queue i) := by
  have hsame : ∀ i : Station.Input, i.server? = some input → (∀ o, i ≠ .order o) →
      ∃ queue, a = { a with orders := queue } ∧
        (a.ordersOpen = true → ∃ i : Station.Input,
          i.server? = some input ∧ a.Offers queue i) :=
    fun i hi hno => ⟨a.orders, rfl, fun _ => ⟨i, hi, .inr ⟨hno, rfl⟩⟩⟩
  unfold serverInput? at hinput
  split at hinput
  · split at hinput
    · cases hinput
      exact hsame .report rfl nofun
    · split at hinput
      · next o? b hnext =>
          cases hinput
          obtain ⟨queue, rfl, horder⟩ := nextOrder?_spec hnext
          refine ⟨queue, rfl, fun hopen => ?_⟩
          obtain ⟨o, rfl, hqueue⟩ := horder hopen
          exact ⟨.order o, rfl, .inl ⟨o, rfl, hqueue⟩⟩
      · split at hinput
        · cases hinput
          exact hsame (.bound _) rfl nofun
        · obtain ⟨⟨answer, n⟩, -, heq⟩ := Option.map_eq_some_iff.mp hinput
          cases heq
          exact hsame (.accepted _) rfl nofun
  · cases hinput

theorem stationTurn?_spec (hturn : h.stationTurn? j = some h') :
    ∃ a queue r network, h.agents[j]? = some a ∧
      h' = settleStation
        { h.modifyAgent j fun _ => { a with orders := queue } with network } j r ∧
      (a.ordersOpen = true → ∃ input, a.Offers queue input ∧
        a.station.take? h.clock h.now input = some r) := by
  unfold stationTurn? at hturn
  obtain ⟨a, ha, hturn⟩ := Option.bind_eq_some_iff.mp hturn
  split at hturn
  · next c hstation =>
      obtain ⟨⟨input, b, network⟩, hinput, hturn⟩ := Option.bind_eq_some_iff.mp hturn
      obtain ⟨⟨c', outputs⟩, htake, hturn⟩ := Option.bind_eq_some_iff.mp hturn
      obtain ⟨queue, rfl, hoffers⟩ := clientInput?_spec hinput
      cases hturn
      refine ⟨a, queue, _, network, ha, rfl, fun hopen => ?_⟩
      obtain ⟨i, hi, hoffers⟩ := hoffers hopen
      refine ⟨i, hoffers, ?_⟩
      simp only [hstation, Station.take?, hi, Option.bind_some, htake, Option.map_some]
  · next s hstation =>
      obtain ⟨⟨input, b, network⟩, hinput, hturn⟩ := Option.bind_eq_some_iff.mp hturn
      obtain ⟨⟨s', outputs⟩, htake, hturn⟩ := Option.bind_eq_some_iff.mp hturn
      obtain ⟨queue, rfl, hoffers⟩ := serverInput?_spec hinput
      cases hturn
      refine ⟨a, queue, _, network, ha, rfl, fun hopen => ?_⟩
      obtain ⟨i, hi, hoffers⟩ := hoffers hopen
      refine ⟨i, hoffers, ?_⟩
      simp only [hstation, Station.take?, hi, Option.bind_some, htake, Option.map_some]

/-- An agent of a host is one of the configuration. -/
def Shows (h : Host) (config : Config) (i : Nat) : Prop :=
  ∃ a, h.agents[i]? = some a ∧ a.IsShown config

theorem Shows.congr {config : Config} (hshows : h.Shows config i)
    (hagents : h'.agents[i]? = h.agents[i]?) : h'.Shows config i := by
  obtain ⟨a, ha, hshown⟩ := hshows
  exact ⟨a, hagents.trans ha, hshown⟩

/-- One agent of a host changes. -/
theorem Shows.change {config : Config} (hshows : h.Shows config i) {f : Agent → Agent}
    (hagents : h'.agents[i]? = if j = i then h.agents[i]?.map f else h.agents[i]?)
    (hf : ∀ a, h.agents[j]? = some a → a.IsShown config → (f a).IsShown config) :
    h'.Shows config i := by
  by_cases hij : j = i
  · subst hij
    obtain ⟨a, ha, hshown⟩ := hshows
    rw [if_pos rfl, ha] at hagents
    exact ⟨f a, hagents, hf a ha hshown⟩
  · rw [if_neg hij] at hagents
    exact hshows.congr hagents

/-- A step of the controller of an agent. -/
theorem Shows.deskTurn? {config : Config} (hshows : h.Shows config i)
    (hturn : h.deskTurn? j = some h') : h'.Shows config i := by
  unfold Host.deskTurn? at hturn
  obtain ⟨a, ha, hturn⟩ := Option.bind_eq_some_iff.mp hturn
  obtain ⟨⟨b, notes⟩, hdesk, hturn⟩ := Option.bind_eq_some_iff.mp hturn
  cases hturn
  refine hshows.change (h.agents_modifyAgent i j fun _ => b) ?_
  intro a' ha' hshown
  cases ha.symm.trans ha'
  exact hshown.deskTurn? hdesk

/-- A step of the station of an agent. -/
theorem Shows.stationTurn? {config : Config} (hshows : h.Shows config i)
    (hturn : h.stationTurn? j = some h') : h'.Shows config i := by
  obtain ⟨a, queue, r, network, ha, rfl, htake⟩ := stationTurn?_spec hturn
  let h₁ : Host := { h.modifyAgent j fun _ => { a with orders := queue } with network }
  have hmodified := h.agents_modifyAgent i j fun _ => { a with orders := queue }
  let after : Agent := { a with orders := queue, station := r.1 }
  refine hshows.change (j := j)
    (f := fun _ => (Transport.signals r.2).foldl Agent.signal after) ?_ ?_
  · rw [agents_settleStation h₁ i j r]
    split
    · next hij =>
        rw [if_pos hij] at hmodified
        rw [hmodified, Option.map_map]
        rfl
    · next hij =>
        rw [if_neg hij] at hmodified
        exact hmodified
  · intro a' ha' hshown
    cases ha.symm.trans ha'
    exact hshown.take? htake

/-- A step of a session of an agent. -/
theorem Shows.sessionTurn? {config : Config} (hshows : h.Shows config i) {id : Nat}
    {next? : Station → Session → Option (Session.Move × Network)}
    (hturn : h.sessionTurn? j id next? = some h') : h'.Shows config i := by
  unfold Host.sessionTurn? at hturn
  obtain ⟨a, ha, hturn⟩ := Option.bind_eq_some_iff.mp hturn
  obtain ⟨s, -, hturn⟩ := Option.bind_eq_some_iff.mp hturn
  obtain ⟨⟨m, network⟩, -, hturn⟩ := Option.bind_eq_some_iff.mp hturn
  obtain ⟨r, hr, hturn⟩ := Option.bind_eq_some_iff.mp hturn
  cases hturn
  refine hshows.change (agents_settleStation { h with network } i j r) ?_
  intro a' ha' hshown
  cases ha.symm.trans ha'
  exact hshown.move? hr

/-- Whatever a task of a host does is a number of moves. -/
theorem Shows.turn? {config : Config} (hshows : h.Shows config i) {t : Task}
    (hturn : h.turn? t = some h') : h'.Shows config i := by
  cases t with
  | desk j => exact hshows.deskTurn? hturn
  | reader j id | writer j id =>
      simp only [Host.turn?] at hturn
      exact hshows.sessionTurn? hturn
  | station j => exact hshows.stationTurn? hturn
  | doorkeeper listener =>
      simp only [Host.turn?, doorTurn?] at hturn
      obtain ⟨⟨answer, network⟩, -, hturn⟩ := Option.bind_eq_some_iff.mp hturn
      refine hshows.congr ?_
      cases answer <;> cases hturn <;> rfl
  | guest n =>
      simp only [Host.turn?, guestTurn?] at hturn
      obtain ⟨g, -, hturn⟩ := Option.bind_eq_some_iff.mp hturn
      obtain ⟨⟨g', network⟩, -, hturn⟩ := Option.bind_eq_some_iff.mp hturn
      cases hturn
      exact hshows

theorem Shows.run {config : Config} (hshows : h.Shows config i) (t : Task)
    (fuel : Nat) : (Host.run t fuel h).Shows config i := by
  induction fuel generalizing h with
  | zero => exact hshows
  | succ fuel ih =>
      rw [Host.run]
      split
      · exact hshows
      · next h₁ hturn => exact ih (hshows.turn? hturn)

theorem Shows.settleWith {config : Config} (hshows : h.Shows config i) (fuel : Nat) :
    (Host.settleWith fuel h).Shows config i := by
  induction fuel generalizing h with
  | zero => exact hshows
  | succ fuel ih =>
      rw [Host.settleWith]
      split
      · exact hshows
      · next t rest hready =>
          have hbefore : ({ h with ready := rest } : Host).Shows config i := hshows
          exact ih (hbefore.run t patience)

/-- A host comes to rest by moves. -/
theorem Shows.settle {config : Config} (hshows : h.Shows config i) :
    h.settle.Shows config i :=
  Shows.settleWith (h := h.awaken) hshows patience

/-- The application gives commands to agents of a host. -/
theorem Shows.command {config : Config} (hshows : h.Shows config i) (c : Command) :
    (h.modifyAgent j (·.command c)).Shows config i :=
  hshows.change (h.agents_modifyAgent i j (·.command c)) fun _ _ hshown => hshown.command c

/-- A new agent has not moved. -/
theorem shows_install (h : Host) (config : Config) (now : Nat) :
    (h.install (.ofConfig config now)).Shows config h.agents.size := by
  refine ⟨.ofConfig config now, by simp [install], .inr ⟨.ofConfig config,
    .ofConfig config now, .init rfl, rfl, rfl, rfl, ⟨false, rfl⟩, rfl, rfl, rfl, rfl, rfl⟩⟩

/-- An agent of a host whose controller goes on holds no message once nothing is
on its way between its controller, its station and its session. -/
theorem Shows.held_eq_nil {config : Config} (hshows : h.Shows config i) {a : Agent}
    {d : Desk} (ha : h.agents[i]? = some a) (hdesk : a.desk? = some d)
    (hrunning : d.isRunning = true) (horders : a.orders.isEmpty = true)
    (hsignals : a.signals.isEmpty = true)
    (hquiet : a.station.link.isQuiet = true) :
    d.controller.channel.awaiting = 0 ∧ d.controller.channel.held = #[] := by
  obtain ⟨a', ha', hshown⟩ := hshows
  cases ha.symm.trans ha'
  rcases hshown with ⟨d', hdesk', hended⟩ | ⟨x, d', hreaches, hx⟩
  · cases hdesk.symm.trans hdesk'
    rw [hrunning] at hended
    cases hended
  · cases hdesk.symm.trans hx.desk
    obtain ⟨gone, hcontroller⟩ := hx.controller
    have hnone : x.orders = [] :=
      List.map_eq_nil_iff.mp (hx.orders.trans (Fifo.isEmpty_iff.mp horders))
    have hnone' : x.signals = [] :=
      List.map_eq_nil_iff.mp (hx.signals.trans (Fifo.isEmpty_iff.mp hsignals))
    have hrest : x.isAtRest = true := by
      simp [Coupling.isAtRest, hcontroller, hx.pending, hnone, hnone', hx.station,
        hquiet]
    have hreleases := hreaches.releases
    have hzero := hreleases.awaiting_eq_zero hrest
    have hheld := hreleases.holds.held_eq_nil hzero
    rw [hcontroller] at hzero hheld
    exact ⟨hzero, hheld⟩

end Host

end FlightLink
