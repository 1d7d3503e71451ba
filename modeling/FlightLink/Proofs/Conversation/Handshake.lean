import FlightLink.Proofs.Channel.Leads
import FlightLink.Proofs.Conversation.Moves
import FlightLink.Proofs.Conversation.Stages

/-!
# The handshake

A client and a server that expect each other's identification come to an
association on a new connection, whatever the order in which messages, events
and commands come.  Each step of a channel is one of the turns that a side may
take, because a side holds what it receives until the events of its own packets
have come back.  So the conversation goes from stage to stage, and the last one
is the only stage in which nothing is on the way.
-/

namespace FlightLink

/-- A channel without a connection that is to drive the association on. -/
structure Channel.Fresh (c : Channel) (r : Role) : Prop where
  role : c.role = r
  config : c.config.role = r
  state : c.state = .idle
  goal : c.goal = .dataReady
  awaiting : c.awaiting = 0
  held : c.held = #[]

/-- Two configurations in which each side expects the other one. -/
structure Config.Mirrors (a b : Config) : Prop where
  sender : a.localAtc = b.remoteAtc
  receiver : a.remoteAtc = b.localAtc

/-! ## What a side does -/

/-- A side that drives the association on and has nothing on hold. -/
structure Party.Attuned
    (ident : Role → Message) (r : Role) (p : Party) : Prop where
  role : p.channel.role = r
  own : p.channel.ownIdentification = ident r
  peer : p.channel.peerIdentification = ident r.peer
  goal : p.channel.goal = .dataReady
  held : p.channel.held = #[]
  awaiting : p.channel.awaiting = p.owed.length

/-- A step of a side that takes messages and is attuned before and after. -/
structure Party.Proceeds (ident : Role → Message) (r : Role) (s : State)
    (received : List Message) (p : Party) (o : Channel.Outcome) : Prop where
  attuned : (p.after o).Attuned ident r
  owes : o.channel.state.Owes r (p.after o).owed
  turn : Turn ident r s received o.channel.state (Effect.messages o.effects)

namespace Party.Attuned

variable {ident : Role → Message} {r : Role} {p : Party}

/-- What is on the way to a side makes no difference. -/
theorem with_inbox (h : p.Attuned ident r) (inbox : List Message) :
    { p with inbox }.Attuned ident r := by
  obtain ⟨hrole, hown, hpeer, hgoal, hheld, hawaiting⟩ := h
  exact ⟨hrole, hown, hpeer, hgoal, hheld, hawaiting⟩

theorem proceeds (h : p.Attuned ident r) {o : Channel.Outcome}
    {s s' : State} {received : List Message}
    {sent : List (Message × Option Event)}
    (hleads : p.channel.Leads o s' sent)
    (howes : s'.Owes r (p.owed ++ sent.filterMap Prod.snd))
    (hturn : Turn ident r s received s' (sent.map Prod.fst)) :
    p.Proceeds ident r s received o := by
  have hchannel := hleads.channel
  have howed : (p.after o).owed = p.owed ++ sent.filterMap Prod.snd := by
    rw [after, hleads.expected]
  refine ⟨⟨?_, ?_, ?_, ?_, ?_, ?_⟩, ?_, ?_⟩
  · rw [after, hchannel]
    exact h.role
  · rw [after, hchannel]
    exact h.own
  · rw [after, hchannel]
    exact h.peer
  · rw [after, hchannel]
    exact h.goal
  · rw [after, hchannel]
    exact h.held
  · rw [howed, after, hchannel, List.length_append, ← h.awaiting]
  · rw [howed, hchannel]
    exact howes
  · rw [hleads.messages, hchannel]
    exact hturn

theorem rest (h : p.Attuned ident r) (howes : p.channel.state.Owes r p.owed)
    {o : Channel.Outcome} (hleads : p.channel.Leads o p.channel.state []) :
    p.Proceeds ident r p.channel.state [] o :=
  h.proceeds hleads (by simpa using howes) (.rest _)

theorem confirm (h : p.Attuned ident r) (howes : p.channel.state.Owes r p.owed)
    {e : Event} {rest : List Event} (howed : p.owed = e :: rest) :
    { p with owed := rest }.Proceeds ident r p.channel.state []
      (p.channel.confirm e) := by
  let c := { p.channel with awaiting := p.channel.awaiting - 1 }
  have hawait : p.channel.awaiting ≠ 0 := by
    rw [h.awaiting, howed]
    exact Nat.succ_ne_zero _
  have hconfirm : p.channel.confirm e = c.raise e :=
    Channel.confirm_eq_raise hawait h.held e
  -- With nothing on hold, the event is only raised, and the side that awaits one
  -- event less is attuned as well.
  let p₁ : Party := { p with channel := c, owed := rest }
  have hp₁ : p₁.Attuned ident r := by
    refine ⟨h.role, h.own, h.peer, h.goal, h.held, ?_⟩
    have hlength := h.awaiting
    rw [howed, List.length_cons] at hlength
    exact Nat.sub_eq_of_eq_add hlength
  suffices hraise : p₁.Proceeds ident r p.channel.state [] (c.raise e) by
    rw [hconfirm]
    exact ⟨hraise.attuned, hraise.owes, hraise.turn⟩
  rw [howed] at howes
  have hrole : c.role = r := h.role
  cases hstate : p.channel.state with
  | connectionPending =>
      rw [hstate] at howes
      obtain ⟨rfl, hsetup⟩ := howes
      obtain ⟨rfl, rfl⟩ := List.cons_eq_cons.mp hsetup
      have hleads : c.Leads (c.raise .remoteSetup) .idPending [] :=
        Channel.leads_raise hstate (by rw [hrole]; rfl) rfl
      exact hp₁.proceeds hleads rfl .connect
  | ready =>
      rw [hstate] at howes
      obtain ⟨rfl, hrest⟩ := List.forall_mem_cons.mp howes.2
      have hleads : c.Leads (c.raise .localStartup) .associationPending [] :=
        Channel.leads_raise hstate (by cases c.role <;> rfl) rfl
      exact hp₁.proceeds hleads (by simpa [State.Owes] using hrest) .associate
  | associationPending =>
      rw [hstate] at howes
      obtain ⟨rfl, hrest⟩ := List.forall_mem_cons.mp howes
      have hleads : c.Leads (c.raise .localStartup) .associationPending [] :=
        Channel.leads_raise_of_ignored hstate (by cases c.role <;> rfl)
      exact hp₁.proceeds hleads (by simpa [State.Owes] using hrest) (.rest _)
  | dataReady =>
      rw [hstate] at howes
      obtain ⟨rfl, hrest⟩ := List.forall_mem_cons.mp howes
      have hleads : c.Leads (c.raise .localData) .dataReady [] :=
        Channel.leads_raise hstate (by cases c.role <;> rfl) rfl
      exact hp₁.proceeds hleads (by simpa [State.Owes] using hrest) (.rest _)
  | idle | systemIdPending | idPending | disabled =>
      rw [hstate] at howes
      cases howes

/-- The send timer expires, which has no consequence outside of an
association. -/
theorem expire (h : p.Attuned ident r) (howes : p.channel.state.Owes r p.owed) :
    p.Proceeds ident r p.channel.state [] (p.channel.timerExpired .send) := by
  by_cases hstate : p.channel.state = .dataReady
  · have hleads : p.channel.Leads (p.channel.raise .sendTimeout) .dataReady
        [(.heartbeat, none)] :=
      Channel.leads_raise hstate (by cases p.channel.role <;> rfl) rfl
    rw [hstate] at howes ⊢
    have htraffic : Message.heartbeat.IsTraffic := .inr (.inl rfl)
    exact h.proceeds (Channel.leads_timerExpired rfl hleads)
      (by simpa using howes) (.talk htraffic)
  · have hnext :
        Table.next? p.channel.role p.channel.state .sendTimeout = none := by
      cases hs : p.channel.state with
      | dataReady => exact absurd hs hstate
      | _ => cases p.channel.role <;> rfl
    have hleads := Channel.leads_raise_of_ignored rfl hnext
    exact h.rest howes (Channel.leads_timerExpired rfl hleads)

theorem data (h : p.Attuned ident r) (howes : p.channel.state.Owes r p.owed)
    (text : String) :
    p.Proceeds ident r p.channel.state [] (p.channel.obey (.data text)) := by
  by_cases hstate : p.channel.state = .dataReady
  · have hobey : p.channel.obey (.data text) =
        p.channel.send (.operational text) (some .localData) := if_pos hstate
    have hleads := p.channel.leads_send (.operational text) (some .localData)
    have htraffic : (Message.operational text).IsTraffic :=
      .inr (.inr ⟨text, rfl⟩)
    rw [hobey]
    rw [hstate] at hleads howes ⊢
    refine h.proceeds hleads ?_ (.talk htraffic)
    intro e he
    rcases List.mem_append.mp he with he | he
    · exact howes e he
    · exact List.mem_singleton.mp he
  · have hobey : p.channel.obey (.data text) = ⟨p.channel, _⟩ := if_neg hstate
    rw [hobey]
    exact h.rest howes (.same (by simp))

theorem startup (h : p.Attuned ident r) (howes : p.channel.state.Owes r p.owed) :
    p.Proceeds ident r p.channel.state [] (p.channel.obey .startup) := by
  have hgoal : { p.channel with goal := .dataReady } = p.channel := by
    rw [← h.goal]
  by_cases hstate : p.channel.state = .ready
  · have hobey : p.channel.obey .startup =
        p.channel.send .startup (some .localStartup) := by
      simp only [Channel.obey, hgoal, if_pos hstate]
    have hleads := p.channel.leads_send .startup (some .localStartup)
    rw [hobey]
    rw [hstate] at hleads howes ⊢
    refine h.proceeds hleads ⟨by simp, ?_⟩ .insist
    intro e he
    rcases List.mem_append.mp he with he | he
    · exact howes.2 e he
    · exact List.mem_singleton.mp he
  · simp only [Channel.obey, hgoal, if_neg hstate]
    exact h.rest howes (.same (by simp))

/-- A side that awaits nothing takes a message as its turn says. -/
theorem dispatch (h : p.Attuned ident r) (howed : p.owed = []) {s : State}
    {m : Message} {sent : List Message}
    (hturn : Turn ident r p.channel.state [m] s sent) :
    p.Proceeds ident r p.channel.state [m] (p.channel.dispatch m) := by
  have hidentification :
      p.channel.messageEvent? (ident r.peer) = some .remoteIdValid := by
    rw [← h.peer]
    exact p.channel.messageEvent?_peerIdentification
  generalize hstate : p.channel.state = s₀ at hturn ⊢
  cases hturn with
  | identify hrole =>
      subst hrole
      have hleads : p.channel.Leads (p.channel.raise .remoteIdValid) .idPending
          [(ident .server, none)] :=
        Channel.leads_raise hstate (by rw [h.role]; rfl) (by rw [h.own]; rfl)
      exact h.proceeds (Channel.leads_dispatch hidentification hleads)
        (by simpa [State.Owes] using howed) (.identify rfl)
  | accept hrole =>
      subst hrole
      have hleads : p.channel.Leads (p.channel.raise .remoteIdValid) .ready
          [(.accept, none), (.startup, some .localStartup)] :=
        Channel.leads_raise hstate (by rw [h.role]; rfl) (by rw [h.goal]; rfl)
      exact h.proceeds (Channel.leads_dispatch hidentification hleads)
        (by simp [State.Owes, howed]) (.accept rfl)
  | request hrole =>
      subst hrole
      have hleads : p.channel.Leads (p.channel.raise .remoteAccept) .ready
          [(.startup, some .localStartup)] :=
        Channel.leads_raise hstate (by rw [h.role]; rfl) (by rw [h.goal]; rfl)
      exact h.proceeds (Channel.leads_dispatch rfl hleads)
        (by simp [State.Owes, howed]) (.request rfl)
  | answer =>
      have hleads : p.channel.Leads (p.channel.raise .remoteStartup) .dataReady
          [(.startup, none)] :=
        Channel.leads_raise hstate (by cases p.channel.role <;> rfl) rfl
      exact h.proceeds (Channel.leads_dispatch rfl hleads)
        (by simp [State.Owes, howed]) .answer
  | hear hm =>
      have hleads : p.channel.Leads (p.channel.dispatch m) .dataReady [] := by
        rcases hm with rfl | rfl | ⟨text, rfl⟩
        · -- A request for an association that is already up is ignored.
          refine Channel.leads_dispatch rfl ?_
          exact Channel.leads_raise_of_ignored hstate
            (by cases p.channel.role <;> rfl)
        · refine Channel.leads_dispatch rfl ?_
          exact Channel.leads_raise hstate (by cases p.channel.role <;> rfl) rfl
        · refine Channel.leads_dispatch rfl ?_
          exact Channel.leads_raise hstate (by cases p.channel.role <;> rfl) rfl
      exact h.proceeds hleads (by simp [State.Owes, howed]) (.hear hm)

end Party.Attuned

/-! ## Both sides together -/

namespace Conversation

/-- Whether a move leaves the course of things to the channels: the application
neither ends the association nor changes the channel. -/
def Move.IsOrderly : Move → Prop
  | .command _ (.data _) | .command _ .startup => True
  | .command _ _ => False
  | _ => True

/-- Each side is attuned to what the other one does. -/
structure Agreement (ident : Role → Message) (v : Conversation) : Prop where
  attuned (r : Role) : (v r).Attuned ident r
  owes (r : Role) : (v r).channel.state.Owes r (v r).owed
  stage :
    Stage ident (v .client).channel.state (v .client).inbox
      (v .server).channel.state (v .server).inbox

namespace Agreement

variable {ident : Role → Message} {v : Conversation}

/-- A side takes messages from its inbox and acts. -/
theorem act (h : v.Agreement ident) {r : Role} {p : Party} {o : Channel.Outcome}
    (received : List Message) (hinbox : (v r).inbox = received ++ p.inbox)
    (hproceeds : p.Proceeds ident r (v r).channel.state received o) :
    (v.act r p o).Agreement ident := by
  refine ⟨?_, ?_, ?_⟩
  · intro r'
    rcases eq_or_eq_peer r r' with rfl | rfl
    · rw [act_self]
      exact hproceeds.attuned
    · rw [act_peer]
      exact (h.attuned r.peer).with_inbox _
  · intro r'
    rcases eq_or_eq_peer r r' with rfl | rfl
    · rw [act_self]
      exact hproceeds.owes
    · rw [act_peer]
      exact h.owes r.peer
  · have hstage := h.stage
    cases r with
    | client =>
        rw [hinbox] at hstage
        exact hstage.client_turn hproceeds.turn
    | server =>
        rw [hinbox] at hstage
        exact hstage.server_turn hproceeds.turn

/-- A side that awaits nothing is ready for the next message. -/
theorem exists_turn (h : v.Agreement ident) {r : Role} {m : Message}
    {rest : List Message} (hinbox : (v r).inbox = m :: rest)
    (howed : (v r).owed = []) :
    ∃ s sent, Turn ident r (v r).channel.state [m] s sent := by
  have howes := h.owes r
  have hstage := h.stage
  rw [howed] at howes
  cases r with
  | client =>
      rw [hinbox] at hstage
      exact hstage.exists_client_turn howes
  | server =>
      rw [hinbox] at hstage
      exact hstage.exists_server_turn howes

theorem heed (h : v.Agreement ident) (r : Role) :
    (v.heed r).Agreement ident := by
  by_cases hawait : (v r).channel.awaiting = 0
  · cases hinbox : (v r).inbox with
    | nil =>
        simp only [Conversation.heed, hinbox]
        exact h
    | cons m rest =>
        have howed : (v r).owed = [] := by
          rw [(h.attuned r).awaiting] at hawait
          exact List.eq_nil_of_length_eq_zero hawait
        obtain ⟨s, sent, hturn⟩ := h.exists_turn hinbox howed
        have hrest := (h.attuned r).with_inbox rest
        rw [heed_of_cons hinbox hawait]
        exact h.act [m] hinbox (hrest.dispatch howed hturn)
  · rw [heed_of_awaiting hawait]
    exact h

/-- Every move keeps the agreement. -/
theorem nextUnheld (h : v.Agreement ident) {move : Move}
    (hmove : move.IsOrderly) :
    (v.nextUnheld move).Agreement ident := by
  cases move with
  | deliver r => exact h.heed r
  | confirm r =>
      simp only [Conversation.nextUnheld, next]
      cases howed : (v r).owed with
      | nil => exact h
      | cons e rest =>
          have hproceeds := (h.attuned r).confirm (h.owes r) howed
          exact h.act [] rfl hproceeds
  | expire r =>
      have hproceeds := (h.attuned r).expire (h.owes r)
      exact h.act [] rfl hproceeds
  | command r x =>
      cases x with
      | data text =>
          have hproceeds := (h.attuned r).data (h.owes r) text
          exact h.act [] rfl hproceeds
      | startup =>
          have hproceeds := (h.attuned r).startup (h.owes r)
          exact h.act [] rfl hproceeds
      | _ => cases hmove

end Agreement

/-- A client and a server with nothing on the way between them. -/
def apart (client server : Channel) : Conversation
  | .client => ⟨client, [], []⟩
  | .server => ⟨server, [], []⟩

/-- A client and a server at the start of a connection: the client is told of
it, and the event of a new connection is raised on the server. -/
def opened (client server : Channel) : Conversation :=
  ((apart client server).input .client (.connectionChanged true)).input .server
    (.raise .remoteSetup)

/-- The identification that each side of a conversation sends. -/
def identification (v : Conversation) (r : Role) : Message :=
  (v r).channel.ownIdentification

theorem leads_connected {c : Channel} (h : c.Fresh .client) :
    c.Leads (c.step (.connectionChanged true)) .connectionPending
      [(c.ownIdentification, some .remoteSetup)] := by
  have hstep : c.step (.connectionChanged true) = c.raise .localSetup := by
    simp only [Channel.step, Channel.connectionChanged, if_true, h.config]
  rw [hstep]
  exact Channel.leads_raise h.state (by rw [h.role]; rfl) rfl

theorem agreement_opened {client server : Channel}
    (hclient : client.Fresh .client) (hserver : server.Fresh .server)
    (hmirrors : client.config.Mirrors server.config) :
    (opened client server).Agreement (apart client server).identification := by
  have hown : server.peerIdentification = client.ownIdentification := by
    rw [Channel.peerIdentification, ← hmirrors.sender, ← hmirrors.receiver]
    rfl
  have hpeer : client.peerIdentification = server.ownIdentification := by
    rw [Channel.peerIdentification, hmirrors.sender, hmirrors.receiver]
    rfl
  have hconnected := leads_connected hclient
  have hraised :
      server.Leads (server.step (.raise .remoteSetup)) .systemIdPending [] :=
    Channel.leads_raise hserver.state (by rw [hserver.role]; rfl) rfl
  have hclientParty : opened client server .client =
      ⟨(client.step (.connectionChanged true)).channel, [], [.remoteSetup]⟩ := by
    have hopened : opened client server .client =
        ⟨_, [] ++ Effect.messages (server.step (.raise .remoteSetup)).effects,
          [] ++ Effect.expected
            (client.step (.connectionChanged true)).effects⟩ := rfl
    rw [hopened, hraised.messages, hconnected.expected]
    rfl
  have hserverParty : opened client server .server =
      ⟨(server.step (.raise .remoteSetup)).channel,
        [client.ownIdentification], []⟩ := by
    have hopened : opened client server .server =
        ⟨_, [] ++ Effect.messages
            (client.step (.connectionChanged true)).effects,
          [] ++ Effect.expected
            (server.step (.raise .remoteSetup)).effects⟩ := rfl
    rw [hopened, hconnected.messages, hraised.expected]
    rfl
  refine ⟨?_, ?_, ?_⟩
  · intro r
    cases r with
    | client =>
        rw [hclientParty, hconnected.channel]
        exact ⟨hclient.role, rfl, hpeer, hclient.goal, hclient.held,
          congrArg (· + 1) hclient.awaiting⟩
    | server =>
        rw [hserverParty, hraised.channel]
        exact ⟨hserver.role, rfl, hown, hserver.goal, hserver.held,
          hserver.awaiting⟩
  · intro r
    cases r with
    | client =>
        rw [hclientParty, hconnected.channel]
        exact ⟨rfl, rfl⟩
    | server =>
        rw [hserverParty, hraised.channel]
        rfl
  · rw [hclientParty, hserverParty, hconnected.channel, hraised.channel]
    exact .opening (.inl rfl)

/-- Nothing is on hold at the start of a connection. -/
theorem unheld_opened {client server : Channel}
    (hclient : client.Fresh .client) (hserver : server.Fresh .server)
    (hmirrors : client.config.Mirrors server.config) :
    (opened client server).HoldsInOrder ∧
      (opened client server).unheld.Agreement (apart client server).identification := by
  have hopened := agreement_opened hclient hserver hmirrors
  have hheld : ∀ r, (opened client server r).channel.held = #[] :=
    fun r => (hopened.attuned r).held
  refine ⟨fun r hne => absurd (hheld r) hne, ?_⟩
  rw [unheld_of_held_eq_nil hheld]
  exact hopened

/-- Two sides that leave the course of things to the channels go on agreeing. -/
theorem Agreement.run {ident : Role → Message} {v : Conversation}
    (hholds : v.HoldsInOrder) (h : v.unheld.Agreement ident) {moves : List Move}
    (hmoves : ∀ move ∈ moves, move.IsOrderly) :
    (v.run moves).HoldsInOrder ∧ (v.run moves).unheld.Agreement ident :=
  unheld_run_of_invariant (P := Agreement ident) (Q := Move.IsOrderly)
    (fun _ => trivial) (fun _ _ h hmove => h.nextUnheld hmove) hmoves hholds h

/-- Neither side falls back into `State.idle`. -/
theorem Agreement.ne_idle {ident : Role → Message} {v : Conversation}
    (h : v.unheld.Agreement ident) (r : Role) : (v r).channel.state ≠ .idle := by
  cases r with
  | client => exact h.stage.ne_idle.1
  | server => exact h.stage.ne_idle.2

/-- Once nothing is on the way and no event has to come back, both sides are ready
for data. -/
theorem Agreement.eq_dataReady {ident : Role → Message} {v : Conversation}
    (hholds : v.HoldsInOrder) (h : v.unheld.Agreement ident) (hquiescent : v.Quiescent)
    (r : Role) : (v r).channel.state = .dataReady := by
  have hinbox : ∀ r, (v.unheld r).inbox = [] := by
    intro r
    have hawaiting := (h.attuned r).awaiting
    have howed : (v.unheld r).owed = [] := (hquiescent r).2
    rw [howed] at hawaiting
    have hnone := (hholds r).held_eq_nil hawaiting
    have hunheld :
        (v.unheld r).inbox = (v r).channel.held.toList ++ (v r).inbox := rfl
    rw [hunheld, hnone, (hquiescent r).1]
    rfl
  have hstage := h.stage
  rw [hinbox, hinbox] at hstage
  cases r with
  | client => exact hstage.eq_dataReady.1
  | server => exact hstage.eq_dataReady.2

/-- A client and a server that expect each other and have a connection never
fall back into `State.idle`, and once nothing is on the way and no event has to
come back, both are ready for data. -/
theorem handshake_agrees {client server : Channel}
    (hclient : client.Fresh .client) (hserver : server.Fresh .server)
    (hmirrors : client.config.Mirrors server.config)
    {moves : List Move} (hmoves : ∀ move ∈ moves, move.IsOrderly) :
    let v := (opened client server).run moves
    (∀ r, (v r).channel.state ≠ .idle) ∧
      (v.Quiescent → ∀ r, (v r).channel.state = .dataReady) := by
  intro v
  obtain ⟨hholds, hopened⟩ := unheld_opened hclient hserver hmirrors
  obtain ⟨hheldInOrder, hagreement⟩ := Agreement.run hholds hopened hmoves
  exact ⟨hagreement.ne_idle, hagreement.eq_dataReady hheldInOrder⟩

theorem fresh_sample (r : Role) :
    (Channel.ofConfig (.sample r)).Fresh r := by
  cases r <;> exact ⟨rfl, rfl, rfl, rfl, rfl, rfl⟩

/-- A run of a handshake and a message of the client, in which the side that
has to wait holds what it receives. -/
def sampleMoves : List Move :=
  [.confirm .client, .deliver .server, .deliver .client, .deliver .server,
    .deliver .server, .confirm .server, .deliver .client, .confirm .client,
    .deliver .client, .deliver .server, .command .client (.data "FPL"),
    .expire .server, .deliver .server, .confirm .client, .deliver .client]

theorem handshake_agrees_sample :
    let v := (opened (.ofConfig (.sample .client))
      (.ofConfig (.sample .server))).run sampleMoves
    v.Quiescent ∧ ∀ r, (v r).channel.state = .dataReady := by
  intro v
  have hmirrors : (Config.sample .client).Mirrors (.sample .server) := ⟨rfl, rfl⟩
  have hmoves : ∀ move ∈ sampleMoves, move.IsOrderly := by
    simp [sampleMoves, Move.IsOrderly]
  have hquiescent : v.Quiescent := by
    intro r
    cases r <;> exact ⟨by decide +kernel, by decide +kernel⟩
  have hagrees := handshake_agrees (fresh_sample .client) (fresh_sample .server)
    hmirrors hmoves
  exact ⟨hquiescent, hagrees.2 hquiescent⟩

end Conversation

end FlightLink
