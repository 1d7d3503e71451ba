import FlightLink.Proofs.Channel.Chronicle
import FlightLink.Proofs.Conversation.Handshake
import FlightLink.Proofs.Conversation.Standing
import Mathlib.Tactic.FinCases

/-!
# Ending an association and coming back to it

The applications of both sides may ask for the association and end it as they
like, also while requests, answers and farewells of earlier times are still on
their way, and while events of packets sent have not come back.  Each step of a
channel is one of the turns of `Standing.Turn`.  How a side stands depends on
its state and, in `State.ready`, on whether a request of its own is still to be
confirmed.
-/

namespace FlightLink

/-- How a side stands to the association in a state with events owed to it.  A
side that is to drive the association on is never aloof. -/
inductive State.Stands : State → List Event → Goal → Standing → Prop where
  | aloof {owed : List Event} (howed : .localStartup ∉ owed) :
      Stands .ready owed .ready .aloof
  | requesting {owed : List Event} {goal : Goal} (howed : .localStartup ∈ owed) :
      Stands .ready owed goal .asking
  | pending {owed : List Event} {goal : Goal} :
      Stands .associationPending owed goal .asking
  | joined {owed : List Event} {goal : Goal} (howed : .localStartup ∉ owed) :
      Stands .dataReady owed goal .joined

/-- In `State.dataReady` and nowhere else a side has joined. -/
theorem State.Stands.eq_joined_iff {s : State} {owed : List Event} {goal : Goal}
    {standing : Standing} (h : s.Stands owed goal standing) :
    standing = .joined ↔ s = .dataReady := by
  cases h with
  | aloof => exact ⟨nofun, nofun⟩
  | requesting => exact ⟨nofun, nofun⟩
  | pending => exact ⟨nofun, nofun⟩
  | joined => exact ⟨fun _ => rfl, fun _ => rfl⟩

theorem State.Stands.ne_aloof {s : State} {owed : List Event} {standing : Standing}
    (h : s.Stands owed .dataReady standing) : standing ≠ .aloof := by
  cases h with
  | requesting => exact nofun
  | pending => exact nofun
  | joined => exact nofun

/-! ## What peers can bring about -/

namespace Table

variable {role : Role} {e : Event}

theorem next?_ready_of_isPeers (he : e.isPeers) : next? role .ready e = none := by
  cases role <;> cases e <;> first | rfl | cases he

theorem next?_associationPending_of_isPeers (he : e.isPeers) (hup : e ≠ .remoteStartup) :
    next? role .associationPending e = none := by
  cases role <;> cases e <;> first | rfl | exact absurd rfl hup | cases he

theorem next?_dataReady_of_isPeers (he : e.isPeers) (hdown : e ≠ .remoteShutdown) :
    next? role .dataReady e = none ∨ next? role .dataReady e = some .dataReady := by
  cases role <;> cases e <;>
    first | exact .inl rfl | exact .inr rfl | exact absurd rfl hdown | cases he

end Table

namespace Channel

open Effect

/-- Only a request counts as one, and only a farewell as a farewell. -/
theorem eq_of_messageEvent? {c : Channel} {m : Message} {e : Event}
    (h : c.messageEvent? m = some e) :
    (e = .remoteStartup → m = .startup) ∧ (e = .remoteShutdown → m = .shutdown) := by
  obtain ⟨kind, text⟩ := m
  unfold messageEvent? at h
  cases kind with
  | identification =>
      simp only [identificationEvent, Option.some.injEq] at h
      split_ifs at h <;> subst h <;> exact ⟨by simp, by simp⟩
  | system =>
      simp only [systemEvent?] at h
      split_ifs at h with hup hdown
      · subst hup
        cases h
        exact ⟨fun _ => rfl, by simp⟩
      · subst hdown
        cases h
        exact ⟨by simp, fun _ => rfl⟩
      · cases h
        exact ⟨by simp, by simp⟩
  | operational =>
      cases h
      exact ⟨by simp, by simp⟩
  | operator | status | unknown => cases h

theorem leads_dispatch_of_ignored {c : Channel} {m : Message}
    (h : ∀ e, c.messageEvent? m = some e → Table.next? c.role c.state e = none) :
    c.Leads (c.dispatch m) c.state [] := by
  cases he : c.messageEvent? m with
  | some e => exact leads_dispatch he (leads_raise_of_ignored rfl (h e he))
  | none =>
      constructor
      · rw [dispatch_channel, he]
        rfl
      · rw [packets, collect_dispatch, he]
        simp

/-- An event that has been owed leaves a side as it stands.  That of a request is
the only one that matters, and only in `State.ready`. -/
theorem exists_leads_raise_of_stands {c : Channel} {t : State} {e : Event}
    {rest : List Event} {goal : Goal} {s : Standing} (hstate : c.state = t)
    (he : e = .localStartup ∨ e = .localData) (hstands : t.Stands (e :: rest) goal s) :
    ∃ t', c.Leads (c.raise e) t' [] ∧ t'.Stands rest goal s := by
  rcases he with rfl | rfl
  · cases hstands with
    | aloof hnone => exact absurd List.mem_cons_self hnone
    | requesting =>
        exact ⟨.associationPending,
          leads_raise hstate (by cases c.role <;> rfl) rfl, .pending⟩
    | pending =>
        exact ⟨.associationPending,
          leads_raise_of_ignored hstate (by cases c.role <;> rfl), .pending⟩
    | joined hnone => exact absurd List.mem_cons_self hnone
  · cases hstands with
    | aloof hnone =>
        exact ⟨.ready, leads_raise_of_ignored hstate (by cases c.role <;> rfl),
          .aloof fun hmem => hnone (List.mem_cons_of_mem _ hmem)⟩
    | requesting hmem =>
        exact ⟨.ready, leads_raise_of_ignored hstate (by cases c.role <;> rfl),
          .requesting (by simpa using hmem)⟩
    | pending =>
        exact ⟨.associationPending,
          leads_raise_of_ignored hstate (by cases c.role <;> rfl), .pending⟩
    | joined hnone =>
        exact ⟨.dataReady, leads_raise hstate (by cases c.role <;> rfl) rfl,
          .joined fun hmem => hnone (List.mem_cons_of_mem _ hmem)⟩

/-- A channel that exchanges data goes on with it unless there is a farewell. -/
theorem leads_dispatch_dataReady {c : Channel} {m : Message} (hstate : c.state = .dataReady)
    (hdown : c.messageEvent? m ≠ some .remoteShutdown) :
    c.Leads (c.dispatch m) .dataReady [] := by
  cases he : c.messageEvent? m with
  | none =>
      rw [← hstate]
      exact leads_dispatch_of_ignored (by simp [he])
  | some e =>
      have hpeers := (messageEvent?_spec he).1
      have hparts : e ≠ .remoteShutdown := by
        rintro rfl
        exact hdown he
      refine leads_dispatch he ?_
      rcases Table.next?_dataReady_of_isPeers hpeers hparts with hnone | hsome
      · exact leads_raise_of_ignored hstate hnone
      · refine leads_raise hstate hsome ?_
        cases e <;> first | rfl | cases hpeers

end Channel

/-! ## What a side does -/

/-- A side with nothing on hold, which awaits the events owed to it. -/
structure Party.Keeps (p : Party) : Prop where
  owed : ∀ e ∈ p.owed, e = .localStartup ∨ e = .localData
  held : p.channel.held = #[]
  awaiting : p.channel.awaiting = p.owed.length

/-- A side that has been identified and stands to the association in a certain
way. -/
structure Party.Engaged (s : Standing) (p : Party) : Prop extends p.Keeps where
  stands : p.channel.state.Stands p.owed p.channel.goal s

/-- A step of a side that takes messages, and how the side stands after it. -/
structure Party.Turns (s : Standing) (received : List Message) (p : Party)
    (o : Channel.Outcome) (s' : Standing) : Prop where
  engaged : (p.after o).Engaged s'
  turn : Standing.Turn s received s' (Effect.messages o.effects)

namespace Party

variable {s s' : Standing} {p : Party}

theorem Keeps.turns (h : p.Keeps) {goal : Goal} {o : Channel.Outcome} {t : State}
    {received : List Message} {sent : List (Message × Option Event)}
    (hleads : Channel.Leads { p.channel with goal } o t sent)
    (hsent : ∀ e ∈ sent.filterMap Prod.snd, e = .localStartup ∨ e = .localData)
    (hstands : t.Stands (p.owed ++ sent.filterMap Prod.snd) goal s')
    (hturn : Standing.Turn s received s' (sent.map Prod.fst)) :
    p.Turns s received o s' := by
  have hchannel := hleads.channel
  have howed : (p.after o).owed = p.owed ++ sent.filterMap Prod.snd := by
    rw [after, hleads.expected]
  refine ⟨⟨⟨?_, ?_, ?_⟩, ?_⟩, ?_⟩
  · rw [howed]
    intro e he
    exact (List.mem_append.mp he).elim (h.owed e) (hsent e)
  · rw [after, hchannel]
    exact h.held
  · rw [howed, after, hchannel, List.length_append, ← h.awaiting]
  · rw [howed, after, hchannel]
    exact hstands
  · rw [hleads.messages]
    exact hturn

namespace Engaged

theorem with_inbox (h : p.Engaged s) (inbox : List Message) :
    { p with inbox }.Engaged s :=
  ⟨⟨h.owed, h.held, h.awaiting⟩, h.stands⟩

/-- A side that exchanges data has joined, and no request is to be confirmed. -/
theorem joined_of_dataReady (h : p.Engaged s) (hstate : p.channel.state = .dataReady) :
    s = .joined ∧ .localStartup ∉ p.owed := by
  have hstands := h.stands
  rw [hstate] at hstands
  cases hstands with
  | joined howed => exact ⟨rfl, howed⟩

theorem rest (h : p.Engaged s) {o : Channel.Outcome}
    (hleads : p.channel.Leads o p.channel.state []) : p.Turns s [] o s :=
  h.toKeeps.turns hleads nofun (by simpa using h.stands) (.rest s)

theorem confirm (h : p.Engaged s) {e : Event} {rest : List Event}
    (howed : p.owed = e :: rest) :
    { p with owed := rest }.Turns s [] (p.channel.confirm e) s := by
  let c := { p.channel with awaiting := p.channel.awaiting - 1 }
  let p₁ : Party := { p with channel := c, owed := rest }
  have hawait : p.channel.awaiting ≠ 0 := by
    rw [h.awaiting, howed]
    exact Nat.succ_ne_zero _
  have hconfirm : p.channel.confirm e = c.raise e :=
    Channel.confirm_eq_raise hawait h.held e
  have hkeeps : p₁.Keeps := by
    refine ⟨?_, h.held, ?_⟩
    · intro e' he'
      exact h.owed e' (by rw [howed]; exact List.mem_cons_of_mem e he')
    · have hlength := h.awaiting
      rw [howed, List.length_cons] at hlength
      exact Nat.sub_eq_of_eq_add hlength
  have hevent := h.owed e (by rw [howed]; exact List.mem_cons_self)
  have hstands := h.stands
  rw [howed] at hstands
  rw [hconfirm]
  obtain ⟨t, hleads, hafter⟩ := Channel.exists_leads_raise_of_stands (c := c) rfl hevent hstands
  have hturns : p₁.Turns s [] (c.raise e) s :=
    hkeeps.turns hleads nofun (by simpa using hafter) (.rest s)
  exact ⟨hturns.engaged, hturns.turn⟩

theorem expire (h : p.Engaged s) :
    ∃ s', p.Turns s [] (p.channel.timerExpired .send) s' := by
  by_cases hstate : p.channel.state = .dataReady
  · obtain ⟨rfl, howed⟩ := h.joined_of_dataReady hstate
    have hraise : p.channel.Leads (p.channel.raise .sendTimeout) .dataReady
        [(.heartbeat, none)] :=
      Channel.leads_raise hstate (by cases p.channel.role <;> rfl) rfl
    have hleads : p.channel.Leads (p.channel.timerExpired .send) .dataReady
        [(.heartbeat, none)] := Channel.leads_timerExpired rfl hraise
    have hturn : Standing.Turn .joined [] .joined [.heartbeat] :=
      .talk (by decide) (by decide)
    exact ⟨.joined, h.toKeeps.turns hleads nofun (.joined (by simpa using howed)) hturn⟩
  · have hnext : Table.next? p.channel.role p.channel.state .sendTimeout = none := by
      cases hs : p.channel.state with
      | dataReady => exact absurd hs hstate
      | _ => cases p.channel.role <;> rfl
    have hraise := Channel.leads_raise_of_ignored rfl hnext
    exact ⟨s, h.rest (Channel.leads_timerExpired rfl hraise)⟩

theorem data (h : p.Engaged s) (text : String) :
    ∃ s', p.Turns s [] (p.channel.obey (.data text)) s' := by
  by_cases hstate : p.channel.state = .dataReady
  · obtain ⟨rfl, howed⟩ := h.joined_of_dataReady hstate
    have hobey : p.channel.obey (.data text) =
        p.channel.send (.operational text) (some .localData) := if_pos hstate
    have hleads := p.channel.leads_send (.operational text) (some .localData)
    have hturn : Standing.Turn .joined [] .joined [.operational text] :=
      .talk nofun nofun
    rw [hobey]
    rw [hstate] at hleads
    refine ⟨.joined, h.toKeeps.turns hleads ?_ (.joined ?_) hturn⟩
    · exact fun e he => .inr (List.mem_singleton.mp he)
    · intro hmem
      rcases List.mem_append.mp hmem with hold | hnew
      · exact howed hold
      · cases List.mem_singleton.mp hnew
  · have hobey : p.channel.obey (.data text) = ⟨p.channel, _⟩ := if_neg hstate
    rw [hobey]
    exact ⟨s, h.rest (.same (by simp))⟩

theorem startup (h : p.Engaged s) :
    ∃ s', p.Turns s [] (p.channel.obey .startup) s' := by
  let c : Channel := { p.channel with goal := .dataReady }
  have hstands := h.stands
  generalize hstate : p.channel.state = t at hstands
  generalize p.channel.goal = goal at hstands
  have hc : c.state = t := hstate
  by_cases hready : t = .ready
  · have hobey : p.channel.obey .startup = c.send .startup (some .localStartup) :=
      if_pos (hstate.trans hready)
    have hleads : c.Leads (c.send .startup (some .localStartup)) .ready
        [(.startup, some .localStartup)] := by
      have hsend := c.leads_send .startup (some .localStartup)
      rwa [hc, hready] at hsend
    have hsent : ∀ e ∈ [Event.localStartup], e = .localStartup ∨ e = .localData :=
      fun e he => .inl (List.mem_singleton.mp he)
    have hasking : State.ready.Stands (p.owed ++ [.localStartup]) .dataReady .asking :=
      .requesting (by simp)
    rw [hobey]
    cases hstands with
    | aloof => exact ⟨.asking, h.toKeeps.turns hleads hsent hasking .ask⟩
    | requesting => exact ⟨.asking, h.toKeeps.turns hleads hsent hasking .insist⟩
    | pending => cases hready
    | joined => cases hready
  · have hobey : p.channel.obey .startup = ⟨c, _⟩ :=
      if_neg (hstate.trans_ne hready)
    have hleads : c.Leads (p.channel.obey .startup) t [] := by
      rw [hobey, ← hc]
      exact .same (by simp)
    refine ⟨s, h.toKeeps.turns hleads nofun ?_ (.rest s)⟩
    rw [List.filterMap_nil, List.append_nil]
    cases hstands with
    | aloof => exact absurd rfl hready
    | requesting => exact absurd rfl hready
    | pending => exact .pending
    | joined howed => exact .joined howed

theorem shutdown (h : p.Engaged s) :
    ∃ s', p.Turns s [] (p.channel.obey .shutdown) s' := by
  let c : Channel := { p.channel with goal := .ready }
  have hobey : p.channel.obey .shutdown = c.raise .localShutdown := rfl
  have hstands := h.stands
  generalize hstate : p.channel.state = t at hstands
  generalize p.channel.goal = goal at hstands
  have hc : c.state = t := hstate
  rw [hobey]
  cases hstands with
  | aloof howed =>
      have hleads : c.Leads (c.raise .localShutdown) .ready [] :=
        Channel.leads_raise hc (by cases c.role <;> rfl) rfl
      exact ⟨.aloof, h.toKeeps.turns hleads nofun (.aloof (by simpa using howed)) (.rest _)⟩
  | requesting howed =>
      have hleads : c.Leads (c.raise .localShutdown) .ready [] :=
        Channel.leads_raise hc (by cases c.role <;> rfl) rfl
      exact ⟨.asking,
        h.toKeeps.turns hleads nofun (.requesting (by simpa using howed)) (.rest _)⟩
  | pending =>
      have hleads : c.Leads (c.raise .localShutdown) .ready [(.shutdown, none)] :=
        Channel.leads_raise hc (by cases c.role <;> rfl) rfl
      by_cases howed : .localStartup ∈ p.owed
      · exact ⟨.asking,
          h.toKeeps.turns hleads nofun (.requesting (by simpa using howed)) .waver⟩
      · exact ⟨.aloof,
          h.toKeeps.turns hleads nofun (.aloof (by simpa using howed)) .withdraw⟩
  | joined howed =>
      have hleads : c.Leads (c.raise .localShutdown) .ready [(.shutdown, none)] :=
        Channel.leads_raise hc (by cases c.role <;> rfl) rfl
      exact ⟨.aloof, h.toKeeps.turns hleads nofun (.aloof (by simpa using howed)) .leave⟩

/-- A side that awaits nothing takes any message. -/
theorem dispatch (h : p.Engaged s) (howed : p.owed = []) (m : Message) :
    ∃ s', p.Turns s [m] (p.channel.dispatch m) s' := by
  have hstands := h.stands
  rw [howed] at hstands
  generalize hstate : p.channel.state = t at hstands
  generalize hgoal : p.channel.goal = goal at hstands
  have hquiet : ∀ {t' s'}, p.channel.Leads (p.channel.dispatch m) t' [] →
      t'.Stands [] goal s' → Standing.Turn s [m] s' [] →
      ∃ s', p.Turns s [m] (p.channel.dispatch m) s' := by
    intro t' s' hleads hafter hturn
    refine ⟨s', h.toKeeps.turns hleads nofun ?_ hturn⟩
    rw [howed, hgoal]
    exact hafter
  have hignored : (∀ e, p.channel.messageEvent? m = some e →
      Table.next? p.channel.role t e = none) →
      p.channel.Leads (p.channel.dispatch m) t [] := by
    rw [← hstate]
    exact Channel.leads_dispatch_of_ignored
  cases hstands with
  | requesting hmem => cases hmem
  | aloof =>
      have hleads := hignored fun e he =>
        Table.next?_ready_of_isPeers (Channel.messageEvent?_spec he).1
      exact hquiet hleads (.aloof nofun) (.overhear m)
  | pending =>
      by_cases hup : p.channel.messageEvent? m = some .remoteStartup
      · obtain rfl := (Channel.eq_of_messageEvent? hup).1 rfl
        have hraise : p.channel.Leads (p.channel.raise .remoteStartup) .dataReady
            [(.startup, none)] :=
          Channel.leads_raise hstate (by cases p.channel.role <;> rfl) rfl
        have hleads := Channel.leads_dispatch hup hraise
        exact ⟨.joined, h.toKeeps.turns hleads nofun (.joined (by simp [howed])) .answer⟩
      · have hleads := hignored fun e he =>
          Table.next?_associationPending_of_isPeers (Channel.messageEvent?_spec he).1
            (by rintro rfl; exact hup he)
        have hne : m ≠ .startup := by
          rintro rfl
          exact hup rfl
        exact hquiet hleads .pending (.abide hne)
  | joined =>
      by_cases hdown : p.channel.messageEvent? m = some .remoteShutdown
      · obtain rfl := (Channel.eq_of_messageEvent? hdown).2 rfl
        have hraise : p.channel.Leads (p.channel.raise .remoteShutdown)
            .associationPending [] :=
          Channel.leads_raise hstate (by cases p.channel.role <;> rfl) rfl
        exact hquiet (Channel.leads_dispatch hdown hraise) .pending .part
      · have hne : m ≠ .shutdown := by
          rintro rfl
          exact hdown rfl
        exact hquiet (Channel.leads_dispatch_dataReady hstate hdown) (.joined nofun)
          (.hear hne)

end Engaged

end Party

/-! ## Both sides together -/

namespace Conversation

/-- Whether a move leaves the connection alone: the application sends data, asks
for the association or ends it. -/
def Move.IsNegotiation : Move → Prop
  | .command _ (.data _) | .command _ .startup | .command _ .shutdown => True
  | .command _ _ => False
  | _ => True

/-- How each side stands to the association, so that they will agree. -/
structure Negotiation (standing : Role → Standing) (v : Conversation) : Prop where
  engaged (r : Role) : (v r).Engaged (standing r)
  concord (r : Role) :
    Standing.Concord (standing r) (v r).inbox (standing r.peer) (v r.peer).inbox

namespace Negotiation

variable {standing : Role → Standing} {v : Conversation}

/-- A side takes messages from its inbox and acts. -/
theorem act (h : v.Negotiation standing) {r : Role} {p : Party} {o : Channel.Outcome}
    (received : List Message) (hinbox : (v r).inbox = received ++ p.inbox)
    (hturns : ∃ s', p.Turns (standing r) received o s') :
    ∃ standing', (v.act r p o).Negotiation standing' := by
  obtain ⟨s', hengaged, hturn⟩ := hturns
  have hconcord := h.concord r
  rw [hinbox] at hconcord
  have hafter := hconcord.turn hturn
  have hself : Function.update standing r s' r = s' := Function.update_self ..
  have hpeer : Function.update standing r s' r.peer = standing r.peer :=
    Function.update_of_ne (by cases r <;> decide) ..
  have hpeers : r.peer.peer = r := by cases r <;> rfl
  refine ⟨Function.update standing r s', ?_, ?_⟩
  · intro r'
    rcases eq_or_eq_peer r r' with rfl | rfl
    · rw [act_self, hself]
      exact hengaged
    · rw [act_peer, hpeer]
      exact (h.engaged r.peer).with_inbox _
  · intro r'
    rcases eq_or_eq_peer r r' with rfl | rfl
    · rw [act_self, act_peer, hself, hpeer]
      exact hafter
    · rw [hpeers, act_self, act_peer, hself, hpeer]
      exact hafter.symm

theorem heed (h : v.Negotiation standing) (r : Role) :
    ∃ standing', (v.heed r).Negotiation standing' := by
  by_cases hawait : (v r).channel.awaiting = 0
  · cases hinbox : (v r).inbox with
    | nil =>
        simp only [Conversation.heed, hinbox]
        exact ⟨standing, h⟩
    | cons m rest =>
        have howed : (v r).owed = [] := by
          rw [(h.engaged r).awaiting] at hawait
          exact List.eq_nil_of_length_eq_zero hawait
        have hrest := (h.engaged r).with_inbox rest
        rw [heed_of_cons hinbox hawait]
        exact h.act [m] hinbox (hrest.dispatch howed m)
  · rw [heed_of_awaiting hawait]
    exact ⟨standing, h⟩

/-- Whatever happens, the two sides will still agree. -/
theorem nextUnheld (h : v.Negotiation standing) {move : Move}
    (hmove : move.IsNegotiation) :
    ∃ standing', (v.nextUnheld move).Negotiation standing' := by
  cases move with
  | deliver r => exact h.heed r
  | confirm r =>
      simp only [Conversation.nextUnheld, next]
      cases howed : (v r).owed with
      | nil => exact ⟨standing, h⟩
      | cons e rest =>
          have hturns := (h.engaged r).confirm howed
          exact h.act [] rfl ⟨_, hturns⟩
  | expire r => exact h.act [] rfl (h.engaged r).expire
  | command r y =>
      cases y with
      | data text => exact h.act [] rfl ((h.engaged r).data text)
      | startup => exact h.act [] rfl (h.engaged r).startup
      | shutdown => exact h.act [] rfl (h.engaged r).shutdown
      | _ => cases hmove

end Negotiation

end Conversation

/-- A channel that is to keep up the association that it has. -/
structure Channel.Associated (c : Channel) : Prop where
  state : c.state = .dataReady
  goal : c.goal = .dataReady
  awaiting : c.awaiting = 0
  held : c.held = #[]

namespace Conversation

theorem negotiation_apart {client server : Channel} (hclient : client.Associated)
    (hserver : server.Associated) :
    (apart client server).Negotiation fun _ => .joined := by
  have hengaged : ∀ {c : Channel}, c.Associated → Party.Engaged .joined ⟨c, [], []⟩ := by
    intro c hc
    refine ⟨⟨nofun, hc.held, hc.awaiting⟩, ?_⟩
    rw [hc.state]
    exact .joined nofun
  have hconcord : Standing.Concord .joined [] .joined [] := by
    have hannounces : Standing.Announces .joined .joined [] := ⟨fun _ => rfl, nofun⟩
    exact ⟨hannounces, hannounces, fun _ _ => .inl ⟨rfl, rfl⟩⟩
  constructor
  · intro r
    cases r with
    | client => exact hengaged hclient
    | server => exact hengaged hserver
  · intro r
    cases r with
    | client => exact hconcord
    | server => exact hconcord

/-- If nothing is on the way and no event has to come back, nothing is on hold. -/
theorem Quiescent.inbox_unheld {v : Conversation} (h : v.Quiescent)
    (hholds : v.HoldsInOrder) {r : Role}
    (hawaiting : (v r).channel.awaiting = (v r).owed.length) :
    (v.unheld r).inbox = [] := by
  have hunheld : (v.unheld r).inbox =
      (v r).channel.held.toList ++ (v r).inbox := rfl
  rw [(h r).2] at hawaiting
  rw [hunheld, (hholds r).held_eq_nil hawaiting, (h r).1]
  rfl

/-- A client and a server that have an association, and whose applications end
it, ask for it again and send data as they like, never fall back into
`State.idle`.  Once nothing is on the way and no event has to come back, one is
ready for data if the other one is, and both are if both are to be. -/
theorem reassociation_agrees {client server : Channel}
    (hclient : client.Associated) (hserver : server.Associated)
    {moves : List Move} (hmoves : ∀ move ∈ moves, move.IsNegotiation) :
    let v := (apart client server).run moves
    (∀ r, (v r).channel.state ≠ .idle) ∧
      (v.Quiescent →
        ((v .client).channel.state = .dataReady ↔
          (v .server).channel.state = .dataReady) ∧
        ((∀ r, (v r).channel.goal = .dataReady) →
          ∀ r, (v r).channel.state = .dataReady)) := by
  intro v
  have hapart := negotiation_apart hclient hserver
  have hheld : ∀ r, (apart client server r).channel.held = #[] :=
    fun r => (hapart.engaged r).held
  have hholds : (apart client server).HoldsInOrder := by
    intro r hne
    exact absurd (hheld r) hne
  have hunheld := unheld_of_held_eq_nil hheld
  obtain ⟨hheldInOrder, standing, hnegotiation⟩ :=
    unheld_run_of_invariant (P := fun v => ∃ standing, v.Negotiation standing)
      (Q := Move.IsNegotiation) (fun _ => trivial)
      (fun _ _ h hmove => h.elim fun _ h => h.nextUnheld hmove) hmoves hholds
      (hunheld.symm ▸ ⟨_, hapart⟩)
  have hstands : ∀ r, (v r).channel.state.Stands (v r).owed (v r).channel.goal (standing r) :=
    fun r => (hnegotiation.engaged r).stands
  constructor
  · intro r hidle
    have hr := hstands r
    rw [hidle] at hr
    cases hr
  · intro hquiescent
    have hinbox : ∀ r, (v.unheld r).inbox = [] :=
      fun r => hquiescent.inbox_unheld hheldInOrder (hnegotiation.engaged r).awaiting
    have hconcord := hnegotiation.concord .client
    rw [hinbox, hinbox] at hconcord
    obtain ⟨hagree, hboth⟩ := hconcord.agree
    have hjoined := fun r => (hstands r).eq_joined_iff
    constructor
    · rw [← hjoined, ← hjoined]
      exact hagree
    · intro hgoal
      have hbound : ∀ r, standing r ≠ .aloof := by
        intro r
        have hr := hstands r
        rw [hgoal] at hr
        exact hr.ne_aloof
      obtain ⟨hclientJoined, hserverJoined⟩ := hboth (hbound _) (hbound _)
      intro r
      cases r with
      | client => exact (hjoined .client).mp hclientJoined
      | server => exact (hjoined .server).mp hserverJoined

/-- A run in which the sides end the association at the same time and ask for it
again while the farewells are on their way. -/
def crossingMoves : List Move :=
  [.command .client .shutdown, .command .server .shutdown, .command .server .startup,
    .command .client .startup, .deliver .client, .confirm .client, .confirm .server,
    .deliver .client, .deliver .server, .deliver .server, .deliver .server,
    .command .server (.data "FPL"), .expire .client, .deliver .client, .deliver .client,
    .confirm .server, .deliver .server, .deliver .server]

theorem reassociation_agrees_crossing :
    let v := (apart { Channel.ofConfig (.sample .client) with state := .dataReady }
      { Channel.ofConfig (.sample .server) with state := .dataReady }).run crossingMoves
    v.Quiescent ∧ ∀ r, (v r).channel.state = .dataReady := by
  intro v
  have hassociated : ∀ r : Role,
      Channel.Associated { Channel.ofConfig (.sample r) with state := .dataReady } :=
    fun r => ⟨rfl, rfl, rfl, rfl⟩
  have hmoves : ∀ move ∈ crossingMoves, move.IsNegotiation := by
    simp [crossingMoves, Move.IsNegotiation]
  have hquiescent : v.Quiescent := by
    intro r
    cases r <;> exact ⟨by decide +kernel, by decide +kernel⟩
  have hgoal : ∀ r, (v r).channel.goal = .dataReady := by
    intro r
    cases r <;> decide +kernel
  have hagrees := reassociation_agrees (hassociated .client) (hassociated .server) hmoves
  exact ⟨hquiescent, (hagrees.2 hquiescent).2 hgoal⟩

end Conversation

end FlightLink
