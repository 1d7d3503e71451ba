import FlightLink.Proofs.Channel.Transition

/-!
# Where events lead to

In a state that is known, the outcome of an event is said in two parts: the
state that it leads to and the packets sent on the way.  The channel is changed
in no other respect, except that it awaits the events of these packets.
-/

namespace FlightLink

/-- The packets sent on leaving a state; `own` is the identification of this
side. -/
def State.leavingPackets (own : Message) :
    State → Event → List (Message × Option Event)
  | systemIdPending, .remoteIdValid => [(own, none)]
  | idPending, .remoteIdValid => [(.accept, none)]
  | idPending, .remoteIdInvalid => [(.reject, none)]
  | associationPending, .localDisconnect
  | associationPending, .localShutdown => [(.shutdown, none)]
  | associationPending, .receiveTimeout => [(.startup, some .localStartup)]
  | associationPending, .remoteStartup => [(.startup, none)]
  | dataReady, .localDisconnect
  | dataReady, .localShutdown => [(.shutdown, none)]
  | dataReady, .sendTimeout => [(.heartbeat, none)]
  | _, _ => []

/-- The packets sent on entering a state. -/
def State.enteringPackets (own : Message) (goal : Goal) :
    State → List (Message × Option Event)
  | connectionPending => [(own, some .remoteSetup)]
  | ready => if goal = .dataReady then [(.startup, some .localStartup)] else []
  | _ => []

/-- The packets that may be sent on the way from one state to another. -/
inductive State.Sends (own : Message) (goal : Goal) (s t : State) :
    Message × Option Event → Prop where
  | introduction (ht : t = .connectionPending) : Sends own goal s t (own, some .remoteSetup)
  | reply (hs : s = .systemIdPending) : Sends own goal s t (own, none)
  | acceptance (hs : s = .idPending) : Sends own goal s t (.accept, none)
  | rejection (hs : s = .idPending) : Sends own goal s t (.reject, none)
  | request (ht : t = .ready) (hgoal : goal = .dataReady) :
      Sends own goal s t (.startup, some .localStartup)
  | repetition (hs : s = .associationPending) :
      Sends own goal s t (.startup, some .localStartup)
  | consent (hs : s = .associationPending) : Sends own goal s t (.startup, none)
  | farewell (hs : s = .associationPending ∨ s = .dataReady) :
      Sends own goal s t (.shutdown, none)
  | heartbeat (hs : s = .dataReady) : Sends own goal s t (.heartbeat, none)

theorem State.sends_of_mem_leavingPackets {own : Message} {goal : Goal} {s t : State}
    {e : Event} {p : Message × Option Event} (hp : p ∈ s.leavingPackets own e) :
    s.Sends own goal t p := by
  unfold State.leavingPackets at hp
  split at hp
  all_goals first
    | exact absurd hp List.not_mem_nil
    | obtain rfl := List.mem_singleton.mp hp
  · exact .reply rfl
  · exact .acceptance rfl
  · exact .rejection rfl
  · exact .farewell (.inl rfl)
  · exact .farewell (.inl rfl)
  · exact .repetition rfl
  · exact .consent rfl
  · exact .farewell (.inr rfl)
  · exact .farewell (.inr rfl)
  · exact .heartbeat rfl

theorem State.sends_of_mem_enteringPackets {own : Message} {goal : Goal} {s t : State}
    {p : Message × Option Event} (hp : p ∈ t.enteringPackets own goal) :
    s.Sends own goal t p := by
  unfold State.enteringPackets at hp
  split at hp
  · obtain rfl := List.mem_singleton.mp hp
    exact .introduction rfl
  · split at hp
    · next hgoal =>
        obtain rfl := List.mem_singleton.mp hp
        exact .request rfl hgoal
    · cases hp
  · cases hp

namespace Channel

open Effect

theorem packets_leaving (c : Channel) (e : Event) :
    packets (c.leaving e) = c.state.leavingPackets c.ownIdentification e := by
  unfold leaving State.leavingPackets
  cases c.state with
  | idle | connectionPending | disabled => simp
  | systemIdPending | idPending | ready => cases e <;> simp
  | associationPending | dataReady => cases e <;> simp

theorem packets_entering (c : Channel) (s : State) :
    packets (c.entering s) = s.enteringPackets c.ownIdentification c.goal := by
  unfold entering State.enteringPackets
  cases s with
  | idle => cases c.config.role <;> simp
  | ready => dsimp only; split <;> simp
  | disabled => simp [TimerKind.all]
  | _ => simp

theorem packets_raise (c : Channel) (e : Event) :
    packets (c.raise e).effects =
      (c.next? e).elim [] fun s =>
        c.state.leavingPackets c.ownIdentification e ++
          s.enteringPackets c.ownIdentification c.goal := by
  rw [packets, collect_raise]
  simp only [packets_leaving, packets_entering]

/-- An event that is not ignored sends packets that its transition may send. -/
theorem sends_of_mem_packets_raise {c : Channel} {e : Event} {p : Message × Option Event}
    (hp : p ∈ packets (c.raise e).effects) :
    ∃ t, c.next? e = some t ∧ c.state.Sends c.ownIdentification c.goal t p := by
  rw [packets_raise] at hp
  cases hnext : c.next? e with
  | none =>
      rw [hnext] at hp
      cases hp
  | some t =>
      rw [hnext, Option.elim_some, List.mem_append] at hp
      refine ⟨t, rfl, ?_⟩
      rcases hp with hleaving | hentering
      · exact State.sends_of_mem_leavingPackets hleaving
      · exact State.sends_of_mem_enteringPackets hentering

/-- An outcome that takes a channel to a state and sends packets. -/
structure Leads (c : Channel) (o : Outcome) (s : State)
    (sent : List (Message × Option Event)) : Prop where
  channel :
    o.channel =
      { c with
        state := s
        awaiting := c.awaiting + (sent.filterMap Prod.snd).length }
  packets : packets o.effects = sent

namespace Leads

variable {c : Channel} {o : Outcome} {s : State}
  {sent : List (Message × Option Event)}

theorem messages (h : c.Leads o s sent) :
    messages o.effects = sent.map Prod.fst := by
  rw [Effect.messages, h.packets]

theorem expected (h : c.Leads o s sent) :
    expected o.effects = sent.filterMap Prod.snd := by
  rw [Effect.expected, h.packets]

/-- A step without packets that leaves the channel as it is. -/
theorem same {effects : List Effect} (hnone : Effect.packets effects = []) :
    c.Leads ⟨c, effects⟩ c.state [] :=
  ⟨rfl, hnone⟩

end Leads

/-- An event with an entry in the table. -/
theorem leads_raise {c : Channel} {e : Event} {s s' : State}
    {sent : List (Message × Option Event)}
    (hstate : c.state = s)
    (hnext : Table.next? c.role s e = some s')
    (hsent :
      s.leavingPackets c.ownIdentification e ++
        s'.enteringPackets c.ownIdentification c.goal = sent) :
    c.Leads (c.raise e) s' sent := by
  have hraise : c.next? e = some s' := by
    rw [next?, hstate, hnext]
  have hpackets : packets (c.raise e).effects = sent := by
    rw [packets_raise, hraise, Option.elim_some, hstate, hsent]
  refine ⟨?_, hpackets⟩
  have hawaiting := raise_awaiting c e
  rw [expected, hpackets] at hawaiting
  have hchannel : (c.raise e).channel =
      { c with state := s', awaiting := (c.raise e).channel.awaiting } := by
    unfold raise
    rw [hraise]
  rw [hchannel, hawaiting]

/-- An event without an entry in the table. -/
theorem leads_raise_of_ignored {c : Channel} {e : Event} {s : State}
    (hstate : c.state = s) (hnext : Table.next? c.role s e = none) :
    c.Leads (c.raise e) s [] := by
  subst hstate
  rw [raise_of_ignored hnext]
  exact .same rfl

theorem leads_send (c : Channel) (m : Message) (after? : Option Event) :
    c.Leads (c.send m after?) c.state [(m, after?)] := by
  have hpackets : packets (c.send m after?).effects = [(m, after?)] := by
    simp [send]
  refine ⟨?_, hpackets⟩
  rw [← hpackets]
  exact congrArg (fun n => { c with awaiting := c.awaiting + n })
    (awaited_eq_length_expected _)

/-- No identification is taken for the acceptance or the rejection of one: it has
a hyphen, and they have none. -/
theorem identificationEvent_identification (c : Channel) (sender receiver : String) :
    c.identificationEvent (Message.identification sender receiver).text =
      if (Message.identification sender receiver).text = c.peerIdentification.text
      then .remoteIdValid else .remoteIdInvalid := by
  have hhyphen : '-' ∈ (Message.identification sender receiver).text.toList := by
    simp only [Message.identification, String.toList_append, List.mem_append]
    exact .inl (.inr (by decide))
  have hne {text : String} (htext : '-' ∉ text.toList) :
      (Message.identification sender receiver).text ≠ text := by
    intro heq
    exact htext (heq ▸ hhyphen)
  rw [identificationEvent, if_neg (hne (by decide)), if_neg (hne (by decide))]

theorem messageEvent?_peerIdentification (c : Channel) :
    c.messageEvent? c.peerIdentification = some .remoteIdValid := by
  have hevent := c.identificationEvent_identification c.config.remoteAtc c.config.localAtc
  rw [← peerIdentification, if_pos rfl] at hevent
  exact congrArg some hevent

/-- A message leads where its event does. -/
theorem leads_dispatch {c : Channel} {m : Message} {e : Event} {s : State}
    {sent : List (Message × Option Event)} (he : c.messageEvent? m = some e)
    (h : c.Leads (c.raise e) s sent) :
    c.Leads (c.dispatch m) s sent := by
  refine ⟨?_, ?_⟩
  · rw [dispatch_channel, he]
    exact h.channel
  · rw [packets, collect_dispatch, he]
    simpa using h.packets

/-- An expiry leads where its event does. -/
theorem leads_timerExpired {c : Channel} {kind : TimerKind} {e : Event}
    {s : State} {sent : List (Message × Option Event)}
    (he : kind.event? = some e) (h : c.Leads (c.raise e) s sent) :
    c.Leads (c.timerExpired kind) s sent := by
  unfold timerExpired
  rw [he]
  refine ⟨h.channel, ?_⟩
  simpa using h.packets

end Channel

end FlightLink
