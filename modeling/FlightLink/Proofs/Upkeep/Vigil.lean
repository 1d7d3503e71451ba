import FlightLink.Proofs.Conversation.Handshake
import FlightLink.Proofs.Timer.Rearming
import FlightLink.Proofs.Upkeep.Signs

/-!
# Conversations on a clock

A client and a server have been connected, and from then on the applications send
data and nothing else.  Here the two channels are followed together with the arms of
their timers.  Time passes only while nothing is on the way between them, and never
past the deadline of an arm.

At the time of the connection every arm is as young as it can be.  Once nothing is on
the way any more, both sides exchange data, and from then on the send timer of either
side is no younger than the receive timer of the other one whenever time passes:
what starts the send timer anew is the news of data written or a heartbeat sent, and
either will be heard of at the other side before time goes on.  So the send timer
expires first, and the heartbeat comes in time.
-/

namespace FlightLink

/-- Two configurations, each of which has Ts below the Tr of the other, on a clock with which
a sleep for Ts lasts in full. -/
structure Matched (clock : Clock) (config : Role → Config) : Prop where
  saturates : clock.Saturates
  kept : ∀ r, Clock.seconds (config r).ts < clock.longest
  shorter : ∀ r, (config r).ts < (config r.peer).tr
  identification : ∀ r, 0 < (config r).ti

namespace Matched

variable {clock : Clock} {config : Role → Config}

theorem receive_pos (h : Matched clock config) (r : Role) :
    0 < TimerBank.interval (config r) .receive := by
  have hshorter := h.shorter r.peer
  rw [r.peer_peer] at hshorter
  show 0 < (config r).tr * 1000
  omega

theorem identification_pos (h : Matched clock config) (r : Role) :
    0 < TimerBank.interval (config r) .identification :=
  Nat.mul_pos (h.identification r) (by decide)

end Matched

/-- The messages on hold at a side and those on the way to it. -/
def Party.incoming (p : Party) : List Message :=
  p.channel.held.toList ++ p.inbox

/-- A conversation at a time, with the arms of the timers of both sides. -/
structure Vigil where
  conversation : Conversation
  arm? : Role → TimerKind → Option Arm
  now : Nat

namespace Vigil

open Effect

/-- A step of one side, which starts and stops some of its timers. -/
def act (x : Vigil) (r : Role) (arm? : TimerKind → Option Arm) (p : Party)
    (o : Channel.Outcome) : Vigil where
  conversation := x.conversation.act r p o
  arm? := Function.update x.arm? r (rearm o.channel.config x.now arm? (timings o.effects))
  now := x.now

/-- What can happen at one side: the arms and the side that are left when something
is taken from them, and what the channel takes in. -/
inductive Step (x : Vigil) (r : Role) :
    (TimerKind → Option Arm) → Party → Channel.Input → Prop where
  | deliver {m : Message} {rest : List Message}
      (hinbox : (x.conversation r).inbox = m :: rest) :
      Step x r (x.arm? r) { x.conversation r with inbox := rest } (.receive m)
  | confirm {e : Event} {rest : List Event} (howed : (x.conversation r).owed = e :: rest) :
      Step x r (x.arm? r) { x.conversation r with owed := rest } (.confirm e)
  | data (text : String) :
      Step x r (x.arm? r) (x.conversation r) (.command (.data text))
  | expire {a : Arm} (harm : x.arm? r .send = some a) :
      Step x r (Function.update (x.arm? r) .send none) (x.conversation r)
        (.timerExpired .send)

/-- Every arm has just been made. -/
def Early (x : Vigil) : Prop :=
  ∀ r kind a, x.arm? r kind = some a → a.since = x.now

/-- The peer of a side will not miss it: a sign of life is on its way to the peer, or
has just been heard, or the side will come up with the next one first. -/
def Attended (x : Vigil) (r : Role) : Prop :=
  ∀ a, x.arm? r.peer .receive = some a →
    (∃ m ∈ (x.conversation r.peer).incoming, m.isVital) ∨ a.since = x.now ∨
      (x.conversation r).owed = [] ∧ ∃ b, x.arm? r .send = some b ∧ b.since ≤ a.since

/-- Both sides exchange data, and each will be heard of in time. -/
structure Late (clock : Clock) (x : Vigil) : Prop where
  state : ∀ r, (x.conversation r).channel.state = .dataReady
  attended : ∀ r, x.Attended r
  alive : ∀ r a, x.arm? r .receive = some a → x.now < a.deadline clock

/-- The identification of each side. -/
def identification (config : Role → Config) (r : Role) : Message :=
  .identification (config r).localAtc (config r).remoteAtc

/-- What is known of a conversation whose connection was made at `start`. -/
structure Sound (clock : Clock) (config : Role → Config) (start : Nat) (x : Vigil) : Prop where
  configured : ∀ r, (x.conversation r).channel.config = config r
  holds : x.conversation.HoldsInOrder
  agreement : x.conversation.unheld.Agreement (identification config)
  supervised : ∀ r,
    (x.conversation r).channel.Supervised fun kind => (x.arm? r kind).isSome
  interval : ∀ r kind a, x.arm? r kind = some a →
    a.interval = TimerBank.interval (config r) kind
  since : ∀ r kind a, x.arm? r kind = some a → a.since ≤ x.now
  phase : x.now = start ∧ x.Early ∨ x.Late clock

variable {x : Vigil} {r : Role} {arm? : TimerKind → Option Arm} {p : Party}
  {i : Channel.Input}

/-! ## Two sides that exchange data -/

/-- Between two sides that exchange data there is nothing but traffic. -/
theorem isTraffic_of_stage {ident : Role → Message} {client server : State}
    {toClient toServer : List Message} (h : Stage ident client toClient server toServer)
    (hclient : client = .dataReady) (hserver : server = .dataReady) :
    (∀ m ∈ toClient, m.IsTraffic) ∧ ∀ m ∈ toServer, m.IsTraffic := by
  subst hclient hserver
  cases h with
  | associating hdueClient hdueServer => exact ⟨hdueClient, hdueServer⟩

theorem ne_shutdown_of_isTraffic {m : Message} (h : m.IsTraffic) : m ≠ .shutdown := by
  rcases h with rfl | rfl | ⟨text, rfl⟩
  · decide
  · decide
  · simp [Message.operational, Message.shutdown]

/-- The events that are owed to a side are among those that packets ask for. -/
theorem isAsked_of_owes {s : State} {owed : List Event} (h : s.Owes r owed) :
    ∀ e ∈ owed, e.isAsked := by
  intro e he
  cases s with
  | connectionPending =>
      obtain ⟨-, rfl⟩ := h
      obtain rfl := List.mem_singleton.mp he
      rfl
  | ready =>
      obtain rfl := h.2 e he
      rfl
  | associationPending | dataReady =>
      obtain rfl := h e he
      rfl
  | idle | systemIdPending | idPending | disabled =>
      obtain rfl : owed = [] := h
      cases he

section Sound

variable {clock : Clock} {config : Role → Config} {start : Nat}

theorem Sound.incoming (h : x.Sound clock config start)
    (hstate : ∀ r, (x.conversation r).channel.state = .dataReady) (r : Role) :
    ∀ m ∈ (x.conversation r).incoming, m ≠ .shutdown := by
  obtain ⟨hclient, hserver⟩ := isTraffic_of_stage h.agreement.stage
    (hstate .client) (hstate .server)
  intro m hm
  apply ne_shutdown_of_isTraffic
  cases r with
  | client => exact hclient m hm
  | server => exact hserver m hm

theorem Sound.exchanging (h : x.Sound clock config start)
    (hstate : ∀ r, (x.conversation r).channel.state = .dataReady) (r : Role) :
    (x.conversation r).channel.Exchanging :=
  ⟨hstate r, h.holds r, fun m hm => h.incoming hstate r m (List.mem_append_left _ hm)⟩

/-! ## Steps -/

namespace Step

theorem inbox (h : x.Step r arm? p i) :
    (x.conversation r).inbox = i.arrivals ++ p.inbox := by
  cases h with
  | deliver hinbox => exact hinbox
  | _ => rfl

theorem arm_of_ne (h : x.Step r arm? p i) {kind : TimerKind} (hkind : kind ≠ .send) :
    arm? kind = x.arm? r kind := by
  cases h with
  | expire => exact Function.update_of_ne hkind _ _
  | _ => rfl

theorem arm_of_some (h : x.Step r arm? p i) {kind : TimerKind} {a : Arm}
    (ha : arm? kind = some a) : x.arm? r kind = some a := by
  by_cases hkind : kind = .send
  · subst hkind
    cases h with
    | expire => simp at ha
    | _ => exact ha
  · rwa [← h.arm_of_ne hkind]

/-- A step is a move of the conversation. -/
theorem exists_move (h : x.Step r arm? p i) : ∃ move : Conversation.Move, move.IsOrderly ∧
    x.conversation.next move =
      x.conversation.act r p ((x.conversation r).channel.step i) := by
  cases h with
  | deliver hinbox =>
      refine ⟨.deliver r, trivial, ?_⟩
      simp only [Conversation.next, hinbox]
      rfl
  | confirm howed =>
      refine ⟨.confirm r, trivial, ?_⟩
      simp only [Conversation.next, howed]
      rfl
  | data text => exact ⟨.command r (.data text), trivial, rfl⟩
  | expire => exact ⟨.expire r, trivial, rfl⟩

theorem config_eq (h : x.Step r arm? p i) (hholds : x.conversation.HoldsInOrder) :
    ((x.conversation r).channel.step i).channel.config =
      (x.conversation r).channel.config := by
  have hformal : ∀ i : Channel.Input, (∀ y, i ≠ .command y) →
      ((x.conversation r).channel.step i).channel.config =
        (x.conversation r).channel.config := by
    intro i hi
    have hsteps := Channel.utters_stepAll (hholds r) (l := [i]) (by simpa using hi)
    exact hsteps.1
  cases h with
  | data text =>
      simp only [Channel.step, Channel.obey]
      split <;> rfl
  | _ => exact hformal _ (by simp)

/-- The timers that are armed follow the state. -/
theorem supervised (h : x.Step r arm? p i) (hx : x.Sound clock config start) :
    ((x.conversation r).channel.step i).Supervised fun kind => (arm? kind).isSome := by
  have hchannel := hx.supervised r
  cases h with
  | deliver => exact hchannel.receive _
  | @confirm e rest howed =>
      refine hchannel.confirm ?_
      rintro rfl
      have hasked := isAsked_of_owes (hx.agreement.owes r) .identificationTimeout
        (by
          show _ ∈ (x.conversation r).owed
          rw [howed]
          exact List.mem_cons_self)
      cases hasked
  | data text => exact hchannel.obey (.data text)
  | @expire a harm =>
      rw [isSome_update_none]
      exact hchannel.timerExpired (by rw [harm]; rfl)

theorem isUpkeep (h : x.Step r arm? p i) (hx : x.Sound clock config start)
    (hstate : ∀ r, (x.conversation r).channel.state = .dataReady) : i.IsUpkeep := by
  cases h with
  | @deliver m rest hinbox =>
      apply hx.incoming hstate r
      apply List.mem_append_right
      rw [hinbox]
      exact List.mem_cons_self
  | @confirm e rest howed =>
      have howes : (x.conversation r).channel.state.Owes r (x.conversation r).owed :=
        hx.agreement.owes r
      rw [hstate r, howed] at howes
      exact howes e List.mem_cons_self
  | data text => trivial
  | expire => trivial

/-- A step of a side that exchanges data either leaves it the younger of the two, or
sends a sign of life. -/
theorem owed_or_vital (h : x.Step r arm? p i) (hx : x.Sound clock config start)
    (hstate : ∀ r, (x.conversation r).channel.state = .dataReady)
    (howed : (x.conversation r).owed = []) :
    let o := (x.conversation r).channel.step i
    (p.after o).owed = [] ∧ arm? = x.arm? r ∧ i.isReport = false ∨
      ∃ m ∈ messages o.effects, m.isVital := by
  have hexchange : ((x.conversation r).channel.step i).Exchanges True _ i.sends :=
    Channel.exchanges_step (hx.exchanging hstate r) ((h.isUpkeep hx hstate).isExchange True)
  have hpackets := hexchange.packets
  intro o
  cases h with
  | deliver =>
      refine .inl ⟨?_, rfl, rfl⟩
      have hnone : expected o.effects = [] := by
        rw [expected, hpackets]
        rfl
      show (x.conversation r).owed ++ expected o.effects = []
      rw [howed, hnone]
      rfl
  | confirm hcons =>
      rw [howed] at hcons
      cases hcons
  | data text =>
      refine .inr ⟨.operational text, ?_, rfl⟩
      rw [messages, hpackets]
      exact List.mem_cons_self
  | expire =>
      refine .inr ⟨.heartbeat, ?_, rfl⟩
      rw [messages, hpackets]
      exact List.mem_cons_self

end Step

/-- The conversation after a step. -/
def next (x : Vigil) (r : Role) (arm? : TimerKind → Option Arm) (p : Party)
    (i : Channel.Input) : Vigil :=
  x.act r arm? p ((x.conversation r).channel.step i)

theorem conversation_act_self (o : Channel.Outcome) :
    (x.act r arm? p o).conversation r = p.after o :=
  Conversation.act_self ..

theorem conversation_act_peer (o : Channel.Outcome) :
    (x.act r arm? p o).conversation r.peer =
      { x.conversation r.peer with
        inbox := (x.conversation r.peer).inbox ++ messages o.effects } :=
  Conversation.act_peer ..

theorem arm?_act_self (o : Channel.Outcome) : (x.act r arm? p o).arm? r =
    rearm o.channel.config x.now arm? (timings o.effects) :=
  Function.update_self ..

theorem arm?_act_of_ne {r' : Role} (hr : r' ≠ r) (o : Channel.Outcome) :
    (x.act r arm? p o).arm? r' = x.arm? r' :=
  Function.update_of_ne hr ..

/-- An arm is an old one or has just been made. -/
theorem arm?_next_cases (h : x.Step r arm? p i) (hx : x.Sound clock config start) {r' : Role}
    {kind : TimerKind} {a : Arm} (ha : (x.next r arm? p i).arm? r' kind = some a) :
    x.arm? r' kind = some a ∨ a = ⟨x.now, TimerBank.interval (config r') kind⟩ := by
  by_cases hr : r' = r
  · subst hr
    rw [next, arm?_act_self] at ha
    rcases rearm_cases ha with hbefore | hnew
    · exact .inl (h.arm_of_some hbefore)
    · rw [h.config_eq hx.holds, hx.configured] at hnew
      exact .inr hnew
  · rw [next, arm?_act_of_ne hr] at ha
    exact .inl ha

theorem Early.next (hearly : x.Early) (h : x.Step r arm? p i) (hx : x.Sound clock config start) :
    (x.next r arm? p i).Early := by
  intro r' kind a ha
  rcases arm?_next_cases h hx ha with hbefore | rfl
  · exact hearly r' kind a hbefore
  · rfl

namespace Late

variable (hlate : x.Late clock) (h : x.Step r arm? p i) (hx : x.Sound clock config start)

include hlate h hx

theorem state_next (r' : Role) :
    ((x.next r arm? p i).conversation r').channel.state = .dataReady := by
  have hexchange : ((x.conversation r).channel.step i).Exchanges True _ i.sends :=
    Channel.exchanges_step (hx.exchanging hlate.state r)
      ((h.isUpkeep hx hlate.state).isExchange True)
  rcases Conversation.eq_or_eq_peer r r' with rfl | rfl
  · rw [Vigil.next, conversation_act_self]
    exact hexchange.state
  · rw [Vigil.next, conversation_act_peer]
    exact hlate.state r.peer

/-- The side at which something happens is still attended to by the other one. -/
theorem attended_next : (x.next r arm? p i).Attended r := by
  have hheeds := Channel.heeds_step (hx.exchanging hlate.state r) (h.isUpkeep hx hlate.state)
  have hconvey : ((x.next r arm? p i).conversation r.peer).incoming =
      (x.conversation r.peer).incoming ++
        messages ((x.conversation r).channel.step i).effects := by
    rw [Vigil.next, conversation_act_peer]
    exact (List.append_assoc _ _ _).symm
  intro a ha
  rw [Vigil.next, arm?_act_of_ne r.peer_ne] at ha
  rw [hconvey]
  rcases hlate.attended r a ha with ⟨m, hm, hvital⟩ | hsince | ⟨howed, b, hb, hle⟩
  · exact .inl ⟨m, List.mem_append_left _ hm, hvital⟩
  · exact .inr (.inl hsince)
  · rcases h.owed_or_vital hx hlate.state howed with ⟨hnone, rfl, hreport⟩ | ⟨m, hm, hvital⟩
    · refine .inr (.inr ⟨?_, b, ?_, hle⟩)
      · rw [Vigil.next, conversation_act_self]
        exact hnone
      · rw [Vigil.next, arm?_act_self, rearm_of_forall_ne]
        · exact hb
        · rintro t ht hkind
          rcases hheeds.timings t ht with rfl | rfl
          · cases hkind
          · exact hheeds.report hreport ht
    · exact .inl ⟨m, List.mem_append_right _ hm, hvital⟩

/-- The side at which something happens attends to the other one. -/
theorem attended_peer_next : (x.next r arm? p i).Attended r.peer := by
  have hheeds := Channel.heeds_step (hx.exchanging hlate.state r) (h.isUpkeep hx hlate.state)
  have hattended := hlate.attended r.peer
  unfold Attended at hattended ⊢
  rw [r.peer_peer] at hattended ⊢
  rw [Vigil.next, arm?_act_self, arm?_act_of_ne r.peer_ne]
  intro a ha
  by_cases hbeat : (.receive, true) ∈ timings ((x.conversation r).channel.step i).effects
  · -- It has just heard of the other one.
    have hstarts : (.receive, false) ∉ timings ((x.conversation r).channel.step i).effects := by
      intro hmem
      rcases hheeds.timings _ hmem with heq | heq <;> cases heq
    rw [rearm_of_mem hbeat hstarts] at ha
    obtain rfl := Option.some.inj ha
    exact .inr (.inl rfl)
  · have hold : x.arm? r .receive = some a := by
      rw [← h.arm_of_ne (by decide), ← ha, rearm_of_forall_ne]
      rintro t ht hkind
      rcases hheeds.timings t ht with rfl | rfl
      · exact hbeat ht
      · cases hkind
    rcases hattended a hold with ⟨m, hm, hvital⟩ | hsince | ⟨howed, b, hb, hle⟩
    · left
      refine ⟨m, ?_, hvital⟩
      have hself : ((x.act r arm? p ((x.conversation r).channel.step i)).conversation r).incoming =
          ((x.conversation r).channel.step i).channel.held.toList ++ p.inbox := by
        rw [conversation_act_self]
        rfl
      rw [Party.incoming, h.inbox, ← List.append_assoc] at hm
      rw [hself]
      rcases List.mem_append.mp hm with hhere | hinbox
      · exact List.mem_append_left _ ((hheeds.vital m hhere hvital).resolve_right hbeat)
      · exact List.mem_append_right _ hinbox
    · exact .inr (.inl hsince)
    · refine .inr (.inr ⟨?_, b, hb, hle⟩)
      rw [conversation_act_peer]
      exact howed

theorem next (hmatched : Matched clock config) : (x.next r arm? p i).Late clock where
  state := hlate.state_next h hx
  attended r' := by
    rcases Conversation.eq_or_eq_peer r r' with rfl | rfl
    · exact hlate.attended_next h hx
    · exact hlate.attended_peer_next h hx
  alive r' a ha := by
    rcases arm?_next_cases h hx ha with hbefore | rfl
    · exact hlate.alive r' a hbefore
    · exact Arm.since_lt_deadline (a := ⟨x.now, _⟩) hmatched.saturates (hmatched.receive_pos r')

end Late

/-- What is known of a conversation remains true whatever happens. -/
theorem Sound.next (hmatched : Matched clock config) (hx : x.Sound clock config start)
    (h : x.Step r arm? p i) : (x.next r arm? p i).Sound clock config start := by
  obtain ⟨move, horderly, hmove⟩ := h.exists_move
  have hmoves : ∀ m ∈ [move], m.IsOrderly := by simpa using horderly
  have hrun := hx.agreement.run hx.holds hmoves
  have hconversation : x.conversation.run [move] = (x.next r arm? p i).conversation := hmove
  rw [hconversation] at hrun
  have hsupervised : ((x.conversation r).channel.step i).channel.Supervised
      fun kind => ((x.next r arm? p i).arm? r kind).isSome := by
    rw [Vigil.next, arm?_act_self, isSome_rearm]
    exact (h.supervised hx).channel
  constructor
  · intro r'
    rcases Conversation.eq_or_eq_peer r r' with rfl | rfl
    · rw [Vigil.next, conversation_act_self]
      exact (h.config_eq hx.holds).trans (hx.configured r')
    · rw [Vigil.next, conversation_act_peer]
      exact hx.configured r.peer
  · exact hrun.1
  · exact hrun.2
  · intro r'
    rcases Conversation.eq_or_eq_peer r r' with rfl | rfl
    · rw [Vigil.next, conversation_act_self]
      exact hsupervised
    · rw [Vigil.next, arm?_act_of_ne r.peer_ne, conversation_act_peer]
      exact hx.supervised r.peer
  · intro r' kind a ha
    rcases arm?_next_cases h hx ha with hbefore | rfl
    · exact hx.interval r' kind a hbefore
    · rfl
  · intro r' kind a ha
    rcases arm?_next_cases h hx ha with hbefore | rfl
    · exact hx.since r' kind a hbefore
    · exact Nat.le_refl _
  · rcases hx.phase with ⟨hnow, hearly⟩ | hlate
    · exact .inl ⟨hnow, hearly.next h hx⟩
    · exact .inr (hlate.next h hx hmatched)

/-! ## Several messages at once -/

theorem act_of_no_effects (x : Vigil) (r : Role) :
    x.act r (x.arm? r) (x.conversation r) ⟨(x.conversation r).channel, []⟩ = x := by
  have hconversation := x.conversation.act_of_no_effects r
  have harm : Function.update x.arm? r (x.arm? r) = x.arm? := Function.update_eq_self r _
  rw [act, hconversation]
  exact congrArg (fun arm? => { x with arm? }) harm

/-- Two steps in a row that leave the configuration alone are one. -/
theorem act_act (x : Vigil) (r : Role) (arm? : TimerKind → Option Arm) (p : Party)
    (inbox : List Message) (o : Channel.Outcome) (next : Channel → Channel.Outcome)
    (hconfig : (next o.channel).channel.config = o.channel.config) :
    let y := x.act r arm? p o
    y.act r (y.arm? r) { y.conversation r with inbox } (next o.channel) =
      x.act r arm? { p with inbox } (o.andThen next) := by
  intro y
  have hconversation := x.conversation.act_act r p inbox o next
  have harm : rearm (next o.channel).channel.config y.now (y.arm? r)
        (timings (next o.channel).effects) =
      rearm (o.andThen next).channel.config x.now arm? (timings (o.andThen next).effects) := by
    have htimings : timings (o.andThen next).effects =
        timings o.effects ++ timings (next o.channel).effects := collect_append ..
    rw [arm?_act_self, htimings, rearm_append, Channel.andThen_channel, hconfig]
    rfl
  have hupdate : ∀ after : TimerKind → Option Arm,
      Function.update y.arm? r after = Function.update x.arm? r after :=
    fun after => Function.update_idem ..
  rw [act, harm, hupdate]
  exact congrArg (Vigil.mk · _ x.now) hconversation

/-- A side may take in messages one after the other. -/
theorem Sound.deliverAll (hmatched : Matched clock config) (hx : x.Sound clock config start)
    {l rest : List Message} (hinbox : (x.conversation r).inbox = l ++ rest) :
    (x.act r (x.arm? r) { x.conversation r with inbox := rest }
      ((x.conversation r).channel.stepAll (l.map .receive))).Sound clock config start := by
  induction l generalizing x with
  | nil =>
      have hself : { x.conversation r with inbox := rest } = x.conversation r := by
        rw [show rest = (x.conversation r).inbox from hinbox.symm]
      rw [hself]
      have hsame := x.act_of_no_effects r
      rw [← hsame] at hx
      exact hx
  | cons m l ih =>
      have hstep : x.Step r (x.arm? r) { x.conversation r with inbox := l ++ rest }
          (.receive m) := .deliver hinbox
      have hy := hx.next hmatched hstep
      have hlist : ((x.next r (x.arm? r) { x.conversation r with inbox := l ++ rest }
          (.receive m)).conversation r).inbox = l ++ rest := by
        rw [Vigil.next, conversation_act_self]
        rfl
      have hafter := ih hy hlist
      have hchannel : ((x.next r (x.arm? r) { x.conversation r with inbox := l ++ rest }
          (.receive m)).conversation r).channel =
            ((x.conversation r).channel.step (.receive m)).channel := by
        rw [Vigil.next, conversation_act_self]
        rfl
      rw [hchannel] at hafter
      have hholds : ((x.conversation r).channel.step (.receive m)).channel.HoldsInOrder :=
        Channel.holdsInOrder_step (hx.holds r) _
      have hconfig := (Channel.utters_stepAll hholds (l := l.map .receive) (by simp)).1
      have hboth := x.act_act r (x.arm? r) { x.conversation r with inbox := l ++ rest } rest
        ((x.conversation r).channel.step (.receive m)) (·.stepAll (l.map .receive)) hconfig
      rw [Vigil.next, hboth] at hafter
      exact hafter

/-! ## The passing of time -/

theorem Sound.isSome_send (hx : x.Sound clock config start)
    (hstate : ∀ r, (x.conversation r).channel.state = .dataReady) (r : Role) :
    ∃ a, x.arm? r .send = some a := by
  rw [← Option.isSome_iff_exists]
  exact (hx.supervised r).supervises.send.mpr (hstate r)

/-- An arm that is due is that of a send timer. -/
theorem Sound.eq_send_of_due (hmatched : Matched clock config) (hx : x.Sound clock config start)
    {kind : TimerKind} {a : Arm} (ha : x.arm? r kind = some a) (hdue : a.deadline clock ≤ x.now) :
    kind = .send := by
  have hsupervises := (hx.supervised r).supervises
  have harmed : (x.arm? r kind).isSome = true := by
    rw [ha]
    rfl
  have hearly : 0 < TimerBank.interval (config r) kind → ¬x.Early := by
    intro hpos hearly
    have hlt := a.since_lt_deadline hmatched.saturates (hx.interval r kind a ha ▸ hpos)
    rw [hearly r kind a ha] at hlt
    omega
  cases kind with
  | send => rfl
  | reconnect =>
      exact absurd (hsupervises.reconnect harmed).2 (hx.agreement.ne_idle r)
  | receive =>
      rcases hx.phase with ⟨-, hphase⟩ | hlate
      · exact absurd hphase (hearly (hmatched.receive_pos r))
      · have halive := hlate.alive r a ha
        omega
  | identification =>
      rcases hx.phase with ⟨-, hphase⟩ | hlate
      · exact absurd hphase (hearly (hmatched.identification_pos r))
      · rcases hsupervises.identification.mp harmed with hs | hs <;>
          rw [hlate.state r] at hs <;> cases hs

/-- When nothing is on the way, the send timer of a side is no younger than the
receive timer of its peer. -/
theorem Sound.since_le (hx : x.Sound clock config start) (hquiescent : x.conversation.Quiescent)
    {a b : Arm} (ha : x.arm? r .send = some a) (hb : x.arm? r.peer .receive = some b) :
    a.since ≤ b.since := by
  rcases hx.phase with ⟨-, hearly⟩ | hlate
  · rw [hearly r _ a ha, hearly r.peer _ b hb]
  · rcases hlate.attended r b hb with ⟨m, hm, -⟩ | hsince | ⟨-, a', ha', hle⟩
    · have hawaiting := (hx.agreement.attuned r.peer).awaiting
      have howed : (x.conversation.unheld r.peer).owed = [] := (hquiescent r.peer).2
      rw [howed] at hawaiting
      have hheld := (hx.holds r.peer).held_eq_nil hawaiting
      rw [Party.incoming, hheld, (hquiescent r.peer).1] at hm
      cases hm
    · rw [hsince]
      exact hx.since r _ a ha
    · rw [ha] at ha'
      obtain rfl := Option.some.inj ha'
      exact hle

/-- When nothing is on the way, the send timer of a side expires before the receive
timer of its peer. -/
theorem Sound.deadline_lt_deadline (hmatched : Matched clock config)
    (hx : x.Sound clock config start) (hquiescent : x.conversation.Quiescent) {a b : Arm}
    (ha : x.arm? r .send = some a) (hb : x.arm? r.peer .receive = some b) :
    a.deadline clock < b.deadline clock := by
  have hainterval : a.interval = Clock.seconds (config r).ts := hx.interval r _ a ha
  have hbinterval : b.interval = Clock.seconds (config r.peer).tr :=
    hx.interval r.peer _ b hb
  apply Arm.deadline_lt_deadline hmatched.saturates (hx.since_le hquiescent ha hb)
  · rw [hainterval, hbinterval]
    exact Nat.mul_lt_mul_of_pos_right (hmatched.shorter r) (by decide)
  · rw [hainterval]
    exact hmatched.kept r

/-- Time passes while nothing is on the way, up to the next deadline at most. -/
theorem Sound.pass (hmatched : Matched clock config) (hx : x.Sound clock config start)
    (hquiescent : x.conversation.Quiescent) {duration : Nat}
    (hprompt : ∀ r kind a, x.arm? r kind = some a → x.now + duration ≤ a.deadline clock) :
    { x with now := x.now + duration }.Sound clock config start := by
  have hstate := hx.agreement.eq_dataReady hx.holds hquiescent
  have hlater : x.now ≤ x.now + duration := Nat.le_add_right _ _
  refine ⟨hx.configured, hx.holds, hx.agreement, hx.supervised, hx.interval, ?_,
    .inr ⟨hstate, ?_, ?_⟩⟩
  · intro r kind a ha
    exact Nat.le_trans (hx.since r kind a ha) hlater
  · intro r a ha
    obtain ⟨b, hb⟩ := hx.isSome_send hstate r
    exact .inr (.inr ⟨(hquiescent r).2, b, hb, hx.since_le hquiescent hb ha⟩)
  · intro r a ha
    obtain ⟨b, hb⟩ := hx.isSome_send hstate r.peer
    rw [← r.peer_peer] at ha
    exact Nat.lt_of_le_of_lt (hprompt r.peer _ b hb)
      (hx.deadline_lt_deadline hmatched hquiescent hb ha)

end Sound

end Vigil

end FlightLink
