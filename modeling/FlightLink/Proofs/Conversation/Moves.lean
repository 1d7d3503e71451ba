import FlightLink.Proofs.Channel.Hold
import Mathlib.Logic.Function.Iterate

/-!
# Conversations

Two channels talk to each other over one connection that loses nothing: what a
side sends reaches the other side in the same order, and the events of its
packets come back in the order of the packets.  A list of moves says in which
order these things happen.  A move for which there is no message or no event
does nothing.

A message that a channel holds might as well have stayed in the inbox.  So a
conversation is compared with one in which nothing is held: there a side acts
on the next message only while no event is awaited, and a replay is a number of
such moves.  It is enough to look for invariants of these conversations.
-/

namespace FlightLink

/-- The other side of a connection. -/
def Role.peer : Role → Role
  | client => server
  | server => client

@[simp] theorem Role.peer_peer (r : Role) : r.peer.peer = r := by
  cases r <;> rfl

theorem Role.peer_ne (r : Role) : r.peer ≠ r := by
  cases r <;> decide

/-- One side of a conversation, the messages on their way to it, and the events
that come back after its packets. -/
structure Party where
  channel : Channel
  inbox : List Message
  owed : List Event

/-- A side after a step of its channel. -/
def Party.after (p : Party) (o : Channel.Outcome) : Party :=
  { p with
    channel := o.channel
    owed := p.owed ++ Effect.expected o.effects }

/-- The two sides of a connection. -/
abbrev Conversation := Role → Party

namespace Conversation

open Effect

/-- What can happen in a conversation. -/
inductive Move where
  /-- The next message reaches a side. -/
  | deliver (r : Role)
  /-- The event of a side's oldest packet comes back. -/
  | confirm (r : Role)
  /-- The send timer of a side expires, which a channel without an association
  ignores. -/
  | expire (r : Role)
  | command (r : Role) (x : Command)

/-- A step of one side, whose packets get on their way to the other side. -/
def act (v : Conversation) (r : Role) (p : Party) (o : Channel.Outcome) :
    Conversation := fun r' =>
  if r' = r then p.after o
  else { v r' with inbox := (v r').inbox ++ messages o.effects }

/-- An input of one side. -/
def input (v : Conversation) (r : Role) (i : Channel.Input) : Conversation :=
  v.act r (v r) ((v r).channel.step i)

/-- The conversation after a move. -/
def next (v : Conversation) : Move → Conversation
  | .deliver r =>
    match (v r).inbox with
    | [] => v
    | m :: rest => v.act r { v r with inbox := rest } ((v r).channel.receive m)
  | .confirm r =>
    match (v r).owed with
    | [] => v
    | e :: rest => v.act r { v r with owed := rest } ((v r).channel.confirm e)
  | .expire r => v.input r (.timerExpired .send)
  | .command r x => v.input r (.command x)

/-- The conversation after some moves. -/
def run (v : Conversation) (moves : List Move) : Conversation :=
  moves.foldl next v

/-- Nothing is on its way and no event has to come back. -/
def Quiescent (v : Conversation) : Prop :=
  ∀ r, (v r).inbox = [] ∧ (v r).owed = []

/-! ## Conversations without messages on hold -/

/-- The conversation with all messages on hold back in the inboxes. -/
def unheld (v : Conversation) : Conversation := fun r =>
  { v r with
    channel := { (v r).channel with held := #[] }
    inbox := (v r).channel.held.toList ++ (v r).inbox }

/-- A side acts on the next message if it awaits no event. -/
def heed (r : Role) (v : Conversation) : Conversation :=
  match (v r).inbox with
  | [] => v
  | m :: rest =>
    if (v r).channel.awaiting = 0 then
      v.act r { v r with inbox := rest } ((v r).channel.dispatch m)
    else v

/-- The conversation after a move that puts no message on hold. -/
def nextUnheld (v : Conversation) : Move → Conversation
  | .deliver r => v.heed r
  | move => v.next move

/-- Both sides hold messages only while an event is awaited. -/
def HoldsInOrder (v : Conversation) : Prop :=
  ∀ r, (v r).channel.HoldsInOrder

@[simp] theorem act_self (v : Conversation) (r : Role) (p : Party)
    (o : Channel.Outcome) :
    v.act r p o r = p.after o :=
  if_pos rfl

@[simp] theorem act_peer (v : Conversation) (r : Role) (p : Party)
    (o : Channel.Outcome) :
    v.act r p o r.peer =
      { v r.peer with inbox := (v r.peer).inbox ++ messages o.effects } := by
  cases r <;> rfl

theorem eq_or_eq_peer (r r' : Role) : r' = r ∨ r' = r.peer := by
  cases r <;> cases r' <;> simp [Role.peer]

theorem ext_of_side {v w : Conversation} (r : Role)
    (hside : v r = w r) (hpeer : v r.peer = w r.peer) : v = w := by
  funext r'
  rcases eq_or_eq_peer r r' with rfl | rfl
  · exact hside
  · exact hpeer

theorem act_of_no_effects (v : Conversation) (r : Role) :
    v.act r (v r) ⟨(v r).channel, []⟩ = v := by
  apply ext_of_side r <;> simp [Party.after]

theorem act_act (v : Conversation) (r : Role) (p : Party) (inbox : List Message)
    (o : Channel.Outcome) (next : Channel → Channel.Outcome) :
    (v.act r p o).act r { v.act r p o r with inbox } (next o.channel) =
      v.act r { p with inbox } (o.andThen next) := by
  apply ext_of_side r <;> simp [Party.after]

theorem heed_of_awaiting {v : Conversation} {r : Role}
    (hawait : (v r).channel.awaiting ≠ 0) : v.heed r = v := by
  unfold heed
  split
  · rfl
  · exact if_neg hawait

theorem heed_of_cons {v : Conversation} {r : Role} {m : Message}
    {rest : List Message} (hinbox : (v r).inbox = m :: rest)
    (hawait : (v r).channel.awaiting = 0) :
    v.heed r = v.act r { v r with inbox := rest } ((v r).channel.dispatch m) := by
  simp only [heed, hinbox, if_pos hawait]

/-- Acting on messages one after the other is one step, which leaves those in
the inbox that a replay does not act on. -/
theorem heed_iterate {v : Conversation} {r : Role} {l rest : List Message}
    (hinbox : (v r).inbox = l ++ rest) :
    let l₁ := (v r).channel.replayed l
    (heed r)^[l₁.length] v =
      v.act r { v r with inbox := l.drop l₁.length ++ rest }
        ((v r).channel.settleAll (l₁.map (·, .dispatched))) := by
  induction l generalizing v with
  | nil =>
      have hself : { v r with inbox := rest } = v r := by
        rw [show rest = (v r).inbox from hinbox.symm]
      exact (hself ▸ act_of_no_effects v r).symm
  | cons m l ih =>
      by_cases hawait : (v r).channel.awaiting = 0
      · have hheed : v.heed r =
            v.act r { v r with inbox := l ++ rest } ((v r).channel.dispatch m) :=
          heed_of_cons hinbox hawait
        have hrest : (v.heed r r).inbox = l ++ rest := by
          rw [hheed, act_self]
          rfl
        have hchannel : (v.heed r r).channel =
            ((v r).channel.dispatch m).channel := by
          rw [hheed, act_self]
          rfl
        have hiterate := ih hrest
        rw [hchannel, hheed] at hiterate
        simp only [Channel.replayed, if_pos hawait, List.length_cons,
          Function.iterate_succ_apply, List.drop_succ_cons, List.map_cons]
        rw [hheed, hiterate]
        exact act_act v r _ _ _ (·.settleAll _)
      · have hself : { v r with inbox := m :: l ++ rest } = v r := by
          rw [← hinbox]
        simp only [Channel.replayed, if_neg hawait]
        exact (hself ▸ act_of_no_effects v r).symm

theorem unheld_of_held_eq_nil {v : Conversation}
    (h : ∀ r, (v r).channel.held = #[]) : v.unheld = v := by
  funext r
  rw [unheld, Channel.with_held_self (h r), h r]
  rfl

/-! ## Holding makes no difference -/

/-- The effects of a step and what it keeps of its side decide what becomes of a
conversation without messages on hold. -/
theorem unheld_act (v : Conversation) (r : Role) (p : Party)
    (o : Channel.Outcome) :
    (v.act r p o).unheld =
      v.unheld.act r
        { p with inbox := o.channel.held.toList ++ p.inbox }
        ⟨{ o.channel with held := #[] }, o.effects⟩ := by
  apply ext_of_side r <;> simp [unheld, Party.after]

theorem unheld_next_deliver {v : Conversation} {r : Role}
    (h : (v r).channel.HoldsInOrder) :
    (v.next (.deliver r)).unheld = v.unheld.heed r := by
  have hinbox : (v.unheld r).inbox =
      (v r).channel.held.toList ++ (v r).inbox := rfl
  by_cases hawait : (v r).channel.awaiting = 0
  · have hnone := h.held_eq_nil hawait
    cases hrest : (v r).inbox with
    | nil => simp [next, heed, hrest, hinbox, hnone]
    | cons m rest =>
        have hreceive : (v r).channel.receive m = (v r).channel.dispatch m := by
          rw [Channel.receive, if_neg (by omega)]
        have hheld : ((v r).channel.dispatch m).channel.held = #[] := by
          rw [Channel.dispatch_held, hnone]
        have hcons : (v.unheld r).inbox = m :: rest := by
          rw [hinbox, hnone, hrest]
          rfl
        have hdispatch : (v.unheld r).channel.dispatch m = _ :=
          (v r).channel.dispatch_with_held #[] m
        rw [heed_of_cons hcons hawait, hdispatch]
        simp only [next, hrest, hreceive, unheld_act, hheld]
        rfl
  · rw [heed_of_awaiting (v := v.unheld) hawait]
    cases hrest : (v r).inbox with
    | nil => simp only [next, hrest]
    | cons m rest =>
        have hreceive : (v r).channel.receive m =
            ⟨{ (v r).channel with held := (v r).channel.held.push m },
              [(v r).channel.noted .trace s!"holding {m.describe}"]⟩ := by
          rw [Channel.receive, if_pos (by omega)]
        simp only [next, hrest, hreceive, unheld_act]
        apply ext_of_side r
        · simp [unheld, Party.after, hrest, expected]
        · simp [unheld, messages]

/-- A replay is a number of moves that act on the messages put back. -/
theorem unheld_act_replay (v : Conversation) (r : Role) (p : Party)
    (o : Channel.Outcome) :
    ∃ n, (v.act r p (o.andThen Channel.replay)).unheld =
      (heed r)^[n]
        (v.unheld.act r
          { p with inbox := o.channel.held.toList ++ p.inbox }
          ⟨{ o.channel with held := #[] }, o.effects⟩) := by
  let l := o.channel.held.toList
  let l₁ := o.channel.replayed l
  let s := o.channel.settleAll (l₁.map (·, .dispatched))
  let w := v.unheld.act r { p with inbox := l ++ p.inbox }
    ⟨{ o.channel with held := #[] }, o.effects⟩
  have hw : w r =
      { p with
        channel := { o.channel with held := #[] }
        inbox := l ++ p.inbox
        owed := p.owed ++ expected o.effects } := act_self _ _ _ _
  have hinbox : (w r).inbox = l ++ p.inbox := by
    rw [hw]
  have hiterate := heed_iterate hinbox
  rw [hw] at hiterate
  simp only [Channel.replayed_with_held, Channel.settleAll_with_held] at hiterate
  have hact := act_act v.unheld r { p with inbox := l ++ p.inbox }
    (l.drop l₁.length ++ p.inbox) ⟨{ o.channel with held := #[] }, o.effects⟩
    fun _ => ⟨{ s.channel with held := #[] }, s.effects⟩
  refine ⟨l₁.length, ?_⟩
  calc
    (v.act r p (o.andThen Channel.replay)).unheld =
        v.unheld.act r { p with inbox := l.drop l₁.length ++ p.inbox }
          ⟨{ s.channel with held := #[] }, o.effects ++ s.effects⟩ := by
      rw [unheld_act]
      simp only [Channel.Outcome.andThen, Channel.replay_eq]
      rfl
    _ = w.act r { w r with inbox := l.drop l₁.length ++ p.inbox }
          ⟨{ s.channel with held := #[] }, s.effects⟩ := hact.symm
    _ = (heed r)^[l₁.length] w := by
      rw [hw]
      exact hiterate.symm

theorem unheld_next_confirm (v : Conversation) (r : Role) :
    ∃ n, (v.next (.confirm r)).unheld =
      (heed r)^[n] (v.unheld.next (.confirm r)) := by
  cases howed : (v r).owed with
  | nil =>
      refine ⟨0, ?_⟩
      have hunheld : (v.unheld r).owed = [] := howed
      simp only [next, howed, hunheld, Function.iterate_zero, id]
  | cons e rest =>
      have hunheld : (v.unheld r).owed = e :: rest := howed
      simp only [next, howed, hunheld]
      by_cases hawait : (v r).channel.awaiting = 0
      · refine ⟨0, ?_⟩
        have hconfirm : (v r).channel.confirm e = ⟨(v r).channel, _⟩ :=
          if_pos hawait
        have hunheld :
            (v.unheld r).channel.confirm e = ⟨(v.unheld r).channel, _⟩ :=
          if_pos hawait
        rw [hconfirm, hunheld, unheld_act]
        rfl
      · have hconfirm := Channel.confirm_eq_andThen_replay hawait e
        have hunheld : (v.unheld r).channel.confirm e = _ :=
          Channel.confirm_with_held_nil hawait e
        obtain ⟨n, hreplay⟩ :=
          v.unheld_act_replay r { v r with owed := rest } _
        refine ⟨n, ?_⟩
        rw [hconfirm, hunheld, hreplay, Channel.raise_held]
        rfl

/-- A step that has nothing to do with messages on hold. -/
theorem unheld_input (v : Conversation) (r : Role) {i : Channel.Input}
    (hquiet : i.isQuiet) :
    (v.input r i).unheld = v.unheld.input r i := by
  have hheld := (Channel.retains_step (v r).channel hquiet).held
  have hunheld : (v.unheld r).channel.step i = _ :=
    (v r).channel.step_with_held #[] hquiet
  rw [input, unheld_act, hheld, input, hunheld]
  rfl

/-- A move is one of a conversation without messages on hold, and some further
messages that a side acts on. -/
theorem unheld_next {v : Conversation} (h : v.HoldsInOrder) (move : Move) :
    ∃ r n, (v.next move).unheld = (heed r)^[n] (v.unheld.nextUnheld move) := by
  cases move with
  | deliver r => exact ⟨r, 0, unheld_next_deliver (h r)⟩
  | confirm r =>
      obtain ⟨n, hconfirm⟩ := v.unheld_next_confirm r
      exact ⟨r, n, hconfirm⟩
  | expire r => exact ⟨r, 0, v.unheld_input r rfl⟩
  | command r x => exact ⟨r, 0, v.unheld_input r rfl⟩

theorem holdsInOrder_act {v : Conversation} (h : v.HoldsInOrder) (r : Role)
    (p : Party) (i : Channel.Input) :
    (v.act r p ((v r).channel.step i)).HoldsInOrder := by
  intro r'
  rcases eq_or_eq_peer r r' with rfl | rfl
  · rw [act_self]
    exact Channel.holdsInOrder_step (h r') i
  · rw [act_peer]
    exact h r.peer

theorem HoldsInOrder.next {v : Conversation} (h : v.HoldsInOrder)
    (move : Move) : (v.next move).HoldsInOrder := by
  cases move with
  | deliver r =>
      simp only [Conversation.next]
      split
      · exact h
      · exact holdsInOrder_act h r _ (.receive _)
  | confirm r =>
      simp only [Conversation.next]
      split
      · exact h
      · exact holdsInOrder_act h r _ (.confirm _)
  | expire r => exact holdsInOrder_act h r _ (.timerExpired .send)
  | command r x => exact holdsInOrder_act h r _ (.command x)

/-- An invariant of conversations without messages on hold is an invariant of
all conversations. -/
theorem unheld_run_of_invariant {P : Conversation → Prop} {Q : Move → Prop}
    (hdeliver : ∀ r, Q (.deliver r))
    (hnext : ∀ v move, P v → Q move → P (v.nextUnheld move))
    {moves : List Move} (hmoves : ∀ move ∈ moves, Q move)
    {v : Conversation} (hholds : v.HoldsInOrder) (hv : P v.unheld) :
    (v.run moves).HoldsInOrder ∧ P (v.run moves).unheld := by
  induction moves generalizing v with
  | nil => exact ⟨hholds, hv⟩
  | cons move rest ih =>
      obtain ⟨hmove, hrest⟩ := List.forall_mem_cons.mp hmoves
      apply ih hrest (hholds.next move)
      obtain ⟨r, n, hunheld⟩ := unheld_next hholds move
      rw [hunheld]
      have hiterate : ∀ n, P ((heed r)^[n] (v.unheld.nextUnheld move)) := by
        intro n
        induction n with
        | zero => exact hnext _ _ hv hmove
        | succ n ih =>
            rw [Function.iterate_succ_apply']
            exact hnext _ _ ih (hdeliver r)
      exact hiterate n

end Conversation

end FlightLink
