import FlightLink.Proofs.Delivery.Turns

/-!
# What a turn amounts to

A controller carries out all actions that an input leads to before it takes the next
one.  Seen from outside, its timers are started and stopped in the order of the
actions, its packets are handed over, and its channel is where the input has taken
it.

There is one exception.  After a packet that is too long, its event does not come back
and is not awaited any longer.  Nothing is acted on for that reason, since nothing
arrives in the middle of a turn.
-/

namespace FlightLink

open Channel Effect

/-- Whether an action awaits the event of a packet that is too long. -/
def Action.isLost : Action → Bool
  | send m (some _) => !(m.encode .utf8).isOk
  | _ => false

/-- How many events are awaited in vain. -/
def lost (actions : List Action) : Nat :=
  actions.countP Action.isLost

namespace Channel

variable {c : Channel}

theorem HoldsInOrder.replay_eq (h : c.HoldsInOrder) : c.replay = ⟨c, []⟩ := by
  by_cases hawait : c.awaiting = 0
  · exact replay_of_held_eq_nil (h.held_eq_nil hawait)
  · rw [replay, if_neg hawait]

/-- More events may be awaited than come back. -/
theorem HoldsInOrder.awaiting (h : c.HoldsInOrder) (n : Nat) :
    HoldsInOrder { c with awaiting := c.awaiting + n } :=
  fun hheld => Nat.add_pos_left (h hheld) n

/-- A packet that is not sent leads to records and to nothing else. -/
theorem HoldsInOrder.unsent (h : c.HoldsInOrder) (n : Nat) (after? : Option Event) :
    let d := { c with awaiting := c.awaiting + (n + after?.toList.length) }
    (d.unsent after?).channel = { c with awaiting := c.awaiting + n } ∧
      ∀ a ∈ actions (d.unsent after?).effects, ∃ r, a = .log r := by
  intro d
  have hreplay := (h.awaiting n).replay_eq
  cases after? with
  | none =>
      have hunsent : d.unsent none = ⟨{ c with awaiting := c.awaiting + n }, []⟩ := hreplay
      rw [hunsent]
      exact ⟨rfl, List.forall_mem_nil _⟩
  | some e =>
      have hawait : 0 < d.awaiting := Nat.succ_pos _
      have hunsent : d.unsent (some e) = Outcome.andThen ⟨{ c with awaiting := c.awaiting + n },
          [d.logged .warning s!"packet not sent, {e.name} not raised"]⟩ replay := by
        rw [Channel.unsent, if_pos hawait]
        rfl
      rw [hunsent]
      refine ⟨?_, ?_⟩
      · rw [andThen_channel, hreplay]
      · intro a ha
        rw [andThen_effects, hreplay, List.append_nil, logged, recorded] at ha
        split at ha
        · cases ha
        · exact ⟨_, List.mem_singleton.mp ha⟩

end Channel

namespace Controller

variable {c : Controller} {now : Nat}

/-- A controller that has carried out all actions and goes on.  Its texts are in
UTF-8. -/
structure Settled (c : Controller) : Prop where
  charset : c.channel.config.charset = .utf8
  attached : c.transportGone = false
  going : c.ending? = none
  done : c.pending.toList = []

theorem Settled.with_timers (h : c.Settled) (timers : TimerBank) :
    { c with timers }.Settled :=
  ⟨h.charset, h.attached, h.going, h.done⟩

/-- A controller in the middle of a turn that will end with a channel, timers and
packets handed over. -/
structure Settling (end_ : Channel) (timers : TimerBank) (mail : List Transport.Parcel)
    (now : Nat) (c : Controller) (outputs : List Output) : Prop where
  channel : c.channel =
    { end_ with awaiting := end_.awaiting + lost c.pending.toList }
  timers : c.pending.toList.foldl (TimerBank.carryOut end_.config now) c.timers = timers
  handed : parcels outputs ++ parcelsOf (c.pending.toList.filterMap Action.sent?) = mail
  attached : c.transportGone = false
  going : c.ending? = none

theorem ending?_perform (hattached : c.transportGone = false) (now : Nat) (a : Action) :
    (c.perform now a).1.ending? = c.ending? := by
  have horder : ∀ (d : Controller) (o : Transport.Order), d.transportGone = false →
      d.order o = (d, [.order o]) := by
    intro d o hd
    rw [order, hd]
    rfl
  cases a with
  | send m after? =>
      rw [perform]
      split
      · rw [horder c _ hattached]
      · rfl
  | reconnect => rw [perform, horder c _ hattached]
  | disconnect => rw [perform, horder c _ hattached]
  | halt => rw [perform, horder c _ hattached]
  | reconfigure =>
      simp only [perform]
      rw [horder { c with timers := c.timers.reconfigure c.channel.config } _ hattached]
      split <;> rfl
  | _ => rfl

section Records

variable {l : List Action} (h : ∀ a ∈ l, ∃ r, a = .log r)

include h

/-- Records have nothing to do with timers. -/
theorem foldl_carryOut_of_records {config : Config} {b : TimerBank} :
    l.foldl (TimerBank.carryOut config now) b = b := by
  induction l with
  | nil => rfl
  | cons a rest ih =>
      obtain ⟨⟨r, rfl⟩, hrest⟩ := List.forall_mem_cons.mp h
      exact ih hrest

theorem lost_of_records : lost l = 0 := by
  apply List.countP_eq_zero.mpr
  intro a ha
  obtain ⟨r, rfl⟩ := h a ha
  exact Bool.false_ne_true

theorem filterMap_sent?_of_records : l.filterMap Action.sent? = [] := by
  apply List.filterMap_eq_nil_iff.mpr
  intro a ha
  obtain ⟨r, rfl⟩ := h a ha
  rfl

end Records

/-- What an action echoes are records, and the event of a packet that is too long. -/
theorem echoes_spec {end_ : Channel} (hholds : end_.HoldsInOrder)
    (hcharset : end_.config.charset = .utf8) (a : Action) (rest : List Action)
    (hchannel : c.channel = { end_ with awaiting := end_.awaiting + lost (a :: rest) }) :
    (c.channel.stepAll (c.echoes a)).channel =
        { end_ with awaiting := end_.awaiting + lost rest } ∧
      ∀ b ∈ actions (c.channel.stepAll (c.echoes a)).effects, ∃ r, b = .log r := by
  have hsame : c.echoes a = [] → a.isLost = false →
      (c.channel.stepAll (c.echoes a)).channel =
          { end_ with awaiting := end_.awaiting + lost rest } ∧
        ∀ b ∈ actions (c.channel.stepAll (c.echoes a)).effects, ∃ r, b = .log r := by
    intro hnone hlost
    rw [hnone]
    refine ⟨?_, List.forall_mem_nil _⟩
    rw [lost, List.countP_cons_of_neg (by simp [hlost])] at hchannel
    exact hchannel
  cases a with
  | send m after? =>
      cases hencode : m.encode .utf8 with
      | ok bytes =>
          apply hsame
          · rw [echoes, hchannel, hcharset, hencode]
          · cases after? with
            | none => rfl
            | some e => simp [Action.isLost, hencode, Except.isOk, Except.toBool]
      | error fault =>
          have hlost : lost (.send m after? :: rest) = lost rest + after?.toList.length := by
            cases after? with
            | none => exact List.countP_cons_of_neg (by simp [Action.isLost])
            | some e =>
                exact List.countP_cons_of_pos
                  (by simp [Action.isLost, hencode, Except.isOk, Except.toBool])
          have hechoes : c.echoes (.send m after?) =
              [.log .error s!"cannot send {m.describe}: {fault.message}", .unsent after?] := by
            rw [echoes, hchannel, hcharset, hencode]
          rw [hlost] at hchannel
          obtain ⟨hunsent, hrecords⟩ := hholds.unsent (lost rest) after?
          rw [← hchannel] at hunsent hrecords
          rw [hechoes]
          refine ⟨?_, ?_⟩
          · exact hunsent
          · intro b hb
            simp only [stepAll, andThen_effects, actions_append, Channel.step] at hb
            rcases List.mem_append.mp hb with hrecord | hb
            · rw [logged, recorded] at hrecord
              split at hrecord
              · cases hrecord
              · exact ⟨_, List.mem_singleton.mp hrecord⟩
            · rcases List.mem_append.mp hb with hunsent | hnone
              · exact hrecords b hunsent
              · cases hnone
  | _ => exact hsame rfl rfl

section Settling

variable {end_ : Channel} {timers : TimerBank} {mail : List Transport.Parcel}
  {outputs : List Output} {r : Result}

theorem Settling.performNext? (h : Settling end_ timers mail now c outputs)
    (hholds : end_.HoldsInOrder) (hcharset : end_.config.charset = .utf8)
    (hr : c.performNext? now = some r) :
    Settling end_ timers mail now r.1 (outputs ++ r.2) := by
  obtain ⟨a, rest, hpop, rfl⟩ := exists_perform_of_performNext? hr
  have hpending := Fifo.toList_of_pop? hpop
  let d : Controller := { c with pending := rest }
  have hchannel := h.channel
  have htimers := h.timers
  have hhanded := h.handed
  rw [hpending] at hchannel htimers hhanded
  have hconfig : d.channel.config = end_.config := by
    rw [show d.channel = c.channel from rfl, hchannel]
  obtain ⟨hafter, hrecords⟩ :=
    echoes_spec (c := d) hholds hcharset a rest.toList hchannel
  obtain ⟨hfollows, -, hgone, -⟩ := d.follows_perform now a
  have hparcels := parcels_perform (c := d) h.attached (hconfig ▸ hcharset) now a
  -- Only records are pending in addition, and they concern nobody here.
  have hquiet : (d.perform now a).1.pending.toList.filterMap Action.sent? =
      rest.toList.filterMap Action.sent? := by
    rw [hfollows.pending, List.filterMap_append, filterMap_sent?_of_records hrecords,
      List.append_nil]
  have hlost : lost (d.perform now a).1.pending.toList = lost rest.toList := by
    rw [hfollows.pending, lost, List.countP_append]
    exact congrArg (lost rest.toList + ·) (lost_of_records hrecords)
  constructor
  · rw [hfollows.channel, hlost]
    exact hafter
  · rw [hfollows.pending, List.foldl_append, timers_perform, hconfig]
    rw [foldl_carryOut_of_records hrecords]
    exact htimers
  · have hfirst : (a :: rest.toList).filterMap Action.sent? =
        a.sent?.toList ++ rest.toList.filterMap Action.sent? := by
      simp only [List.filterMap_eq_flatMap_toList, List.flatMap_cons]
    rw [hquiet, parcels_append, hparcels, ← hhanded, hfirst, parcelsOf_append,
      List.append_assoc]
  · exact hgone.trans h.attached
  · exact (ending?_perform (c := d) h.attached now a).trans h.going

end Settling

/-- A turn takes the channel where the input takes it, carries out what is asked of
the timers, and hands over the packets that are not too long. -/
theorem Settled.turn (h : c.Settled) (now : Nat) {i : Input} (hsignals : i ≠ .signalsClosed)
    (hcommands : i ≠ .commandsClosed) {end_ : Channel} (hholds : end_.HoldsInOrder)
    (hcharset : end_.config.charset = .utf8)
    (hend : (c.channel.stepAll (c.inputs i)).channel =
      { end_ with
        awaiting := end_.awaiting +
          lost (actions (c.channel.stepAll (c.inputs i)).effects) }) :
    (c.turn now i).1.Settled ∧ (c.turn now i).1.channel = end_ ∧
      (c.turn now i).1.timers = (actions (c.channel.stepAll (c.inputs i)).effects).foldl
        (TimerBank.carryOut end_.config now) c.timers ∧
      parcels (c.turn now i).2 =
        parcelsOf (packets (c.channel.stepAll (c.inputs i)).effects) := by
  have hfollows := (c.follows_take i).1
  have hpending : (c.take i).1.pending.toList =
      actions (c.channel.stepAll (c.inputs i)).effects := by
    rw [hfollows.pending, h.done, List.nil_append]
  have hstart : Settling end_
      ((actions (c.channel.stepAll (c.inputs i)).effects).foldl
        (TimerBank.carryOut end_.config now) c.timers)
      (parcelsOf (packets (c.channel.stepAll (c.inputs i)).effects)) now (c.take i).1 [] := by
    constructor
    · rw [hpending, hfollows.channel]
      exact hend
    · rw [hpending, take_timers]
    · rw [hpending]
      rfl
    · rw [take_transportGone]
      exact h.attached
    · rw [take_ending? c hsignals hcommands]
      exact h.going
  have hexecuted : Settling end_ _ _ now ((c.take i).1.execute now).1
      ((c.take i).1.execute now).2 :=
    executeOnto_induction (fun h hr => h.performNext? hholds hcharset hr) _ hstart
  have hrest := pending_execute (c.take i).1 now hexecuted.going
  have hturn := turn_eq h.going now i
  obtain ⟨hchannel, htimers, hhanded, hattached, hgoing⟩ := hexecuted
  rw [hrest] at hchannel htimers hhanded
  have hsame : ((c.take i).1.execute now).1.channel = end_ := hchannel
  have hparcels : parcels (c.turn now i).2 = parcels ((c.take i).1.execute now).2 := by
    rw [hturn, parcels_append, parcels, (c.follows_take i).2]
    rfl
  rw [hparcels, ← hhanded, hturn]
  refine ⟨⟨?_, hattached, hgoing, hrest⟩, hsame, htimers, (List.append_nil _).symm⟩
  rw [hsame]
  exact hcharset

end Controller

end FlightLink
