import FlightLink.Proofs.Channel.Announcing
import FlightLink.Proofs.Controller.Oversize
import FlightLink.Proofs.Conversation.Introduction
import FlightLink.Proofs.Settings

/-!
# A client waits for its identification only while its event is to come

No timer runs while a client waits in `State.connectionPending`.  If its transport
reports every packet that it has been handed, either this report or the end of the
connection takes the client away.  So it must not be found waiting without such a packet.

It is not, as long as its identification fits into a packet.  Settings are not checked
for that: the names may have any length.  A client whose identification is too long
waits without having sent anything.
-/

namespace FlightLink

open Channel Effect

/-- The identification of a client with a configuration. -/
def Config.announcement (config : Config) : Message :=
  .identification config.localAtc config.remoteAtc

/-- Whether this identification fits into a packet. -/
def Config.IsAnnounceable (config : Config) : Prop :=
  ∃ bytes, config.announcement.encode config.charset = .ok bytes

namespace Controller

/-- A controller between its turns, and what its transport still has to report. -/
structure Followed where
  controller : Controller
  /-- The events of the packets handed to the transport that have not come back. -/
  owed : List Event
  /-- The configuration in force when the client began to wait, if it waits. -/
  announced : Config

namespace Followed

/-- What remains to be reported once an input has been taken.  The end of a connection
settles it all. -/
def settle (x : Followed) : Input → List Event
  | .signal (.sent e) => x.owed.erase e
  | .signal (.connected false) => []
  | _ => x.owed

/-- Takes an input and carries out the actions that it leads to. -/
def turn (x : Followed) (now : Nat) (i : Input) : Followed :=
  let r := x.controller.turn now i
  { controller := r.1
    owed := x.settle i ++ replies (parcels r.2)
    announced :=
      if x.controller.channel.state = .connectionPending then x.announced
      else x.controller.channel.config }

/-- The inputs that come from a transport that never fails to write: it reports packets
that it has been handed, and none as not sent. -/
def Admits (x : Followed) : Input → Prop
  | .signal (.sent e) => e ∈ x.owed
  | .signal (.unsent _) => False
  | _ => True

/-- What a controller can become.  Its timers are not of interest here, so anything may
happen to them between turns, and the transport may go away. -/
inductive Reachable (config : Config) : Followed → Prop where
  | init : Reachable config ⟨.ofConfig config, [], config⟩
  | turn {x : Followed} (h : Reachable config x) (now : Nat) {i : Input}
      (hi : x.Admits i) : Reachable config (x.turn now i)
  | pass {x : Followed} (h : Reachable config x) (timers : TimerBank) (gone : Bool) :
      Reachable config
        { x with controller := { x.controller with timers, transportGone := gone } }

end Followed

variable {r : Role} {c : Controller} {owed : List Event} {announced : Config}
  {outputs : List Output} {now : Nat}

/-- The packets that are pending, with the events that they ask for. -/
def sends (c : Controller) : List (Message × Option Event) :=
  c.pending.toList.filterMap Action.sent?

/-- A controller in the middle of a turn: the identification of a client that waits has
been handed over, or it is the packet that comes next. -/
structure Announcing (r : Role) (owed : List Event) (announced : Config) (c : Controller)
    (outputs : List Output) : Prop where
  holds : c.channel.HoldsInOrder
  fits : c.channel.Fits r
  asked : ∀ e ∈ c.sends.filterMap Prod.snd, e.isAsked
  due : ∀ e ∈ owed ++ replies (parcels outputs), e.isAsked
  waits : c.ending? = none → c.channel.state = .connectionPending →
    announced.IsAnnounceable → 0 < c.channel.awaiting ∧
      (c.sends = [] ∧ .remoteSetup ∈ owed ++ replies (parcels outputs) ∨
        c.sends = [(announced.announcement, some .remoteSetup)] ∧
          c.channel.config = announced)

/-! ## Carrying out actions -/

theorem state_of_echoes (c : Controller) (a : Action)
    (h : (c.channel.stepAll (c.echoes a)).channel.state = .connectionPending) :
    c.channel.state = .connectionPending := by
  unfold echoes at h
  split at h
  · split at h
    · exact h
    · exact state_of_unsent (c := c.channel) h
  · exact h

/-- Only a packet makes the transport report an event. -/
theorem exists_send_of_mem_replies {a : Action} {e : Event}
    (he : e ∈ replies (parcels (c.perform now a).2)) : ∃ m, a = .send m (some e) := by
  rw [parcels, (c.follows_perform now a).2.2.2] at he
  split at he
  · cases he
  · cases a with
    | send m after? =>
        rw [orderOf?] at he
        split at he
        · obtain rfl : after? = some e := by
            simpa [replies, Transport.Order.parcel?] using he
          exact ⟨m, rfl⟩
        · cases he
    | _ => cases he

/-- A packet that fits is handed over, unless this ends the run. -/
theorem replies_perform {m : Message} {e : Event} {bytes : List UInt8}
    (hencode : m.encode c.channel.config.charset = .ok bytes)
    (hgoing : (c.perform now (.send m (some e))).1.ending? = none) :
    replies (parcels (c.perform now (.send m (some e))).2) = [e] := by
  rw [perform, hencode] at hgoing ⊢
  dsimp only at hgoing ⊢
  unfold order at hgoing ⊢
  split
  · next hgone => simp [hgone, finish] at hgoing
  · rfl

theorem echoes_eq_nil {a : Action}
    (h : ∀ m after?, a = .send m after? →
      ∃ bytes, m.encode c.channel.config.charset = .ok bytes) : c.echoes a = [] := by
  cases a with
  | send m after? =>
      obtain ⟨bytes, hbytes⟩ := h m after? rfl
      rw [echoes, hbytes]
  | _ => rfl

theorem sends_of_pop? {a : Action} {rest : Fifo Action} (hpop : c.pending.pop? = some (a, rest)) :
    c.sends = a.sent?.toList ++ rest.toList.filterMap Action.sent? := by
  rw [sends, Fifo.toList_of_pop? hpop, List.filterMap_cons]
  cases a.sent? <;> rfl

theorem sends_perform (c : Controller) (now : Nat) (a : Action) :
    (c.perform now a).1.sends =
      c.sends ++ packets (c.channel.stepAll (c.echoes a)).effects := by
  rw [sends, (c.follows_perform now a).1.pending, List.filterMap_append]
  rfl

theorem replies_parcels_append (outputs more : List Output) :
    replies (parcels (outputs ++ more)) =
      replies (parcels outputs) ++ replies (parcels more) := by
  rw [parcels_append, replies, List.filterMap_append]
  rfl

/-- An action that comes back to nothing changes neither the channel nor the packets that
are pending. -/
theorem perform_of_echoes_eq_nil {a : Action} (hquiet : c.echoes a = []) (now : Nat) :
    (c.perform now a).1.channel = c.channel ∧ (c.perform now a).1.sends = c.sends := by
  rw [sends_perform, (c.follows_perform now a).1.channel, hquiet]
  exact ⟨rfl, List.append_nil _⟩

theorem eq_send_of_sent? {a : Action} {m : Message} {after? : Option Event}
    (h : a.sent? = some (m, after?)) : a = .send m after? := by
  cases a with
  | send m' after?' => cases h; rfl
  | _ => cases h

/-- While a client waits, the only packet that may come next is its identification. -/
theorem Announcing.eq_announcement (h : Announcing r owed announced c outputs)
    (hgoing : c.ending? = none) (hstate : c.channel.state = .connectionPending)
    (hannounceable : announced.IsAnnounceable) {m : Message} {after? : Option Event}
    {l : List (Message × Option Event)} (hsends : c.sends = (m, after?) :: l) :
    m = announced.announcement ∧ after? = some .remoteSetup ∧ l = [] ∧
      c.channel.config = announced := by
  rcases (h.waits hgoing hstate hannounceable).2 with ⟨hnone, -⟩ | ⟨hone, hconfig⟩
  · rw [hsends] at hnone
    cases hnone
  · rw [hsends] at hone
    obtain ⟨hfirst, rfl⟩ := List.cons.inj hone
    obtain ⟨rfl, rfl⟩ := Prod.mk.inj hfirst
    exact ⟨rfl, rfl, rfl, hconfig⟩

/-- A client that waits goes on to do so once the next action has been carried out. -/
theorem Announcing.waits_perform (h : Announcing r owed announced c outputs)
    (hgoing : c.ending? = none) {a : Action} {rest : Fifo Action}
    (hpop : c.pending.pop? = some (a, rest)) {d : Controller}
    (hd : d = { c with pending := rest }) (hends : (d.perform now a).1.ending? = none)
    (hstate : (d.perform now a).1.channel.state = .connectionPending)
    (hannounceable : announced.IsAnnounceable) :
    0 < (d.perform now a).1.channel.awaiting ∧
      ((d.perform now a).1.sends = [] ∧
          .remoteSetup ∈ owed ++ replies (parcels (outputs ++ (d.perform now a).2)) ∨
        (d.perform now a).1.sends = [(announced.announcement, some .remoteSetup)] ∧
          (d.perform now a).1.channel.config = announced) := by
  have hsame : d.channel = c.channel := by rw [hd]
  have hsends : c.sends = a.sent?.toList ++ d.sends := by
    rw [sends_of_pop? hpop, hd]
    rfl
  have hwaits : c.channel.state = .connectionPending := by
    rw [(d.follows_perform now a).1.channel] at hstate
    exact hsame ▸ state_of_echoes d a hstate
  obtain ⟨hawait, hcases⟩ := h.waits hgoing hwaits hannounceable
  rw [replies_parcels_append, ← List.append_assoc]
  cases ha : a.sent? with
  | none =>
      have hquiet : d.echoes a = [] := by
        refine echoes_eq_nil ?_
        rintro m after? rfl
        cases ha
      obtain ⟨hkept, hrest⟩ := perform_of_echoes_eq_nil hquiet now
      rw [ha, Option.toList_none, List.nil_append] at hsends
      rw [hkept, hrest, hsame, ← hsends]
      exact ⟨hawait, hcases.imp_left fun hnone => ⟨hnone.1, List.mem_append_left _ hnone.2⟩⟩
  | some q =>
      obtain ⟨m, after?⟩ := q
      obtain rfl := eq_send_of_sent? ha
      obtain ⟨rfl, rfl, hnone, hconfig⟩ :=
        h.eq_announcement hgoing hwaits hannounceable hsends
      obtain ⟨bytes, hbytes⟩ := hannounceable
      have hencode : announced.announcement.encode d.channel.config.charset = .ok bytes := by
        rw [hsame, hconfig]
        exact hbytes
      have hquiet : d.echoes (.send announced.announcement (some .remoteSetup)) = [] := by
        rw [echoes, hencode]
      obtain ⟨hkept, hrest⟩ := perform_of_echoes_eq_nil hquiet now
      rw [hkept, hrest, hsame, replies_perform hencode hends]
      exact ⟨hawait, .inl ⟨hnone, List.mem_append_right _ List.mem_cons_self⟩⟩

theorem Announcing.performNext? (h : Announcing r owed announced c outputs) {p : Result}
    (hp : c.performNext? now = some p) :
    Announcing r owed announced p.1 (outputs ++ p.2) := by
  have hgoing : c.ending? = none := by
    cases hending : c.ending? with
    | none => rfl
    | some ending => simp [Controller.performNext?, hending] at hp
  obtain ⟨a, rest, hpop, rfl⟩ := exists_perform_of_performNext? hp
  let d : Controller := { c with pending := rest }
  have hchannel := (d.follows_perform now a).1.channel
  have hsends : c.sends = a.sent?.toList ++ d.sends := sends_of_pop? hpop
  refine ⟨?_, ?_, ?_, ?_, h.waits_perform hgoing hpop rfl⟩
  · rw [hchannel]
    exact holdsInOrder_stepAll h.holds _
  · rw [hchannel]
    exact (h.fits.stepAll h.holds _).2
  · intro e he
    rw [sends_perform, List.filterMap_append, List.mem_append] at he
    rcases he with hold | hnew
    · refine h.asked e ?_
      rw [hsends, List.filterMap_append]
      exact List.mem_append_right _ hold
    · exact h.fits.asked_stepAll h.holds _ e hnew
  · intro e he
    rw [replies_parcels_append, ← List.append_assoc] at he
    rcases List.mem_append.mp he with hold | hnew
    · exact h.due e hold
    · obtain ⟨m, rfl⟩ := exists_send_of_mem_replies hnew
      refine h.asked e ?_
      rw [hsends]
      exact List.mem_cons_self

/-! ## Turns -/

namespace Followed

/-- What a followed controller keeps between its turns. -/
structure Sound (r : Role) (x : Followed) : Prop where
  holds : x.controller.channel.HoldsInOrder
  fits : x.controller.channel.Fits r
  due : ∀ e ∈ x.owed, e.isAsked
  done : x.controller.ending? = none → x.controller.pending.toList = []
  waits : x.controller.ending? = none → x.controller.channel.state = .connectionPending →
    x.announced.IsAnnounceable → .remoteSetup ∈ x.owed ∧ 0 < x.controller.channel.awaiting

variable {x : Followed} {i : Input}

theorem mem_of_mem_settle {e : Event} (he : e ∈ x.settle i) : e ∈ x.owed := by
  unfold settle at he
  split at he
  · exact List.mem_of_mem_erase he
  · cases he
  · exact he

/-- What an input may do to a client that waits, and how it may begin to wait. -/
theorem Sound.abides_or_announces (h : x.Sound r) (hi : x.Admits i)
    (hgoing : x.controller.ending? = none)
    (hannounceable :
      x.controller.channel.state = .connectionPending → x.announced.IsAnnounceable) :
    let c := x.controller.channel
    let o := c.stepAll (x.controller.inputs i)
    o.channel.state = .connectionPending →
      o.Abides c ∧ (c.state = .connectionPending → x.settle i = x.owed) ∨ o.Announces c := by
  intro c o hstate
  have haside : (∀ j ∈ x.controller.inputs i, j.isAside) → x.settle i = x.owed →
      o.Abides c ∧ (c.state = .connectionPending → x.settle i = x.owed) ∨ o.Announces c :=
    fun hl hsettle => .inl ⟨c.abides_stepAll hl, fun _ => hsettle⟩
  have hone : ∀ j : Channel.Input, x.controller.inputs i = [j] → o = c.step j := by
    intro j hj
    rw [← stepAll_singleton, ← hj]
  cases i with
  | signal s =>
      cases s with
      | connected up =>
          have hstep := hone _ rfl
          cases up with
          | true =>
              rw [hstep]
              exact c.abides_or_announces_connected.imp_left fun habides => ⟨habides, fun _ => rfl⟩
          | false =>
              rw [hstep] at hstate
              exact absurd hstate h.fits.connectionLost_state_ne
      | received bytes =>
          refine haside (fun j hj => ?_) rfl
          obtain ⟨cut, -, hj⟩ := List.mem_flatMap.mp hj
          cases cut with
          | incomplete => cases hj
          | _ => obtain rfl := List.mem_singleton.mp hj; rfl
      | sent e =>
          have hstep : o = c.confirm e := hone _ rfl
          rw [hstep] at hstate
          by_cases hawait : c.awaiting = 0
          · rw [confirm, if_pos hawait] at hstate
            have hpos := (h.waits hgoing hstate (hannounceable hstate)).2
            exact absurd hawait (Nat.ne_of_gt hpos)
          · exact absurd hstate (h.fits.confirm_state_ne (h.due e hi) hawait)
      | unsent after? => cases hi
      | raised e =>
          by_cases hsetup : e = .localSetup
          · subst hsetup
            rw [hone _ rfl]
            exact c.abides_or_announces_raise.imp_left fun habides => ⟨habides, fun _ => rfl⟩
          · exact haside (by simpa [inputs, Channel.Input.isAside] using hsetup) rfl
      | log severity text => exact haside (by simp [inputs, Channel.Input.isAside]) rfl
  | _ => exact haside (by simp [inputs, Channel.Input.isAside]) rfl

theorem Sound.take (h : x.Sound r) (hi : x.Admits i) (hgoing : x.controller.ending? = none)
    (now : Nat) :
    Announcing r (x.settle i) (x.turn now i).announced (x.controller.take i).1 [] := by
  obtain ⟨hchannel, hpending⟩ := (x.controller.follows_take i).1
  have hsends : (x.controller.take i).1.sends =
      packets (x.controller.channel.stepAll (x.controller.inputs i)).effects := by
    rw [sends, hpending, h.done hgoing]
    rfl
  have hdue : x.settle i ++ replies (parcels []) = x.settle i := List.append_nil _
  constructor
  · rw [hchannel]
    exact holdsInOrder_stepAll h.holds _
  · rw [hchannel]
    exact (h.fits.stepAll h.holds _).2
  · rw [hsends]
    exact h.fits.asked_stepAll h.holds _
  · rw [hdue]
    exact fun e he => h.due e (mem_of_mem_settle he)
  · intro _ hstate hannounceable
    rw [hsends, hdue, hchannel]
    rw [hchannel] at hstate
    have hbefore : x.controller.channel.state = .connectionPending →
        x.announced.IsAnnounceable := by
      intro hwaits
      rwa [Followed.turn, if_pos hwaits] at hannounceable
    rcases h.abides_or_announces hi hgoing hbefore hstate with ⟨habides, hsettle⟩ | hannounces
    · obtain ⟨hwaits, hnone, hawait⟩ := habides hstate
      obtain ⟨howed, hpos⟩ := h.waits hgoing hwaits (hbefore hwaits)
      refine ⟨Nat.lt_of_lt_of_le hpos hawait, .inl ⟨hnone, ?_⟩⟩
      rw [hsettle hwaits]
      exact howed
    · have hannounced : (x.turn now i).announced = x.controller.channel.config :=
        if_neg hannounces.state
      rw [hannounced]
      exact ⟨hannounces.awaiting, .inr ⟨hannounces.packets, hannounces.config⟩⟩

/-- Once its run has ended, a controller stays as it is. -/
theorem Sound.turn_of_ending (h : x.Sound r) (hended : x.controller.ending? ≠ none)
    (now : Nat) : (x.turn now i).Sound r := by
  have hturn : x.controller.turn now i = (x.controller, []) := by
    obtain ⟨ending, hending⟩ := Option.ne_none_iff_exists'.mp hended
    rw [Controller.turn, hending]
    rfl
  have hends : (x.turn now i).controller = x.controller := congrArg Prod.fst hturn
  have howed : (x.turn now i).owed = x.settle i := by
    rw [Followed.turn, hturn]
    exact List.append_nil _
  rw [← hends] at hended
  refine ⟨hends ▸ h.holds, hends ▸ h.fits, ?_, fun hnone => absurd hnone hended,
    fun hnone => absurd hnone hended⟩
  rw [howed]
  exact fun e he => h.due e (mem_of_mem_settle he)

/-- Before that, it takes the input and carries out what this leads to. -/
theorem Sound.turn_of_going (h : x.Sound r) (hi : x.Admits i)
    (hgoing : x.controller.ending? = none) (now : Nat) : (x.turn now i).Sound r := by
  let c := (x.controller.take i).1
  have hturn := turn_eq hgoing now i
  have hends : (x.turn now i).controller = (c.execute now).1 := by
    rw [Followed.turn, hturn]
  have howed : (x.turn now i).owed = x.settle i ++ replies (parcels (c.execute now).2) := by
    rw [Followed.turn, hturn, replies_parcels_append, parcels, (x.controller.follows_take i).2]
    rfl
  obtain ⟨hholds, hfits, -, hdue, hwaits⟩ : Announcing r (x.settle i)
      (x.turn now i).announced (c.execute now).1 (c.execute now).2 :=
    executeOnto_induction (fun h hr => h.performNext? hr) _ (h.take hi hgoing now)
  have hdone := pending_execute c now
  rw [← hends] at hholds hfits hdone hwaits
  rw [← howed] at hdue hwaits
  refine ⟨hholds, hfits, hdue, hdone, fun hnone hstate hannounceable => ?_⟩
  obtain ⟨hpos, hcases⟩ := hwaits hnone hstate hannounceable
  rw [sends, hdone hnone] at hcases
  rcases hcases with ⟨-, hmem⟩ | ⟨hone, -⟩
  · exact ⟨hmem, hpos⟩
  · cases hone

theorem Sound.turn (h : x.Sound r) (hi : x.Admits i) (now : Nat) : (x.turn now i).Sound r := by
  by_cases hgoing : x.controller.ending? = none
  · exact h.turn_of_going hi hgoing now
  · exact h.turn_of_ending hgoing now

theorem Reachable.sound {config : Config} (h : Reachable config x) : x.Sound config.role := by
  induction h with
  | init => exact ⟨holdsInOrder_ofConfig config, fits_ofConfig config, nofun, fun _ => rfl, nofun⟩
  | turn h now hi ih => exact ih.turn hi now
  | pass h timers gone ih => exact ⟨ih.holds, ih.fits, ih.due, ih.done, ih.waits⟩

/-- A client that waits for its identification is found waiting for a packet that has
been handed over, if its identification fits into a packet. -/
theorem Reachable.identification_outstanding {config : Config} (h : Reachable config x)
    (hgoing : x.controller.ending? = none)
    (hstate : x.controller.channel.state = .connectionPending)
    (hannounceable : x.announced.IsAnnounceable) :
    x.controller.pending.toList = [] ∧ .remoteSetup ∈ x.owed ∧
      0 < x.controller.channel.awaiting :=
  ⟨h.sound.done hgoing, h.sound.waits hgoing hstate hannounceable⟩

/-- A client that has been connected. -/
def connected (config : Config) : Followed :=
  (turn ⟨.ofConfig config, [], config⟩ 0 .start).turn 0 (.signal (.connected true))

theorem connected_eq (config : Config) :
    let c := ((ofConfig config).turn 0 .start).1
    (connected config).controller = (c.turn 0 (.signal (.connected true))).1 ∧
      (connected config).owed = replies (parcels ((ofConfig config).turn 0 .start).2) ++
        replies (parcels (c.turn 0 (.signal (.connected true))).2) := by
  dsimp only [connected, turn, settle, List.nil_append]
  exact ⟨rfl, rfl⟩

theorem reachable_connected (config : Config) : Reachable config (connected config) :=
  (Reachable.init.turn 0 (i := .start) trivial).turn 0 (i := .signal (.connected true)) trivial

theorem identification_outstanding_connected :
    let x := connected (.sample .client)
    (Settings.sample .client).check = .ok (.sample .client) ∧ Reachable (.sample .client) x ∧
      x.controller.ending? = none ∧ x.controller.channel.state = .connectionPending ∧
      x.announced.IsAnnounceable ∧ x.controller.pending.toList = [] ∧
      .remoteSetup ∈ x.owed ∧ 0 < x.controller.channel.awaiting := by
  intro x
  have hgoing : x.controller.ending? = none := by decide +kernel
  have hstate : x.controller.channel.state = .connectionPending := by decide +kernel
  have hannounceable : x.announced.IsAnnounceable :=
    ⟨[2, 0, 0, 14, 3, 65, 65, 65, 65, 45, 66, 66, 66, 66], by decide +kernel⟩
  exact ⟨Settings.check_sample .client, reachable_connected _, hgoing, hstate, hannounceable,
    (reachable_connected _).identification_outstanding hgoing hstate hannounceable⟩

end Followed

/-! ## Identifications that are too long -/

/-- The packets whose events are awaited in vain. -/
theorem lost_eq_countP (l : List Action) :
    lost l = (l.filterMap Action.sent?).countP
      fun p => p.2.isSome && !(p.1.encode .utf8).isOk := by
  rw [List.countP_filterMap]
  refine List.countP_congr fun a _ => ?_
  cases a with
  | send m after? => cases after? <;> simp [Action.isLost, Action.sent?]
  | _ => simp [Action.isLost, Action.sent?]

/-- A client whose identification does not fit into a packet waits for it all the same,
and awaits nothing more than before. -/
theorem Settled.turn_connected (h : c.Settled) (now : Nat) (hholds : c.channel.HoldsInOrder)
    (hrole : c.channel.role = .client) (hconfig : c.channel.config.role = .client)
    (hidle : c.channel.state = .idle) (hlong : ¬ c.channel.config.IsAnnounceable) :
    (c.turn now (.signal (.connected true))).1.Settled ∧
      (c.turn now (.signal (.connected true))).1.channel =
        { c.channel with state := .connectionPending } ∧
      parcels (c.turn now (.signal (.connected true))).2 = [] := by
  obtain ⟨fault, hfault⟩ : ∃ fault, c.channel.ownIdentification.encode .utf8 = .error fault := by
    cases hencode : c.channel.ownIdentification.encode .utf8 with
    | error fault => exact ⟨fault, rfl⟩
    | ok bytes => exact absurd ⟨bytes, h.charset ▸ hencode⟩ hlong
  have hleads : c.channel.Leads (c.channel.raise .localSetup) .connectionPending
      [(c.channel.ownIdentification, some .remoteSetup)] :=
    leads_raise hidle (by rw [hrole]; rfl) rfl
  have hstep : c.channel.stepAll (c.inputs (.signal (.connected true))) =
      c.channel.raise .localSetup := by
    rw [inputs, stepAll_singleton, Channel.step, connectionChanged, if_pos rfl, hconfig]
  have hlost : lost (actions (c.channel.raise .localSetup).effects) = 1 := by
    have hpackets := hleads.packets
    rw [packets, collect] at hpackets
    rw [lost_eq_countP, hpackets]
    simp [hfault, Except.isOk, Except.toBool]
  have hend : (c.channel.stepAll (c.inputs (.signal (.connected true)))).channel =
      { c.channel with
        state := .connectionPending
        awaiting := c.channel.awaiting +
          lost (actions (c.channel.stepAll (c.inputs (.signal (.connected true)))).effects) } := by
    rw [hstep, hlost, hleads.channel]
    rfl
  have hturn := h.turn now (i := .signal (.connected true)) (by simp) (by simp)
    (show HoldsInOrder { c.channel with state := .connectionPending } from hholds)
    h.charset hend
  refine ⟨hturn.1, hturn.2.1, ?_⟩
  rw [hturn.2.2.2, hstep, hleads.packets]
  exact parcelsOf_of_error hfault

/-- A new client that goes into service has carried out all actions once it is started. -/
theorem settled_started (config : Config) (hcharset : config.charset = .utf8)
    (hstart : config.startState = .dataReady) :
    ((ofConfig config).turn 0 .start).1.Settled ∧
      ((ofConfig config).turn 0 .start).1.channel = .ofConfig config ∧
      parcels ((ofConfig config).turn 0 .start).2 = [] := by
  have hsettled : (ofConfig config).Settled := ⟨hcharset, rfl, rfl, rfl⟩
  have hstep : (Channel.ofConfig config).stepAll [.start] =
      ⟨.ofConfig config, [(Channel.ofConfig config).logged .info
        s!"starting {config.role.title} channel {config.url}", .action .reconnect]⟩ := by
    rw [stepAll_singleton, Channel.step, Channel.start]
    simp only [Channel.ofConfig, hstart]
  have hpackets : packets ((Channel.ofConfig config).stepAll [.start]).effects = [] := by
    rw [hstep]
    simp
  have hlost : lost (actions ((Channel.ofConfig config).stepAll [.start]).effects) = 0 := by
    rw [packets, collect] at hpackets
    rw [lost_eq_countP, hpackets]
    rfl
  have hend : ((Channel.ofConfig config).stepAll [.start]).channel =
      { Channel.ofConfig config with
        awaiting := 0 + lost (actions ((Channel.ofConfig config).stepAll [.start]).effects) } := by
    rw [hlost, hstep]
    rfl
  have hturn := hsettled.turn 0 (i := .start) (by simp) (by simp)
    (holdsInOrder_ofConfig config) hcharset hend
  refine ⟨hturn.1, hturn.2.1, ?_⟩
  rw [hturn.2.2.2]
  exact congrArg parcelsOf hpackets

/-- A configuration with a name of `n` letters. -/
def wordy (n : Nat) : Config :=
  { Config.sample .client with localAtc := .ofList (List.replicate n 'A') }

theorem check_wordy {n : Nat} (hn : n ≠ 0) :
    Settings.check { Settings.sample .client with localAtc := (wordy n).localAtc } =
      .ok (wordy n) := by
  refine Settings.check_with_localAtc (Settings.check_sample .client) ?_
  obtain ⟨k, rfl⟩ := Nat.exists_eq_succ_of_ne_zero hn
  rw [Text.allBlank, wordy, String.toList_ofList, List.replicate_succ, List.all_cons]
  rfl

theorem not_isAnnounceable_wordy {n : Nat} (hn : 65520 ≤ n) : ¬ (wordy n).IsAnnounceable := by
  rintro ⟨bytes, hbytes⟩
  have hlocal : (wordy n).localAtc.toList = List.replicate n 'A' := String.toList_ofList
  have hremote : (wordy n).remoteAtc.toList.length = 4 := by
    change "BBBB".toList.length = 4
    decide
  have hchars : (wordy n).announcement.text.toList.length = n + 5 := by
    rw [Config.announcement, Message.toList_identification, List.length_append, hlocal,
      List.length_replicate, List.length_cons, hremote]
  have hle := (wordy n).charset.length_le_length_encode (wordy n).announcement.text
  rw [hchars] at hle
  rw [Message.encode_eq_error] at hbytes
  · cases hbytes
  · exact Nat.le_trans (Nat.add_le_add_left (Nat.add_le_add_right hn 5) 5)
      (Nat.add_le_add_left hle 5)

theorem connected_wordy {n : Nat} (hn : 65520 ≤ n) :
    let x := Followed.connected (wordy n)
    x.controller.Settled ∧ x.owed = [] ∧
      x.controller.channel =
        { Channel.ofConfig (wordy n) with state := .connectionPending } := by
  intro x
  obtain ⟨hcontroller, howed⟩ := Followed.connected_eq (wordy n)
  obtain ⟨hstarted, hchannel, hnone⟩ := settled_started (wordy n) rfl rfl
  obtain ⟨hsettled, hwaits, hnothing⟩ := hstarted.turn_connected 0
    (hchannel ▸ holdsInOrder_ofConfig _) (by rw [hchannel]; rfl) (by rw [hchannel]; rfl)
    (by rw [hchannel]; rfl) (by rw [hchannel]; exact not_isAnnounceable_wordy hn)
  refine ⟨?_, ?_, ?_⟩
  · rw [hcontroller]
    exact hsettled
  · rw [howed, hnone, hnothing]
    rfl
  · rw [hcontroller, hwaits, hchannel]

/-- A checked client finds itself waiting with nothing to wait for.  Its name is too long
for its identification to fit into a packet. -/
theorem Followed.waits_in_vain :
    let x := connected (wordy 65520)
    Settings.check { Settings.sample .client with localAtc := (wordy 65520).localAtc } =
        .ok (wordy 65520) ∧
      Reachable (wordy 65520) x ∧ x.controller.ending? = none ∧
      x.controller.pending.toList = [] ∧
      x.controller.channel.state = .connectionPending ∧
      x.controller.channel.awaiting = 0 ∧ x.owed = [] ∧
      ¬ (wordy 65520).IsAnnounceable := by
  intro x
  obtain ⟨hsettled, howed, hchannel⟩ := connected_wordy (Nat.le_refl 65520)
  refine ⟨check_wordy (by decide), reachable_connected _, hsettled.going, hsettled.done, ?_, ?_,
    howed, not_isAnnounceable_wordy (Nat.le_refl 65520)⟩
  · rw [hchannel]
  · rw [hchannel]
    rfl

end Controller

end FlightLink
