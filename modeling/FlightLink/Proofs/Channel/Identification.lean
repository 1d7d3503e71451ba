import FlightLink.Proofs.Channel.Chronicle
import Mathlib.Tactic.FinCases

/-!
# Identification comes first

The log of a channel shows whether its peer has identified itself: the channel
has acted on the identification that it expects, and on a server on an
acceptance after that.  A channel reaches the states of the association only
after that, and only then it queues system messages.

Messages are the only source of the two events that lead there, so nothing has
to be assumed of the order in which everything else comes.
-/

namespace FlightLink

/-- Whether the peer has to be identified in a state. -/
def State.isIdentified : State → Bool
  | ready | associationPending | dataReady => true
  | _ => false

/-- The states of the association are entered from the identification phase on
two events only. -/
theorem Table.isIdentified_of_next? {role : Role} {s t : State} {e : Event}
    (hnext : next? role s e = some t) (ht : t.isIdentified) :
    s.isIdentified ∨ role = .client ∧ e = .remoteIdValid ∨
      role = .server ∧ s = .idPending ∧ e = .remoteAccept := by
  obtain ⟨r, hr, rfl, rfl, hmem⟩ := exists_row_of_next? hnext
  cases role <;> fin_cases hr <;> simp_all [State.isIdentified]

/-- A server waits for the answer to its identification after that of the peer
has come. -/
theorem Table.eq_remoteIdValid_of_next? {s : State} {e : Event}
    (hnext : next? .server s e = some .idPending) : e = .remoteIdValid := by
  obtain ⟨r, hr, rfl, ht, hmem⟩ := exists_row_of_next? hnext
  fin_cases hr <;> simp_all

/-- System messages are sent only on the way from or to a state of the association. -/
theorem State.Sends.kind {own : Message} {goal : Goal} {s t : State}
    {p : Message × Option Event} (h : s.Sends own goal t p)
    (hown : own.kind = .identification) :
    p.1.kind = .identification ∨ p.1.kind = .system ∧ (s.isIdentified ∨ t.isIdentified) := by
  cases h with
  | introduction | reply => exact .inl hown
  | acceptance | rejection => exact .inl rfl
  | request ht => exact .inr ⟨rfl, .inr (ht ▸ rfl)⟩
  | repetition hs | consent hs | heartbeat hs => exact .inr ⟨rfl, .inl (hs ▸ rfl)⟩
  | farewell hs => exact .inr ⟨rfl, .inl (hs.elim (· ▸ rfl) (· ▸ rfl))⟩

namespace Channel

open Effect

/-- The channel has acted on the identification that its configuration
expects. -/
def Greeted (log : List Deed) : Prop :=
  ∃ config : Config,
    .dispatched (.identification config.remoteAtc config.localAtc) config ∈ log

/-- The peer has identified itself; the latest deed of the log comes first. -/
def Identified : Role → List Deed → Prop
  | .client, log => Greeted log
  | .server, log => ∃ config later earlier,
      log = later ++ .dispatched .accept config :: earlier ∧ Greeted earlier

/-- Every packet of the log has been queued when it may be. -/
def Guarded (r : Role) : List Deed → Prop
  | [] => True
  | .dispatched _ _ :: earlier => Guarded r earlier
  | .queued m _ s :: earlier =>
    (m.kind = .system → Identified r earlier) ∧
      (m.kind = .operational → s = .dataReady) ∧ Guarded r earlier

theorem Greeted.append {log : List Deed} (h : Greeted log) (later : List Deed) :
    Greeted (later ++ log) := by
  obtain ⟨config, hmem⟩ := h
  exact ⟨config, List.mem_append_right later hmem⟩

theorem Identified.append {r : Role} {log : List Deed} (h : Identified r log)
    (later : List Deed) : Identified r (later ++ log) := by
  cases r with
  | client => exact Greeted.append h later
  | server =>
      obtain ⟨config, between, earlier, rfl, hgreeted⟩ := h
      exact ⟨config, later ++ between, earlier, by simp, hgreeted⟩

theorem Guarded.of_append {r : Role} {later log : List Deed}
    (h : Guarded r (later ++ log)) : Guarded r log := by
  induction later with
  | nil => exact h
  | cons d later ih =>
      cases d with
      | dispatched m config => exact ih h
      | queued m after? s => exact ih h.2.2

/-- Packets of a part of a step, of which none carries data. -/
theorem Guarded.packets {r : Role} {log : List Deed} (h : Guarded r log)
    {l : List (Message × Option Event)} (s : State)
    (hl : ∀ p ∈ l, p.1.kind ≠ .operational ∧
      (p.1.kind = .system → Identified r log)) :
    Guarded r (l.map (fun p => .queued p.1 p.2 s) ++ log) := by
  induction l with
  | nil => exact h
  | cons p l ih =>
      obtain ⟨hkind, hsystem⟩ := hl p (by simp)
      refine ⟨fun hp => (hsystem hp).append _, fun hp => absurd hp hkind, ?_⟩
      exact ih fun q hq => hl q (List.mem_cons_of_mem p hq)

namespace Chronicle

/-- The peer has identified itself before the states of the association are
reached. -/
structure Gate (r : Role) (x : Chronicle) : Prop where
  role : x.channel.role = r
  greeted : r = .server → x.channel.state = .idPending → Greeted x.log
  identified : x.channel.state.isIdentified → Identified r x.log
  guarded : Guarded r x.log

namespace Gate

variable {r : Role} {x : Chronicle}

/-- A part of a step that carries no data. -/
theorem proceed (h : x.Gate r) {o : Outcome} (hrole : o.channel.role = r)
    (hgreeted : r = .server → o.channel.state = .idPending → Greeted x.log)
    (hidentified : o.channel.state.isIdentified → Identified r x.log)
    (hpackets : ∀ p ∈ packets o.effects, p.1.kind ≠ .operational ∧
      (p.1.kind = .system → Identified r x.log)) :
    (x.proceed o).Gate r where
  role := hrole
  greeted hserver hstate := (hgreeted hserver hstate).append _
  identified hstate := (hidentified hstate).append _
  guarded := by
    have hguarded := h.guarded.packets (l := (packets o.effects).reverse)
      x.channel.state fun p hp => hpackets p (List.mem_reverse.mp hp)
    simpa [Chronicle.proceed, List.map_reverse] using hguarded

theorem raise (h : x.Gate r) {e : Event}
    (hvalid : e = .remoteIdValid → Greeted x.log)
    (haccept : e = .remoteAccept → r = .server → x.channel.state = .idPending →
      Identified r x.log) :
    (x.proceed (x.channel.raise e)).Gate r := by
  cases hnext : x.channel.next? e with
  | none =>
      rw [raise_of_ignored hnext, proceed_same rfl (by simp)]
      exact h
  | some t =>
      have htable : Table.next? r x.channel.state e = some t := by
        rw [← hnext, next?, h.role]
      have hidentified : t.isIdentified → Identified r x.log := by
        intro ht
        rcases Table.isIdentified_of_next? htable ht with
          hs | ⟨rfl, he⟩ | ⟨hserver, hs, he⟩
        · exact h.identified hs
        · exact hvalid he
        · exact haccept he hserver hs
      have hstate : (x.channel.raise e).channel.state = t := by
        rw [raise_state, hnext, Option.getD_some]
      refine h.proceed (by rw [raise_role, h.role]) ?_ ?_ ?_
      · rintro rfl ht
        rw [hstate] at ht
        subst ht
        exact hvalid (Table.eq_remoteIdValid_of_next? htable)
      · rw [hstate]
        exact hidentified
      · intro p hp
        obtain ⟨t', hnext', hsends⟩ := sends_of_mem_packets_raise hp
        obtain rfl : t = t' := Option.some.inj (hnext.symm.trans hnext')
        rcases hsends.kind rfl with hkind | ⟨hkind, hs | ht⟩
        · rw [hkind]
          exact ⟨by decide, fun hsystem => absurd hsystem (by decide)⟩
        · exact ⟨by simp [hkind], fun _ => h.identified hs⟩
        · exact ⟨by simp [hkind], fun _ => hidentified ht⟩

/-- A part of a step that sends one packet and keeps the state. -/
theorem send (h : x.Gate r) {c : Channel} {m : Message} {after? : Option Event}
    (hrole : c.role = r) (hstate : c.state = x.channel.state)
    (hsystem : m.kind = .system → Identified r x.log)
    (hoperational : m.kind = .operational → x.channel.state = .dataReady) :
    (x.proceed (c.send m after?)).Gate r := by
  have hlog : (x.proceed (c.send m after?)).log =
      .queued m after? x.channel.state :: x.log := by
    rw [Chronicle.proceed, (leads_send c m after?).packets]
    rfl
  have hsame : (x.proceed (c.send m after?)).channel.state = x.channel.state :=
    hstate
  refine ⟨hrole, ?_, ?_, ?_⟩
  · intro hserver hpending
    rw [hlog]
    exact (h.greeted hserver (hsame ▸ hpending)).append [_]
  · intro hidentified
    rw [hlog]
    exact (h.identified (hsame ▸ hidentified)).append [_]
  · rw [hlog]
    exact ⟨hsystem, hoperational, h.guarded⟩

theorem obey (h : x.Gate r) (y : Command) :
    (x.proceed (x.channel.obey y)).Gate r := by
  cases y with
  | data text =>
      rw [Channel.obey]
      split
      · next hstate => exact h.send h.role rfl (by rintro ⟨⟩) fun _ => hstate
      · rwa [proceed_same rfl (by simp)]
  | startup =>
      rw [Channel.obey]
      split
      · next hstate =>
          have hready : x.channel.state = .ready := hstate
          refine h.send h.role rfl (fun _ => h.identified ?_) (by rintro ⟨⟩)
          rw [hready]
          rfl
      · exact h.proceed h.role h.greeted h.identified (by simp)
  | shutdown =>
      have hgoal : Gate r { x with channel := { x.channel with goal := .ready } } :=
        ⟨h.role, h.greeted, h.identified, h.guarded⟩
      exact hgoal.raise (by simp) (by simp)
  | disconnect => exact h.raise (by simp) (by simp)
  | disable =>
      rw [Channel.obey, Channel.disable]
      split
      · exact h
      · exact h.proceed h.role (by simp) (by simp [State.isIdentified])
          (by simp [entering, TimerKind.all])
  | enable =>
      rw [Channel.obey]
      split
      · exact h.proceed h.role (by simp) (by simp [State.isIdentified]) (by simp)
      · exact h
  | reconfigure settings =>
      rw [Channel.obey, Channel.reconfigure]
      split
      · rwa [proceed_same rfl (by simp)]
      · split
        · rwa [proceed_same rfl (by simp)]
        · exact h.proceed h.role h.greeted h.identified (by simp)

theorem dispatch (h : x.Gate r) (m : Message) :
    (x.settle m .dispatched).Gate r := by
  have hnoting : (x.noting m).Gate r :=
    ⟨h.role, fun hserver hstate => (h.greeted hserver hstate).append [_],
      fun hstate => (h.identified hstate).append [_], h.guarded⟩
  rw [settle_dispatched]
  cases he : x.channel.messageEvent? m with
  | none => exact hnoting
  | some e =>
      refine hnoting.raise ?_ ?_
      · rintro rfl
        obtain rfl := (messageEvent?_spec he).2.1 rfl
        exact ⟨x.channel.config, List.mem_cons_self⟩
      · rintro rfl rfl hstate
        obtain rfl := (messageEvent?_spec he).2.2 rfl
        exact ⟨x.channel.config, [], x.log, rfl, h.greeted rfl hstate⟩

theorem lasting :
    Lasting (fun e => e ≠ .remoteIdValid ∧ e ≠ .remoteAccept) (fun _ => True)
      (Gate r) where
  raise h he := h.raise (fun heq => absurd heq he.1) (fun heq => absurd heq he.2)
  dispatch h m := h.dispatch m
  forget h _ _ := ⟨h.role, h.greeted, h.identified, h.guarded⟩
  disable h := h.obey .disable
  obey h _ := h.obey _

end Gate

end Chronicle

end Channel

end FlightLink
