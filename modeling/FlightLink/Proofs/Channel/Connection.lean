import FlightLink.Proofs.Channel.Chronicle
import FlightLink.Proofs.Channel.Supervision

/-!
# Channels with and without a connection

A channel does not know whether it is connected; it only hears of changes.  The
end of a connection takes it to `State.idle`, unless it is out of service, and
no event is awaited any longer.  Nothing but the setup of a connection takes it
away from there: whatever else comes, it waits and sends nothing.
-/

namespace FlightLink

/-- Only a client sends its identification unasked. -/
theorem Table.role_of_next?_eq_connectionPending {role : Role} {s : State}
    {e : Event} (hnext : next? role s e = some .connectionPending) :
    role = .client := by
  obtain ⟨r, hr, -, ht, -⟩ := exists_row_of_next? hnext
  cases role with
  | client => rfl
  | server => fin_cases hr <;> cases ht

/-- Only the setup of a connection takes a channel out of idleness. -/
theorem Table.eq_idle_of_next? {role : Role} {s t : State} {e : Event}
    (hnext : next? role s e = some t) (hs : s = .idle ∨ s = .disabled)
    (he : e ≠ .localSetup ∧ e ≠ .remoteSetup) : t = .idle := by
  obtain ⟨r, hr, rfl, rfl, hmem⟩ := exists_row_of_next? hnext
  cases role <;> fin_cases hr <;> simp_all

/-- Whether an event is one that packets ask for. -/
def Event.isAsked : Event → Bool
  | remoteSetup | localStartup | localData => true
  | _ => false

namespace Channel

open Effect

/-- The state of a channel fits its role. -/
structure Fits (r : Role) (c : Channel) : Prop where
  role : c.role = r
  config : c.config.role = r
  server : c.state = .systemIdPending → r = .server
  client : c.state = .connectionPending → r = .client

/-- The channel waits for a connection, or for its return into service. -/
structure Detached (c : Channel) : Prop where
  state : c.state = .idle ∨ c.state = .disabled
  awaiting : c.awaiting = 0

theorem fits_ofConfig (config : Config) : (ofConfig config).Fits config.role :=
  ⟨rfl, rfl, nofun, nofun⟩

theorem detached_ofConfig (config : Config) : (ofConfig config).Detached :=
  ⟨.inl rfl, rfl⟩

theorem packets_disable (c : Channel) : packets c.disable.effects = [] := by
  unfold disable
  split
  · rfl
  · simp [entering, TimerKind.all]

theorem disable_state (c : Channel) : c.disable.channel.state = .disabled := by
  unfold disable
  split
  · next h => exact h
  · rfl

theorem isAsked_of_mem_expected_raise {c : Channel} {e e' : Event}
    (h : e' ∈ expected (c.raise e).effects) : e'.isAsked := by
  obtain ⟨p, hp, he⟩ := List.mem_filterMap.mp h
  obtain ⟨t, -, hsends⟩ := sends_of_mem_packets_raise hp
  cases hsends with
  | introduction | request | repetition =>
      obtain rfl := Option.some.inj he
      rfl
  | _ => cases he

theorem Fits.raise {role : Role} {c : Channel} (h : c.Fits role) (e : Event) :
    (c.raise e).channel.Fits role := by
  have hstate : ∀ s, (c.raise e).channel.state = s →
      c.state = s ∨ Table.next? role c.state e = some s := by
    intro s hs
    rw [raise_state] at hs
    cases hnext : c.next? e with
    | none => exact .inl (by simpa [hnext] using hs)
    | some t =>
        rw [hnext, Option.getD_some] at hs
        rw [next?, h.role, hs] at hnext
        exact .inr hnext
  refine ⟨?_, ?_, ?_, ?_⟩
  · rw [raise_role, h.role]
  · rw [raise_config, h.config]
  · intro hs
    exact (hstate _ hs).elim h.server Table.role_of_next?_eq_systemIdPending
  · intro hs
    exact (hstate _ hs).elim h.client Table.role_of_next?_eq_connectionPending

/-- The end of a connection, or its absence, detaches the channel. -/
theorem Fits.detached_of_connectionLost {role : Role} {c : Channel}
    (h : c.Fits role) : (c.step (.connectionChanged false)).channel.Detached := by
  let c₀ : Channel := { c with awaiting := 0, held := #[] }
  have hchannel : (c.step (.connectionChanged false)).channel =
      (c₀.raise .remoteDisconnect).channel := rfl
  have hnext : c.state = .disabled ∧ c₀.next? .remoteDisconnect = none ∨
      c₀.next? .remoteDisconnect = some .idle := by
    have hrole : c₀.role = role := h.role
    have hstate : c₀.state = c.state := rfl
    rw [Channel.next?, hrole, hstate]
    cases hs : c.state with
    | systemIdPending => obtain rfl := h.server hs; exact .inr rfl
    | connectionPending => obtain rfl := h.client hs; exact .inr rfl
    | disabled => cases role <;> exact .inl ⟨rfl, rfl⟩
    | _ => cases role <;> exact .inr rfl
  have hpackets : packets (c₀.raise .remoteDisconnect).effects = [] := by
    have hleaving : c₀.state.leavingPackets c₀.ownIdentification .remoteDisconnect = [] := by
      cases c₀.state <;> rfl
    rw [packets_raise]
    rcases hnext with ⟨-, hnone⟩ | hidle
    · rw [hnone, Option.elim_none]
    · rw [hidle, Option.elim_some, hleaving]
      rfl
  rw [hchannel]
  constructor
  · rw [raise_state]
    rcases hnext with ⟨hdisabled, hnone⟩ | hidle
    · rw [hnone]
      exact .inr hdisabled
    · rw [hidle]
      exact .inl rfl
  · rw [raise_awaiting, expected, hpackets]
    rfl

theorem Detached.raise {c : Channel} (h : c.Detached) {e : Event}
    (he : e ≠ .localSetup ∧ e ≠ .remoteSetup) :
    (c.raise e).channel.Detached := by
  cases hnext : c.next? e with
  | none =>
      rw [raise_of_ignored hnext]
      exact h
  | some t =>
      obtain rfl := Table.eq_idle_of_next? hnext h.state he
      have hleaving : c.state.leavingPackets c.ownIdentification e = [] := by
        rcases h.state with hs | hs <;> rw [hs] <;> rfl
      constructor
      · rw [raise_state, hnext]
        exact .inl rfl
      · rw [raise_awaiting, expected, packets_raise, hnext, Option.elim_some,
          hleaving, h.awaiting]
        rfl

namespace Chronicle

/-- The state of the channel fits its role, and its packets ask for certain
events only. -/
structure Regular (role : Role) (x : Chronicle) : Prop where
  fits : x.channel.Fits role
  asked : ∀ e ∈ x.queued.filterMap Prod.snd, e.isAsked

variable {role : Role} {x : Chronicle}

theorem Regular.proceed (h : x.Regular role) {o : Outcome}
    (hfits : o.channel.Fits role) (hasked : ∀ e ∈ expected o.effects, e.isAsked) :
    (x.proceed o).Regular role := by
  refine ⟨hfits, ?_⟩
  intro e he
  rw [queued_proceed, List.filterMap_append, List.mem_append] at he
  exact he.elim (h.asked e) (hasked e)

theorem Regular.obey (h : x.Regular role) (y : Command) :
    (x.proceed (x.channel.obey y)).Regular role := by
  obtain ⟨hrole, hconfig, hserver, hclient⟩ := h.fits
  have hraise : ∀ (c : Channel), c.Fits role → ∀ e,
      (x.proceed (c.raise e)).Regular role := by
    intro c hc e
    exact h.proceed (hc.raise e) fun e he => isAsked_of_mem_expected_raise he
  cases y with
  | data text =>
      rw [Channel.obey]
      split
      · refine h.proceed ⟨hrole, hconfig, hserver, hclient⟩ ?_
        simp [expected, (leads_send _ _ _).packets, Event.isAsked]
      · rwa [proceed_same rfl (by simp)]
  | startup =>
      rw [Channel.obey]
      split
      · refine h.proceed ⟨hrole, hconfig, hserver, hclient⟩ ?_
        simp [expected, (leads_send _ _ _).packets, Event.isAsked]
      · exact h.proceed ⟨hrole, hconfig, hserver, hclient⟩ (by simp [expected])
  | shutdown =>
      exact hraise { x.channel with goal := .ready } ⟨hrole, hconfig, hserver, hclient⟩ _
  | disconnect => exact hraise _ h.fits _
  | disable =>
      have hdisable := x.channel.disable_state
      refine h.proceed ⟨?_, ?_, ?_, ?_⟩ (by simp [expected, Channel.obey, packets_disable])
      · simpa [Channel.obey, Channel.disable, apply_ite] using hrole
      · simpa [Channel.obey, Channel.disable, apply_ite] using hconfig
      · rw [Channel.obey, hdisable]
        simp
      · rw [Channel.obey, hdisable]
        simp
  | enable =>
      rw [Channel.obey]
      split
      · exact h.proceed ⟨hrole, hconfig, by simp, by simp⟩ (by simp [expected])
      · rwa [proceed_same rfl rfl]
  | reconfigure settings =>
      rw [Channel.obey, Channel.reconfigure]
      split
      · rwa [proceed_same rfl (by simp)]
      · split
        · rwa [proceed_same rfl (by simp)]
        · next hsame =>
            exact h.proceed ⟨hrole, (not_not.mp hsame).trans hconfig, hserver, hclient⟩
              (by simp [expected])

theorem Regular.lasting :
    Lasting (fun _ => True) (fun _ => True) (Regular role) where
  raise h _ := h.proceed (h.fits.raise _) fun _ he => isAsked_of_mem_expected_raise he
  dispatch h m := by
    refine Lasting.dispatch_of_raise (P := Regular role) ?_ ?_ h m
    · intro x m h
      exact ⟨h.fits, by rw [queued_noting]; exact h.asked⟩
    · intro x e h _
      exact h.proceed (h.fits.raise e) fun _ he => isAsked_of_mem_expected_raise he
  forget h _ _ := ⟨⟨h.fits.role, h.fits.config, h.fits.server, h.fits.client⟩, h.asked⟩
  disable h := h.obey .disable
  obey h _ := h.obey _

theorem detached_obey {c : Channel} (h : c.Detached) (y : Command) :
    (c.obey y).channel.Detached := by
  have hdata : c.state ≠ .dataReady := by
    rcases h.state with hs | hs <;> simp [hs]
  have hready : c.state ≠ .ready := by
    rcases h.state with hs | hs <;> simp [hs]
  cases y with
  | data text =>
      rw [Channel.obey, if_neg hdata]
      exact h
  | startup =>
      rw [Channel.obey]
      simp only [if_neg hready]
      exact ⟨h.state, h.awaiting⟩
  | shutdown =>
      have hgoal : Detached { c with goal := .ready } := ⟨h.state, h.awaiting⟩
      exact hgoal.raise (by simp)
  | disconnect => exact h.raise (by simp)
  | disable =>
      refine ⟨.inr c.disable_state, ?_⟩
      simpa [Channel.obey, Channel.disable, apply_ite] using h.awaiting
  | enable =>
      rw [Channel.obey]
      split
      · exact ⟨.inl rfl, h.awaiting⟩
      · exact h
  | reconfigure settings =>
      rw [Channel.obey, Channel.reconfigure]
      split
      · exact h
      · split
        · exact h
        · exact ⟨h.state, h.awaiting⟩

theorem lasting_detached :
    Lasting (fun e => e ≠ .localSetup ∧ e ≠ .remoteSetup) (fun _ => True)
      (·.channel.Detached) where
  raise h he := h.raise he
  dispatch h m := by
    refine Lasting.dispatch_of_raise (P := (·.channel.Detached)) ?_ ?_ h m
    · intro x m h
      exact h
    · intro x e h he
      refine h.raise ⟨?_, ?_⟩
      · rintro rfl
        cases he
      · rintro rfl
        cases he
  forget h hawait _ := ⟨h.state, Nat.eq_zero_of_le_zero (h.awaiting ▸ hawait)⟩
  disable h := detached_obey h .disable
  obey h _ := detached_obey h _

end Chronicle

/-- An input is none that a channel without a connection could set out on. -/
def Input.IsQuiet (i : Input) : Prop :=
  ∀ c : Channel, c.Detached →
    Chronicle.Permits (fun e => e ≠ .localSetup ∧ e ≠ .remoteSetup) (fun _ => True) c i

/-- A channel keeps to its role. -/
theorem Fits.stepAll {role : Role} {c : Channel} (h : c.Fits role)
    (hholds : c.HoldsInOrder) (l : List Input) :
    (Chronicle.run ⟨c, []⟩ l).Regular role ∧ (c.stepAll l).channel.Fits role := by
  have hrun : (Chronicle.run ⟨c, []⟩ l).Regular role := by
    refine Chronicle.Regular.lasting.run_of_forall ⟨h, by simp [Chronicle.queued]⟩
      hholds ?_
    intro i _ y _
    cases i with
    | connectionChanged connected => cases connected <;> simp [Chronicle.Permits]
    | _ => simp [Chronicle.Permits]
  have hfits := hrun.fits
  rw [(Chronicle.run_faithful hholds l).1] at hfits
  exact ⟨hrun, hfits⟩

/-- A channel without a connection stays without one. -/
theorem Detached.stepAll {c : Channel} (h : c.Detached) (hholds : c.HoldsInOrder)
    {l : List Input} (hl : ∀ i ∈ l, i.IsQuiet) : (c.stepAll l).channel.Detached := by
  have hrun := Chronicle.lasting_detached.run_of_forall (x := ⟨c, []⟩) h hholds
    fun i hi y hy => hl i hi y.channel hy
  rwa [(Chronicle.run_faithful hholds l).1] at hrun

end Channel

end FlightLink
