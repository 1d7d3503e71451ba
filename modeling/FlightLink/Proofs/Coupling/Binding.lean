import FlightLink.Proofs.Coupling.Tracking
import FlightLink.Proofs.Transport.Due

/-!
# Orders and reports stay in their session

An order does not say which session it is meant for.  A station applies a packet,
or the request to end a session, to whatever session it has when the order comes.
This is the session that the controller knew of when it gave the order, as long
as no connection is announced while such orders wait.  Then no packet gets into
another session, no other session is closed, and what is reported of a packet
counts for the connection that the packet was meant for.

Without this proviso it fails.  A packet that waits behind orders to drop the
session and to connect anew is written in the session that comes next.
-/

namespace FlightLink.Coupling

open Transport Channel

/-- Whether no connection is announced while orders meant for a session wait. -/
def isCalm (x : Coupling) : Bool :=
  !(x.signals.any (·.2 = .connected true) && x.orders.any (·.2.isBound))

/-- Packets are reported on by the session that is known of, if there is one. -/
def IsAttributed (view? : Option Nat) (p : Option Nat × Signal) : Prop :=
  match p.2 with
  | .sent _ | .unsent _ => view? = none ∨ p.1 = view?
  | .connected _ | .raised _ | .received _ | .log _ _ => True

/-- Reports are about the session that the controller knows of, and orders are
meant for it. -/
structure Bound (r : Role) (x : Coupling) : Prop extends Tracks r x where
  attributed : Each IsAttributed x.view? x.signals
  meant : ∀ p ∈ x.orders, p.2.isBound = true → p.1 = x.view? ∨ x.view? = none

variable {r : Role} {x y : Coupling} {view? : Option Nat}

/-! ## Signals -/

/-- Without a connection announced, what is known at the end is known now. -/
theorem eq_of_viewAfterAll_eq_some {l : List (Option Nat × Signal)}
    (hl : ∀ p ∈ l, p.2 ≠ .connected true) {id : Nat}
    (h : viewAfterAll view? l = some id) : view? = some id := by
  induction l generalizing view? with
  | nil => exact h
  | cons p rest ih =>
      have hrest : viewAfter view? p = some id :=
        ih (fun q hq => hl q (List.mem_cons_of_mem _ hq)) h
      have hp := hl p List.mem_cons_self
      unfold viewAfter at hrest
      split at hrest
      · next hup => exact absurd hup hp
      · cases hrest
      · exact hrest

/-- Every change of a link is told of the right session, if packets are meant for
the current one and reports come from it. -/
theorem attributed_of_change {l l' : Link} {i : Station.Input} {signals : List Signal}
    (h : l.Change l' i signals) (meant? : Option Nat)
    (hsend : ∀ p, i = .order (.send p) → ∀ s, l.session? = some s → meant? = some s.id)
    (hreport : i = .report → ∀ p rest, l.reports.pop? = some (p, rest) →
      meant? = some p.1) :
    Each IsAttributed (l.session?.map (·.id)) (told l'.opened meant? signals) := by
  cases h with
  | stay | accept | close | stale => trivial
  | drop | miss | ended => exact ⟨trivial, trivial⟩
  | establish hi hs h hraised =>
      rcases hraised with rfl | rfl
      · exact ⟨trivial, trivial⟩
      · exact ⟨trivial, trivial, trivial⟩
  | refuse hi hs h =>
      refine ⟨?_, trivial⟩
      cases hsession : l.session? with
      | none => exact .inl rfl
      | some s => exact .inr (hsend _ hi s hsession)
  | @pass s report rest signal hi hr hs hsignal h =>
      have hmeant := hreport hi _ _ hr
      rw [hs]
      cases report with
      | received bytes => cases hsignal; exact ⟨trivial, trivial⟩
      | sent e | unsent after? => cases hsignal; exact ⟨.inr hmeant, trivial⟩
      | ended reason? => cases hsignal

/-! ## Steps of the station -/

/-- The station tells of the session that it has. -/
theorem Bound.settle (h : x.Bound r) {meant? : Option Nat} {s : Station}
    {outputs : List Output} {rest : List (Option Nat × Order)}
    (hy : (Coupling.settle { x with orders := rest } meant? (s, outputs)).Tracks r)
    (hrest : ∀ p ∈ rest, p ∈ x.orders)
    (htold : Each IsAttributed x.current? (told s.link.opened meant? (tidings outputs))) :
    (Coupling.settle { x with orders := rest } meant? (s, outputs)).Bound r := by
  refine ⟨hy, ?_, fun p hp => h.meant p (hrest p hp)⟩
  rw [Coupling.settle, each_append, h.current]
  exact ⟨h.attributed, each_tidings (fun _ _ _ _ => trivial) htold⟩

/-- The station takes something that was meant for `meant?`. -/
theorem Bound.take (h : x.Bound r) {clock : Clock} {now : Nat} {i : Station.Input}
    {s : Station} {outputs : List Output} (htake : x.station.take? clock now i = some (s, outputs))
    {meant? : Option Nat} {rest : List (Option Nat × Order)}
    (hrest : ∀ p ∈ rest, p ∈ x.orders)
    (hsend : ∀ p, i = .order (.send p) → ∀ t, x.station.link.session? = some t →
      meant? = some t.id)
    (hreport : i = .report → ∀ p reports, x.station.link.reports.pop? = some (p, reports) →
      meant? = some p.1) :
    (Coupling.settle { x with orders := rest } meant? (s, outputs)).Bound r := by
  refine h.settle (h.toTracks.take htake meant? rest) hrest ?_
  rcases (Station.change_of_take? h.apart htake).2 with
    ⟨-, hchange⟩ | ⟨-, -, -, htidings⟩
  · exact attributed_of_change hchange meant? hsend hreport
  · rw [htidings]
    trivial

/-- In a calm state, an order for a session is meant for the current one. -/
theorem Bound.meant_eq_current (h : x.Bound r) (hcalm : x.isCalm = true)
    {meant? : Option Nat} {o : Order} (ho : (meant?, o) ∈ x.orders)
    (hbound : o.isBound = true) {s : Session}
    (hs : x.station.link.session? = some s) : meant? = some s.id := by
  have hbusy : x.orders.any (·.2.isBound) = true :=
    List.any_eq_true.mpr ⟨_, ho, hbound⟩
  have hquiet : ∀ p ∈ x.signals, p.2 ≠ .connected true := by
    intro p hp hup
    have hannounced : x.signals.any (·.2 = .connected true) = true :=
      List.any_eq_true.mpr ⟨p, hp, by simpa using hup⟩
    simp [isCalm, hannounced, hbusy] at hcalm
  -- The signals lead to the current session and bring no other one.
  have hview : x.view? = some s.id := by
    refine eq_of_viewAfterAll_eq_some hquiet ?_
    rw [h.current, current?, hs]
    rfl
  rcases h.meant _ ho hbound with hmeant | hnone
  · exact hmeant.trans hview
  · rw [hview] at hnone
    cases hnone

theorem Bound.order (h : x.Bound r) (hcalm : x.isCalm = true) {clock : Clock}
    {now : Nat} (hy : x.next? (.order clock now) = some y) : y.Bound r := by
  obtain ⟨meant?, o, rest, s, outputs, horders, htake, rfl⟩ := order_spec hy
  refine h.take htake ?_ ?_ nofun
  · intro p hp
    rw [horders]
    exact List.mem_cons_of_mem _ hp
  · intro p ho t ht
    cases ho
    exact h.meant_eq_current hcalm (horders ▸ List.mem_cons_self) rfl ht

theorem Bound.station (h : x.Bound r) {clock : Clock} {now : Nat} {i : Station.Input}
    (hy : x.next? (.station clock now i) = some y) : y.Bound r := by
  obtain ⟨hi, s, outputs, htake, rfl⟩ := station_spec hy
  refine h.take htake (fun _ hp => hp) (fun p ho => absurd ho (hi _)) ?_
  intro _ p reports hpop
  rw [reporter?, hpop]
  rfl

theorem Bound.session (h : x.Bound r) {id : Nat} {m : Session.Move}
    (hy : x.next? (.session id m) = some y) : y.Bound r := by
  have htracks := h.toTracks.session hy
  obtain ⟨s, outputs, hmove, rfl⟩ := session_spec hy
  obtain ⟨-, -, -, htidings, -⟩ := Station.session_of_move? hmove
  refine h.settle htracks (fun _ hp => hp) ?_
  rw [htidings]
  trivial

/-! ## Steps of the controller -/

theorem Bound.input (h : x.Bound r) {i : Controller.Input}
    (hy : x.next? (.input i) = some y) : y.Bound r := by
  have htracks := h.toTracks.input hy
  obtain ⟨-, c, -, rfl⟩ := input_spec hy
  exact ⟨htracks, h.attributed, h.meant⟩

theorem Bound.signal (h : x.Bound r) (hcalm : x.isCalm = true)
    (hy : x.next? .signal = some y) : y.Bound r := by
  have htracks := h.toTracks.signal hy
  obtain ⟨p, rest, c, hsignals, -, rfl⟩ := signal_spec hy
  have hall := h.attributed
  rw [hsignals] at hall
  refine ⟨htracks, hall.2, ?_⟩
  intro q hq hbound
  unfold viewAfter
  split
  · next hup =>
      -- No such order waits while a connection is announced.
      have hannounced : x.signals.any (·.2 = .connected true) = true := by
        simp [hsignals, hup]
      have hbusy : x.orders.any (·.2.isBound) = true :=
        List.any_eq_true.mpr ⟨q, hq, hbound⟩
      simp [isCalm, hannounced, hbusy] at hcalm
  · exact .inr rfl
  · exact h.meant q hq hbound

theorem Bound.perform (h : x.Bound r) {now : Nat}
    (hy : x.next? (.perform now) = some y) : y.Bound r := by
  have htracks := h.toTracks.perform hy
  obtain ⟨a, rest, c, -, -, rfl⟩ := perform_spec hy
  refine ⟨htracks, h.attributed, ?_⟩
  intro p hp hbound
  rcases List.mem_append.mp hp with hold | hnew
  · exact h.meant p hold hbound
  · obtain ⟨o, -, rfl⟩ := List.mem_map.mp hnew
    exact .inl rfl

/-! ## Runs -/

theorem Bound.move (h : x.Bound r) (hcalm : x.isCalm = true) {m : Move}
    (hy : x.next? m = some y) : y.Bound r := by
  cases m with
  | elapse timers =>
      have htracks := h.toTracks.move hy
      cases hy
      exact ⟨htracks, h.attributed, h.meant⟩
  | input i => exact h.input hy
  | signal => exact h.signal hcalm hy
  | perform now => exact h.perform hy
  | order clock now => exact h.order hcalm hy
  | station clock now i => exact h.station hy
  | session id m => exact h.session hy

theorem bound_ofConfig (config : Config) : (ofConfig config).Bound config.role :=
  ⟨tracks_ofConfig config, trivial, nofun⟩

theorem Reaches.bound {config : Config} {ok : Coupling → Bool}
    (hok : ∀ x, ok x = true → x.isCalm = true) (h : Reaches config ok x) :
    x.isCalm = true ∧ x.Bound config.role := by
  induction h with
  | init hinit => exact ⟨hok _ hinit, bound_ofConfig config⟩
  | move _ hy hlast ih => exact ⟨hok _ hlast, ih.2.move ih.1 hy⟩

/-- As long as no connection is announced while orders for a session wait: such
an order touches no other session than the one that the controller knew of when
it gave the order.  A report that settles a packet is about the session that the
controller knows of, and nothing is awaited when the next connection is
announced.  So no report counts for a packet of another session. -/
theorem Reaches.stays_in_session {config : Config} (h : Reaches config isCalm x) :
    (∀ meant? o rest, x.orders = (meant?, o) :: rest → o.isBound = true →
      ∀ clock now y, x.next? (.order clock now) = some y → ∀ s ∈ y.station.link.sessions,
        s ∈ x.station.link.sessions ∨ meant? = some s.id) ∧
    (∀ about? s rest, x.signals = (about?, s) :: rest →
      (s.settles = true → 0 < x.controller.channel.awaiting → about? = x.view?) ∧
      (s = .connected true → x.controller.channel.awaiting = 0)) := by
  obtain ⟨hcalm, hbound⟩ := h.bound fun _ hok => hok
  constructor
  · intro meant? o rest horders ho clock now y hy t ht
    obtain ⟨meant', o', rest', s, outputs, horders', htake, rfl⟩ := order_spec hy
    cases horders.symm.trans horders'
    refine (Station.continues_of_isBound ho htake ht).imp id ?_
    rintro ⟨u, hu, hid⟩
    rw [hid]
    exact hbound.meant_eq_current hcalm (horders ▸ List.mem_cons_self) ho hu
  · intro about? s rest hsignals
    have htimely := hbound.timely
    have hattributed := hbound.attributed
    rw [hsignals] at htimely hattributed
    constructor
    · intro hsettles hawait
      have hknown : x.view? ≠ none := fun hnone =>
        absurd (hbound.detached hnone).awaiting (Nat.ne_of_gt hawait)
      cases s with
      | sent e => exact hattributed.1.resolve_left hknown
      | unsent after? => exact hattributed.1.resolve_left hknown
      | _ => cases hsettles
    · rintro rfl
      exact (hbound.detached htimely.1.1).awaiting

/-- The identification of a client waits for its first session. -/
theorem stays_in_session_connectionPending :
    ∃ x o, Reaches (.sample .client) isCalm x ∧ x.orders = [(some 1, o)] ∧
      ∀ clock now y, x.next? (.order clock now) = some y → ∀ s ∈ y.station.link.sessions,
        s ∈ x.station.link.sessions ∨ s.id = 1 := by
  have hinit : (ofConfig (.sample .client)).isCalm = true := rfl
  have hrun : ((ofConfig (.sample .client)).run? isCalm greets).any (fun x =>
      x.orders.map (·.1) = [some 1] && x.orders.all (·.2.isBound)) := by
    decide +kernel
  obtain ⟨x, hx, hlast⟩ := (Option.any_eq_true _ _).mp hrun
  obtain ⟨hmeant, hbound⟩ := Bool.and_eq_true_iff.mp hlast
  obtain ⟨⟨meant?, o⟩, horders, hmeant⟩ :=
    List.map_eq_singleton_iff.mp (of_decide_eq_true hmeant)
  cases hmeant
  rw [horders, List.all_cons, List.all_nil, Bool.and_true] at hbound
  have h : Reaches (.sample .client) isCalm x := (Reaches.init hinit).run? hx
  refine ⟨x, o, h, horders, ?_⟩
  intro clock now y hy s hs
  exact (h.stays_in_session.1 _ o [] horders hbound clock now y hy s hs).imp id
    fun hid => (Option.some.inj hid).symm

/-- Whether an identification of the first session, asked for before a change, gets
into the second session by it. -/
def isAstray (x y : Coupling) : Bool :=
  match x.orders, y.station.link.session? with
  | [(some 1, .send p)], some s => s.id = 2 && .packet p ∈ s.requests.toList
  | _, _ => false

/-- While a client looks for its first connection it is disabled and enabled
again.  Its identification for the first session waits behind the orders that
come of this, and gets into the second session. -/
theorem goes_astray :
    ∃ x p y s, Reaches (.sample .client) (fun _ => true) x ∧
      x.orders = [(some 1, .send p)] ∧ x.next? (.order .standard 0) = some y ∧
      y.station.link.session? = some s ∧ s.id = 2 ∧
      .packet p ∈ s.requests.toList := by
  let moves : List Move :=
    [.input .start] ++ performs 2 ++ [.order .standard 0, .input (.command .disable)] ++
      performs 6 ++ [.input (.command .enable)] ++ performs 2 ++ finds 0 ++
      [.signal] ++ performs 1 ++ [.signal] ++ performs 4 ++
      [.order .standard 0, .order .standard 0] ++ finds 1
  have hrun : ((ofConfig (.sample .client)).run? (fun _ => true) moves).any (fun x =>
      (x.next? (.order .standard 0)).any (isAstray x)) := by
    decide +kernel
  obtain ⟨x, hx, hlast⟩ := (Option.any_eq_true _ _).mp hrun
  obtain ⟨y, hy, hastray⟩ := (Option.any_eq_true _ _).mp hlast
  have h : Reaches (.sample .client) (fun _ => true) x := (Reaches.init rfl).run? hx
  simp only [isAstray] at hastray
  split at hastray
  · next p s horders hs =>
      obtain ⟨hid, hmem⟩ := Bool.and_eq_true_iff.mp hastray
      exact ⟨x, p, y, s, h, horders, hy, hs, of_decide_eq_true hid, of_decide_eq_true hmem⟩
  · cases hastray

end FlightLink.Coupling
