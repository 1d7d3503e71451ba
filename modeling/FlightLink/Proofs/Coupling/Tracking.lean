import FlightLink.Proofs.Coupling.Moves

/-!
# Signals lead to the current session

What a controller knows of connections lags behind its station.  The signals on
their way make up for the difference: once all of them are taken, the controller
knows of the session that the station has now, or knows that there is none.  And
as long as it knows of none, its channel waits for a connection and awaits no
event, whatever else comes.
-/

namespace FlightLink.Coupling

open Transport Channel

/-- The session that is known of once signals have been taken. -/
def viewAfterAll (view? : Option Nat) (l : List (Option Nat × Signal)) : Option Nat :=
  l.foldl viewAfter view?

/-- Every signal has a property that depends on what is known when it is taken. -/
def Each (P : Option Nat → Option Nat × Signal → Prop) :
    Option Nat → List (Option Nat × Signal) → Prop
  | _, [] => True
  | view?, p :: rest => P view? p ∧ Each P (viewAfter view? p) rest

/-- Connections do not overlap, and a client is admitted within one. -/
def IsTimely (view? : Option Nat) (p : Option Nat × Signal) : Prop :=
  match p.2 with
  | .connected true => view? = none ∧ p.1 ≠ none
  | .raised _ => view? ≠ none
  | .connected false | .received _ | .sent _ | .unsent _ | .log _ _ => True

/-- The number of the current session. -/
def current? (x : Coupling) : Option Nat :=
  x.station.link.session?.map (·.id)

/-- Signals lead the controller to the current session, and its channel waits for
a connection while it knows of none. -/
structure Tracks (r : Role) (x : Coupling) : Prop where
  holds : x.controller.channel.HoldsInOrder
  fits : x.controller.channel.Fits r
  apart : x.station.Apart
  ended : x.station.isRunning = false → x.station.link.session? = none
  detached : x.view? = none → x.controller.channel.Detached
  timely : Each IsTimely x.view? x.signals
  current : viewAfterAll x.view? x.signals = x.current?

variable {r : Role} {x y : Coupling} {view? : Option Nat}
  {P : Option Nat → Option Nat × Signal → Prop}

/-! ## Signals -/

theorem viewAfterAll_append (view? : Option Nat) (l l' : List (Option Nat × Signal)) :
    viewAfterAll view? (l ++ l') = viewAfterAll (viewAfterAll view? l) l' :=
  List.foldl_append

theorem each_append (l l' : List (Option Nat × Signal)) :
    Each P view? (l ++ l') ↔ Each P view? l ∧ Each P (viewAfterAll view? l) l' := by
  induction l generalizing view? with
  | nil => simp [Each, viewAfterAll]
  | cons p rest ih => simp [Each, viewAfterAll, ih, and_assoc]

/-- The signals of a step with the sessions that they are about. -/
def told (opened : Nat) (meant? : Option Nat) (l : List Signal) :
    List (Option Nat × Signal) :=
  l.map fun s => (subject opened meant? s, s)

theorem viewAfterAll_tidings (view? : Option Nat) (opened : Nat) (meant? : Option Nat)
    (outputs : List Output) :
    viewAfterAll view? (told opened meant? (Transport.signals outputs)) =
      viewAfterAll view? (told opened meant? (tidings outputs)) := by
  unfold tidings
  induction Transport.signals outputs generalizing view? with
  | nil => rfl
  | cons s rest ih =>
      cases s with
      | log severity text => exact ih view?
      | _ => exact ih _

/-- Texts to be logged do not count. -/
theorem each_tidings (hlog : ∀ view? id? severity text, P view? (id?, .log severity text))
    {opened : Nat} {meant? : Option Nat} {outputs : List Output}
    (h : Each P view? (told opened meant? (tidings outputs))) :
    Each P view? (told opened meant? (Transport.signals outputs)) := by
  unfold tidings at h
  generalize Transport.signals outputs = l at h ⊢
  induction l generalizing view? with
  | nil => trivial
  | cons s rest ih =>
      cases s with
      | log severity text => exact ⟨hlog _ _ _ _, ih h⟩
      | _ =>
          obtain ⟨hfirst, hrest⟩ := h
          exact ⟨hfirst, ih hrest⟩

/-- Every change of a link is told in good time. -/
theorem timely_of_change {l l' : Link} {i : Station.Input} {signals : List Signal}
    (h : l.Change l' i signals) (meant? : Option Nat) :
    Each IsTimely (l.session?.map (·.id)) (told l'.opened meant? signals) ∧
      viewAfterAll (l.session?.map (·.id)) (told l'.opened meant? signals) =
        l'.session?.map (·.id) := by
  cases h with
  | stay hi h => exact ⟨trivial, by rw [h.session]; rfl⟩
  | drop hs h => exact ⟨⟨trivial, trivial⟩, by rw [h.session]; rfl⟩
  | miss hs h => exact ⟨⟨trivial, trivial⟩, by rw [h.session, hs]; rfl⟩
  | establish hi hs h hraised =>
      rw [h.session, h.opened, hs]
      rcases hraised with rfl | rfl
      · exact ⟨⟨⟨rfl, nofun⟩, trivial⟩, rfl⟩
      · exact ⟨⟨⟨rfl, nofun⟩, nofun, trivial⟩, rfl⟩
  | accept hi hs hwriting h => exact ⟨trivial, by rw [h.session, hs]; rfl⟩
  | refuse hi hs h => exact ⟨⟨trivial, trivial⟩, by rw [h.session]; rfl⟩
  | close hi hs h =>
      refine ⟨trivial, ?_⟩
      rw [h.session, hs]
      dsimp only
      split <;> rfl
  | stale hi hr hs h => exact ⟨trivial, by rw [h.session]; rfl⟩
  | @pass s report rest signal hi hr hs hsignal h =>
      rw [h.session]
      cases report with
      | received bytes | sent e | unsent after? =>
          cases hsignal
          exact ⟨⟨trivial, trivial⟩, rfl⟩
      | ended reason? => cases hsignal
  | ended hi hr hs h => exact ⟨⟨trivial, trivial⟩, by rw [h.session]; rfl⟩

/-! ## Steps of the station -/

/-- The station does something and tells of it. -/
theorem Tracks.settle (h : x.Tracks r) {meant? : Option Nat} {s : Station}
    {outputs : List Output} (rest : List (Option Nat × Order)) (hapart : s.Apart)
    (hover : s.isRunning = false → s.link.session? = none)
    (htimely : Each IsTimely x.current? (told s.link.opened meant? (tidings outputs)))
    (hcurrent : viewAfterAll x.current? (told s.link.opened meant? (tidings outputs)) =
      s.link.session?.map (·.id)) :
    (Coupling.settle { x with orders := rest } meant? (s, outputs)).Tracks r := by
  refine ⟨h.holds, h.fits, hapart, hover, h.detached, ?_, ?_⟩
  · rw [Coupling.settle, each_append, h.current]
    exact ⟨h.timely, each_tidings (fun _ _ _ _ => trivial) htimely⟩
  · rw [Coupling.settle, viewAfterAll_append, h.current]
    exact (viewAfterAll_tidings _ _ _ _).trans hcurrent

/-- The station takes something. -/
theorem Tracks.take (h : x.Tracks r) {clock : Clock} {now : Nat} {i : Station.Input}
    {s : Station} {outputs : List Output} (htake : x.station.take? clock now i = some (s, outputs))
    (meant? : Option Nat) (rest : List (Option Nat × Order)) :
    (Coupling.settle { x with orders := rest } meant? (s, outputs)).Tracks r := by
  obtain ⟨hapart, hchange⟩ := Station.change_of_take? h.apart htake
  rcases hchange with ⟨hrunning, hchange⟩ | ⟨-, hbefore, hafter, htidings⟩
  · obtain ⟨htimely, hcurrent⟩ := timely_of_change hchange meant?
    exact h.settle rest hapart (by simp [hrunning]) htimely hcurrent
  · -- A server that crashes has had no session.
    refine h.settle rest hapart (fun _ => hafter) ?_ ?_
    · rw [htidings]
      trivial
    · rw [htidings, current?, hbefore, hafter]
      rfl

theorem Tracks.order (h : x.Tracks r) {clock : Clock} {now : Nat}
    (hy : x.next? (.order clock now) = some y) : y.Tracks r := by
  obtain ⟨meant?, o, rest, s, outputs, -, htake, rfl⟩ := order_spec hy
  exact h.take htake meant? rest

theorem Tracks.station (h : x.Tracks r) {clock : Clock} {now : Nat} {i : Station.Input}
    (hy : x.next? (.station clock now i) = some y) : y.Tracks r := by
  obtain ⟨-, s, outputs, htake, rfl⟩ := station_spec hy
  exact h.take htake x.reporter? x.orders

theorem Tracks.session (h : x.Tracks r) {id : Nat} {m : Session.Move}
    (hy : x.next? (.session id m) = some y) : y.Tracks r := by
  obtain ⟨s, outputs, hmove, rfl⟩ := session_spec hy
  obtain ⟨hrunning, hapart, -, htidings, t, t', reports, -, ht, -, hsession⟩ :=
    Station.session_of_move? hmove
  have hsame : s.link.session?.map (·.id) = x.current? := by
    rcases hsession with ⟨hs, hs'⟩ | ⟨-, hs⟩
    · rw [hs', current?, hs, Option.map_some, Option.map_some, Session.id_of_move? ht]
    · rw [hs]
      rfl
  refine h.settle x.orders (hapart h.apart) ?_ ?_ ?_
  · intro hover
    have hnone := h.ended (hrunning ▸ hover)
    simpa [current?, hnone] using hsame
  · rw [htidings]
    trivial
  · rw [htidings, hsame]
    rfl

/-! ## Steps of the controller -/

/-- The controller goes on. -/
theorem Tracks.follow (h : x.Tracks r) {c : Controller} {l : List Channel.Input}
    (hc : c.Follows l y.controller) (hchannel : c.channel = x.controller.channel)
    (hstation : y.station = x.station)
    (hdetached : y.view? = none → (c.channel.stepAll l).channel.Detached)
    (htimely : Each IsTimely y.view? y.signals)
    (hsignals : viewAfterAll y.view? y.signals = viewAfterAll x.view? x.signals) :
    y.Tracks r := by
  have hholds := holdsInOrder_stepAll h.holds l
  have hfits := (h.fits.stepAll h.holds l).2
  rw [← hchannel, ← hc.channel] at hholds hfits
  refine ⟨hholds, hfits, hstation ▸ h.apart, hstation ▸ h.ended, ?_, htimely, ?_⟩
  · rw [hc.channel]
    exact hdetached
  · rw [hsignals, current?, hstation]
    exact h.current

theorem Tracks.input (h : x.Tracks r) {i : Controller.Input}
    (hy : x.next? (.input i) = some y) : y.Tracks r := by
  obtain ⟨hi, c, hfollows, rfl⟩ := input_spec hy
  refine h.follow hfollows rfl rfl (fun hnone => ?_) h.timely rfl
  refine (h.detached hnone).stepAll h.holds (x.controller.isQuiet_inputs ?_ ?_)
  · rintro up rfl
    cases hi
  · rintro e rfl
    cases hi

theorem Tracks.signal (h : x.Tracks r) (hy : x.next? .signal = some y) :
    y.Tracks r := by
  obtain ⟨p, rest, c, hsignals, hfollows, rfl⟩ := signal_spec hy
  have hall := h.timely
  rw [hsignals] at hall
  obtain ⟨htimely, hrest⟩ := hall
  refine h.follow hfollows rfl rfl ?_ hrest (by rw [hsignals]; rfl)
  intro hnone
  obtain ⟨id?, s⟩ := p
  cases s with
  | connected up =>
      cases up with
      | true => exact absurd hnone htimely.2
      | false => exact h.fits.detached_of_connectionLost
  | raised e => exact absurd hnone htimely
  | received bytes | sent e | unsent after? | log severity text =>
      refine (h.detached hnone).stepAll h.holds (x.controller.isQuiet_inputs ?_ ?_) <;>
        simp

theorem Tracks.perform (h : x.Tracks r) {now : Nat}
    (hy : x.next? (.perform now) = some y) : y.Tracks r := by
  obtain ⟨a, rest, c, -, hfollows, rfl⟩ := perform_spec hy
  refine h.follow hfollows rfl rfl (fun hnone => ?_) h.timely rfl
  exact (h.detached hnone).stepAll h.holds
    fun i hi _ _ => (x.controller.permits_echoes a i hi).2 _ _ _

/-! ## Runs -/

theorem Tracks.move (h : x.Tracks r) {m : Move} (hy : x.next? m = some y) :
    y.Tracks r := by
  cases m with
  | elapse timers =>
      cases hy
      exact ⟨h.holds, h.fits, h.apart, h.ended, h.detached, h.timely, h.current⟩
  | input i => exact h.input hy
  | signal => exact h.signal hy
  | perform now => exact h.perform hy
  | order clock now => exact h.order hy
  | station clock now i => exact h.station hy
  | session id m => exact h.session hy

theorem tracks_ofConfig (config : Config) : (ofConfig config).Tracks config.role := by
  obtain ⟨hnone, hapart⟩ := station_ofConfig config
  refine ⟨holdsInOrder_ofConfig config, fits_ofConfig config, hapart,
    fun _ => hnone, fun _ => detached_ofConfig config, trivial, ?_⟩
  rw [current?, hnone]
  rfl

/-- Signals lead to the current session in all that can come about. -/
theorem Reaches.tracks {config : Config} {ok : Coupling → Bool}
    (h : Reaches config ok x) : x.Tracks config.role := by
  induction h with
  | init => exact tracks_ofConfig config
  | move _ hy _ ih => exact ih.move hy

/-- Without a session, and with all signals taken, no event is awaited. -/
theorem Tracks.awaiting_eq_zero (h : x.Tracks r) (hsignals : x.signals = [])
    (hnone : x.station.link.session? = none) : x.controller.channel.awaiting = 0 := by
  have hview : x.view? = none := by
    have hcurrent := h.current
    rwa [hsignals, current?, hnone] at hcurrent
  exact (h.detached hview).awaiting

end FlightLink.Coupling
