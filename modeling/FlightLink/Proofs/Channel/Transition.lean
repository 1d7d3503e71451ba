import FlightLink.Proofs.Channel.Effects

/-!
# Transitions

The outcome of an event, in terms of the table: an event without an entry
changes nothing, and any other one leaves the old state and enters the new one.
An event never touches the configuration, the goal or the messages held.
-/

namespace FlightLink

namespace Table

/-- Every transition comes from a row of the table. -/
theorem exists_row_of_next? {role : Role} {s t : State} {e : Event}
    (h : next? role s e = some t) :
    ∃ r ∈ rows role, r.source = s ∧ r.target = t ∧ e ∈ r.events := by
  obtain ⟨x, hfind, rfl⟩ := Option.map_eq_some_iff.mp h
  have hmem := List.mem_of_find?_eq_some hfind
  have hmatch := List.find?_some hfind
  simp only [Bool.and_eq_true, beq_iff_eq] at hmatch
  obtain ⟨r, hr, hx⟩ := List.mem_flatMap.mp hmem
  obtain ⟨f, hf, rfl⟩ := List.mem_map.mp hx
  obtain ⟨rfl, rfl⟩ := hmatch
  exact ⟨r, hr, rfl, rfl, hf⟩

end Table

/-- Whether a message is for the application rather than for the protocol. -/
def Message.isPayload (m : Message) : Bool :=
  match m.kind with
  | .identification | .system => false
  | .operational | .operator | .status | .unknown => true

namespace Channel

open Effect

/-! ## Sequences of steps -/

@[simp] theorem andThen_channel (o : Outcome) (next : Channel → Outcome) :
    (o.andThen next).channel = (next o.channel).channel := rfl

@[simp] theorem andThen_effects (o : Outcome) (next : Channel → Outcome) :
    (o.andThen next).effects = o.effects ++ (next o.channel).effects := rfl

/-! ## Events -/

theorem raise_of_ignored {c : Channel} {e : Event} (h : c.next? e = none) :
    c.raise e = ⟨c, [c.noted .trace s!"{e.name} ignored in {c.state.name}"]⟩ := by
  rw [raise, h]

theorem raise_state {c : Channel} {e : Event} :
    (c.raise e).channel.state = (c.next? e).getD c.state := by
  unfold raise
  split
  · next h => simp [h]
  · next h => simp [h]

@[simp] theorem raise_role (c : Channel) (e : Event) :
    (c.raise e).channel.role = c.role := by
  unfold raise
  split <;> rfl

@[simp] theorem raise_config (c : Channel) (e : Event) :
    (c.raise e).channel.config = c.config := by
  unfold raise
  split <;> rfl

@[simp] theorem raise_held (c : Channel) (e : Event) :
    (c.raise e).channel.held = c.held := by
  unfold raise
  split <;> rfl

/-- The messages held have no influence on an event. -/
theorem raise_with_held (c : Channel) (held : Array Message) (e : Event) :
    raise { c with held } e =
      ⟨{ (c.raise e).channel with held }, (c.raise e).effects⟩ := by
  unfold raise
  have hnext : next? { c with held } e = c.next? e := rfl
  rw [hnext]
  split <;> rfl

variable {α : Type} {pick : Action → Option α}

/-- What an event brings about comes from leaving the old state and entering
the new one. -/
theorem collect_raise [OmitsRoutine pick] (c : Channel) (e : Event) :
    collect pick (c.raise e).effects =
      (c.next? e).elim [] fun s =>
        collect pick (c.leaving e) ++ collect pick (c.entering s) := by
  unfold raise
  cases c.next? e with
  | none => exact collect_noted c _ _ []
  | some s => simp

/-- Leaving and entering states takes control actions only. -/
@[simp] theorem collect_raise_eq_nil [OmitsControl pick]
    (c : Channel) (e : Event) :
    collect pick (c.raise e).effects = [] := by
  have hsend : ∀ m after?, pick (.send m after?) = none :=
    fun m after? => OmitsControl.control rfl
  have htimer : ∀ kind, pick (.restartTimer kind) = none ∧
      pick (.stopTimer kind) = none :=
    fun kind => ⟨OmitsControl.control rfl, OmitsControl.control rfl⟩
  have hclose : pick .disconnect = none ∧ pick .halt = none :=
    ⟨OmitsControl.control rfl, OmitsControl.control rfl⟩
  have hleaving : collect pick (c.leaving e) = [] := by
    unfold leaving
    cases c.state with
    | idle => simp [htimer]
    | connectionPending | disabled => rfl
    | systemIdPending | ready => dsimp only; split <;> simp [hsend, htimer]
    | idPending | associationPending | dataReady =>
        dsimp only
        split <;> simp [hsend, htimer]
  have hentering : ∀ s, collect pick (c.entering s) = [] := by
    intro s
    unfold entering
    cases s with
    | idle => cases c.config.role <;> simp [htimer, hclose]
    | disabled => simp [TimerKind.all, htimer, hclose]
    | connectionPending => simp [hsend]
    | systemIdPending | idPending => simp [htimer]
    | ready => dsimp only; split <;> simp [hsend]
    | associationPending | dataReady => rfl
  rw [collect_raise]
  cases c.next? e with
  | none => rfl
  | some s => simp [hleaving, hentering]

/-- Every event that a packet asks for is awaited. -/
theorem raise_awaiting (c : Channel) (e : Event) :
    (c.raise e).channel.awaiting =
      c.awaiting + (expected (c.raise e).effects).length := by
  rw [← awaited_eq_length_expected]
  unfold raise
  split
  · rfl
  · rfl

/-! ## Messages -/

/-- The event that a message raises, if there is one. -/
def messageEvent? (c : Channel) (m : Message) : Option Event :=
  match m.kind with
  | .identification => some (c.identificationEvent m.text)
  | .system => systemEvent? m.text
  | .operational => some .remoteData
  | .operator | .status | .unknown => none

theorem dispatch_channel (c : Channel) (m : Message) :
    (c.dispatch m).channel =
      (c.messageEvent? m).elim c fun e => (c.raise e).channel := by
  unfold dispatch messageEvent?
  cases m.kind with
  | system => cases systemEvent? m.text <;> rfl
  | _ => rfl

/-- Acting on a message delivers it if it is a payload and raises its event. -/
theorem collect_dispatch [OmitsRecords pick] (c : Channel) (m : Message) :
    collect pick (c.dispatch m).effects =
      (if m.isPayload then (pick (.deliver m)).toList else []) ++
        (c.messageEvent? m).elim [] fun e => collect pick (c.raise e).effects := by
  unfold dispatch messageEvent? Message.isPayload
  cases m.kind with
  | identification =>
      by_cases h : c.identificationEvent m.text = .remoteIdInvalid
      · simp [h]
      · simp [h]
  | system =>
      cases systemEvent? m.text with
      | none => simp
      | some e => simp
  | operational => simp
  | operator | status | unknown => simp

@[simp] theorem dispatch_held (c : Channel) (m : Message) :
    (c.dispatch m).channel.held = c.held := by
  rw [dispatch_channel]
  cases c.messageEvent? m <;> simp

/-- Letting go of the messages held delivers some of them and does nothing
else. -/
theorem collect_release {α : Type} (pick : Action → Option α)
    [OmitsRecords pick] (hdeliver : ∀ m, pick (.deliver m) = none)
    (c : Channel) :
    collect pick c.release.effects = [] := by
  have hreleasing : ∀ m, collect pick (c.releasing m) = [] := by
    intro m
    unfold releasing
    cases m.kind <;> simp [hdeliver]
  rw [release]
  induction c.held.toList with
  | nil => rfl
  | cons m rest ih =>
      rw [List.flatMap_cons, collect_append, hreleasing]
      exact ih

end Channel

/-- A client and a server that expect each other. -/
def Config.sample (r : Role) : Config where
  id := 7
  dataType := "OLDI"
  role := r
  localName := match r with | .client => "Client" | .server => "Server"
  localAtc := match r with | .client => "AAAA" | .server => "BBBB"
  remoteName := match r with | .client => "Server" | .server => "Client"
  remoteAtc := match r with | .client => "BBBB" | .server => "AAAA"
  ts := 15
  tr := 40
  ti := 30
  reconnectTimeout := 5
  endpoint :=
    match r with
    | .client => .connect "127.0.0.1" (.number 8500)
    | .server => .listen (.number 8500) none
  charset := .utf8
  debug := false
  startState := .dataReady

/-- Settings that describe it. -/
def Settings.sample (r : Role) : Settings where
  id := 7
  dataType := "OLDI"
  netRole := match r with | .client => "client" | .server => "server"
  localName := (Config.sample r).localName
  localAtc := (Config.sample r).localAtc
  remoteName := (Config.sample r).remoteName
  remoteAtc := (Config.sample r).remoteAtc
  intervalTs := 15
  intervalTr := 40
  intervalTi := 30
  reconnectTimeout := 5
  localPort := 8500
  remoteAddress := "127.0.0.1"
  remotePort := 8500
  dataEncoding := "utf-8"
  startState := .dataReady

theorem Settings.check_sample (r : Role) :
    (Settings.sample r).check = .ok (Config.sample r) := by
  cases r <;> decide +kernel

end FlightLink
