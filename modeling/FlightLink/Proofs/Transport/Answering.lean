import FlightLink.Proofs.History
import FlightLink.Proofs.Transport.Listening
import Mathlib.Order.WithBot

/-!
# Every order to connect is answered once

A client is followed through the orders that it is given, the reports of its sessions and
the outcomes of its attempts to connect.  Each order to connect is followed by one answer
before the client takes anything else from its queues, and no session is opened but by
such an answer.

An error is logged unless the last one was the same and no session has been opened since.
The link remembers one text for this; the history says what the text stands for.
-/

namespace FlightLink.Transport

/-- The text that a signal asks to log as an error. -/
def Signal.error? : Signal → Option String
  | log .error text => some text
  | _ => none

/-- The texts to be logged as errors. -/
def errors (outputs : List Output) : List String :=
  (signals outputs).filterMap Signal.error?

@[simp] theorem errors_append (outputs more : List Output) :
    errors (outputs ++ more) = errors outputs ++ errors more := by
  simp [errors, signals]

/-! ## Links -/

namespace Link

variable {l : Link}

/-- The session is lost, and this is told. -/
structure Loses (l : Link) (r : Result) : Prop where
  before : l.isConnected = true
  after : r.1.session? = none
  told : tidings r.2 = [.connected false]

/-- What is done without a new connection, and with an error or without one: no session
is opened, and a connection is told of only if it is lost. -/
structure Routine (l : Link) (error? : Option String) (r : Result) : Prop where
  kept : ¬ l.Renewed r.1
  told : ∀ up, .connected up ∈ tidings r.2 → l.Loses r
  errors : errors r.2 = error?.toList.filter (l.lastError? ≠ some ·)
  lastError : r.1.lastError? = error?.or l.lastError?

theorem Routine.session_eq_none {error? : Option String} {r : Result}
    (h : l.Routine error? r) (hs : l.session? = none) : r.1.session? = none := by
  by_contra hsome
  obtain ⟨t, ht⟩ := Option.ne_none_iff_exists'.mp hsome
  exact h.kept ⟨t, ht, by simp [hs]⟩

/-- Nothing else of the link matters than its session and the last error. -/
theorem Routine.of_eq {error? : Option String} {l₀ : Link} {r : Result}
    (h : l.Routine error? r) (hs : l₀.session? = l.session?)
    (hlast : l₀.lastError? = l.lastError?) : l₀.Routine error? r := by
  refine ⟨?_, fun up hup => ?_, hlast ▸ h.errors, hlast ▸ h.lastError⟩
  · rintro ⟨t, ht, hother⟩
    exact h.kept ⟨t, ht, hs ▸ hother⟩
  · obtain ⟨hbefore, hafter, htold⟩ := h.told up hup
    refine ⟨?_, hafter, htold⟩
    rw [isConnected, hs]
    exact hbefore

/-- Outputs that have nothing to do with connections and errors change nothing. -/
theorem Routine.cons {error? : Option String} {l' : Link} {outputs : List Output}
    (h : l.Routine error? (l', outputs)) {o : Output} (htidings : tidings [o] = [])
    (herrors : Transport.errors [o] = []) : l.Routine error? (l', o :: outputs) := by
  have htold : tidings (o :: outputs) = tidings outputs := by
    rw [← List.singleton_append, tidings_append, htidings, List.nil_append]
  refine ⟨h.kept, fun up hup => ?_, ?_, h.lastError⟩
  · rw [htold] at hup
    obtain ⟨hbefore, hafter, hlost⟩ := h.told up hup
    exact ⟨hbefore, hafter, htold.trans hlost⟩
  · rw [← List.singleton_append, errors_append, herrors, List.nil_append]
    exact h.errors

/-- Nothing is told of connections or errors, and the session stays the same one. -/
theorem routine_of_same {l' : Link} {outputs : List Output} (hkept : ¬ l.Renewed l')
    (htold : ∀ up, .connected up ∉ tidings outputs) (herrors : Transport.errors outputs = [])
    (hlast : l'.lastError? = l.lastError?) : l.Routine none (l', outputs) :=
  ⟨hkept, fun up hup => absurd hup (htold up), herrors, hlast⟩

theorem routine_refl (l : Link) : l.Routine none (l, []) :=
  routine_of_same (not_renewed_of_same rfl) nofun rfl rfl

theorem session_dropSession (l : Link) : l.dropSession.1.session? = none := by
  unfold dropSession
  split
  · next hs => exact hs
  · rfl

theorem tidings_dropSession (l : Link) :
    tidings l.dropSession.2 = if l.isConnected then [.connected false] else [] := by
  unfold dropSession isConnected
  split
  · next hs => simp [hs, tidings, signals]
  · next s hs => simp [hs]; rfl

theorem routine_dropSession (l : Link) : l.Routine none l.dropSession := by
  unfold dropSession
  split
  · exact l.routine_refl
  · next s hs =>
      exact ⟨not_renewed_of_none rfl, fun _ _ => ⟨by simp [isConnected, hs], rfl, rfl⟩,
        rfl, rfl⟩

theorem routine_send (l : Link) (p : Parcel) : l.Routine none (l.send p) := by
  have hrefusal : ∀ up, .connected up ∉ tidings (refusal p) := by
    intro up
    show _ ∉ [Signal.unsent p.after?]
    simp
  unfold send
  split
  · exact routine_of_same (not_renewed_of_same rfl) hrefusal rfl rfl
  · next s hs =>
      split
      · exact routine_of_same (not_renewed_of_id hs rfl rfl) nofun rfl rfl
      · exact routine_of_same (not_renewed_of_same rfl) hrefusal rfl rfl

theorem routine_close (l : Link) : l.Routine none (l.close, []) := by
  unfold close
  split
  · exact l.routine_refl
  · next s hs =>
      refine routine_of_same (not_renewed_of_id hs rfl ?_) nofun rfl rfl
      split <;> rfl

theorem session_abandon (l : Link) : l.abandon.session? = none := by
  unfold abandon
  split
  · next hs => exact hs
  · rfl

theorem routine_abandon (l : Link) : l.Routine none (l.abandon, []) := by
  refine routine_of_same (not_renewed_of_none l.session_abandon) nofun rfl ?_
  unfold abandon
  split <;> rfl

/-- An error is news unless it is the last one. -/
theorem routine_complain (l : Link) (text : String) :
    l.Routine (some text) (l.complain text) := by
  unfold complain
  split
  · next hlast =>
      refine ⟨not_renewed_of_same rfl, nofun, ?_, hlast⟩
      simp [hlast]
      rfl
  · next hlast =>
      refine ⟨not_renewed_of_same rfl, nofun, ?_, rfl⟩
      simp [hlast]
      rfl

theorem routine_takeReport? {r : Result} (h : l.takeReport? = some r) :
    l.Routine none r := by
  unfold takeReport? at h
  cases hpop : l.reports.pop? with
  | none => simp [hpop] at h
  | some p =>
      obtain ⟨⟨id, report⟩, rest⟩ := p
      simp only [hpop, Option.some.injEq] at h
      subst h
      unfold pass
      split
      · cases report with
        | received bytes | sent e | unsent after? =>
            exact routine_of_same (not_renewed_of_same rfl) (by simp [tidings, signals,
              Output.signal?, Signal.isTiding]) rfl rfl
        | ended reason? =>
            refine Routine.of_eq (l := { l with reports := rest }) ?_ rfl rfl
            have hdrop := routine_dropSession { l with reports := rest }
            cases reason? with
            | none => exact hdrop
            | some reason => exact hdrop.cons rfl rfl
      · exact routine_of_same (not_renewed_of_same rfl) (fun _ => List.not_mem_nil) rfl rfl

theorem errors_socketOutputs (before after : Session) (m : Session.Move) :
    Transport.errors (socketOutputs before after m) = [] := by
  unfold socketOutputs
  split <;> split <;> rfl

theorem lastError_replace (l : Link) (s : Session) :
    (l.replace s).lastError? = l.lastError? := by
  unfold replace
  split <;> rfl

theorem routine_move? {id : Nat} {m : Session.Move} {r : Result}
    (h : l.move? id m = some r) : l.Routine none r := by
  obtain ⟨-, htold, t, t', reports, -, hmove, -, hsession⟩ := session_of_move? h
  have hkept : ¬ l.Renewed r.1 := by
    rcases hsession with ⟨hbefore, hafter⟩ | ⟨-, hsame⟩
    · exact not_renewed_of_id hbefore hafter (Session.id_of_move? hmove)
    · exact not_renewed_of_same hsame
  unfold move? at h
  split at h
  · cases h
  · split at h
    · cases h
    · cases h
      exact routine_of_same hkept (by simp [htold]) (errors_socketOutputs ..)
        (l.lastError_replace _)

end Link

namespace Client

/-! ## What happens to a client -/

/-- Whether an input comes out of one of the client's queues. -/
def Input.isQueued : Input → Bool
  | report | order _ | ordersClosed => true
  | resolved _ | dialled _ | timedOut => false

/-- The connection that an input brings. -/
def Input.socket? : Input → Option Network.Socket
  | dialled (.connected socket) => some socket
  | _ => none

/-- What a client waits for while it looks for a connection. -/
inductive Phase.Awaits : Phase → Nat → Input → Prop where
  | resolved (now : Nat) (answer : Except Network.Problem (List IpAddress)) :
      Awaits .resolving now (.resolved answer)
  | dialled (target : SocketAddress) (rest : List SocketAddress) (now : Nat)
      (answer : Network.Dialled) : Awaits (.dialing target rest) now (.dialled answer)
  | timedOut {target : SocketAddress} {rest : List SocketAddress} {deadline now : Nat}
      (h : deadline ≤ now) : Awaits (.waiting target rest deadline) now .timedOut

/-- How far a client is from its answer, in inputs at most.  Before the addresses are
known, nobody can tell. -/
def Phase.toGo : Phase → WithTop Nat
  | serving | stopped => .some 0
  | resolving => ⊤
  | dialing _ rest => .some (2 * rest.length + 2)
  | waiting _ rest _ => .some (2 * rest.length + 1)

/-- The error that an input means.  An address that fails is none as long as there are
others to be tried. -/
def error? (c : Client) : Input → Option String
  | .order (.reconfigure (.listen ..)) => some "a client cannot listen"
  | .resolved (.error p) => some s!"cannot resolve {c.remote}: {p.message}"
  | .resolved (.ok []) => some s!"no address for {c.remote}"
  | .dialled (.failed p) =>
    match c.phase with
    | .dialing target [] => some s!"cannot connect to {target.text}: {p.message}"
    | _ => none
  | .timedOut =>
    match c.phase with
    | .waiting target [] _ =>
      some s!"connecting to {target.text} timed out: deadline has elapsed"
    | _ => none
  | _ => none

/-- What happens to a client: an input of its loop, or a move of one of its sessions. -/
inductive Event where
  | input (i : Input)
  | move (id : Nat) (m : Session.Move)

/-- What an event does to a client, if it may occur. -/
def step? (c : Client) (now : Nat) : Event → Option Result
  | .input i => c.take? now i
  | .move id m => (c.link.move? id m).map c.onLink

/-- A step that a client has made. -/
structure Step where
  before : Client
  event : Event
  after : Client
  outputs : List Output

namespace Step

/-- The step with a result. -/
def ofResult (c : Client) (e : Event) (r : Client.Result) : Step := ⟨c, e, r.1, r.2⟩

/-- The step is one that the client can make. -/
def Made (x : Step) : Prop :=
  ∃ now r, x.before.step? now x.event = some r ∧ x = ofResult x.before x.event r

/-- An input of the client's loop is taken. -/
def TakesInput (x : Step) : Prop := ∃ i, x.event = .input i

/-- The order to connect is taken. -/
def IsReconnect (x : Step) : Prop := x.event = .input (.order .reconnect)

/-- A session is opened. -/
def Opens (x : Step) : Prop := x.before.link.Renewed x.after.link

/-- The error of the step. -/
def error? (x : Step) : Option String :=
  match x.event with
  | .input i => x.before.error? i
  | .move .. => none

/-- Nothing is taken from the queues, no connection comes, and nothing is told. -/
structure IsSilent (x : Step) : Prop where
  queue : ∀ i, x.event = .input i → i.isQueued = false ∧ i.socket? = none
  told : tidings x.outputs = []
  session : x.after.link.session? = none

/-- An order to connect is answered. -/
inductive IsAnswer (x : Step) : Prop where
  /-- There is a connection, and a session on it with the next number. -/
  | connected {i : Input} {peer : SocketAddress} {socket : Network.Socket}
      (he : x.event = .input i) (hsocket : i.socket? = some socket)
      (htold : tidings x.outputs = [.connected true])
      (hsession : x.after.link.session? =
        some (.ofConnection (x.before.link.opened + 1) peer socket))
  /-- There is none. -/
  | missed {i : Input} (he : x.event = .input i) (hqueue : i.isQueued = false)
      (hsocket : i.socket? = none) (htold : tidings x.outputs = [.connected false])
      (hsession : x.after.link.session? = none)

/-- The result for the link. -/
def result (x : Step) : Link.Result := (x.after.link, x.outputs)

/-- What a step logs as an error, and what the link remembers of it. -/
structure Logs (x : Step) : Prop where
  errors : errors x.outputs = x.error?.toList.filter (x.before.link.lastError? ≠ some ·)
  opened : x.Opens → x.error? = none ∧ x.after.link.lastError? = none
  kept : ¬ x.Opens → x.after.link.lastError? = x.error?.or x.before.link.lastError?

/-- The kinds of steps.  Each comes with all that is needed of it later on. -/
inductive Kind (x : Step) : Prop where
  /-- The client looks for no connection, unless it is just told to. -/
  | serve (hbefore : x.before.isSeeking = false)
      (hafter : x.after.isSeeking = true ↔ x.IsReconnect)
      (hapart : (Station.client x.after).Apart)
      (hroutine : x.before.link.Routine x.error? x.result)
  /-- The client goes on looking for a connection. -/
  | seek (hbefore : x.before.isSeeking = true) (hafter : x.after.isSeeking = true)
      (hsilent : x.IsSilent) (hroutine : x.before.link.Routine x.error? x.result)
      (htoGo : x.after.phase.toGo ≤ x.before.phase.toGo)
      (hlower : x.TakesInput → x.after.phase.toGo < x.before.phase.toGo)
  /-- The client has found a connection or given up. -/
  | answer (hbefore : x.before.isSeeking = true) (hafter : x.after.phase = .serving)
      (hanswer : x.IsAnswer) (hlogs : x.Logs)

end Step

variable {c : Client} {x : Step}

/-! ## Steps -/

@[simp] theorem isSeeking_onLink (c : Client) (r : Link.Result) :
    (c.onLink r).1.isSeeking = c.isSeeking := rfl

theorem phase_of_isSeeking_eq_false (h : c.isSeeking = false) :
    c.phase = .serving ∨ c.phase = .stopped := by
  unfold isSeeking at h
  split at h
  · next hserving => exact .inl hserving
  · next hstopped => exact .inr hstopped
  all_goals cases h

theorem session_eq_none_of_isSeeking (hapart : (Station.client c).Apart)
    (h : c.isSeeking = true) : c.link.session? = none := by
  refine hapart fun hserving => ?_
  rw [isSeeking, hserving] at h
  cases h

/-- A client that looks for a connection takes what it waits for, and nothing else. -/
theorem isSome_take?_iff (h : c.isSeeking = true) (now : Nat) (i : Input) :
    (c.take? now i).isSome = true ↔ c.phase.Awaits now i := by
  obtain ⟨address, port, link, phase⟩ := c
  constructor
  · intro hsome
    cases phase with
    | serving | stopped => cases h
    | resolving =>
        cases i with
        | resolved answer => exact .resolved now answer
        | _ => cases hsome
    | dialing target rest =>
        cases i with
        | dialled answer => exact .dialled target rest now answer
        | _ => cases hsome
    | waiting target rest deadline =>
        cases i with
        | timedOut =>
            refine .timedOut ?_
            by_contra hdue
            simp [take?, hdue] at hsome
        | _ => cases hsome
  · rintro (⟨_, answer⟩ | ⟨target, rest, _, answer⟩ | ⟨hdue⟩)
    · rfl
    · rfl
    · simp [take?, hdue]

/-- Carrying out an order is routine. -/
theorem routine_obey (c : Client) (o : Order) :
    c.link.Routine (c.error? (.order o)) ((c.obey o).1.link, (c.obey o).2) := by
  cases o with
  | send p => exact c.link.routine_send p
  | reconnect => exact c.link.routine_dropSession
  | disconnect | halt => exact c.link.routine_close
  | reconfigure endpoint =>
      cases endpoint with
      | connect address port => exact c.link.routine_dropSession.cons rfl rfl
      | listen port clientIp? => exact c.link.routine_complain _

theorem isSeeking_obey (hserving : c.phase = .serving) (o : Order) :
    (c.obey o).1.isSeeking = true ↔ o = .reconnect := by
  cases o with
  | reconfigure endpoint =>
      cases endpoint <;> simp [obey, onLink, isSeeking, hserving]
  | _ => simp [obey, onLink, isSeeking, hserving]

namespace Step

/-- A routine step logs what it should. -/
theorem logs_of_routine (h : x.before.link.Routine x.error? x.result) : x.Logs :=
  ⟨h.errors, fun hopens => absurd hopens h.kept, fun _ => h.lastError⟩

/-- A client that gives up has answered. -/
theorem kind_giveUp {i : Input} {text : String} (hbefore : c.isSeeking = true)
    (hs : c.link.session? = none) (hqueue : i.isQueued = false) (hsocket : i.socket? = none)
    (herror : c.error? i = some text) :
    (ofResult c (.input i) (c.giveUp text)).Kind := by
  have hroutine := c.link.routine_complain text
  have hnone : (c.giveUp text).1.link.session? = none := hroutine.session_eq_none hs
  have htold : tidings (c.giveUp text).2 = [.connected false] := by
    simp only [giveUp, onLink, tidings_append, (c.link.alike_complain text).2]
    rfl
  refine .answer hbefore rfl (.missed rfl hqueue hsocket htold hnone) ⟨?_, ?_, fun _ => ?_⟩
  · show errors (c.giveUp text).2 = (c.error? i).toList.filter _
    rw [herror]
    simp only [giveUp, onLink, errors_append, hroutine.errors]
    exact List.append_nil _
  · exact fun hopens => absurd hopens (Link.not_renewed_of_none hnone)
  · show (c.giveUp text).1.link.lastError? = (c.error? i).or _
    rw [herror]
    exact hroutine.lastError

/-- A client that goes on has its link as it was. -/
theorem kind_goOn {i : Input} {phase : Phase} {outputs : List Output}
    (hbefore : c.isSeeking = true) (hafter : ({ c with phase } : Client).isSeeking = true)
    (hs : c.link.session? = none) (hqueue : i.isQueued = false) (hsocket : i.socket? = none)
    (herror : c.error? i = none) (hsignals : signals outputs = [])
    (hlower : phase.toGo < c.phase.toGo) :
    (ofResult c (.input i) ({ c with phase }, outputs)).Kind := by
  have htold : tidings outputs = [] := by rw [tidings, hsignals]; rfl
  refine .seek hbefore hafter ⟨?_, htold, hs⟩ ?_ hlower.le fun _ => hlower
  · rintro _ ⟨⟩
    exact ⟨hqueue, hsocket⟩
  · show c.link.Routine (c.error? i) (c.link, outputs)
    rw [herror]
    refine Link.routine_of_same (Link.not_renewed_of_same rfl) (by simp [htold]) ?_ rfl
    rw [errors, hsignals]
    rfl

/-- A client tries the next address, if there is one. -/
theorem kind_attempt {i : Input} {text : String} {targets : List SocketAddress}
    (hbefore : c.isSeeking = true) (hs : c.link.session? = none)
    (hqueue : i.isQueued = false) (hsocket : i.socket? = none)
    (herror : c.error? i = if targets = [] then some text else none)
    (hlower : WithTop.some (2 * targets.length) < c.phase.toGo) :
    (ofResult c (.input i) (c.attempt text targets)).Kind := by
  cases targets with
  | nil => exact kind_giveUp hbefore hs hqueue hsocket herror
  | cons target rest => exact kind_goOn hbefore rfl hs hqueue hsocket herror rfl hlower

/-- A client that has a connection has answered. -/
theorem kind_establish {target : SocketAddress} {rest : List SocketAddress}
    {socket : Network.Socket} (now : Nat) (hphase : c.phase = .dialing target rest)
    (hs : c.link.session? = none) :
    (ofResult c (.input (.dialled (.connected socket)))
      (c.takeAnswer now target rest (.connected socket))).Kind := by
  have hsession : (c.link.establish target socket none).1.session? =
      some (.ofConnection (c.link.opened + 1) target socket) := by
    simp [Link.establish, Link.dropSession, hs]
  have htold : tidings (c.link.establish target socket none).2 = [.connected true] := by
    simp only [Link.establish, Link.dropSession, hs]
    rfl
  refine .answer (by simp [ofResult, isSeeking, hphase]) rfl
    (.connected rfl rfl htold hsession) ⟨?_, fun _ => ⟨rfl, rfl⟩, fun hkept => ?_⟩
  · simp only [takeAnswer, onLink, Link.establish, Link.dropSession, hs]
    rfl
  · refine absurd ⟨_, hsession, fun u hu => ?_⟩ hkept
    cases hs.symm.trans hu

/-- What a client that seeks a connection takes. -/
theorem kind_of_awaits {i : Input} {now : Nat} {r : Client.Result}
    (hs : c.link.session? = none) (hawaits : c.phase.Awaits now i)
    (h : c.take? now i = some r) : (ofResult c (.input i) r).Kind := by
  obtain ⟨address, port, link, phase⟩ := c
  cases hawaits with
  | resolved _ answer =>
      obtain rfl := Option.some.inj h
      cases answer with
      | error p => exact kind_giveUp rfl hs rfl rfl rfl
      | ok ips =>
          refine kind_attempt rfl hs rfl rfl ?_ (WithTop.coe_lt_top _)
          cases ips <;> rfl
  | dialled target rest _ answer =>
      obtain rfl := Option.some.inj h
      cases answer with
      | connected socket => exact kind_establish now rfl hs
      | failed p =>
          refine kind_attempt rfl hs rfl rfl ?_ ?_
          · cases rest <;> rfl
          · exact WithTop.coe_lt_coe.mpr (by omega)
      | silence => exact kind_goOn rfl rfl hs rfl rfl rfl rfl (WithTop.coe_lt_coe.mpr (by omega))
  | @timedOut target rest deadline _ hdue =>
      obtain rfl := Option.some.inj ((if_pos hdue).symm.trans h)
      refine kind_attempt rfl hs rfl rfl ?_ ?_
      · cases rest <;> rfl
      · exact WithTop.coe_lt_coe.mpr (by omega)

/-- An input that a client takes while it looks for no connection. -/
theorem kind_of_serving {i : Input} {now : Nat} {r : Client.Result}
    (hserving : c.phase = .serving) (h : c.take? now i = some r) :
    (ofResult c (.input i) r).Kind := by
  have hbefore : c.isSeeking = false := by rw [isSeeking, hserving]
  cases i with
  | report =>
      rw [take?, if_pos hserving] at h
      obtain ⟨r, hr, rfl⟩ := Option.map_eq_some_iff.mp h
      exact .serve hbefore (by simp [ofResult, IsReconnect, hbefore])
        (fun hbusy => absurd hserving hbusy) (Link.routine_takeReport? hr)
  | order o =>
      rw [take?, if_pos hserving] at h
      obtain rfl := Option.some.inj h
      refine .serve hbefore ?_ (changes_obey hserving o).apart (c.routine_obey o)
      simpa [ofResult, IsReconnect] using c.isSeeking_obey hserving o
  | ordersClosed =>
      rw [take?, if_pos hserving] at h
      obtain rfl := Option.some.inj h
      exact .serve hbefore (by simp [ofResult, IsReconnect, stop, isSeeking])
        (fun _ => c.link.session_abandon) c.link.routine_abandon
  | resolved answer | dialled answer | timedOut => simp [take?, hserving] at h

/-- A move of a session leaves the client as it is, its link apart. -/
theorem kind_move {id : Nat} {m : Session.Move} {r : Link.Result}
    (hapart : (Station.client c).Apart) (h : c.link.move? id m = some r) :
    (ofResult c (.move id m) (c.onLink r)).Kind := by
  have hroutine := Link.routine_move? h
  cases hseeking : c.isSeeking with
  | false =>
      exact .serve hseeking (by simp [ofResult, IsReconnect, hseeking])
        (fun hbusy => hroutine.session_eq_none (hapart hbusy)) hroutine
  | true =>
      have hs := session_eq_none_of_isSeeking hapart hseeking
      exact .seek hseeking hseeking
        ⟨nofun, (Link.session_of_move? h).2.1, hroutine.session_eq_none hs⟩ hroutine le_rfl nofun

end Step

/-- Every step is of one of the kinds. -/
theorem Step.Made.kind (h : x.Made) (hapart : (Station.client x.before).Apart) : x.Kind := by
  obtain ⟨now, r, hr, hx⟩ := h
  rw [hx]
  cases he : x.event with
  | move id m =>
      rw [he] at hr
      obtain ⟨r, hmove, rfl⟩ := Option.map_eq_some_iff.mp hr
      exact Step.kind_move hapart hmove
  | input i =>
      rw [he] at hr
      cases hseeking : x.before.isSeeking with
      | true =>
          have hawaits := (isSome_take?_iff hseeking now i).mp (Option.isSome_of_eq_some hr)
          exact Step.kind_of_awaits (session_eq_none_of_isSeeking hapart hseeking) hawaits hr
      | false =>
          rcases phase_of_isSeeking_eq_false hseeking with hserving | hstopped
          · exact Step.kind_of_serving hserving hr
          · cases i <;> simp [step?, take?, hstopped] at hr

/-! ## Runs -/

/-- The history of a client, and the client at its end.  Orders, reports and outcomes come
in any order that the client permits, at any times. -/
inductive Run (address : String) (port : Port) : List Step → Client → Prop where
  | start : Run address port [] (ofRemote address port)
  | step {history : List Step} {x : Step} (h : Run address port history x.before)
      (hx : x.Made) : Run address port (history ++ [x]) x.after

/-- The last order to connect has not been answered. -/
def Pending (history : List Step) : Prop :=
  Since Step.IsReconnect Step.IsSilent history

/-- The last error was this one, and no session has been opened since. -/
def Repeats (history : List Step) (text : String) : Prop :=
  Since (·.error? = some text) (fun x => x.error? = none ∧ ¬ x.Opens) history

/-- A session is opened only to answer an order to connect.  Apart from such answers, a
connection is told of only when it is lost. -/
structure Step.Tells (earlier : List Step) (x : Step) : Prop where
  opens : x.Opens → x.IsAnswer ∧ Pending earlier
  told : ∀ up, .connected up ∈ tidings x.outputs →
    x.before.link.Loses x.result ∨ x.IsAnswer ∧ Pending earlier

/-- The error of the step, if there is one, is logged once unless it repeats the last one. -/
structure Step.Complains (earlier : List Step) (x : Step) : Prop where
  once : (errors x.outputs).length ≤ 1
  mem : ∀ text, text ∈ errors x.outputs ↔ x.error? = some text ∧ ¬ Repeats earlier text

/-- What holds of a client and its history. -/
structure Sound (history : List Step) (c : Client) : Prop where
  apart : (Station.client c).Apart
  seeking : c.isSeeking = true ↔ Pending history
  last : ∀ text, c.link.lastError? = some text ↔ Repeats history text

variable {history : List Step}

theorem Step.Kind.logs (h : x.Kind) : x.Logs := by
  cases h with
  | serve _ _ _ hroutine | seek _ _ _ hroutine => exact logs_of_routine hroutine
  | answer _ _ _ hlogs => exact hlogs

theorem Step.IsAnswer.not_silent (h : x.IsAnswer) : ¬ x.IsSilent := by
  intro hsilent
  have htold := hsilent.told
  cases h with
  | connected _ _ h | missed _ _ _ h =>
      rw [h] at htold
      cases htold

theorem Step.IsAnswer.not_reconnect (h : x.IsAnswer) : ¬ x.IsReconnect := by
  intro hreconnect
  cases h with
  | connected he hsocket =>
      cases he.symm.trans hreconnect
      cases hsocket
  | missed he hqueue =>
      cases he.symm.trans hreconnect
      cases hqueue

theorem Step.IsSilent.not_reconnect (h : x.IsSilent) : ¬ x.IsReconnect := by
  intro hreconnect
  cases (h.queue _ hreconnect).1

theorem Step.Kind.apart (h : x.Kind) : (Station.client x.after).Apart := by
  cases h with
  | serve _ _ hapart => exact hapart
  | seek _ _ hsilent => exact fun _ => hsilent.session
  | answer _ hafter => exact fun hbusy => absurd hafter hbusy

theorem Step.Kind.isSeeking_iff (h : x.Kind) :
    x.after.isSeeking = true ↔
      x.IsReconnect ∨ x.IsSilent ∧ x.before.isSeeking = true := by
  cases h with
  | serve hbefore hafter => simp [hbefore, hafter]
  | seek hbefore hafter hsilent => simp [hbefore, hafter, hsilent]
  | answer _ hafter hanswer =>
      simp [isSeeking, hafter, hanswer.not_reconnect, hanswer.not_silent]

theorem Step.Logs.lastError_iff (h : x.Logs) (text : String) :
    x.after.link.lastError? = some text ↔ x.error? = some text ∨
      (x.error? = none ∧ ¬ x.Opens) ∧ x.before.link.lastError? = some text := by
  by_cases hopens : x.Opens
  · obtain ⟨herror, hlast⟩ := h.opened hopens
    simp [hlast, herror, hopens]
  · rw [h.kept hopens]
    cases x.error? <;> simp [hopens]

/-- A sound history stays sound. -/
theorem Sound.step (h : Sound history x.before) (hx : x.Made) :
    Sound (history ++ [x]) x.after := by
  have hkind := hx.kind h.apart
  refine ⟨hkind.apart, ?_, fun text => ?_⟩
  · rw [hkind.isSeeking_iff, h.seeking]
    exact since_concat.symm
  · rw [hkind.logs.lastError_iff, h.last, Repeats, Repeats, since_concat]

theorem Sound.tells (h : Sound history x.before) (hx : x.Made) : x.Tells history := by
  cases hx.kind h.apart with
  | serve _ _ _ hroutine | seek _ _ _ hroutine =>
      exact ⟨fun hopens => absurd hopens hroutine.kept, fun up hup => .inl (hroutine.told up hup)⟩
  | answer hbefore _ hanswer =>
      have hpending := h.seeking.mp hbefore
      exact ⟨fun _ => ⟨hanswer, hpending⟩, fun _ _ => .inr ⟨hanswer, hpending⟩⟩

theorem Sound.complains (h : Sound history x.before) (hx : x.Made) :
    x.Complains history := by
  have herrors := (hx.kind h.apart).logs.errors
  constructor
  · rw [herrors]
    refine (List.length_filter_le ..).trans ?_
    cases x.error? <;> simp
  · intro text
    rw [herrors, ← h.last]
    simp

theorem Run.sound {address : String} {port : Port} (h : Run address port history c) :
    Sound history c := by
  induction h with
  | start =>
      refine ⟨fun hbusy => absurd rfl hbusy, ?_, fun text => ?_⟩
      · exact iff_of_false nofun not_since_nil
      · exact iff_of_false nofun not_since_nil
  | step _ hx ih => exact ih.step hx

theorem Run.heralded {address : String} {port : Port} (h : Run address port history c) :
    Heralded Step.Tells history ∧ Heralded Step.Complains history := by
  induction h with
  | start => exact ⟨.nil, .nil⟩
  | step hrun hx ih =>
      exact ⟨ih.1.concat (hrun.sound.tells hx), ih.2.concat (hrun.sound.complains hx)⟩

/-! ## Answers -/

/-- A client that looks for a connection answers, or goes on in silence. -/
theorem Step.Kind.seeks (h : x.Kind) (hseeking : x.before.isSeeking = true) :
    x.IsAnswer ∨ x.after.isSeeking = true ∧ x.IsSilent ∧
      x.after.phase.toGo ≤ x.before.phase.toGo ∧
      (x.TakesInput → x.after.phase.toGo < x.before.phase.toGo) := by
  cases h with
  | serve hbefore => cases hbefore.symm.trans hseeking
  | seek _ hafter hsilent _ htoGo hlower => exact .inr ⟨hafter, hsilent, htoGo, hlower⟩
  | answer _ _ hanswer => exact .inl hanswer

/-- What follows an order to connect: nothing yet, or an answer first of all. -/
theorem Run.answered {address : String} {port : Port} (h : Run address port history c)
    {earlier later : List Step} (hhistory : history = earlier ++ x :: later)
    (hx : x.IsReconnect) :
    c.isSeeking = true ∧ (∀ y ∈ later, y.IsSilent) ∨
      Until Step.IsSilent Step.IsAnswer later := by
  induction h generalizing later with
  | start => simp at hhistory
  | @step history y hrun hy ih =>
      have hkind := hy.kind hrun.sound.apart
      rcases concat_eq_append_cons hhistory with ⟨rfl, -, rfl⟩ | ⟨rest, rfl, hrest⟩
      · exact .inl ⟨hkind.isSeeking_iff.mpr (.inl hx), List.forall_mem_nil _⟩
      · rcases ih hrest with ⟨hseeking, hsilent⟩ | hanswered
        · rcases hkind.seeks hseeking with hanswer | ⟨hafter, hquiet, -⟩
          · exact .inr (until_concat hsilent hanswer)
          · exact .inl ⟨hafter, forall_mem_concat hsilent hquiet⟩
        · exact .inr (hanswered.append [y])

/-- An order to connect drops the session. -/
theorem Step.Made.drops (h : x.Made) (hx : x.IsReconnect) :
    x.after.link.session? = none ∧
      tidings x.outputs = if x.before.link.isConnected then [.connected false] else [] := by
  obtain ⟨now, r, hr, he⟩ := h
  rw [hx] at hr he
  rw [he]
  simp only [step?, take?] at hr
  split at hr
  · obtain rfl := Option.some.inj hr
    exact ⟨x.before.link.session_dropSession, x.before.link.tidings_dropSession⟩
  · cases hr

theorem Run.made {address : String} {port : Port} (h : Run address port history c) :
    ∀ x ∈ history, x.Made := by
  induction h with
  | start => exact List.forall_mem_nil _
  | step _ hx ih => exact forall_mem_concat ih hx

/-! ## Progress -/

/-- Steps that a client goes on to make without end. -/
structure Continues (c : Client) (steps : Nat → Step) : Prop where
  start : (steps 0).before = c
  made : ∀ n, (steps n).Made
  next : ∀ n, (steps (n + 1)).before = (steps n).after

variable {steps : Nat → Step}

/-- A client that never answers seeks a connection in silence for ever. -/
theorem Continues.seeks (h : Continues c steps) (hapart : (Station.client c).Apart)
    (hseeking : c.isSeeking = true)
    (hnever : ∀ n, (∀ m < n, (steps m).IsSilent) → ¬ (steps n).IsAnswer) (n : Nat) :
    (Station.client (steps n).before).Apart ∧ (steps n).before.isSeeking = true ∧
      ∀ m < n, (steps m).IsSilent := by
  induction n with
  | zero => exact ⟨h.start ▸ hapart, h.start ▸ hseeking, nofun⟩
  | succ n ih =>
      obtain ⟨hbefore, hstill, hsilent⟩ := ih
      have hkind := (h.made n).kind hbefore
      obtain ⟨hafter, hquiet, -⟩ := (hkind.seeks hstill).resolve_left (hnever n hsilent)
      rw [h.next]
      refine ⟨hkind.apart, hafter, fun m hm => ?_⟩
      rcases Nat.lt_succ_iff_lt_or_eq.mp hm with hlt | rfl
      · exact hsilent m hlt
      · exact hquiet

/-- If the outcomes keep coming, an answer comes as well. -/
theorem Continues.answers (h : Continues c steps) (hapart : (Station.client c).Apart)
    (hseeking : c.isSeeking = true) (hinputs : ∀ n, ∃ m, n ≤ m ∧ (steps m).TakesInput) :
    ∃ n, (steps n).IsAnswer ∧ ∀ m < n, (steps m).IsSilent := by
  by_contra hnone
  have hnever : ∀ n, (∀ m < n, (steps m).IsSilent) → ¬ (steps n).IsAnswer :=
    fun n hsilent hanswer => hnone ⟨n, hanswer, hsilent⟩
  have hstep : ∀ n, (steps (n + 1)).before.phase.toGo ≤ (steps n).before.phase.toGo ∧
      ((steps n).TakesInput →
        (steps (n + 1)).before.phase.toGo < (steps n).before.phase.toGo) := by
    intro n
    obtain ⟨hbefore, hstill, hsilent⟩ := h.seeks hapart hseeking hnever n
    rw [h.next]
    exact ((((h.made n).kind hbefore).seeks hstill).resolve_left (hnever n hsilent)).2.2
  have hanti : Antitone fun n => (steps n).before.phase.toGo :=
    antitone_nat_of_succ_le fun n => (hstep n).1
  -- The phases would go down for ever.
  have hend : ∀ (g : WithTop Nat) (n : Nat), (steps n).before.phase.toGo ≠ g := by
    intro g
    induction g using WellFoundedLT.induction with
    | ind g ih =>
        rintro n rfl
        obtain ⟨m, hm, htakes⟩ := hinputs n
        exact ih _ (((hstep m).2 htakes).trans_le (hanti hm)) (m + 1) rfl
  exact hend _ 0 rfl

/-- Over every run of a client, an order to connect drops the session, which is told if
there is one, and is then answered once before anything else is taken from the queues.
No other order opens a session, and an error is logged unless it repeats the last one.
A client that owes an answer takes whatever outcome it waits for, and cannot put the
answer off for ever. -/
theorem Run.answered_once {address : String} {port : Port}
    (h : Run address port history c) :
    (∀ earlier x later, history = earlier ++ x :: later → x.IsReconnect →
      x.after.link.session? = none ∧
      tidings x.outputs = (if x.before.link.isConnected then [.connected false] else []) ∧
      (c.isSeeking = true ∧ (∀ y ∈ later, y.IsSilent) ∨
        Until Step.IsSilent Step.IsAnswer later)) ∧
    Heralded Step.Tells history ∧
    Heralded Step.Complains history ∧
    (c.isSeeking = true →
      (∀ now i, (c.take? now i).isSome = true ↔ c.phase.Awaits now i) ∧
      ∀ steps, Continues c steps → (∀ n, ∃ m, n ≤ m ∧ (steps m).TakesInput) →
        ∃ n, (steps n).IsAnswer ∧ ∀ m < n, (steps m).IsSilent) := by
  obtain ⟨htells, hcomplains⟩ := h.heralded
  refine ⟨?_, htells, hcomplains, fun hseeking => ⟨isSome_take?_iff hseeking, ?_⟩⟩
  · intro earlier x later hhistory hx
    have hmade : x.Made := h.made x (by simp [hhistory])
    obtain ⟨hnone, htold⟩ := hmade.drops hx
    exact ⟨hnone, htold, h.answered hhistory hx⟩
  · intro steps hsteps hinputs
    exact hsteps.answers h.sound.apart hseeking hinputs

theorem Run.take {address : String} {port : Port} (h : Run address port history c)
    {now : Nat} {e : Event} {r : Result} (hr : c.step? now e = some r) :
    Run address port (history ++ [.ofResult c e r]) r.1 :=
  h.step ⟨now, r, hr, rfl⟩

/-- The client after some orders to halt. -/
def halted (c : Client) : Nat → Client
  | 0 => c
  | n + 1 => ((c.halted n).obey .halt).1

theorem phase_halted (c : Client) (n : Nat) : (c.halted n).phase = c.phase := by
  induction n with
  | zero => rfl
  | succ n ih => exact ih

/-- No address is found, and nothing but orders to halt comes after this. -/
def unresolved (c : Client) : Nat → Step
  | 0 => .ofResult c (.input (.resolved (.ok []))) (c.takeAddresses (.ok []))
  | n + 1 =>
    let d := (c.takeAddresses (.ok [])).1.halted n
    .ofResult d (.input (.order .halt)) (d.obey .halt)

theorem continues_unresolved (hresolving : c.phase = .resolving) :
    Continues c c.unresolved := by
  refine ⟨rfl, fun n => ?_, fun n => ?_⟩
  · cases n with
    | zero => exact ⟨0, _, if_pos hresolving, rfl⟩
    | succ n => exact ⟨0, _, if_pos (phase_halted _ n), rfl⟩
  · cases n <;> rfl

theorem takesInput_unresolved (n : Nat) : (c.unresolved n).TakesInput := by
  cases n <;> exact ⟨_, rfl⟩

/-- A client is connected, told to connect once more and fails twice with the same error,
which is logged once.  The next order is still open, and an answer is bound to come. -/
theorem answered_once_reopened :
    let text := "cannot resolve host:8500: " ++ Network.Problem.nameUnknown.message
    ∃ x₁ x₂ x₃ x₄ x₅ x₆ x₇ x₈ c,
      Run "host" (.number 8500) [x₁, x₂, x₃, x₄, x₅, x₆, x₇, x₈] c ∧
      x₄.IsReconnect ∧ tidings x₄.outputs = [.connected false] ∧
      Until Step.IsSilent Step.IsAnswer [x₅, x₆, x₇, x₈] ∧
      x₃.Opens ∧ x₃.IsAnswer ∧ Pending [x₁, x₂] ∧
      errors x₅.outputs = [text] ∧ ¬ Repeats [x₁, x₂, x₃, x₄] text ∧
      errors x₇.outputs = [] ∧ Repeats [x₁, x₂, x₃, x₄, x₅, x₆] text ∧
      c.isSeeking = true ∧ c.phase.Awaits 0 (.resolved (.ok [])) ∧
      ∃ n, (c.unresolved n).IsAnswer ∧ ∀ m < n, (c.unresolved m).IsSilent := by
  intro text
  have hstart : Run "host" (.number 8500) [] _ := .start
  have hordered := @Run.take _ _ _ _ hstart 0 (.input (.order .reconnect)) _ rfl
  have hresolved := @Run.take _ _ _ _ hordered 0 (.input (.resolved (.ok [.loopback]))) _ rfl
  have hconnected := @Run.take _ _ _ _ hresolved 0
    (.input (.dialled (.connected ⟨1, .dialer⟩))) _ rfl
  have hdropped := @Run.take _ _ _ _ hconnected 0 (.input (.order .reconnect)) _ rfl
  have hfailed := @Run.take _ _ _ _ hdropped 0
    (.input (.resolved (.error .nameUnknown))) _ rfl
  have hagain := @Run.take _ _ _ _ hfailed 0 (.input (.order .reconnect)) _ rfl
  have hrepeated := @Run.take _ _ _ _ hagain 0
    (.input (.resolved (.error .nameUnknown))) _ rfl
  have hlast := @Run.take _ _ _ _ hrepeated 0 (.input (.order .reconnect)) _ rfl
  obtain ⟨hanswered, htells, hcomplains, hprogress⟩ := hlast.answered_once
  obtain ⟨-, htold, hafter⟩ := hanswered [_, _, _] _ [_, _, _, _] rfl rfl
  obtain ⟨htakes, hanswers⟩ := hprogress rfl
  have hopens := (htells 2 _ rfl).opens ⟨_, rfl, nofun⟩
  have hlogged := ((hcomplains 4 _ rfl).mem text).mp (List.mem_singleton_self text)
  have hrepeats := ((hcomplains 6 _ rfl).mem text).not.mp List.not_mem_nil
  refine ⟨_, _, _, _, _, _, _, _, _, hlast, rfl, htold, hafter.resolve_left ?_,
    ⟨_, rfl, nofun⟩, hopens.1, hopens.2, rfl, hlogged.2, rfl, ?_, rfl, (htakes 0 _).mp rfl,
    hanswers _ (continues_unresolved rfl) fun n => ⟨n, le_rfl, takesInput_unresolved n⟩⟩
  · rintro ⟨-, hsilent⟩
    exact (hsilent _ (List.mem_of_getElem? (i := 3) rfl)).not_reconnect rfl
  · by_contra hnew
    exact hrepeats ⟨rfl, hnew⟩

end Client

end FlightLink.Transport
