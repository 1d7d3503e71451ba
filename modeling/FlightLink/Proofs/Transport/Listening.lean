import FlightLink.Proofs.Transport.Stations

/-!
# Servers listen when they should

A server keeps three records of its listening: whether listening is wanted, the
listener and the time of the next attempt to bind.  Orders and the outcomes of
attempts rewrite them in different ways.  Over every run they fit together, and a
client is admitted only under the terms that the orders have set.
-/

namespace FlightLink.Transport

namespace Link

variable {l l' : Link}

/-- A session has been opened: the link `l'` has one that `l` does not have. -/
def Renewed (l l' : Link) : Prop :=
  ∃ t, l'.session? = some t ∧ ∀ u, l.session? = some u → u.id ≠ t.id

theorem not_renewed_of_none (h : l'.session? = none) : ¬ l.Renewed l' := by
  rintro ⟨t, ht, -⟩
  cases h.symm.trans ht

theorem not_renewed_of_same (h : l'.session? = l.session?) : ¬ l.Renewed l' := by
  rintro ⟨t, ht, hother⟩
  exact hother t (h.symm.trans ht) rfl

theorem not_renewed_of_id {s t : Session} (hs : l.session? = some s)
    (ht : l'.session? = some t) (hid : t.id = s.id) : ¬ l.Renewed l' := by
  rintro ⟨t', ht', hother⟩
  obtain rfl := Option.some.inj (ht.symm.trans ht')
  exact hother s hs hid.symm

/-- A session is opened, or a connection is told of. -/
def Opens (l l' : Link) (told : List Signal) : Prop :=
  l.Renewed l' ∨ .connected true ∈ told

/-- Only what may bring a connection opens a session. -/
theorem Change.connects_of_opens {i : Station.Input} {told : List Signal}
    (h : l.Change l' i told) (hopens : l.Opens l' told) : i.connects = true := by
  cases h with
  | establish hi => exact hi
  | stay _ h | stale _ _ _ h | miss _ h | refuse _ _ h =>
      exact absurd (hopens.resolve_right (by simp)) (not_renewed_of_same h.session)
  | drop _ h | ended _ _ _ h =>
      exact absurd (hopens.resolve_right (by simp)) (not_renewed_of_none h.session)
  | accept _ hs _ h =>
      exact absurd (hopens.resolve_right (by simp)) (not_renewed_of_id hs h.session rfl)
  | close _ hs h =>
      refine absurd (hopens.resolve_right (by simp)) (not_renewed_of_id hs h.session ?_)
      split <;> rfl
  | @pass s r _ _ _ _ hs htold h =>
      refine absurd (hopens.resolve_right ?_) (not_renewed_of_same h.session)
      cases r <;> cases htold <;> simp

end Link

namespace Server

/-! ## Runs -/

/-- What happens to a server: an input of its loop, or a move of one of its sessions. -/
inductive Event where
  | input (i : Input)
  | move (id : Nat) (m : Session.Move)

/-- What the orders have set: whether to listen, where, and for whom. -/
structure Terms where
  wanted : Bool
  port : Port
  clientIp? : Option IpAddress

/-- The terms in force. -/
def terms (s : Server) : Terms := ⟨s.wanted, s.port, s.clientIp?⟩

/-- The terms after an event. -/
def Event.revise (t : Terms) : Event → Terms
  | input (.order .reconnect) => { t with wanted := true }
  | input (.order .halt) => { t with wanted := false }
  | input (.order (.reconfigure (.listen port clientIp?))) => { t with port, clientIp? }
  | _ => t

/-- What an event does to a server, if it may occur. -/
def step? (s : Server) (clock : Clock) (now : Nat) : Event → Option Result
  | .input i => s.take? clock now i
  | .move id m => (s.link.move? id m).map s.onLink

/-- The servers that come up in runs.  The loop may see any order of events, at any
times. -/
inductive Reachable (clock : Clock) : Server → Prop where
  | ofPort (port : Port) (clientIp? : Option IpAddress) (retry : Nat) :
      Reachable clock (ofPort port clientIp? retry)
  | ofListening (l : Listening) (clientIp? : Option IpAddress) (retry : Nat) :
      Reachable clock (ofListening l clientIp? retry)
  | step {s : Server} {now : Nat} {e : Event} {r : Result} (h : Reachable clock s)
      (hr : s.step? clock now e = some r) : Reachable clock r.1

/-- The records of a server's listening fit together. -/
structure Listens (s : Server) : Prop where
  /-- A server that wants to listen does, or is going to try. -/
  wanted : s.wanted = true → s.listening?.isSome ∨ s.retryAt?.isSome
  retrying : s.retryAt?.isSome → s.wanted = true ∧ s.listening? = none
  port : ∀ l, s.listening? = some l → l.port = s.port

/-- A step opens a session. -/
def Opens (s : Server) (r : Result) : Prop :=
  s.link.Opens r.1.link (tidings r.2)

/-- A client with an address may be served. -/
structure Admits (s : Server) (peer : SocketAddress) : Prop where
  wanted : s.wanted = true
  alone : s.link.session? = none
  required : ∀ ip, s.clientIp? = some ip → peer.ip = ip

variable {s : Server} {clock : Clock} {now : Nat} {r : Result}

/-! ## The records of listening -/

theorem unlisten_terms (s : Server) : s.unlisten.1.terms = s.terms := by
  unfold unlisten
  split <;> rfl

theorem Listens.onLink (h : s.Listens) (r : Link.Result) : (s.onLink r).1.Listens :=
  ⟨h.wanted, h.retrying, h.port⟩

/-- A server without a listener whose attempts to bind are those that it wants. -/
theorem listens_unlisten (h : s.retryAt?.isSome = s.wanted) : s.unlisten.1.Listens := by
  obtain ⟨-, -, hlistening, hretryAt, -⟩ := s.unlisten_spec
  have hwanted : s.unlisten.1.wanted = s.wanted := congrArg Terms.wanted s.unlisten_terms
  constructor
  · intro hw
    rw [hretryAt, h]
    exact .inr (hwanted.symm.trans hw)
  · intro hretry
    rw [hretryAt, h] at hretry
    exact ⟨hwanted.trans hretry, hlistening⟩
  · intro l hl
    cases hlistening.symm.trans hl

theorem Listens.want (h : s.Listens) (now : Nat) : (s.want now).Listens := by
  constructor
  · intro _
    cases hlistening : s.listening? with
    | none => exact .inr (by simp [Server.want, hlistening])
    | some l => exact .inl (by simp [Server.want, hlistening])
  · intro hretry
    refine ⟨rfl, ?_⟩
    cases hlistening : s.listening? with
    | none => exact hlistening
    | some l => simp [Server.want, hlistening] at hretry
  · exact h.port

theorem listens_halt (s : Server) : s.halt.1.Listens :=
  listens_unlisten (s := { s with link := s.link.close, wanted := false, retryAt? := none })
    rfl

theorem Listens.move (h : s.Listens) (now : Nat) (port : Port) :
    (s.move now port).1.Listens := by
  unfold Server.move
  split
  · exact h
  · refine listens_unlisten ?_
    cases s.wanted <;> rfl

theorem Listens.obey (h : s.Listens) (now : Nat) (o : Order) : (s.obey now o).1.Listens := by
  cases o with
  | send _ | disconnect => exact h.onLink _
  | reconnect => exact (h.onLink _).want now
  | halt => exact s.listens_halt
  | reconfigure endpoint =>
      cases endpoint with
      | connect _ _ => exact h.onLink _
      | listen port clientIp? =>
          have hdropped : Listens { s with link := s.link.dropSession.1, clientIp? } :=
            ⟨h.wanted, h.retrying, h.port⟩
          exact hdropped.move now port

theorem Listens.takeClient (h : s.Listens)
    (answer : Except Network.Problem (Network.Socket × SocketAddress)) :
    (s.takeClient answer).1.Listens := by
  cases answer with
  | error p => exact h.onLink _
  | ok q =>
      simp only [Server.takeClient]
      split
      · exact h
      · exact h.onLink _

theorem phase_finish (s : Server) (phase : Phase) : (s.finish phase).1.phase = phase :=
  (unlisten_spec { s with phase, link := s.link.abandon, retryAt? := none }).2.1

/-- The answer to an attempt to bind leaves a listener at the current port or the next
attempt, unless its time is beyond the clock. -/
theorem listens_takeBinding (hserving : s.phase = .serving) (hw : s.wanted = true)
    (hl : s.listening? = none) (answer : Except Network.Problem Nat) :
    (s.takeBinding clock now answer).1.phase = .serving ∧
        (s.takeBinding clock now answer).1.Listens ∨
      (s.takeBinding clock now answer).1.phase = .crashed ∧ (∃ p, answer = .error p) ∧
        clock.add? now s.retry = none := by
  cases answer with
  | ok listener =>
      refine .inl ⟨hserving, ?_⟩
      constructor
      · exact fun _ => .inl rfl
      · exact nofun
      · intro l hsome
        cases hsome
        rfl
  | error p =>
      simp only [Server.takeBinding, Server.onLink]
      cases hadd : clock.add? now s.retry with
      | some t =>
          refine .inl ⟨hserving, ?_⟩
          constructor
          · exact fun _ => .inr rfl
          · exact fun _ => ⟨hw, hl⟩
          · intro l hsome
            cases hl.symm.trans hsome
      | none => exact .inr ⟨phase_finish _ _, ⟨p, rfl⟩, rfl⟩

theorem Listens.due (h : s.Listens) (hdue : s.isDue now = true) :
    s.wanted = true ∧ s.listening? = none := by
  apply h.retrying
  unfold isDue at hdue
  split at hdue
  · cases hdue
  · next t ht => rw [ht]; rfl

/-! ## One step -/

theorem obey_spec (s : Server) (now : Nat) (o : Order) :
    (s.obey now o).1.phase = s.phase ∧
      (s.obey now o).1.terms = (Event.input (.order o)).revise s.terms := by
  cases o with
  | send _ | disconnect | reconnect => exact ⟨rfl, rfl⟩
  | halt =>
      let closed : Server :=
        { s with link := s.link.close, wanted := false, retryAt? := none }
      exact ⟨closed.unlisten_spec.2.1, closed.unlisten_terms⟩
  | reconfigure endpoint =>
      cases endpoint with
      | connect _ _ => exact ⟨rfl, rfl⟩
      | listen port clientIp? =>
          let dropped : Server := { s with link := s.link.dropSession.1, clientIp? }
          refine ⟨(dropped.move_spec now port).2.1, ?_⟩
          change (dropped.move now port).1.terms = ⟨s.wanted, port, clientIp?⟩
          unfold Server.move
          split
          · next hsame =>
              subst hsame
              rfl
          · exact unlisten_terms _

theorem takeClient_spec (s : Server)
    (answer : Except Network.Problem (Network.Socket × SocketAddress)) :
    (s.takeClient answer).1.phase = s.phase ∧ (s.takeClient answer).1.terms = s.terms := by
  cases answer with
  | error _ => exact ⟨rfl, rfl⟩
  | ok q =>
      simp only [takeClient]
      split <;> exact ⟨rfl, rfl⟩

theorem terms_finish (s : Server) (phase : Phase) : (s.finish phase).1.terms = s.terms :=
  unlisten_terms _

theorem terms_takeBinding (s : Server) (clock : Clock) (now : Nat)
    (answer : Except Network.Problem Nat) :
    (s.takeBinding clock now answer).1.terms = s.terms := by
  cases answer with
  | ok listener => rfl
  | error p =>
      simp only [takeBinding, onLink]
      cases clock.add? now s.retry with
      | some t => rfl
      | none => exact terms_finish _ _

/-- What an event may occur to, and what it does then. -/
theorem step?_cases {e : Event} (h : s.step? clock now e = some r) :
    (∃ l, e.revise s.terms = s.terms ∧ r = s.onLink l) ∨ s.phase = .serving ∧
      ((∃ o, e = .input (.order o) ∧ r = s.obey now o) ∨
        e = .input .ordersClosed ∧ r = s.finish .stopped ∨
        (∃ answer, e = .input (.bound answer) ∧ s.isDue now = true ∧
          r = s.takeBinding clock now answer) ∨
        ∃ answer, e = .input (.accepted answer) ∧ s.wanted = true ∧
          r = s.takeClient answer) := by
  cases e with
  | move id m =>
      obtain ⟨l, -, rfl⟩ := Option.map_eq_some_iff.1 h
      exact .inl ⟨l, rfl, rfl⟩
  | input i =>
      simp only [step?, take?] at h
      split at h
      · next hserving =>
          cases i with
          | report =>
              obtain ⟨l, -, rfl⟩ := Option.map_eq_some_iff.1 h
              exact .inl ⟨l, rfl, rfl⟩
          | order o => exact .inr ⟨hserving, .inl ⟨o, rfl, (Option.some.inj h).symm⟩⟩
          | ordersClosed =>
              exact .inr ⟨hserving, .inr (.inl ⟨rfl, (Option.some.inj h).symm⟩)⟩
          | bound answer =>
              simp only at h
              split at h
              · next hdue =>
                  exact .inr ⟨hserving,
                    .inr (.inr (.inl ⟨answer, rfl, hdue, (Option.some.inj h).symm⟩))⟩
              · cases h
          | accepted answer =>
              simp only [Bool.and_eq_true] at h
              split at h
              · next haccepts =>
                  exact .inr ⟨hserving, .inr (.inr (.inr
                    ⟨answer, rfl, haccepts.1, (Option.some.inj h).symm⟩))⟩
              · cases h
      · cases h

/-- Only orders change the terms. -/
theorem terms_of_step? {e : Event} (h : s.step? clock now e = some r) :
    r.1.terms = e.revise s.terms := by
  rcases step?_cases h with ⟨l, he, rfl⟩ | ⟨-, hcases⟩
  · exact he.symm
  · rcases hcases with ⟨o, rfl, rfl⟩ | ⟨rfl, rfl⟩ | ⟨answer, rfl, -, rfl⟩ | ⟨answer, rfl, -, rfl⟩
    · exact (s.obey_spec now o).2
    · exact s.terms_finish _
    · exact s.terms_takeBinding clock now answer
    · exact (s.takeClient_spec answer).2

/-- A server that serves goes on to do so with its records in order, unless no further
orders come or the time of its next attempt to bind is beyond the clock. -/
theorem Listens.step (h : s.Listens) (hserving : s.phase = .serving) {e : Event}
    (hr : s.step? clock now e = some r) :
    r.1.phase = .serving ∧ r.1.Listens ∨
      r.1.phase = .stopped ∧ e = .input .ordersClosed ∨
      r.1.phase = .crashed ∧ (∃ p, e = .input (.bound (.error p))) ∧
        clock.add? now s.retry = none := by
  rcases step?_cases hr with ⟨l, -, rfl⟩ | ⟨-, hcases⟩
  · exact .inl ⟨hserving, h.onLink l⟩
  · rcases hcases with ⟨o, rfl, rfl⟩ | ⟨rfl, rfl⟩ | ⟨answer, rfl, hdue, rfl⟩ |
      ⟨answer, rfl, -, rfl⟩
    · exact .inl ⟨(s.obey_spec now o).1.trans hserving, h.obey now o⟩
    · exact .inr (.inl ⟨s.phase_finish _, rfl⟩)
    · obtain ⟨hwanted, hlistening⟩ := h.due hdue
      rcases listens_takeBinding hserving hwanted hlistening answer with hgood | hcrash
      · exact .inl hgood
      · obtain ⟨hphase, ⟨p, rfl⟩, hadd⟩ := hcrash
        exact .inr (.inr ⟨hphase, ⟨p, rfl⟩, hadd⟩)
    · exact .inl ⟨(s.takeClient_spec answer).1.trans hserving, h.takeClient answer⟩

/-! ## Clients -/

theorem accepted_of_step? {answer : Except Network.Problem (Network.Socket × SocketAddress)}
    (h : s.step? clock now (.input (.accepted answer)) = some r) :
    s.wanted = true ∧ r = s.takeClient answer := by
  simp only [step?, take?, Bool.and_eq_true] at h
  split at h
  · split at h
    · next haccepts => exact ⟨haccepts.1, (Option.some.inj h).symm⟩
    · cases h
  · cases h

theorem rejection?_eq_none_iff {peer : SocketAddress} (hwanted : s.wanted = true) :
    s.rejection? peer = none ↔ s.Admits peer := by
  have hfilter : s.clientIp?.filter (· != peer.ip) = none ↔
      ∀ ip, s.clientIp? = some ip → peer.ip = ip := by
    rw [Option.filter_eq_none_iff]
    exact forall₂_congr fun ip _ => by simp [eq_comm (a := ip)]
  unfold rejection?
  cases hrequired : s.clientIp?.filter (· != peer.ip) with
  | some ip =>
      refine iff_of_false nofun fun hadmits => ?_
      cases hrequired.symm.trans (hfilter.2 hadmits.required)
  | none =>
      cases hs : s.link.session? with
      | none => simpa [Link.isConnected, hs] using ⟨hwanted, hs, hfilter.1 hrequired⟩
      | some t =>
          refine iff_of_false (by simp [Link.isConnected, hs]) fun hadmits => ?_
          cases hs.symm.trans hadmits.alone

/-- A client that may be served is; its session is the next one. -/
theorem takeClient_of_admits {socket : Network.Socket} {peer : SocketAddress}
    (h : s.Admits peer) :
    s.Opens (s.takeClient (.ok (socket, peer))) ∧
      (s.takeClient (.ok (socket, peer))).1.link.session? =
        some (.ofConnection (s.link.opened + 1) peer socket) := by
  have htake : s.takeClient (.ok (socket, peer)) =
      s.onLink (s.link.establish peer socket (some .remoteSetup)) := by
    simp only [takeClient, (rejection?_eq_none_iff h.wanted).2 h]
  rw [htake]
  have hsession : (s.link.establish peer socket (some .remoteSetup)).1.session? =
      some (.ofConnection (s.link.opened + 1) peer socket) := by
    simp [Link.establish, Link.dropSession, h.alone]
  refine ⟨.inl ⟨_, hsession, ?_⟩, hsession⟩
  intro u hu
  cases h.alone.symm.trans hu

/-- A client that may not be served leaves the server as it was, and its connection is
closed. -/
theorem takeClient_of_not_admits {peer : SocketAddress} (hwanted : s.wanted = true)
    (socket : Network.Socket) (h : ¬ s.Admits peer) :
    ∃ text, s.takeClient (.ok (socket, peer)) = (s, [.log .warning text, .close socket]) := by
  cases hrejection : s.rejection? peer with
  | none => exact absurd ((rejection?_eq_none_iff hwanted).1 hrejection) h
  | some text => exact ⟨text, by simp only [takeClient, hrejection]⟩

theorem link_finish (s : Server) (phase : Phase) :
    (s.finish phase).1.link.session? = none ∧ (s.finish phase).1.retryAt? = none ∧
      tidings (s.finish phase).2 = [] := by
  obtain ⟨hlink, -, -, hretryAt, htold⟩ :=
    unlisten_spec { s with phase, link := s.link.abandon, retryAt? := none }
  refine ⟨(congrArg Link.session? hlink).trans ?_, hretryAt, htold⟩
  unfold Link.abandon
  split
  · next hs => exact hs
  · rfl

/-- Nothing but the outcome of accepting opens a session. -/
theorem accepted_of_opens (hapart : (Station.server s).Apart) {e : Event}
    (hr : s.step? clock now e = some r) :
    (Station.server r.1).Apart ∧ (s.Opens r → ∃ answer, e = .input (.accepted answer)) := by
  cases e with
  | move id m =>
      have hmove : (Station.server s).move? id m = some (.server r.1, r.2) := by
        obtain ⟨l, hl, rfl⟩ := Option.map_eq_some_iff.1 hr
        exact Option.map_eq_some_iff.2 ⟨l, hl, rfl⟩
      obtain ⟨-, hkeeps, -, htold, t, t', _, -, ht, -, hsession⟩ :=
        Station.session_of_move? hmove
      refine ⟨hkeeps hapart, fun hopens => absurd (hopens.resolve_right (by simp [htold])) ?_⟩
      rcases hsession with ⟨hbefore, hafter⟩ | ⟨-, hsame⟩
      · exact Link.not_renewed_of_id hbefore hafter (Session.id_of_move? ht)
      · exact Link.not_renewed_of_same hsame
  | input i =>
      have hshared : ∀ j : Station.Input, j.server? = some i →
          (Station.server r.1).Apart ∧ (s.Opens r → j.connects = true) := by
        intro j hj
        have htake : j.server?.bind (s.take? clock now) = some r := by rw [hj]; exact hr
        obtain ⟨hafter, ⟨-, hchange⟩ | ⟨-, -, hnone, htold⟩⟩ := changes_of_take? hapart htake
        · exact ⟨hafter, hchange.connects_of_opens⟩
        · exact ⟨hafter, fun hopens => absurd (hopens.resolve_right (by simp [htold]))
            (Link.not_renewed_of_none hnone)⟩
      cases i with
      | report => exact (hshared .report rfl).imp_right fun h hopens => nomatch h hopens
      | order o => exact (hshared (.order o) rfl).imp_right fun h hopens => nomatch h hopens
      | bound answer =>
          exact (hshared (.bound answer) rfl).imp_right fun h hopens => nomatch h hopens
      | accepted answer =>
          exact (hshared (.accepted answer) rfl).imp_right fun _ _ => ⟨answer, rfl⟩
      | ordersClosed =>
          have hfinish : s.finish .stopped = r := by
            simp only [step?, take?] at hr
            split at hr
            · exact Option.some.inj hr
            · cases hr
          subst hfinish
          obtain ⟨hnone, hretryAt, htold⟩ := s.link_finish .stopped
          refine ⟨fun hretry => ?_, fun hopens => ?_⟩
          · simp [hretryAt] at hretry
          · exact absurd (hopens.resolve_right (by simp [htold]))
              (Link.not_renewed_of_none hnone)

/-! ## Runs -/

/-- What holds of a server over every run. -/
structure Sound (s : Server) : Prop where
  apart : (Station.server s).Apart
  listens : s.phase = .serving → s.Listens

theorem Reachable.sound (h : Reachable clock s) : s.Sound := by
  induction h with
  | ofPort => exact ⟨nofun, fun _ => ⟨nofun, nofun, nofun⟩⟩
  | ofListening l =>
      refine ⟨nofun, fun _ => ⟨nofun, nofun, ?_⟩⟩
      intro l' hl
      exact Option.some.inj hl ▸ rfl
  | @step s now e r _ hr ih =>
      refine ⟨(accepted_of_opens ih.apart hr).1, fun hafter => ?_⟩
      have hserving : s.phase = .serving := by
        rcases step?_cases hr with ⟨l, -, rfl⟩ | ⟨hserving, -⟩
        · exact hafter
        · exact hserving
      rcases (ih.listens hserving).step hserving hr with ⟨-, hl⟩ | ⟨hover, -⟩ | ⟨hover, -⟩
      · exact hl
      · cases hafter.symm.trans hover
      · cases hafter.symm.trans hover

/-- A server that serves has its records in order: it listens or is going to try if
listening is wanted, tries only if listening is wanted and it does not listen, and
listens at its current port.  Its terms are those that the orders have set.  A session
is opened for a client that may be served under these terms, and for nobody else; a client
that is turned away leaves everything as it was.  The run ends only when no further
orders come, or when the time of the next attempt to bind is beyond the clock. -/
theorem Reachable.listens_and_serves_one (h : Reachable clock s) :
    (s.phase = .serving → s.Listens) ∧
      ∀ now e r, s.step? clock now e = some r →
        r.1.terms = e.revise s.terms ∧
        (s.Opens r → ∃ socket peer,
          e = .input (.accepted (.ok (socket, peer))) ∧ s.Admits peer) ∧
        (∀ socket peer, e = .input (.accepted (.ok (socket, peer))) →
          (s.Admits peer → s.Opens r ∧
            r.1.link.session? = some (.ofConnection (s.link.opened + 1) peer socket)) ∧
          (¬ s.Admits peer → ∃ text, r = (s, [.log .warning text, .close socket]))) ∧
        (s.phase = .serving → r.1.phase = .serving ∨ e = .input .ordersClosed ∨
          (∃ p, e = .input (.bound (.error p))) ∧ clock.add? now s.retry = none) := by
  have hsound := h.sound
  refine ⟨hsound.listens, fun now e r hr => ⟨terms_of_step? hr, fun hopens => ?_, ?_, ?_⟩⟩
  · obtain ⟨answer, rfl⟩ := (accepted_of_opens hsound.apart hr).2 hopens
    obtain ⟨hwanted, rfl⟩ := accepted_of_step? hr
    cases answer with
    | error p =>
        obtain ⟨halike, htold⟩ := s.link.alike_complain s!"accept failed: {p.message}"
        exact absurd (hopens.resolve_right (by simp [takeClient, onLink, htold]))
          (Link.not_renewed_of_same halike.session)
    | ok q =>
        obtain ⟨socket, peer⟩ := q
        refine ⟨socket, peer, rfl, ?_⟩
        by_contra hrefused
        obtain ⟨text, htake⟩ := takeClient_of_not_admits hwanted socket hrefused
        rw [htake] at hopens
        exact absurd (hopens.resolve_right List.not_mem_nil) (Link.not_renewed_of_same rfl)
  · rintro socket peer rfl
    obtain ⟨hwanted, rfl⟩ := accepted_of_step? hr
    exact ⟨takeClient_of_admits, takeClient_of_not_admits hwanted socket⟩
  · intro hserving
    rcases (hsound.listens hserving).step hserving hr with ⟨hgoes, -⟩ | ⟨-, hclosed⟩ |
      ⟨-, hbeyond⟩
    · exact .inl hgoes
    · exact .inr (.inl hclosed)
    · exact .inr (.inr hbeyond)

/-- After a failed attempt to bind a server listens and serves a client.  A second client
is turned away, and the server is still in order. -/
theorem listens_and_serves_one_refused :
    let first : SocketAddress := ⟨.loopback, .number 40000⟩
    let second : SocketAddress := ⟨.loopback, .number 40001⟩
    let socket : Network.Socket := ⟨2, .acceptor⟩
    ∃ s : Server, Reachable .standard s ∧ s.listening? = some ⟨7, .number 8500⟩ ∧
      s.link.session? = some (.ofConnection 1 first ⟨1, .acceptor⟩) ∧ s.Listens ∧
      ∃ r text, s.step? .standard 3000 (.input (.accepted (.ok (socket, second)))) = some r ∧
        r = (s, [.log .warning text, .close socket]) := by
  intro first second socket
  have hordered := @Reachable.step .standard _ 0 (.input (.order .reconnect)) _
    (.ofPort (.number 8500) (some .loopback) 1000) rfl
  have hfailed := @Reachable.step .standard _ 0
    (.input (.bound (.error .addressInUse))) _ hordered rfl
  have hbound := @Reachable.step .standard _ 1000 (.input (.bound (.ok 7))) _ hfailed rfl
  have hserved := @Reachable.step .standard _ 2000
    (.input (.accepted (.ok (⟨1, .acceptor⟩, first)))) _ hbound rfl
  obtain ⟨hlistens, hstep⟩ := hserved.listens_and_serves_one
  refine ⟨_, hserved, rfl, rfl, hlistens rfl, ?_⟩
  obtain ⟨-, -, hclient, -⟩ := hstep 3000 (.input (.accepted (.ok (socket, second)))) _ rfl
  obtain ⟨text, hrefused⟩ := (hclient socket second rfl).2 fun hadmits => nomatch hadmits.alone
  exact ⟨_, text, rfl, hrefused⟩

end Server

end FlightLink.Transport
