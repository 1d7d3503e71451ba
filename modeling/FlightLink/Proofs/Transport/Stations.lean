import FlightLink.Proofs.Transport.Change

/-!
# What stations do to their links

Every step of a client or a server changes its link in one of few ways, and only
a server that crashes does anything else.  A step of a station is looked at
through these cases only.
-/

namespace FlightLink.Transport

/-! ## Steps of clients -/

namespace Client

/-- Whether a client looks for a connection. -/
def isSeeking (c : Client) : Bool :=
  match c.phase with
  | .serving | .stopped => false
  | .resolving | .dialing .. | .waiting .. => true

variable {c : Client} {i : Station.Input}

/-- A step of a client that changes its link. -/
structure Changes (c : Client) (i : Station.Input) (r : Result) : Prop where
  running : r.1.phase ≠ .stopped
  apart : (Station.client r.1).Apart
  change : c.link.Change r.1.link i (tidings r.2)

theorem changes_giveUp (hs : c.link.session? = none) (text : String) :
    c.Changes i (c.giveUp text) := by
  obtain ⟨halike, htidings⟩ := c.link.alike_complain text
  have htold : tidings (c.giveUp text).2 = [.connected false] := by
    simp only [giveUp, onLink, tidings_append, htidings]
    rfl
  refine ⟨by simp [giveUp, onLink], by simp [giveUp, onLink, Station.Apart], ?_⟩
  rw [htold]
  exact .miss hs halike

theorem changes_attempt (hi : i.parcel? = none) (hs : c.link.session? = none)
    (text : String) (targets : List SocketAddress) :
    c.Changes i (c.attempt text targets) := by
  cases targets with
  | nil => exact changes_giveUp hs text
  | cons target rest =>
      exact ⟨by simp [attempt], fun _ => hs, .stay hi (.refl c.link)⟩

theorem changes_obey (hserving : c.phase = .serving) (o : Order) :
    c.Changes (.order o) (c.obey o) := by
  have hstill : ∀ {l : Link} {outputs : List Output},
      c.link.Change l (.order o) (tidings outputs) →
      c.Changes (.order o) ({ c with link := l }, outputs) := by
    intro l outputs hchange
    exact ⟨by simp [hserving], fun hbusy => absurd hserving hbusy, hchange⟩
  cases o with
  | send p => exact hstill (Link.change_send p)
  | reconnect =>
      obtain ⟨hchange, hnone⟩ := Link.change_dropSession (l := c.link)
        (i := .order .reconnect) rfl
      exact ⟨nofun, fun _ => hnone, hchange⟩
  | disconnect => exact hstill (Link.change_close rfl)
  | halt => exact hstill (Link.change_close rfl)
  | reconfigure endpoint =>
      cases endpoint with
      | connect address port =>
          have hchange := (Link.change_dropSession (l := c.link)
            (i := .order (.reconfigure (.connect address port))) rfl).1
          exact ⟨by simp [obey, onLink, hserving], fun hbusy => absurd hserving hbusy,
            hchange⟩
      | listen port clientIp? =>
          obtain ⟨halike, htidings⟩ := c.link.alike_complain "a client cannot listen"
          refine hstill ?_
          rw [htidings]
          exact .stay rfl halike

/-- A client changes its link by each step. -/
theorem changes_of_take? {r : Result} (hapart : (Station.client c).Apart)
    {now : Nat} (h : i.client?.bind (c.take? now) = some r) : c.Changes i r := by
  cases i with
  | bound answer | accepted answer => cases h
  | report =>
      simp only [Station.Input.client?, Option.bind_some, take?] at h
      split at h
      · next hserving =>
          obtain ⟨r, hr, rfl⟩ := Option.map_eq_some_iff.mp h
          exact ⟨by simp [onLink, hserving], fun hbusy => absurd hserving hbusy,
            Link.change_takeReport? hr⟩
      · cases h
  | order o =>
      simp only [Station.Input.client?, Option.bind_some, take?] at h
      split at h
      · next hserving =>
          obtain rfl := Option.some.inj h
          exact changes_obey hserving o
      · cases h
  | resolved answer =>
      simp only [Station.Input.client?, Option.bind_some, take?] at h
      split at h
      · next hresolving =>
          obtain rfl := Option.some.inj h
          have hs := hapart (by simp [hresolving])
          cases answer with
          | error p => exact changes_giveUp hs _
          | ok ips => exact changes_attempt rfl hs _ _
      · cases h
  | dialled answer =>
      simp only [Station.Input.client?, Option.bind_some, take?] at h
      split at h
      · next target rest hdialing =>
          obtain rfl := Option.some.inj h
          have hs := hapart (by simp [hdialing])
          cases answer with
          | connected socket =>
              exact ⟨nofun, fun hbusy => absurd rfl hbusy,
                Link.change_establish rfl hs target socket (.inl rfl)⟩
          | failed p => exact changes_attempt rfl hs _ _
          | silence => exact ⟨nofun, fun _ => hs, .stay rfl (.refl c.link)⟩
      · cases h
  | timedOut =>
      simp only [Station.Input.client?, Option.bind_some, take?] at h
      split at h
      · next target rest deadline hwaiting =>
          have hs := hapart (by simp [hwaiting])
          split at h
          · obtain rfl := Option.some.inj h
            exact changes_attempt rfl hs _ _
          · cases h
      · cases h

end Client

/-! ## Steps of servers -/

namespace Server

variable {s : Server} {i : Station.Input}

/-- A step of a server that changes its link, or is its last. -/
structure Changes (s : Server) (i : Station.Input) (r : Result) : Prop where
  apart : (Station.server r.1).Apart
  change : r.1.phase = .serving ∧ s.link.Change r.1.link i (tidings r.2) ∨
    r.1.phase = .crashed ∧ s.link.session? = none ∧ r.1.link.session? = none ∧
      tidings r.2 = []

theorem unlisten_spec (s : Server) :
    s.unlisten.1.link = s.link ∧ s.unlisten.1.phase = s.phase ∧
      s.unlisten.1.listening? = none ∧ s.unlisten.1.retryAt? = s.retryAt? ∧
      tidings s.unlisten.2 = [] := by
  unfold unlisten
  split
  · next hlistening => exact ⟨rfl, rfl, hlistening, rfl, rfl⟩
  · exact ⟨rfl, rfl, rfl, rfl, rfl⟩

theorem move_spec (s : Server) (now : Nat) (port : Port) :
    (s.move now port).1.link = s.link ∧ (s.move now port).1.phase = s.phase ∧
      ((s.move now port).1.listening? = s.listening? ∧
          (s.move now port).1.retryAt? = s.retryAt? ∨
        (s.move now port).1.listening? = none) ∧
      tidings (s.move now port).2 = [] := by
  unfold move
  split
  · exact ⟨rfl, rfl, .inl ⟨rfl, rfl⟩, rfl⟩
  · obtain ⟨hlink, hphase, hlistening, -, htidings⟩ :=
      unlisten_spec { s with port, retryAt? := if s.wanted then some now else none }
    exact ⟨hlink, hphase, .inr hlistening, htidings⟩

/-- A step that changes nothing but the link. -/
theorem changes_onLink (hapart : (Station.server s).Apart) (hserving : s.phase = .serving)
    (hi : i.connects = false) {r : Link.Result}
    (hchange : s.link.Change r.1 i (tidings r.2)) : s.Changes i (s.onLink r) := by
  refine ⟨fun hretry => ?_, .inl ⟨hserving, hchange⟩⟩
  obtain ⟨hlistening, hnone⟩ := hapart hretry
  exact ⟨hlistening, hchange.session_eq_none hi hnone⟩

theorem changes_obey (hapart : (Station.server s).Apart) (hserving : s.phase = .serving)
    (now : Nat) (o : Order) : s.Changes (.order o) (s.obey now o) := by
  cases o with
  | send p => exact changes_onLink hapart hserving rfl (Link.change_send p)
  | disconnect => exact changes_onLink hapart hserving rfl (Link.change_close rfl)
  | reconnect =>
      obtain ⟨hchange, hnone⟩ := Link.change_dropSession (l := s.link)
        (i := .order .reconnect) rfl
      refine ⟨fun hretry => ⟨?_, hnone⟩, .inl ⟨hserving, hchange⟩⟩
      cases hlistening : s.listening? with
      | none => exact hlistening
      | some l => simp [obey, onLink, want, hlistening] at hretry
  | halt =>
      let closed : Server :=
        { s with link := s.link.close, wanted := false, retryAt? := none }
      obtain ⟨hlink, hphase, -, hretryAt, htidings⟩ := closed.unlisten_spec
      have htold : tidings (s.obey now .halt).2 = [] := by
        simp only [obey, halt, tidings_append]
        rw [htidings]
        split <;> rfl
      constructor
      · intro hretry
        have hsome : closed.unlisten.1.retryAt?.isSome = true := hretry
        rw [hretryAt] at hsome
        cases hsome
      · refine .inl ⟨hphase.trans hserving, ?_⟩
        have hchange := Link.change_close (l := s.link) (i := .order .halt) rfl
        rw [htold]
        exact hlink ▸ hchange
  | reconfigure endpoint =>
      cases endpoint with
      | listen port clientIp? =>
          let dropped : Server :=
            { s with link := s.link.dropSession.1, clientIp? }
          obtain ⟨hlink, hphase, hlistening, htidings⟩ := dropped.move_spec now port
          obtain ⟨hchange, hnone⟩ := Link.change_dropSession (l := s.link)
            (i := .order (.reconfigure (.listen port clientIp?))) rfl
          have htold : tidings (s.obey now (.reconfigure (.listen port clientIp?))).2 =
              tidings s.link.dropSession.2 := by
            simp only [obey, onLink, tidings_append]
            rw [htidings, List.append_nil]
          constructor
          · intro hretry
            refine ⟨?_, (congrArg Link.session? hlink).trans hnone⟩
            rcases hlistening with ⟨hlistening, hretryAt⟩ | hlistening
            · have hbefore : (dropped.move now port).1.retryAt?.isSome = true := hretry
              rw [hretryAt] at hbefore
              exact hlistening.trans (hapart hbefore).1
            · exact hlistening
          · refine .inl ⟨hphase.trans hserving, ?_⟩
            rw [htold]
            exact hlink ▸ hchange
      | connect address port =>
          obtain ⟨halike, htidings⟩ := s.link.alike_complain "a server cannot connect"
          refine changes_onLink hapart hserving rfl ?_
          rw [htidings]
          exact .stay rfl halike

theorem changes_takeClient (hserving : s.phase = .serving) (hretryAt : s.retryAt? = none)
    (answer : Except Network.Problem (Network.Socket × SocketAddress)) :
    s.Changes (.accepted answer) (s.takeClient answer) := by
  have hapart : ∀ l, (Station.server { s with link := l }).Apart := by
    intro l hretry
    rw [hretryAt] at hretry
    cases hretry
  cases answer with
  | error p =>
      obtain ⟨halike, htidings⟩ := s.link.alike_complain s!"accept failed: {p.message}"
      refine ⟨hapart _, .inl ⟨hserving, ?_⟩⟩
      simp only [takeClient, onLink, htidings]
      exact .stay rfl halike
  | ok q =>
      obtain ⟨socket, peer⟩ := q
      simp only [takeClient]
      cases hrejection : s.rejection? peer with
      | some text => exact ⟨hapart s.link, .inl ⟨hserving, .stay rfl (.refl s.link)⟩⟩
      | none =>
          have hs : s.link.session? = none := by
            unfold rejection? at hrejection
            split at hrejection
            · cases hrejection
            · split at hrejection
              · cases hrejection
              · next hconnected => simpa [Link.isConnected] using hconnected
          exact ⟨hapart _, .inl ⟨hserving,
            Link.change_establish rfl hs peer socket (.inr rfl)⟩⟩

theorem changes_takeBinding (hserving : s.phase = .serving)
    (hlistening : s.listening? = none) (hs : s.link.session? = none) (clock : Clock) (now : Nat)
    (answer : Except Network.Problem Nat) :
    s.Changes (.bound answer) (s.takeBinding clock now answer) := by
  cases answer with
  | ok listener => exact ⟨nofun, .inl ⟨hserving, .stay rfl (.refl s.link)⟩⟩
  | error p =>
      obtain ⟨halike, htidings⟩ := s.link.alike_complain
        s!"cannot listen on port {s.port.text}: {p.message}"
      simp only [takeBinding, onLink]
      cases clock.add? now s.retry with
      | some t =>
          refine ⟨fun _ => ⟨hlistening, halike.session.trans hs⟩, .inl ⟨hserving, ?_⟩⟩
          rw [htidings]
          exact .stay rfl halike
      | none =>
          let failed : Server := { s with link :=
            (s.link.complain s!"cannot listen on port {s.port.text}: {p.message}").1 }
          let last : Server :=
            { failed with phase := .crashed, link := failed.link.abandon, retryAt? := none }
          obtain ⟨hlink, hphase, -, hretryAt, hunlisten⟩ := last.unlisten_spec
          have hnone : failed.link.abandon.session? = none := by
            unfold Link.abandon
            split
            · next h => exact h
            · rfl
          constructor
          · intro hretry
            have hsome : last.unlisten.1.retryAt?.isSome = true := hretry
            rw [hretryAt] at hsome
            cases hsome
          · refine .inr ⟨hphase, hs, ?_, ?_⟩
            · exact (congrArg Link.session? hlink).trans hnone
            · simp only [tidings_append, htidings]
              exact hunlisten

/-- A server changes its link by each step but its last. -/
theorem changes_of_take? {r : Result} (hapart : (Station.server s).Apart) {clock : Clock}
    {now : Nat} (h : i.server?.bind (s.take? clock now) = some r) : s.Changes i r := by
  cases i with
  | resolved answer | dialled answer | timedOut => cases h
  | report =>
      simp only [Station.Input.server?, Option.bind_some, take?] at h
      split at h
      · next hserving =>
          obtain ⟨r, hr, rfl⟩ := Option.map_eq_some_iff.mp h
          exact changes_onLink hapart hserving rfl (Link.change_takeReport? hr)
      · cases h
  | order o =>
      simp only [Station.Input.server?, Option.bind_some, take?] at h
      split at h
      · next hserving =>
          obtain rfl := Option.some.inj h
          exact changes_obey hapart hserving now o
      · cases h
  | bound answer =>
      simp only [Station.Input.server?, Option.bind_some, take?] at h
      split at h
      · next hserving =>
          split at h
          · next hdue =>
              obtain rfl := Option.some.inj h
              have hretry : s.retryAt?.isSome = true := by
                unfold isDue at hdue
                split at hdue
                · cases hdue
                · next t ht => rw [ht]; rfl
              obtain ⟨hlistening, hnone⟩ := hapart hretry
              exact changes_takeBinding hserving hlistening hnone clock now answer
          · cases h
      · cases h
  | accepted answer =>
      simp only [Station.Input.server?, Option.bind_some, take?] at h
      split at h
      · next hserving =>
          split at h
          · next haccepts =>
              obtain rfl := Option.some.inj h
              refine changes_takeClient hserving ?_ answer
              by_contra hretry
              have hlistening := (hapart (Option.isSome_iff_ne_none.mpr hretry)).1
              simp [hlistening] at haccepts
          · cases h
      · cases h

end Server

/-! ## Steps of stations -/

namespace Station

variable {s s' : Station} {outputs : List Output} {clock : Clock}

/-- Every step of a station changes its link in one of the ways listed, except
that a server may crash. -/
theorem change_of_take? (hapart : s.Apart) {now : Nat} {i : Input}
    (h : s.take? clock now i = some (s', outputs)) :
    s'.Apart ∧ (s'.isRunning = true ∧ s.link.Change s'.link i (tidings outputs) ∨
      s'.isRunning = false ∧ s.link.session? = none ∧ s'.link.session? = none ∧
        tidings outputs = []) := by
  cases s with
  | client c =>
      obtain ⟨r, hr, heq⟩ := Option.map_eq_some_iff.mp h
      cases heq
      obtain ⟨hrunning, hapart', hchange⟩ := Client.changes_of_take? hapart hr
      exact ⟨hapart', .inl ⟨by simpa [isRunning] using hrunning, hchange⟩⟩
  | server t =>
      obtain ⟨r, hr, heq⟩ := Option.map_eq_some_iff.mp h
      cases heq
      obtain ⟨hapart', hchange⟩ := Server.changes_of_take? hapart hr
      refine ⟨hapart', ?_⟩
      rcases hchange with ⟨hserving, hchange⟩ | ⟨hcrashed, hlast⟩
      · exact .inl ⟨by simp [isRunning, hserving], hchange⟩
      · exact .inr ⟨by simp [isRunning, hcrashed], hlast⟩

/-- A station that takes something is running. -/
theorem isRunning_of_take? {now : Nat} {i : Input}
    (h : s.take? clock now i = some (s', outputs)) : s.isRunning = true := by
  cases s with
  | client c =>
      obtain ⟨r, hr, -⟩ := Option.map_eq_some_iff.mp h
      obtain ⟨j, -, hr⟩ := Option.bind_eq_some_iff.mp hr
      by_contra hstopped
      have hphase : c.phase = .stopped := by simpa [isRunning] using hstopped
      cases j <;> simp [Client.take?, hphase] at hr
  | server t =>
      obtain ⟨r, hr, -⟩ := Option.map_eq_some_iff.mp h
      obtain ⟨j, -, hr⟩ := Option.bind_eq_some_iff.mp hr
      by_contra hover
      have hphase : t.phase ≠ .serving := by simpa [isRunning] using hover
      simp [Server.take?, hphase] at hr

/-- A move of the session that the link has, or of one that has been dropped. -/
theorem session_of_move? {id : Nat} {m : Session.Move}
    (h : s.move? id m = some (s', outputs)) :
    s'.isRunning = s.isRunning ∧ (s.Apart → s'.Apart) ∧
      s'.link.opened = s.link.opened ∧ tidings outputs = [] ∧ ∃ t t' reports,
        t.id = id ∧ t.move? m = some (t', reports) ∧
        s'.link.reports.toList = s.link.reports.toList ++ reports.map (id, ·) ∧
        (s.link.session? = some t ∧ s'.link.session? = some t' ∨
          (∀ u, s.link.session? = some u → u.id ≠ id) ∧
            s'.link.session? = s.link.session?) := by
  obtain ⟨⟨l, told⟩, hmove, heq⟩ := Option.map_eq_some_iff.mp h
  have hstation : s'.isRunning = s.isRunning ∧ s'.link = l ∧ outputs = told ∧
      ((s.link.session? = none → l.session? = none) → s.Apart → s'.Apart) := by
    cases s <;> cases heq
    · exact ⟨rfl, rfl, rfl, fun hnone hapart hbusy => hnone (hapart hbusy)⟩
    · refine ⟨rfl, rfl, rfl, fun hnone hapart hretry => ?_⟩
      obtain ⟨hlistening, hbefore⟩ := hapart hretry
      exact ⟨hlistening, hnone hbefore⟩
  obtain ⟨hrunning, rfl, rfl, hapart⟩ := hstation
  obtain ⟨hopened, htidings, t, t', reports, hid, ht, hreports, hsession⟩ :=
    Link.session_of_move? hmove
  refine ⟨hrunning, hapart ?_, hopened, htidings, t, t', reports, hid, ht, hreports,
    hsession⟩
  intro hnone
  rcases hsession with ⟨hsome, -⟩ | ⟨-, hsame⟩
  · rw [hnone] at hsome
    cases hsome
  · rw [hsame, hnone]

/-- An order meant for a session touches no session but the current one. -/
theorem continues_of_isBound {o : Order} (ho : o.isBound = true) {now : Nat}
    (h : s.take? clock now (.order o) = some (s', outputs)) {t : Session}
    (ht : t ∈ s'.link.sessions) : s.link.Continues t := by
  cases s with
  | client c =>
      obtain ⟨r, hr, heq⟩ := Option.map_eq_some_iff.mp h
      cases heq
      simp only [Input.client?, Option.bind_some, Client.take?] at hr
      split at hr
      · obtain rfl := Option.some.inj hr
        cases o with
        | send p => exact Link.continues_of_mem_send ht
        | disconnect => exact Link.continues_of_mem_close ht
        | _ => cases ho
      · cases hr
  | server t =>
      obtain ⟨r, hr, heq⟩ := Option.map_eq_some_iff.mp h
      cases heq
      simp only [Input.server?, Option.bind_some, Server.take?] at hr
      split at hr
      · obtain rfl := Option.some.inj hr
        cases o with
        | send p => exact Link.continues_of_mem_send ht
        | disconnect => exact Link.continues_of_mem_close ht
        | _ => cases ho
      · cases hr

end Station

end FlightLink.Transport
