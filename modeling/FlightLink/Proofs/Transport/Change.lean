import FlightLink.Transport.Station
import Mathlib.Data.List.Basic

/-!
# What becomes of a link

A station of either kind takes one input at a time.  What this does to its
session, to the reports that wait and to what the controller is told falls into
few cases, whatever else the station keeps book of.  They are listed here,
together with what the sessions of a link do by themselves.
-/

namespace FlightLink.Transport

/-- What a station takes in, whatever its kind, as long as orders may come. -/
inductive Station.Input where
  /-- The next report of a session. -/
  | report
  | order (o : Order)
  | resolved (answer : Except Network.Problem (List IpAddress))
  | dialled (answer : Network.Dialled)
  | timedOut
  | bound (answer : Except Network.Problem Nat)
  | accepted (answer : Except Network.Problem (Network.Socket × SocketAddress))

/-- Whether an order is meant for a session. -/
def Order.isBound : Order → Bool
  | send _ | disconnect => true
  | reconnect | halt | reconfigure _ => false

namespace Station

/-- The input of a client. -/
def Input.client? : Input → Option Client.Input
  | report => some .report
  | order o => some (.order o)
  | resolved answer => some (.resolved answer)
  | dialled answer => some (.dialled answer)
  | timedOut => some .timedOut
  | bound _ | accepted _ => none

/-- The input of a server. -/
def Input.server? : Input → Option Server.Input
  | report => some .report
  | order o => some (.order o)
  | bound answer => some (.bound answer)
  | accepted answer => some (.accepted answer)
  | resolved _ | dialled _ | timedOut => none

/-- The packet that is to be sent. -/
def Input.parcel? : Input → Option Parcel
  | order (.send p) => some p
  | _ => none

/-- Whether an input may bring a connection. -/
def Input.connects : Input → Bool
  | dialled _ | accepted _ => true
  | _ => false

theorem Input.parcel?_eq_none {i : Input} (h : i.connects = true) : i.parcel? = none := by
  cases i with
  | dialled _ | accepted _ => rfl
  | _ => cases h

/-- A step of the station, if the input is one that it waits for. -/
def take? (s : Station) (clock : Clock) (now : Nat) (i : Input) : Option Result :=
  match s with
  | client c => (i.client?.bind (c.take? now)).map fun r => (client r.1, r.2)
  | server s => (i.server?.bind (s.take? clock now)).map fun r => (server r.1, r.2)

/-- A client that looks for a connection has no session, and neither has a server
that is about to listen. -/
def Apart : Station → Prop
  | client c => c.phase ≠ .serving → c.link.session? = none
  | server s => s.retryAt?.isSome → s.listening? = none ∧ s.link.session? = none

end Station

/-- The signal of an output. -/
def Output.signal? : Output → Option Signal
  | signal s => some s
  | _ => none

/-- The signals given. -/
def signals (outputs : List Output) : List Signal :=
  outputs.filterMap Output.signal?

/-- Whether a signal is more than a text to be logged. -/
def Signal.isTiding : Signal → Bool
  | log _ _ => false
  | _ => true

/-- The signals given that are not only to be logged. -/
def tidings (outputs : List Output) : List Signal :=
  (signals outputs).filter Signal.isTiding

@[simp] theorem tidings_append (outputs more : List Output) :
    tidings (outputs ++ more) = tidings outputs ++ tidings more := by
  simp [tidings, signals]

/-- What a report of the current session is passed on as. -/
def Report.signal? : Report → Option Signal
  | received bytes => some (.received bytes)
  | sent e => some (.sent e)
  | unsent after? => some (.unsent after?)
  | ended _ => none

namespace Link

/-- Two links differ in nothing but the sessions that fade and the last error. -/
structure Alike (l l' : Link) : Prop where
  session : l'.session? = l.session?
  reports : l'.reports = l.reports
  opened : l'.opened = l.opened

/-- What an input does to a link, and what is told of it. -/
inductive Change (l l' : Link) (i : Station.Input) : List Signal → Prop where
  | stay (hi : i.parcel? = none) (h : l.Alike l') : Change l l' i []
  /-- The session is dropped. -/
  | drop {s : Session} (hs : l.session? = some s)
      (h : Alike { l with session? := none } l') : Change l l' i [.connected false]
  /-- No connection has been found. -/
  | miss (hs : l.session? = none) (h : l.Alike l') :
      Change l l' i [.connected false]
  | establish {peer : SocketAddress} {socket : Network.Socket}
      {raised : List Signal} (hi : i.connects = true) (hs : l.session? = none)
      (h : Alike { l with
          session? := some (.ofConnection (l.opened + 1) peer socket)
          opened := l.opened + 1 } l')
      (hraised : raised = [] ∨ raised = [.raised .remoteSetup]) :
      Change l l' i (.connected true :: raised)
  /-- The session is handed a packet. -/
  | accept {s : Session} {p : Parcel} (hi : i = .order (.send p))
      (hs : l.session? = some s) (hwriting : s.isWriting)
      (h : Alike { l with session? := some (s.request (.packet p)) } l') :
      Change l l' i []
  /-- There is no session to hand a packet to. -/
  | refuse {p : Parcel} (hi : i = .order (.send p))
      (hs : ∀ s, l.session? = some s → s.isWriting = false) (h : l.Alike l') :
      Change l l' i [.unsent p.after?]
  | close {s : Session} (hi : i.parcel? = none) (hs : l.session? = some s)
      (h : Alike { l with
        session? := some (if s.isWriting then s.request .close else s.cancel) } l') :
      Change l l' i []
  /-- A report of a session that has been dropped. -/
  | stale {id : Nat} {r : Report} {rest : Fifo (Nat × Report)}
      (hi : i = .report) (hr : l.reports.pop? = some ((id, r), rest))
      (hs : ∀ s, l.session? = some s → s.id ≠ id)
      (h : Alike { l with reports := rest } l') : Change l l' i []
  | pass {s : Session} {r : Report} {rest : Fifo (Nat × Report)} {told : Signal}
      (hi : i = .report) (hr : l.reports.pop? = some ((s.id, r), rest))
      (hs : l.session? = some s) (htold : r.signal? = some told)
      (h : Alike { l with reports := rest } l') : Change l l' i [told]
  /-- A half of the session has come to its end. -/
  | ended {s : Session} {reason? : Option String} {rest : Fifo (Nat × Report)}
      (hi : i = .report)
      (hr : l.reports.pop? = some ((s.id, .ended reason?), rest))
      (hs : l.session? = some s)
      (h : Alike { l with session? := none, reports := rest } l') :
      Change l l' i [.connected false]

variable {l : Link} {i : Station.Input}

theorem Alike.refl (l : Link) : l.Alike l := ⟨rfl, rfl, rfl⟩

/-- A session does not come out of nothing. -/
theorem Change.session_eq_none {l' : Link} {told : List Signal} (h : l.Change l' i told)
    (hi : i.connects = false) (hs : l.session? = none) : l'.session? = none := by
  cases h with
  | stay _ h | miss _ h | refuse _ _ h | stale _ _ _ h => exact h.session.trans hs
  | drop _ h | ended _ _ _ h => exact h.session
  | establish hconnects => rw [hi] at hconnects; cases hconnects
  | accept _ hsome | close _ hsome | pass _ _ hsome =>
      rw [hs] at hsome
      cases hsome

/-! ## Operations of links -/

theorem alike_complain (l : Link) (text : String) :
    l.Alike (l.complain text).1 ∧ tidings (l.complain text).2 = [] := by
  unfold complain
  split
  · exact ⟨.refl l, rfl⟩
  · exact ⟨⟨rfl, rfl, rfl⟩, rfl⟩

theorem change_dropSession (hi : i.parcel? = none) :
    l.Change l.dropSession.1 i (tidings l.dropSession.2) ∧
      l.dropSession.1.session? = none := by
  unfold dropSession
  split
  · next hs => exact ⟨.stay hi (.refl l), hs⟩
  · next s hs => exact ⟨.drop hs ⟨rfl, rfl, rfl⟩, rfl⟩

theorem change_send (p : Parcel) :
    l.Change (l.send p).1 (.order (.send p)) (tidings (l.send p).2) := by
  unfold send
  split
  · next hs => exact .refuse rfl (by simp [hs]) (.refl l)
  · next s hs =>
      split
      · next hwriting => exact .accept rfl hs hwriting ⟨rfl, rfl, rfl⟩
      · next hdone => exact .refuse rfl (by simpa [hs] using hdone) (.refl l)

theorem change_close (hi : i.parcel? = none) : l.Change l.close i [] := by
  unfold close
  split
  · exact .stay hi (.refl l)
  · next s hs => exact .close hi hs ⟨rfl, rfl, rfl⟩

theorem change_establish (hi : i.connects = true) (hs : l.session? = none)
    (peer : SocketAddress) (socket : Network.Socket) {raised? : Option Event}
    (hraised : raised? = none ∨ raised? = some .remoteSetup) :
    l.Change (l.establish peer socket raised?).1 i
      (tidings (l.establish peer socket raised?).2) := by
  have htidings : tidings (l.establish peer socket raised?).2 =
      .connected true :: raised?.toList.map .raised := by
    rcases hraised with rfl | rfl <;> simp [establish, dropSession, hs] <;> rfl
  have halike : Alike { l with
      session? := some (.ofConnection (l.opened + 1) peer socket)
      opened := l.opened + 1 } (l.establish peer socket raised?).1 := by
    constructor <;> simp [establish, dropSession, hs]
  rw [htidings]
  refine .establish hi hs halike ?_
  rcases hraised with rfl | rfl
  · exact .inl rfl
  · exact .inr rfl

theorem change_takeReport? {r : Result} (h : l.takeReport? = some r) :
    l.Change r.1 .report (tidings r.2) := by
  unfold takeReport? at h
  cases hpop : l.reports.pop? with
  | none => simp [hpop] at h
  | some p =>
      obtain ⟨⟨id, report⟩, rest⟩ := p
      simp only [hpop, Option.some.injEq] at h
      subst h
      unfold pass
      cases hs : l.session? with
      | none => simpa using .stale rfl hpop (by simp [hs]) ⟨hs.symm, rfl, rfl⟩
      | some s =>
          by_cases hid : s.id = id
          · subst hid
            simp only [Option.any_some, beq_self_eq_true, if_true]
            cases report with
            | received bytes => exact .pass rfl hpop hs rfl ⟨hs.symm, rfl, rfl⟩
            | sent e => exact .pass rfl hpop hs rfl ⟨hs.symm, rfl, rfl⟩
            | unsent after? => exact .pass rfl hpop hs rfl ⟨hs.symm, rfl, rfl⟩
            | ended reason? =>
                have htidings : ∀ outputs : List Output,
                    tidings (reason?.toList.map (.log .warning) ++ outputs) =
                      tidings outputs := by
                  intro outputs
                  cases reason? <;> rfl
                simp only [htidings, dropSession]
                exact .ended rfl hpop hs ⟨rfl, rfl, rfl⟩
          · simp only [Option.any_some, beq_eq_false_iff_ne.mpr hid,
              Bool.false_eq_true, if_false]
            refine .stale rfl hpop ?_ ⟨hs.symm, rfl, rfl⟩
            intro t ht
            rw [hs, Option.some.injEq] at ht
            exact ht ▸ hid

/-- A session of a link, or one that has taken the place of the current one. -/
def Continues (l : Link) (t : Session) : Prop :=
  t ∈ l.sessions ∨ ∃ s, l.session? = some s ∧ t.id = s.id

theorem continues_of_mem_send {p : Parcel} {t : Session}
    (ht : t ∈ (l.send p).1.sessions) : l.Continues t := by
  unfold send at ht
  split at ht
  · exact .inl ht
  · next s hs =>
      split at ht
      · rcases List.mem_cons.mp ht with rfl | hfading
        · exact .inr ⟨s, hs, rfl⟩
        · exact .inl (List.mem_append_right _ hfading)
      · exact .inl ht

theorem continues_of_mem_close {t : Session} (ht : t ∈ l.close.sessions) :
    l.Continues t := by
  unfold close at ht
  split at ht
  · exact .inl ht
  · next s hs =>
      rcases List.mem_cons.mp ht with rfl | hfading
      · refine .inr ⟨s, hs, ?_⟩
        split <;> rfl
      · exact .inl (List.mem_append_right _ hfading)

end Link

/-! ## Moves of sessions -/

theorem Session.id_of_move? {s s' : Session} {m : Session.Move}
    {reports : List Report} (h : s.move? m = some (s', reports)) : s'.id = s.id := by
  have hreading : ∀ {reason?}, s.endReading? reason? = some (s', reports) →
      s'.id = s.id := by
    intro reason? h
    unfold Session.endReading? at h
    split at h
    · cases h; rfl
    · cases h
  have hbreak : ∀ {reason?}, s.breakOff? reason? = some (s', reports) →
      s'.id = s.id := by
    intro reason? h
    unfold Session.breakOff? at h
    split at h
    · cases h; rfl
    · cases h
  cases m with
  | receive bytes =>
      simp only [Session.move?] at h
      split at h
      · cases h; rfl
      · cases h
  | reachEnd | failReading text => exact hreading h
  | stopReading =>
      simp only [Session.move?] at h
      split at h
      · exact hreading h
      · cases h
  | takeRequest =>
      simp only [Session.move?, Session.takeRequest?] at h
      split at h
      · split at h <;> cases h <;> rfl
      · cases h
  | write count =>
      simp only [Session.move?, Session.write?] at h
      split at h
      · split at h
        · cases h
        · split at h <;> cases h <;> rfl
      · cases h
  | failWriting text => exact hbreak h
  | stopWriting =>
      simp only [Session.move?] at h
      split at h
      · split at h
        · cases h; rfl
        · exact hbreak h
        · cases h
      · cases h

theorem Link.session_of_move? {l : Link} {id : Nat} {m : Session.Move}
    {r : Link.Result} (h : l.move? id m = some r) :
    r.1.opened = l.opened ∧ tidings r.2 = [] ∧ ∃ t t' reports,
      t.id = id ∧ t.move? m = some (t', reports) ∧
      r.1.reports.toList = l.reports.toList ++ reports.map (id, ·) ∧
      (l.session? = some t ∧ r.1.session? = some t' ∨
        (∀ u, l.session? = some u → u.id ≠ id) ∧ r.1.session? = l.session?) := by
  unfold Link.move? at h
  cases hfind : l.find? id with
  | none => simp [hfind] at h
  | some t =>
      have hid : t.id = id := by
        simpa using List.find?_some hfind
      simp only [hfind] at h
      cases ht : t.move? m with
      | none => simp [ht] at h
      | some p =>
          obtain ⟨t', reports⟩ := p
          simp only [ht, Option.some.injEq] at h
          subst h
          have hid' : t'.id = id := (Session.id_of_move? ht).trans hid
          have htidings : tidings (Link.socketOutputs t t' m) = [] := by
            unfold Link.socketOutputs
            split <;> split <;> rfl
          have hsame : (l.replace t').opened = l.opened ∧
              (l.replace t').reports = l.reports := by
            unfold Link.replace
            split <;> exact ⟨rfl, rfl⟩
          refine ⟨hsame.1, htidings, t, t', reports, hid, ht, ?_, ?_⟩
          · simp [hsame.2]
          · cases hs : l.session? with
            | none => exact .inr ⟨fun _ h => (nomatch h), by simp [Link.replace, hs]⟩
            | some u =>
                by_cases hu : u.id = id
                · have htu : u = t := by
                    simpa [Link.find?, Link.sessions, hs, hu] using hfind
                  subst htu
                  exact .inl ⟨rfl, by simp [Link.replace, hs, hid, hid']⟩
                · refine .inr ⟨?_, by simp [Link.replace, hs, hu, hid']⟩
                  intro v hv
                  exact Option.some.inj hv ▸ hu

end FlightLink.Transport
