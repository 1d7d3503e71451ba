import FlightLink.Proofs.Transport.Change

/-!
# Packets that a link still has to account for

A packet handed to a session waits in its queue, is being written, or has been
reported on.  So far the link has to account for it.  It will do so with a signal
of its own, unless the session comes to its end first: what waits behind a
request to close, or in a session that is cancelled, is never reported on.  Then
the end of the session is reported, and the controller is told of it.
-/

namespace FlightLink.Transport

/-- Whether a packet has an event that is due once it is written. -/
def Parcel.isTracked (p : Parcel) : Bool := p.after?.isSome

/-- Whether a request is a packet whose event is due. -/
def Request.isTracked : Request → Bool
  | packet p => p.isTracked
  | close => false

/-- Whether an order is a packet whose event is due. -/
def Order.isTracked : Order → Bool
  | send p => p.isTracked
  | _ => false

/-- Whether a report settles a packet whose event is due. -/
def Report.settles : Report → Bool
  | sent _ => true
  | unsent after? => after?.isSome
  | received _ | ended _ => false

/-- Whether a signal settles a packet whose event is due. -/
def Signal.settles : Signal → Bool
  | sent _ => true
  | unsent after? => after?.isSome
  | _ => false

/-- How many packets the writing half is at. -/
def Writer.due : Writer → Nat
  | writing p _ => p.isTracked.toNat
  | waiting | done => 0

namespace Session

/-- Whether the session has no packet to write. -/
def isIdle (s : Session) : Bool :=
  s.requests.toList.all (· = .close) &&
    match s.writer with
    | .writing _ _ => false
    | .waiting | .done => true

/-- How many packets the session has not reported on. -/
def due (s : Session) : Nat :=
  s.requests.toList.countP Request.isTracked + s.writer.due

/-- No packet whose event is due waits behind a request to close. -/
def AnswersAll (s : Session) : Prop :=
  s.requests.toList.Pairwise fun r r' => r = .close → r'.isTracked = false

/-- The session comes to its end without reporting on all packets. -/
def IsEnding (s : Session) : Prop :=
  s.cancelled = true ∨ ¬s.AnswersAll

/-- The writing half only stops when the session is cancelled. -/
def Sound (s : Session) : Prop :=
  s.writer = .done → s.cancelled = true

/-- What a move makes of the packets of a session. -/
structure Accounts (s s' : Session) (reports : List Report) : Prop where
  ending : s.IsEnding → s'.IsEnding
  due : s'.IsEnding ∨ s.due ≤ s'.due + reports.countP Report.settles
  ended : s'.cancelled = true → s.cancelled = true ∨ ∃ reason?, .ended reason? ∈ reports
  sound : s.Sound → s'.Sound

variable {s s' : Session} {reports : List Report}

/-- A half that comes to its end cancels the session and reports so. -/
theorem accounts_of_cancelled (hcancelled : s'.cancelled = true)
    {reason? : Option String} (hended : .ended reason? ∈ reports) :
    s.Accounts s' reports where
  ending _ := .inl hcancelled
  due := .inl (.inl hcancelled)
  ended _ := .inr ⟨reason?, hended⟩
  sound _ _ := hcancelled

theorem accounts_endReading {reason? : Option String}
    (h : s.endReading? reason? = some (s', reports)) : s.Accounts s' reports := by
  unfold endReading? at h
  split at h
  · cases h
    exact accounts_of_cancelled rfl List.mem_cons_self
  · cases h

theorem accounts_endWriting {t : Session} {told : List Report}
    {reason? : Option String} (h : t.endWriting told reason? = (s', reports)) :
    s.Accounts s' reports := by
  cases h
  have hended : .ended reason? ∈ told ++ [.ended reason?] := by simp
  exact accounts_of_cancelled rfl hended

theorem accounts_breakOff {reason? : Option String}
    (h : s.breakOff? reason? = some (s', reports)) : s.Accounts s' reports := by
  unfold breakOff? at h
  split at h
  · exact accounts_endWriting (Option.some.inj h)
  · cases h

theorem accounts_takeRequest (h : s.takeRequest? = some (s', reports)) :
    s.Accounts s' reports := by
  unfold takeRequest? at h
  split at h
  · next hwaiting =>
      split at h
      · cases h
      · next p rest hpop =>
          have hlist := Fifo.toList_of_pop? hpop
          cases h
          refine ⟨?_, .inr ?_, .inl, nofun⟩
          · refine Or.imp (·) fun hlost hanswers => hlost ?_
            rw [AnswersAll, hlist, List.pairwise_cons]
            exact ⟨nofun, hanswers⟩
          · have hcount : s.due =
                rest.toList.countP Request.isTracked + p.isTracked.toNat := by
              rw [due, hlist, hwaiting, List.countP_cons]
              cases hp : p.isTracked <;> simp [Request.isTracked, Writer.due, hp]
            exact Nat.le_of_eq hcount
      · exact accounts_endWriting (Option.some.inj h)
  · cases h

theorem accounts_write {count : Nat} (h : s.write? count = some (s', reports)) :
    s.Accounts s' reports := by
  unfold write? at h
  split at h
  · next p written hwriting =>
      have hdue : s.due =
          s.requests.toList.countP Request.isTracked + p.isTracked.toNat := by
        rw [due, hwriting]
        rfl
      split at h
      · cases h
      · split at h
        · cases h
          refine ⟨fun h => h, .inr ?_, .inl, nofun⟩
          rw [hdue]
          cases hafter : p.after? <;>
            simp [due, Writer.due, Parcel.isTracked, hafter, Report.settles]
        · cases h
          exact ⟨fun h => h, .inr (Nat.le_of_eq hdue), .inl, nofun⟩
  · cases h

/-- Every move accounts for the packets of its session. -/
theorem accounts_of_move? {m : Move} (h : s.move? m = some (s', reports)) :
    s.Accounts s' reports := by
  cases m with
  | receive bytes =>
      simp only [move?] at h
      split at h
      · cases h
        exact ⟨fun h => h, .inr (Nat.le_add_right _ _), .inl, fun h => h⟩
      · cases h
  | reachEnd | failReading text => exact accounts_endReading h
  | stopReading =>
      simp only [move?] at h
      split at h
      · exact accounts_endReading h
      · cases h
  | takeRequest => exact accounts_takeRequest h
  | write count => exact accounts_write h
  | failWriting text => exact accounts_breakOff h
  | stopWriting =>
      simp only [move?] at h
      split at h
      · split at h
        · exact accounts_endWriting (Option.some.inj h)
        · exact accounts_breakOff h
        · cases h
      · cases h

end Session

namespace Link

/-- Whether the current session has no packet to write and no report of it
waits. -/
def isQuiet (l : Link) : Bool :=
  l.session?.all fun s => s.isIdle && l.reports.toList.all (·.1 != s.id)

/-- How many packets of the current session the controller has not been told
about. -/
def due (l : Link) : Nat :=
  match l.session? with
  | none => 0
  | some s =>
    s.due + l.reports.toList.countP fun p => p.1 == s.id && p.2.settles

/-- Whether the current session comes to its end. -/
def IsEnding (l : Link) : Prop :=
  ∃ s, l.session? = some s ∧ s.IsEnding

/-- The end of the current session is reported. -/
def Sound (l : Link) : Prop :=
  ∀ s, l.session? = some s → s.Sound ∧
    (s.cancelled = true → ∃ reason?, (s.id, .ended reason?) ∈ l.reports.toList)

/-- What a step makes of the packets of a link: the end of the session is told
or under way, or nothing of what is handed over gets lost. -/
structure Accounts (l l' : Link) (handed : Nat) (told : List Signal) : Prop where
  sound : l'.Sound
  due : .connected false ∈ told ∨ l'.IsEnding ∨
    ¬l.IsEnding ∧ l.due + handed ≤ l'.due + told.countP Signal.settles

variable {l l' : Link}

theorem due_eq {s : Session} (hs : l.session? = some s) :
    l.due = s.due + l.reports.toList.countP fun p => p.1 == s.id && p.2.settles := by
  rw [due, hs]

theorem due_of_none (hs : l.session? = none) : l.due = 0 := by
  rw [due, hs]

theorem not_isEnding_of_none (hs : l.session? = none) : ¬l.IsEnding := by
  rintro ⟨s, hsome, -⟩
  rw [hs] at hsome
  cases hsome

theorem sound_of_none (hs : l.session? = none) : l.Sound := by
  intro s hsome
  rw [hs] at hsome
  cases hsome

theorem Alike.due (h : l.Alike l') : l'.due = l.due := by
  rw [Link.due, Link.due, h.session, h.reports]

theorem Alike.isEnding (h : l.Alike l') : l'.IsEnding ↔ l.IsEnding := by
  rw [Link.IsEnding, Link.IsEnding, h.session]

theorem Alike.sound (h : l.Alike l') (hsound : l.Sound) : l'.Sound := by
  rw [Link.Sound, h.session, h.reports]
  exact hsound

/-- A session that stops writing is cancelled. -/
theorem Sound.cancelled_of_not_isWriting (hsound : l.Sound) {s : Session}
    (hs : l.session? = some s) (hdone : s.isWriting = false) : s.cancelled = true := by
  refine (hsound s hs).1 ?_
  simpa [Session.isWriting] using hdone

/-- How many packets an input hands over. -/
def handed (i : Station.Input) : Nat :=
  i.parcel?.elim 0 (·.isTracked.toNat)

theorem Accounts.congr {l'' : Link} {n : Nat} {told : List Signal}
    (h : l.Accounts l' n told) (hl : l'.Alike l'') : l.Accounts l'' n told := by
  refine ⟨hl.sound h.sound, ?_⟩
  rw [hl.isEnding, hl.due]
  exact h.due

theorem accounts_same (hsound : l.Sound) {n : Nat} {told : List Signal}
    (htold : ¬l.IsEnding → n ≤ told.countP Signal.settles) : l.Accounts l n told := by
  refine ⟨hsound, .inr ?_⟩
  by_cases hending : l.IsEnding
  · exact .inl hending
  · exact .inr ⟨hending, Nat.add_le_add_left (htold hending) _⟩

/-- The session is asked for something. -/
theorem accounts_request (hsound : l.Sound) {s : Session} (hs : l.session? = some s)
    (r : Request) :
    l.Accounts { l with session? := some (s.request r) } r.isTracked.toNat [] := by
  obtain ⟨hsession, hended⟩ := hsound s hs
  constructor
  · rintro t ht
    cases ht
    exact ⟨hsession, hended⟩
  · by_cases hending : s.IsEnding
    · -- A packet that waits behind a close still does.
      refine .inr (.inl ⟨_, rfl, ?_⟩)
      refine hending.imp id fun hlost hanswers => hlost ?_
      rw [Session.AnswersAll, Session.request, Fifo.toList_push] at hanswers
      exact (List.pairwise_append.mp hanswers).1
    · refine .inr (.inr ⟨?_, ?_⟩)
      · rintro ⟨t, ht, htending⟩
        cases hs.symm.trans ht
        exact hending htending
      · have hcount : (s.request r).due = s.due + r.isTracked.toNat := by
          simp only [Session.due, Session.request, Fifo.toList_push, List.countP_append,
            List.countP_singleton]
          cases r.isTracked <;> simp
          omega
        have hafter : due { l with session? := some (s.request r) } =
            (s.request r).due +
              l.reports.toList.countP fun q => q.1 == s.id && q.2.settles := rfl
        rw [due_eq hs, hafter, hcount]
        simp only [List.countP_nil]
        omega

theorem accounts_close (hsound : l.Sound) {s : Session} (hs : l.session? = some s) :
    l.Accounts
      { l with
        session? := some (if s.isWriting then s.request .close else s.cancel) }
      0 [] := by
  obtain ⟨-, hended⟩ := hsound s hs
  cases hwriting : s.isWriting with
  | true => exact accounts_request hsound hs .close
  | false =>
      have hcancelled := hsound.cancelled_of_not_isWriting hs hwriting
      constructor
      · rintro t ht
        cases ht
        exact ⟨fun _ => rfl, fun _ => hended hcancelled⟩
      · exact .inr (.inl ⟨_, rfl, .inl rfl⟩)

/-- Taking a report that does not tell of an end. -/
theorem accounts_report (hsound : l.Sound) {id : Nat} {r : Report}
    {rest : Fifo (Nat × Report)} (hr : l.reports.pop? = some ((id, r), rest))
    {told : List Signal}
    (hkeep : ∀ s, l.session? = some s → s.id = id →
      (∀ reason?, r ≠ .ended reason?) ∧
        r.settles.toNat ≤ told.countP Signal.settles) :
    l.Accounts { l with reports := rest } 0 told := by
  have hlist := Fifo.toList_of_pop? hr
  constructor
  · intro s hs
    obtain ⟨hsession, hended⟩ := hsound s hs
    refine ⟨hsession, fun hcancelled => ?_⟩
    obtain ⟨reason?, hmem⟩ := hended hcancelled
    rw [hlist, List.mem_cons] at hmem
    rcases hmem with heq | hrest
    · cases heq
      exact absurd rfl ((hkeep s hs rfl).1 reason?)
    · exact ⟨reason?, hrest⟩
  · by_cases hending : l.IsEnding
    · exact .inr (.inl hending)
    · refine .inr (.inr ⟨hending, ?_⟩)
      rcases Option.eq_none_or_eq_some l.session? with hs | ⟨s, hs⟩
      · rw [due_of_none hs]
        exact Nat.zero_le _
      · have hafter : due { l with reports := rest } =
            s.due + rest.toList.countP fun q => q.1 == s.id && q.2.settles :=
          due_eq hs
        rw [due_eq hs, hafter, hlist, List.countP_cons]
        by_cases hid : s.id = id
        · subst hid
          have hle := (hkeep s hs rfl).2
          cases hsettles : r.settles with
          | true =>
              rw [hsettles, Bool.toNat_true] at hle
              simp only [beq_self_eq_true, Bool.and_self, if_true]
              omega
          | false =>
              simp only [Bool.and_false, Bool.false_eq_true, if_false]
              omega
        · have hne : (id == s.id) = false := beq_eq_false_iff_ne.mpr (Ne.symm hid)
          simp only [hne, Bool.false_and, Bool.false_eq_true, if_false]
          omega

/-- Every step of a station accounts for the packets of its link. -/
theorem Change.accounts {i : Station.Input} {told : List Signal}
    (h : l.Change l' i told) (hsound : l.Sound) : l.Accounts l' (handed i) told := by
  have hnone : ∀ {told : List Signal}, l'.session? = none → .connected false ∈ told →
      l.Accounts l' (handed i) told :=
    fun hs htold => ⟨sound_of_none hs, .inl htold⟩
  have hhanded : i.parcel? = none → handed i = 0 := by
    intro hi
    rw [handed, hi]
    rfl
  cases h with
  | stay hi h =>
      rw [hhanded hi]
      exact (accounts_same hsound fun _ => Nat.zero_le _).congr h
  | drop hs h => exact hnone h.session (by simp)
  | miss hs h => exact hnone (h.session.trans hs) (by simp)
  | establish hi hs h hraised =>
      rw [hhanded (Station.Input.parcel?_eq_none hi)]
      refine Accounts.congr ⟨?_, .inr (.inr ⟨not_isEnding_of_none hs, ?_⟩)⟩ h
      · rintro t ht
        cases ht
        exact ⟨nofun, nofun⟩
      · rw [due_of_none hs]
        exact Nat.zero_le _
  | accept hi hs hwriting h =>
      subst hi
      exact (accounts_request hsound hs (.packet _)).congr h
  | @refuse p hi hs h =>
      subst hi
      refine (accounts_same hsound fun _ => ?_).congr h
      cases hp : p.after? <;>
        simp [handed, Station.Input.parcel?, Parcel.isTracked, hp, Signal.settles]
  | close hi hs h =>
      rw [hhanded hi]
      exact (accounts_close hsound hs).congr h
  | stale hi hr hs h =>
      subst hi
      exact (accounts_report hsound hr fun s hsome hid => absurd hid (hs s hsome)).congr h
  | @pass s r rest sig hi hr hs htold h =>
      subst hi
      refine (accounts_report hsound hr fun _ _ _ => ?_).congr h
      cases r with
      | ended reason? => cases htold
      | received bytes => exact ⟨nofun, Nat.zero_le _⟩
      | sent e =>
          cases htold
          exact ⟨nofun, Nat.le_refl _⟩
      | unsent after? =>
          cases htold
          refine ⟨nofun, ?_⟩
          cases after? <;> exact Nat.le_refl _
  | ended hi hr hs h => exact hnone h.session (by simp)

/-- A move of a session accounts for the packets of the link. -/
theorem accounts_of_move {id : Nat} {m : Session.Move} {t t' : Session}
    {reports : List Report} (hsound : l.Sound) (hid : t.id = id)
    (ht : t.move? m = some (t', reports))
    (hreports : l'.reports.toList = l.reports.toList ++ reports.map (id, ·))
    (hsession : l.session? = some t ∧ l'.session? = some t' ∨
      (∀ u, l.session? = some u → u.id ≠ id) ∧ l'.session? = l.session?) :
    l.Accounts l' 0 [] := by
  -- A session that has been dropped moves without the link's current one.
  rcases hsession with ⟨hs, hs'⟩ | ⟨hother, hsame⟩
  · have hid' := Session.id_of_move? ht
    obtain ⟨hending, hdue, hended, hsession⟩ := Session.accounts_of_move? ht
    obtain ⟨hbefore, hreported⟩ := hsound t hs
    constructor
    · intro u hu
      cases hs'.symm.trans hu
      refine ⟨hsession hbefore, fun hcancelled => ?_⟩
      rw [hreports, hid']
      rcases hended hcancelled with hold | ⟨reason?, hnew⟩
      · obtain ⟨reason?, hmem⟩ := hreported hold
        exact ⟨reason?, List.mem_append_left _ hmem⟩
      · exact ⟨reason?, List.mem_append_right _ (by simp [hid, hnew])⟩
    · by_cases hover : t'.IsEnding
      · exact .inr (.inl ⟨t', hs', hover⟩)
      · refine .inr (.inr ⟨?_, ?_⟩)
        · rintro ⟨u, hu, hold⟩
          cases hs.symm.trans hu
          exact hover (hending hold)
        · have hle := hdue.resolve_left hover
          have hcount : (reports.map (id, ·)).countP
              (fun p => p.1 == id && p.2.settles) = reports.countP Report.settles := by
            simp [List.countP_map, Function.comp_def]
          rw [due_eq hs, due_eq hs', hreports, hid', hid, List.countP_append, hcount]
          simp only [List.countP_nil]
          omega
  · constructor
    · intro u hu
      rw [hsame] at hu
      obtain ⟨hsession, hreported⟩ := hsound u hu
      refine ⟨hsession, fun hcancelled => ?_⟩
      obtain ⟨reason?, hmem⟩ := hreported hcancelled
      exact ⟨reason?, hreports ▸ List.mem_append_left _ hmem⟩
    · by_cases hending : l.IsEnding
      · obtain ⟨u, hu, hending⟩ := hending
        exact .inr (.inl ⟨u, hsame.trans hu, hending⟩)
      · refine .inr (.inr ⟨hending, ?_⟩)
        cases hs : l.session? with
        | none =>
            rw [due_of_none hs]
            exact Nat.zero_le _
        | some u =>
            rw [due_eq hs, due_eq (hsame.trans hs), hreports, List.countP_append]
            simp only [List.countP_nil]
            omega

/-- A link that is quiet has accounted for everything. -/
theorem due_of_isQuiet (hsound : l.Sound) (hquiet : l.isQuiet = true) :
    ¬l.IsEnding ∧ l.due = 0 := by
  cases hs : l.session? with
  | none => exact ⟨not_isEnding_of_none hs, due_of_none hs⟩
  | some s =>
      simp only [isQuiet, hs, Option.all_some, Session.isIdle, Bool.and_eq_true,
        List.all_eq_true, decide_eq_true_eq, bne_iff_ne] at hquiet
      obtain ⟨⟨hrequests, hwriter⟩, hreports⟩ := hquiet
      have huntracked : ∀ r ∈ s.requests.toList, r.isTracked = false := by
        intro r hr
        rw [hrequests r hr]
        rfl
      constructor
      · rintro ⟨t, ht, hcancelled | hlost⟩
        · obtain ⟨reason?, hmem⟩ := (hsound t ht).2 hcancelled
          cases hs.symm.trans ht
          exact hreports _ hmem rfl
        · cases hs.symm.trans ht
          exact hlost (List.pairwise_of_forall_mem_list fun _ _ r hr _ => huntracked r hr)
      · have hcount : s.requests.toList.countP Request.isTracked = 0 := by
          rw [List.countP_eq_zero]
          intro r hr
          simp [huntracked r hr]
        have hidle : s.writer.due = 0 := by
          cases hw : s.writer with
          | writing p written => rw [hw] at hwriter; cases hwriter
          | waiting | done => rfl
        have htold : (l.reports.toList.countP
            fun p => p.1 == s.id && p.2.settles) = 0 := by
          rw [List.countP_eq_zero]
          intro p hp
          simp [hreports p hp]
        rw [due_eq hs, Session.due, hcount, hidle, htold]

end Link

end FlightLink.Transport
