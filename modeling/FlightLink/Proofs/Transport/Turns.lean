import FlightLink.Proofs.Transport.Ledger

/-!
# What an act means for a session

Most of what happens to a link has to do with one of its sessions only.  A session that
waits to be opened, or that has been dropped, takes no notice of what is asked of the
link; the current one takes no notice of the moves of those that fade.
-/

namespace FlightLink.Transport.Link

variable {l l' : Link} {id : Nat}

/-- What an act means for one of the sessions of a link, with what it writes down in the
history of that session. -/
inductive Turn (id : Nat) (l l' : Link) : List Entry → Prop where
  /-- The session has not been opened, or has been dropped, and this is so
  afterwards. -/
  | apart (before : l.isCurrent id = false) (after : l'.isCurrent id = false)
      (found : l'.fading.find? (·.id == id) = l.fading.find? (·.id == id))
      (opened : id ≤ l.opened → id ≤ l'.opened) (unopened : l.opened < id → l'.opened < id) :
      Turn id l l' []
  /-- The session is opened. -/
  | opened (peer : SocketAddress) (socket : Network.Socket) (before : l.opened < id)
      (session : l'.session? = some (.ofConnection id peer socket))
      (reports : l'.reportsOf id = []) : Turn id l l' []
  /-- The session is asked for something, of which it takes no notice if its writing half
  is done. -/
  | asked {s s' : Session} {e : Entry} {r : Request} (before : l.session? = some s)
      (number : s.id = id) (session : l'.session? = some s')
      (reports : l'.reportsOf id = l.reportsOf id) (request : e.request? = some r)
      (after : s' = s.request r ∨ s.writer = .done ∧ s' = s.cancel) :
      Turn id l l' [e]
  /-- The session is passed a packet that it refuses. -/
  | refused {s : Session} {p : Parcel} (before : l.session? = some s) (number : s.id = id)
      (done : s.writer = .done) (session : l'.session? = some s)
      (reports : l'.reportsOf id = l.reportsOf id) :
      Turn id l l' [.passed p, .told (.unsent p.after?)]
  /-- Some of its reports are passed on. -/
  | told {s : Session} (before : l.session? = some s) (number : s.id = id)
      (session : l'.session? = some s) (reports : List Report)
      (taken : l.reportsOf id = reports ++ l'.reportsOf id)
      (going : ∀ r ∈ reports, ∀ reason?, r ≠ .ended reason?) :
      Turn id l l' ((reports.filterMap Report.answer?).map .told)
  /-- The session makes a move. -/
  | moved {s s' : Session} {m : Session.Move} {reports : List Report}
      (before : l.session? = some s) (number : s.id = id)
      (move : s.move? m = some (s', reports)) (session : l'.session? = some s')
      (queued : l'.reportsOf id = l.reportsOf id ++ reports) :
      Turn id l l' (s.entries m s')
  /-- The session is dropped. -/
  | dropped {s : Session} (before : l.session? = some s) (number : s.id = id)
      (after : l'.isCurrent id = false) (fading : l'.fading = l.fade s)
      (opened : l.opened ≤ l'.opened) :
      Turn id l l' [.cancelled, .told (.connected false)]
  /-- The session has been dropped, and makes a move. -/
  | faded {s s' : Session} {m : Session.Move} {reports : List Report}
      (before : l.isCurrent id = false) (after : l'.isCurrent id = false)
      (fading : l.fading.find? (·.id == id) = some s)
      (move : s.move? m = some (s', reports))
      (found : l'.fading.find? (·.id == id) = if s'.isOver then none else some s')
      (used : l'.opened = l.opened) : Turn id l l' (s.entries m s')

theorem entries_of_not_isCurrent (h : l.isCurrent id = false) (a : Act) :
    l.entries id a = l.deeds id a := by
  rw [entries, h]
  rfl

/-- What an act writes down in the history of the current session. -/
theorem entries_of_isCurrent (h : l.isCurrent id = true) (a : Act) :
    l.entries id a = l.deeds id a ++ (if (l.act a).1.isCurrent id then [] else [.cancelled]) ++
      Entry.ofOutputs (l.act a).2 := by
  rw [entries, h, if_pos rfl]

/-- An act of which a session takes no notice. -/
theorem Turn.still (id : Nat) (l : Link) : Turn id l l [] := by
  cases h : l.isCurrent id with
  | false => exact .apart h h rfl (fun h => h) fun h => h
  | true =>
      obtain ⟨s, hs, hid⟩ := isCurrent_iff.mp h
      exact .told hs hid hs [] rfl nofun

/-- The current session, which has another number, keeps its number or is gone. -/
theorem Turn.aside (h : l.isCurrent id = false) (hsession : ∀ s', l'.session? = some s' →
    ∃ s, l.session? = some s ∧ s'.id = s.id)
    (hfading : l'.fading.find? (·.id == id) = l.fading.find? (·.id == id))
    (hopened : l'.opened = l.opened) : Turn id l l' [] := by
  refine .apart h (isCurrent_eq_false_iff.mpr fun s' hs' => ?_) hfading ?_ ?_
  · obtain ⟨s, hs, hid⟩ := hsession s' hs'
    rw [hid]
    exact isCurrent_eq_false_iff.mp h s hs
  · rw [hopened]
    exact fun hle => hle
  · rw [hopened]
    exact fun hlt => hlt

theorem turn_of_send (id : Nat) (l : Link) (p : Parcel) :
    Turn id l (l.act (.send p)).1 (l.entries id (.send p)) := by
  cases hs : l.session? with
  | none =>
      have hcurrent : l.isCurrent id = false := isCurrent_eq_false_iff.mpr (by simp [hs])
      rw [entries_of_not_isCurrent hcurrent, deeds, hcurrent, act, send, hs]
      exact .still id l
  | some s =>
      cases hwriting : s.isWriting with
      | true =>
          have hsend : l.act (.send p) =
              ({ l with session? := some (s.request (.packet p)) }, []) := by
            simp only [act, send, hs, hwriting, if_true]
          cases hcurrent : l.isCurrent id with
          | false =>
              rw [entries_of_not_isCurrent hcurrent, deeds, hcurrent, hsend]
              refine .aside hcurrent ?_ rfl rfl
              rintro _ ⟨⟩
              exact ⟨s, hs, rfl⟩
          | true =>
              obtain ⟨t, ht, hid⟩ := isCurrent_iff.mp hcurrent
              obtain rfl := Option.some.inj (hs.symm.trans ht)
              have hafter : (l.act (.send p)).1.isCurrent id = true := by
                rw [hsend]
                exact isCurrent_iff.mpr ⟨_, rfl, hid⟩
              rw [entries_of_isCurrent hcurrent, deeds, hcurrent, hafter, hsend]
              exact .asked hs hid rfl rfl rfl (.inl rfl)
      | false =>
          have hsend : l.act (.send p) = (l, refusal p) := by
            simp only [act, send, hs, hwriting, Bool.false_eq_true, if_false]
          cases hcurrent : l.isCurrent id with
          | false =>
              rw [entries_of_not_isCurrent hcurrent, deeds, hcurrent, hsend]
              exact .still id l
          | true =>
              obtain ⟨t, ht, hid⟩ := isCurrent_iff.mp hcurrent
              obtain rfl := Option.some.inj (hs.symm.trans ht)
              rw [entries_of_isCurrent hcurrent, deeds, hcurrent, hsend, hcurrent]
              exact .refused hs hid (by simpa [Session.isWriting] using hwriting) hs rfl

theorem turn_of_close (id : Nat) (l : Link) :
    Turn id l (l.act .close).1 (l.entries id .close) := by
  cases hs : l.session? with
  | none =>
      have hcurrent : l.isCurrent id = false := isCurrent_eq_false_iff.mpr (by simp [hs])
      rw [entries_of_not_isCurrent hcurrent, deeds, hcurrent, act, close, hs]
      exact .still id l
  | some s =>
      have hclose : (l.act .close).1 = { l with
          session? := some (if s.isWriting then s.request .close else s.cancel) } := by
        simp only [act, close, hs]
      have hnumber : (if s.isWriting then s.request .close else s.cancel).id = s.id := by
        split <;> rfl
      cases hcurrent : l.isCurrent id with
      | false =>
          rw [entries_of_not_isCurrent hcurrent, deeds, hcurrent, hclose]
          refine .aside hcurrent ?_ rfl rfl
          rintro _ ⟨⟩
          exact ⟨s, hs, hnumber⟩
      | true =>
          obtain ⟨t, ht, hid⟩ := isCurrent_iff.mp hcurrent
          obtain rfl := Option.some.inj (hs.symm.trans ht)
          have hafter : (l.act .close).1.isCurrent id = true := by
            rw [hclose]
            exact isCurrent_iff.mpr ⟨_, rfl, hnumber.trans hid⟩
          rw [entries_of_isCurrent hcurrent, deeds, hcurrent, hafter, hclose]
          refine .asked hs hid rfl rfl rfl ?_
          cases hwriting : s.isWriting with
          | true => exact .inl rfl
          | false => exact .inr ⟨by simpa [Session.isWriting] using hwriting, rfl⟩

/-- The current session is dropped, and perhaps another one is opened. -/
theorem turn_of_drop {a : Act} (hdeeds : l.deeds id a = [])
    (hcurrent : l.isCurrent id = true) (hafter : (l.act a).1.isCurrent id = false)
    (hfading : ∀ s, l.session? = some s → (l.act a).1.fading = l.fade s)
    (hopened : l.opened ≤ (l.act a).1.opened)
    (htold : Entry.ofOutputs (l.act a).2 = [.told (.connected false)]) :
    Turn id l (l.act a).1 (l.entries id a) := by
  obtain ⟨s, hs, hid⟩ := isCurrent_iff.mp hcurrent
  rw [entries_of_isCurrent hcurrent, hdeeds, hafter, htold]
  exact .dropped hs hid hafter (hfading s hs) hopened

/-- Another session than the current one takes no notice of its end. -/
theorem find?_dropSession (h : l.isCurrent id = false) :
    l.dropSession.1.fading.find? (·.id == id) = l.fading.find? (·.id == id) := by
  cases hs : l.session? with
  | none => simp only [dropSession, hs]
  | some s =>
      rw [dropSession_fst hs]
      exact find?_fade (isCurrent_eq_false_iff.mp h s hs)

theorem session?_dropSession (l : Link) : l.dropSession.1.session? = none := by
  unfold dropSession
  split
  · assumption
  · rfl

theorem opened_dropSession (l : Link) : l.dropSession.1.opened = l.opened := by
  unfold dropSession
  split <;> rfl

theorem reports_dropSession (l : Link) : l.dropSession.1.reports = l.reports := by
  unfold dropSession
  split <;> rfl

theorem turn_of_dropSession (id : Nat) (l : Link) :
    Turn id l (l.act .drop).1 (l.entries id .drop) := by
  cases hcurrent : l.isCurrent id with
  | false =>
      rw [entries_of_not_isCurrent hcurrent]
      refine .aside hcurrent ?_ (find?_dropSession hcurrent) (opened_dropSession l)
      rw [act, session?_dropSession]
      exact fun s' hs' => by cases hs'
  | true =>
      obtain ⟨s, hs, -⟩ := isCurrent_iff.mp hcurrent
      refine turn_of_drop rfl hcurrent ?_ (fun t ht => ?_)
        (Nat.le_of_eq (opened_dropSession l).symm) (ofOutputs_dropSession hs)
      · rw [isCurrent, act, session?_dropSession]
        rfl
      · rw [act, dropSession_fst ht]

theorem turn_of_establish (h : l.Tidy) (id : Nat) (peer : SocketAddress)
    (socket : Network.Socket) (raised? : Option Event) :
    Turn id l (l.act (.establish peer socket raised?)).1
      (l.entries id (.establish peer socket raised?)) := by
  have hopened : (l.act (.establish peer socket raised?)).1.opened = l.opened + 1 :=
    congrArg (· + 1) (opened_dropSession l)
  have hsession : (l.act (.establish peer socket raised?)).1.session? =
      some (.ofConnection (l.opened + 1) peer socket) := by
    rw [← opened_dropSession l]
    rfl
  cases hcurrent : l.isCurrent id with
  | true =>
      obtain ⟨s, hs, rfl⟩ := isCurrent_iff.mp hcurrent
      obtain ⟨-, hle, -⟩ := h.current s hs
      refine turn_of_drop rfl hcurrent ?_ (fun t ht => ?_) ?_ ?_
      · refine isCurrent_eq_false_iff.mpr fun t ht hid => ?_
        rw [hsession] at ht
        cases ht
        exact Nat.not_succ_le_self _ (hid ▸ hle)
      · exact congrArg fading (dropSession_fst ht)
      · exact hopened ▸ Nat.le_succ _
      · have htold := ofOutputs_dropSession hs
        simp only [act, establish, Entry.ofOutputs, signals, List.filterMap_append] at htold ⊢
        rw [htold]
        cases raised? <;> rfl
  | false =>
      rw [entries_of_not_isCurrent hcurrent]
      by_cases hid : id = l.opened + 1
      · subst hid
        refine .opened peer socket (Nat.lt_succ_self _) hsession ?_
        have hreports : (l.act (.establish peer socket raised?)).1.reports = l.reports :=
          reports_dropSession l
        rw [reportsOf, hreports, List.filterMap_eq_nil_iff]
        intro r hr
        rw [if_neg (Nat.ne_of_lt (Nat.lt_succ_of_le (h.reports r hr)))]
      · refine .apart hcurrent ?_ (find?_dropSession hcurrent) ?_ ?_
        · refine isCurrent_eq_false_iff.mpr fun t ht => ?_
          rw [hsession] at ht
          cases ht
          exact Ne.symm hid
        · rw [hopened]
          exact Nat.le_succ_of_le
        · rw [hopened]
          exact fun hlt => Nat.lt_of_le_of_ne hlt (Ne.symm hid)

theorem reportsOf_cons {number : Nat} {r : Report} {rest : Fifo (Nat × Report)}
    (h : l.reports.toList = (number, r) :: rest.toList) (id : Nat) :
    l.reportsOf id =
      (if number = id then [r] else []) ++ reportsOf { l with reports := rest } id := by
  rw [reportsOf, reportsOf, h, List.filterMap_cons]
  by_cases hid : number = id <;> simp [hid]

/-- There is one current session at most. -/
theorem isCurrent_eq_false_of_ne {number : Nat} (h : l.isCurrent number = true)
    (hne : number ≠ id) : l.isCurrent id = false := by
  obtain ⟨s, hs, rfl⟩ := isCurrent_iff.mp h
  refine isCurrent_eq_false_iff.mpr fun t ht => ?_
  obtain rfl := Option.some.inj (hs.symm.trans ht)
  exact hne

section Report

variable {number : Nat} {r : Report} {rest : Fifo (Nat × Report)}

/-- A report of a session that has been dropped gets lost. -/
theorem turn_of_lost (hlist : l.reports.toList = (number, r) :: rest.toList)
    (hact : l.act .report = pass { l with reports := rest } number r)
    (hnumber : l.isCurrent number = false) (id : Nat) :
    Turn id l (l.act .report).1 (l.entries id .report) := by
  rw [pass_of_not_isCurrent (l := { l with reports := rest }) hnumber] at hact
  cases hcurrent : l.isCurrent id with
  | false =>
      rw [entries_of_not_isCurrent hcurrent, hact]
      exact .aside hcurrent (fun s hs => ⟨s, hs, rfl⟩) rfl rfl
  | true =>
      obtain ⟨s, hs, hid⟩ := isCurrent_iff.mp hcurrent
      have hne : number ≠ id := by
        rintro rfl
        rw [hnumber] at hcurrent
        cases hcurrent
      have htaken : l.reportsOf id = [] ++ reportsOf { l with reports := rest } id := by
        rw [reportsOf_cons hlist id, if_neg hne]
      have hstill : isCurrent { l with reports := rest } id = true := hcurrent
      have hafter : ({ l with reports := rest } : Link).session? = some s := hs
      rw [entries_of_isCurrent hcurrent, hact, hstill]
      exact .told hs hid hafter [] htaken (by simp)

/-- What the current session reports is told. -/
theorem turn_of_tidings (hlist : l.reports.toList = (number, r) :: rest.toList)
    (hact : l.act .report = pass { l with reports := rest } number r)
    (hnumber : l.isCurrent number = true) (hgoing : ∀ reason?, r ≠ .ended reason?)
    (id : Nat) : Turn id l (l.act .report).1 (l.entries id .report) := by
  obtain ⟨hlink, htold⟩ :=
    pass_of_isCurrent (l := { l with reports := rest }) hnumber hgoing
  rw [← hact] at hlink htold
  by_cases hne : number = id
  · subst hne
    obtain ⟨s, hs, hid⟩ := isCurrent_iff.mp hnumber
    have hstill : isCurrent { l with reports := rest } number = true := hnumber
    have hentries : l.entries number .report = ([r].filterMap Report.answer?).map .told := by
      rw [entries_of_isCurrent hnumber, htold, hlink, hstill, List.filterMap_cons]
      cases r.answer? <;> rfl
    have htaken : l.reportsOf number =
        [r] ++ reportsOf { l with reports := rest } number := by
      rw [reportsOf_cons hlist number, if_pos rfl]
    have hafter : ({ l with reports := rest } : Link).session? = some s := hs
    rw [hentries, hlink]
    exact .told hs hid hafter [r] htaken (by simpa using hgoing)
  · have hcurrent := isCurrent_eq_false_of_ne hnumber hne
    rw [entries_of_not_isCurrent hcurrent, hlink]
    exact .aside hcurrent (fun s hs => ⟨s, hs, rfl⟩) rfl rfl

/-- The current session reports that it has come to its end. -/
theorem turn_of_end {reason? : Option String}
    (hact : l.act .report = pass { l with reports := rest } number (.ended reason?))
    (hnumber : l.isCurrent number = true) (id : Nat) :
    Turn id l (l.act .report).1 (l.entries id .report) := by
  obtain ⟨s, hs, hid⟩ := isCurrent_iff.mp hnumber
  obtain ⟨hlink, htold⟩ := pass_ended (l := { l with reports := rest }) hs hid reason?
  rw [← hact] at hlink htold
  have hsession : (l.act .report).1.session? = none := by rw [hlink, session?_dropSession]
  have hopened : (l.act .report).1.opened = l.opened := by rw [hlink, opened_dropSession]
  by_cases hne : number = id
  · subst hne
    refine turn_of_drop rfl hnumber (by rw [isCurrent, hsession]; rfl) (fun t ht => ?_)
      (Nat.le_of_eq hopened.symm) htold
    rw [hlink]
    exact congrArg fading (dropSession_fst (l := { l with reports := rest }) ht)
  · have hcurrent := isCurrent_eq_false_of_ne hnumber hne
    rw [entries_of_not_isCurrent hcurrent]
    refine .aside hcurrent ?_ ?_ hopened
    · rw [hsession]
      exact fun s' hs' => by cases hs'
    · rw [hlink]
      exact find?_dropSession (l := { l with reports := rest }) hcurrent

end Report

theorem turn_of_report (id : Nat) (l : Link) :
    Turn id l (l.act .report).1 (l.entries id .report) := by
  cases hpop : l.reports.pop? with
  | none =>
      have hact : l.act .report = (l, []) := by simp only [act, takeReport?, hpop]; rfl
      have hentries : l.entries id .report = [] := by
        rw [entries, hact]
        cases hcurrent : l.isCurrent id <;> rfl
      rw [hact, hentries]
      exact .still id l
  | some popped =>
      obtain ⟨⟨number, r⟩, rest⟩ := popped
      have hlist : l.reports.toList = (number, r) :: rest.toList := Fifo.toList_of_pop? hpop
      have hact : l.act .report = pass { l with reports := rest } number r := by
        simp only [act, takeReport?, hpop]
        rfl
      cases hnumber : l.isCurrent number with
      | false => exact turn_of_lost hlist hact hnumber id
      | true =>
          by_cases hended : ∃ reason?, r = .ended reason?
          · obtain ⟨reason?, rfl⟩ := hended
            exact turn_of_end hact hnumber id
          · exact turn_of_tidings hlist hact hnumber (fun reason? hr => hended ⟨reason?, hr⟩) id

/-- A move is written down in the history of its session. -/
theorem deeds_of_move? {m : Session.Move} {s s' : Session} {reports : List Report}
    (hfind : l.find? id = some s) (hmove : s.move? m = some (s', reports)) :
    l.deeds id (.move id m) = s.entries m s' := by
  simp [deeds, hfind, hmove]

theorem deeds_of_ne {number : Nat} (hne : number ≠ id) (m : Session.Move) :
    l.deeds id (.move number m) = [] := if_neg hne

theorem deeds_of_move?_eq_none {number : Nat} {m : Session.Move}
    (h : l.move? number m = none) : l.deeds id (.move number m) = [] := by
  by_cases hne : number = id
  · subst hne
    simp only [deeds, if_true]
    split
    · rfl
    · next s hfind =>
        cases hmove : s.move? m with
        | none => rfl
        | some r => simp [move?, hfind, hmove] at h
  · exact deeds_of_ne hne m

/-- A session makes a move. -/
theorem turn_of_own_move {m : Session.Move} {r : Result} (hr : l.move? id m = some r)
    (hact : l.act (.move id m) = r) :
    Turn id l (l.act (.move id m)).1 (l.entries id (.move id m)) := by
  obtain ⟨t, t', reports, hfind, hmove, hid, hsession, hfading, hopened, hreports,
    hsilent⟩ := move?_spec hr
  cases hcurrent : l.isCurrent id with
  | false =>
      rw [hcurrent] at hsession hfading
      simp only [Bool.false_eq_true, if_false] at hsession hfading
      have hafter : r.1.isCurrent id = false := by
        rw [isCurrent, hsession]
        exact hcurrent
      have hbefore : l.fading.find? (·.id == id) = some t := by
        rw [← find?_of_not_isCurrent hcurrent, hfind]
      rw [entries_of_not_isCurrent hcurrent, hact, deeds_of_move? hfind hmove]
      refine .faded hcurrent hafter hbefore hmove ?_ hopened
      rw [hfading]
      subst hid
      cases hover : t'.isOver with
      | true => exact find?_renew_of_isOver hover l.fading
      | false => exact find?_renew_self hover hbefore
  | true =>
      obtain ⟨s, hs, hsid⟩ := isCurrent_iff.mp hcurrent
      rw [hcurrent, if_pos rfl] at hsession
      obtain rfl := Option.some.inj ((find?_of_session hs hsid).symm.trans hfind)
      have hafter : r.1.isCurrent id = true := isCurrent_iff.mpr ⟨t', hsession, hid⟩
      have hqueued : r.1.reportsOf id = l.reportsOf id ++ reports := by
        simp [reportsOf, hreports, List.filterMap_map]
      rw [entries_of_isCurrent hcurrent, hact, deeds_of_move? hfind hmove, hafter, hsilent]
      rw [if_pos rfl, List.append_nil, List.append_nil]
      exact .moved hs hsid hmove hsession hqueued

/-- Another session makes a move. -/
theorem turn_of_other_move (h : l.Tidy) {number : Nat} {m : Session.Move} {r : Result}
    (hr : l.move? number m = some r) (hact : l.act (.move number m) = r)
    (hne : number ≠ id) :
    Turn id l (l.act (.move number m)).1 (l.entries id (.move number m)) := by
  obtain ⟨t, t', reports, -, -, hid, hsession, hfading, hopened, hreports, hsilent⟩ :=
    move?_spec hr
  cases hcurrent : l.isCurrent id with
  | false =>
      rw [entries_of_not_isCurrent hcurrent, hact, deeds_of_ne hne]
      refine .aside hcurrent (fun s' hs' => ?_) ?_ hopened
      · rw [hsession] at hs'
        split at hs'
        · next hnumber =>
            cases hs'
            obtain ⟨s, hs, hsid⟩ := isCurrent_iff.mp hnumber
            exact ⟨s, hs, hid.trans hsid.symm⟩
        · exact ⟨s', hs', rfl⟩
      · rw [hfading]
        split
        · rfl
        · exact find?_renew_of_ne (by rwa [hid]) fun u hu => (h.fading u hu).2.2
  | true =>
      obtain ⟨s, hs, hsid⟩ := isCurrent_iff.mp hcurrent
      have hnumber : l.isCurrent number = false :=
        isCurrent_eq_false_of_ne hcurrent (Ne.symm hne)
      rw [hnumber] at hsession
      simp only [Bool.false_eq_true, if_false] at hsession
      have hafter : r.1.isCurrent id = true := by
        rw [isCurrent, hsession]
        exact hcurrent
      have hqueued : l.reportsOf id = [] ++ r.1.reportsOf id := by
        simp [reportsOf, hreports, List.filterMap_map, hne]
      rw [entries_of_isCurrent hcurrent, hact, deeds_of_ne hne, hafter, hsilent]
      exact .told hs hsid (hsession.trans hs) [] hqueued (by simp)

theorem turn_of_move (h : l.Tidy) (id number : Nat) (m : Session.Move) :
    Turn id l (l.act (.move number m)).1 (l.entries id (.move number m)) := by
  cases hr : l.move? number m with
  | none =>
      have hact : l.act (.move number m) = (l, []) := by simp only [act, hr]; rfl
      have hentries : l.entries id (.move number m) = [] := by
        rw [entries, hact, deeds_of_move?_eq_none hr]
        cases hcurrent : l.isCurrent id <;> rfl
      rw [hact, hentries]
      exact .still id l
  | some r =>
      have hact : l.act (.move number m) = r := by simp only [act, hr]; rfl
      by_cases hne : number = id
      · subst hne
        exact turn_of_own_move hr hact
      · exact turn_of_other_move h hr hact hne

/-- Every act takes one of the turns. -/
theorem turn_of_act (h : l.Tidy) (id : Nat) (a : Act) :
    Turn id l (l.act a).1 (l.entries id a) := by
  cases a with
  | establish peer socket raised? => exact turn_of_establish h id peer socket raised?
  | send p => exact turn_of_send id l p
  | close => exact turn_of_close id l
  | drop => exact turn_of_dropSession id l
  | report => exact turn_of_report id l
  | move number m => exact turn_of_move h id number m

end FlightLink.Transport.Link
