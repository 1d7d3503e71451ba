import FlightLink.Proofs.Transport.Change
import FlightLink.Proofs.Transport.Writing

/-!
# A session in the hands of its link

A link is used while its sessions go on by themselves: packets are sent, the session is
closed or dropped, another one is opened, and the reports are taken one after another,
in the order in which they come.  For any of the sessions its history is kept.

Most of what happens has to do with other sessions.  `Link.Turn` lists what an act can
mean for one of them: it waits to be opened, it is the current one, or it has been
dropped and fades.
-/

namespace FlightLink.Transport

/-- What is told of the packets of a session, or of its end. -/
def Entry.ofSignal? : Signal → Option Entry
  | .sent e => some (.told (.sent e))
  | .unsent after? => some (.told (.unsent after?))
  | .connected false => some (.told (.connected false))
  | .connected true | .received _ | .raised _ | .log _ _ => none

/-- What outputs tell of the packets of a session, or of its end. -/
def Entry.ofOutputs (outputs : List Output) : List Entry :=
  (signals outputs).filterMap ofSignal?

namespace Link

/-- What can be done with a link, and what its sessions do by themselves. -/
inductive Act where
  | establish (peer : SocketAddress) (socket : Network.Socket) (raised? : Option Event)
  | send (p : Parcel)
  | close
  | drop
  /-- The next report is taken. -/
  | report
  | move (id : Nat) (m : Session.Move)

/-- The link after an act, and its outputs. -/
def act (l : Link) : Act → Result
  | .establish peer socket raised? => l.establish peer socket raised?
  | .send p => l.send p
  | .close => (l.close, [])
  | .drop => l.dropSession
  | .report => l.takeReport?.getD (l, [])
  | .move id m => (l.move? id m).getD (l, [])

/-- Whether a session is the current one. -/
def isCurrent (l : Link) (id : Nat) : Bool :=
  l.session?.any (·.id == id)

/-- What an act has to do with a session. -/
def deeds (l : Link) (id : Nat) : Act → List Entry
  | .send p => if l.isCurrent id then [.passed p] else []
  | .close => if l.isCurrent id then [.closed] else []
  | .move id' m =>
    if id' = id then
      match l.find? id with
      | none => []
      | some s => (s.move? m).elim [] fun r => s.entries m r.1
    else []
  | .establish .. | .drop | .report => []

/-- What an act writes down in the history of a session. -/
def entries (l : Link) (id : Nat) (a : Act) : List Entry :=
  if l.isCurrent id then
    l.deeds id a ++ (if (l.act a).1.isCurrent id then [] else [.cancelled]) ++
      Entry.ofOutputs (l.act a).2
  else l.deeds id a

/-- A link and the history of one of its sessions. -/
structure Book where
  link : Link
  history : List Entry

/-- One act. -/
def Book.next (id : Nat) (x : Book) (a : Act) : Book :=
  ⟨(x.link.act a).1, x.history ++ x.link.entries id a⟩

/-- The history of a session of a new link. -/
def Book.run (id : Nat) (acts : List Act) : Book :=
  acts.foldl (next id) ⟨.idle, []⟩

/-- The reports of a session that have not been taken. -/
def reportsOf (l : Link) (id : Nat) : List Report :=
  l.reports.toList.filterMap fun r => if r.1 = id then some r.2 else none

/-! ## Sessions of a link -/

/-- Sessions are told apart by their numbers, which count those that have been opened,
and a session that fades has something to do. -/
structure Tidy (l : Link) : Prop where
  current : ∀ s, l.session? = some s →
    0 < s.id ∧ s.id ≤ l.opened ∧ ∀ t ∈ l.fading, t.id ≠ s.id
  fading : ∀ t ∈ l.fading, 0 < t.id ∧ t.id ≤ l.opened ∧ t.isOver = false
  reports : ∀ r ∈ l.reports.toList, r.1 ≤ l.opened

variable {l l' : Link} {id : Nat}

theorem isCurrent_iff : l.isCurrent id = true ↔ ∃ s, l.session? = some s ∧ s.id = id := by
  simp [isCurrent, Option.any_eq_true]

theorem isCurrent_eq_false_iff :
    l.isCurrent id = false ↔ ∀ s, l.session? = some s → s.id ≠ id := by
  rw [← Bool.not_eq_true, isCurrent_iff]
  simp

theorem find?_of_session {s : Session} (hs : l.session? = some s) (hid : s.id = id) :
    l.find? id = some s := by
  simp [find?, sessions, hs, hid]

theorem find?_of_not_isCurrent (h : l.isCurrent id = false) :
    l.find? id = l.fading.find? (·.id == id) := by
  rw [isCurrent_eq_false_iff] at h
  cases hs : l.session? with
  | none => simp [find?, sessions, hs]
  | some s => simp [find?, sessions, hs, h s hs]

/-- A session that is dropped does not get in the way of another one. -/
theorem find?_fade {s : Session} (hid : s.id ≠ id) :
    (l.fade s).find? (·.id == id) = l.fading.find? (·.id == id) := by
  unfold fade
  split
  · rfl
  · have hdismiss : s.dismiss.id = s.id := rfl
    simp [List.find?_append, hdismiss, hid]

/-- Puts a session in the place of that with its number, unless it is over. -/
def renew (s : Session) (fading : List Session) : List Session :=
  (fading.map fun t => if t.id == s.id then s else t).filter (!·.isOver)

theorem renew_cons (s t : Session) (rest : List Session) :
    renew s (t :: rest) =
      if (if t.id = s.id then s else t).isOver then renew s rest
      else (if t.id = s.id then s else t) :: renew s rest := by
  simp only [renew, List.map_cons, List.filter_cons, beq_iff_eq, Bool.not_eq_true']
  cases (if t.id = s.id then s else t).isOver <;> rfl

theorem find?_renew_of_ne {s : Session} (hid : s.id ≠ id) {fading : List Session}
    (hfading : ∀ t ∈ fading, t.isOver = false) :
    (renew s fading).find? (·.id == id) = fading.find? (·.id == id) := by
  induction fading with
  | nil => rfl
  | cons t rest ih =>
      obtain ⟨ht, hrest⟩ := List.forall_mem_cons.mp hfading
      have hne : (s.id == id) = false := beq_eq_false_iff_ne.mpr hid
      rw [renew_cons, List.find?_cons, ← ih hrest]
      by_cases hts : t.id = s.id
      · rw [if_pos hts, hts, hne]
        split
        · rfl
        · rw [List.find?_cons, hne]
      · rw [if_neg hts, ht]
        rfl

/-- A session that is over is forgotten. -/
theorem find?_renew_of_isOver {s : Session} (hs : s.isOver = true) (fading : List Session) :
    (renew s fading).find? (·.id == s.id) = none := by
  induction fading with
  | nil => rfl
  | cons t rest ih =>
      rw [renew_cons]
      by_cases hts : t.id = s.id
      · rw [if_pos hts, hs, if_pos rfl, ih]
      · rw [if_neg hts]
        split
        · exact ih
        · rw [List.find?_cons, beq_eq_false_iff_ne.mpr hts, ih]

theorem find?_renew_self {s : Session} (hs : s.isOver = false) {fading : List Session}
    {t : Session} (ht : fading.find? (·.id == s.id) = some t) :
    (renew s fading).find? (·.id == s.id) = some s := by
  induction fading with
  | nil => cases ht
  | cons u rest ih =>
      rw [renew_cons]
      by_cases hus : u.id = s.id
      · simp [hus, hs]
      · rw [List.find?_cons, beq_eq_false_iff_ne.mpr hus] at ht
        rw [if_neg hus]
        split
        · exact ih ht
        · rw [List.find?_cons, beq_eq_false_iff_ne.mpr hus, ih ht]

theorem mem_renew {s t : Session} {fading : List Session} (ht : t ∈ renew s fading) :
    t.isOver = false ∧ (t ∈ fading ∨ t = s ∧ ∃ u ∈ fading, u.id = s.id) := by
  obtain ⟨ht, hover⟩ := List.mem_filter.mp ht
  refine ⟨by simpa using hover, ?_⟩
  obtain ⟨u, hu, rfl⟩ := List.mem_map.mp ht
  split
  · next hus => exact .inr ⟨rfl, u, hu, by simpa using hus⟩
  · exact .inl hu

/-- What a move of a session does to its link. -/
theorem move?_spec {m : Session.Move} {r : Result} (h : l.move? id m = some r) :
    ∃ t t' reports, l.find? id = some t ∧ t.move? m = some (t', reports) ∧ t'.id = id ∧
      r.1.session? = (if l.isCurrent id then some t' else l.session?) ∧
      r.1.fading = (if l.isCurrent id then l.fading else renew t' l.fading) ∧
      r.1.opened = l.opened ∧
      r.1.reports.toList = l.reports.toList ++ reports.map (id, ·) ∧ Entry.ofOutputs r.2 = [] := by
  unfold move? at h
  split at h
  · cases h
  · next t hfind =>
      split at h
      · cases h
      · next t' reports hmove =>
          cases h
          have hid : t'.id = id := by
            rw [Session.id_of_move? hmove]
            simpa using List.find?_some hfind
          have hsilent : Entry.ofOutputs (socketOutputs t t' m) = [] := by
            unfold socketOutputs
            split <;> split <;> rfl
          refine ⟨t, t', reports, hfind, hmove, hid, ?_, ?_, ?_, ?_, hsilent⟩
          · by_cases hcurrent : l.session?.any (·.id == id) = true <;>
              simp [replace, isCurrent, hid, hcurrent]
          · by_cases hcurrent : l.session?.any (·.id == id) = true <;>
              simp [replace, isCurrent, renew, hid, hcurrent]
          · unfold replace
            split <;> rfl
          · rw [Fifo.toList_append]
            unfold replace
            split <;> rfl

theorem dropSession_fst {s : Session} (hs : l.session? = some s) :
    l.dropSession.1 = { l with session? := none, fading := l.fade s } := by
  simp only [dropSession, hs]

theorem ofOutputs_dropSession {s : Session} (hs : l.session? = some s) :
    Entry.ofOutputs l.dropSession.2 = [.told (.connected false)] := by
  simp only [dropSession, hs]
  rfl

theorem pass_of_not_isCurrent (h : l.isCurrent id = false) (r : Report) :
    l.pass id r = (l, []) := by
  rw [isCurrent] at h
  simp only [pass, h, Bool.false_eq_true, if_false]

/-- What is reported of a packet is passed on. -/
theorem pass_of_isCurrent (h : l.isCurrent id = true) {r : Report}
    (hr : ∀ reason?, r ≠ .ended reason?) :
    (l.pass id r).1 = l ∧ Entry.ofOutputs (l.pass id r).2 = r.answer?.toList.map .told := by
  rw [isCurrent] at h
  simp only [pass, h, if_true]
  cases r with
  | ended reason? => exact absurd rfl (hr reason?)
  | _ => exact ⟨rfl, rfl⟩

/-- The session is dropped once a half of it has come to its end. -/
theorem pass_ended {s : Session} (hs : l.session? = some s) (hid : s.id = id)
    (reason? : Option String) :
    (l.pass id (.ended reason?)).1 = l.dropSession.1 ∧
      Entry.ofOutputs (l.pass id (.ended reason?)).2 = [.told (.connected false)] := by
  have hcurrent : (l.session?.any (·.id == id)) = true := isCurrent_iff.mpr ⟨s, hs, hid⟩
  have hpass : l.pass id (.ended reason?) =
      (l.dropSession.1, reason?.toList.map (.log .warning) ++ l.dropSession.2) := by
    simp only [pass, hcurrent, if_true]
  rw [hpass, ← ofOutputs_dropSession hs]
  refine ⟨rfl, ?_⟩
  cases reason? <;> rfl

/-! ## Tidiness -/

theorem tidy_idle : Tidy idle where
  current _ hs := nomatch hs
  fading := List.forall_mem_nil _
  reports := List.forall_mem_nil _

/-- The current session may change, as long as it keeps its number. -/
theorem Tidy.congr (h : l.Tidy) (hsession : ∀ s', l'.session? = some s' →
    ∃ s, l.session? = some s ∧ s'.id = s.id) (hfading : l'.fading = l.fading)
    (hopened : l'.opened = l.opened) (hreports : ∀ r ∈ l'.reports.toList, r.1 ≤ l.opened) :
    l'.Tidy := by
  refine ⟨fun s' hs' => ?_, ?_, ?_⟩
  · obtain ⟨s, hs, hid⟩ := hsession s' hs'
    rw [hfading, hopened, hid]
    exact h.current s hs
  · rw [hfading, hopened]
    exact h.fading
  · rwa [hopened]

theorem Tidy.fade (h : l.Tidy) {s : Session} (hs : l.session? = some s) {t : Session}
    (ht : t ∈ l.fade s) : 0 < t.id ∧ t.id ≤ l.opened ∧ t.isOver = false := by
  unfold Link.fade at ht
  split at ht
  · exact h.fading t ht
  · next hover =>
      rcases List.mem_append.mp ht with hold | hnew
      · exact h.fading t hold
      · obtain rfl := List.mem_singleton.mp hnew
        obtain ⟨hpos, hle, -⟩ := h.current s hs
        have hbusy : s.isOver = false := by simpa using hover
        exact ⟨hpos, hle, hbusy⟩

/-- The current session is dropped. -/
theorem Tidy.drop (h : l.Tidy) {s : Session} (hs : l.session? = some s)
    (hsession : l'.session? = none) (hfading : l'.fading = l.fade s)
    (hopened : l'.opened = l.opened) (hreports : ∀ r ∈ l'.reports.toList, r.1 ≤ l.opened) :
    l'.Tidy := by
  refine ⟨fun s' hs' => ?_, fun t ht => ?_, ?_⟩
  · rw [hsession] at hs'
    exact nomatch hs'
  · rw [hfading] at ht
    rw [hopened]
    exact h.fade hs ht
  · rwa [hopened]

theorem Tidy.dropSession (h : l.Tidy) : l.dropSession.1.Tidy := by
  unfold Link.dropSession
  split
  · exact h
  · next s hs => exact h.drop hs rfl rfl rfl h.reports

theorem Tidy.establish (h : l.Tidy) (peer : SocketAddress) (socket : Network.Socket)
    (raised? : Option Event) : (l.establish peer socket raised?).1.Tidy := by
  have hdropped := h.dropSession
  refine ⟨?_, fun t ht => ?_, fun r hr => Nat.le_succ_of_le (hdropped.reports r hr)⟩
  · rintro s ⟨⟩
    refine ⟨Nat.succ_pos _, Nat.le_refl _, fun t ht hid => ?_⟩
    have hle := (hdropped.fading t ht).2.1
    rw [hid] at hle
    exact Nat.not_succ_le_self _ hle
  · obtain ⟨hpos, hle, hover⟩ := hdropped.fading t ht
    exact ⟨hpos, Nat.le_succ_of_le hle, hover⟩

/-- The number of a session that is found is one of those that have been used. -/
theorem Tidy.find? (h : l.Tidy) {s : Session} (hs : l.find? id = some s) :
    0 < id ∧ id ≤ l.opened := by
  obtain rfl : s.id = id := by simpa using List.find?_some hs
  rcases List.mem_append.mp (List.mem_of_find?_eq_some hs) with hcurrent | hfading
  · obtain ⟨hpos, hle, -⟩ := h.current s (by simpa using hcurrent)
    exact ⟨hpos, hle⟩
  · obtain ⟨hpos, hle, -⟩ := h.fading s hfading
    exact ⟨hpos, hle⟩

theorem Tidy.move (h : l.Tidy) {m : Session.Move} {r : Result} (hr : l.move? id m = some r) :
    r.1.Tidy := by
  obtain ⟨t, t', reports, hfind, -, hid, hsession, hfading, hopened, hreports, -⟩ :=
    move?_spec hr
  have hle : ∀ x ∈ r.1.reports.toList, x.1 ≤ l.opened := by
    rw [hreports]
    intro x hx
    rcases List.mem_append.mp hx with hold | hnew
    · exact h.reports x hold
    · obtain ⟨report, -, rfl⟩ := List.mem_map.mp hnew
      exact (h.find? hfind).2
  cases hcurrent : l.isCurrent id with
  | true =>
      rw [hcurrent, if_pos rfl] at hsession hfading
      refine h.congr ?_ hfading hopened hle
      intro s hs
      obtain ⟨u, hu, huid⟩ := isCurrent_iff.mp hcurrent
      obtain rfl := Option.some.inj (hsession.symm.trans hs)
      exact ⟨u, hu, hid.trans huid.symm⟩
  | false =>
      rw [hcurrent] at hsession hfading
      simp only [Bool.false_eq_true, if_false] at hsession hfading
      have hmem : ∀ u ∈ renew t' l.fading,
          u.isOver = false ∧ ∃ v ∈ l.fading, u.id = v.id := by
        intro u hu
        obtain ⟨hover, hold | ⟨rfl, v, hv, hvid⟩⟩ := mem_renew hu
        · exact ⟨hover, u, hold, rfl⟩
        · exact ⟨hover, v, hv, hvid.symm⟩
      refine ⟨fun s hs => ?_, fun u hu => ?_, by rwa [hopened]⟩
      · rw [hsession] at hs
        obtain ⟨hpos, hlt, hne⟩ := h.current s hs
        rw [hopened, hfading]
        refine ⟨hpos, hlt, fun u hu => ?_⟩
        obtain ⟨-, v, hv, huv⟩ := hmem u hu
        rw [huv]
        exact hne v hv
      · rw [hfading] at hu
        obtain ⟨hover, v, hv, huv⟩ := hmem u hu
        obtain ⟨hpos, hlt, -⟩ := h.fading v hv
        rw [huv, hopened]
        exact ⟨hpos, hlt, hover⟩

theorem Tidy.pass (h : l.Tidy) (id : Nat) (r : Report) : (l.pass id r).1.Tidy := by
  unfold Link.pass
  split
  · split
    · exact h
    · exact h
    · exact h
    · exact h.dropSession
  · exact h

theorem Tidy.act (h : l.Tidy) (a : Act) : (l.act a).1.Tidy := by
  cases a with
  | establish peer socket raised? => exact h.establish peer socket raised?
  | drop => exact h.dropSession
  | send p =>
      simp only [Link.act, send]
      split
      · exact h
      · next s hs =>
          split
          · refine h.congr ?_ rfl rfl h.reports
            rintro _ ⟨⟩
            exact ⟨s, hs, rfl⟩
          · exact h
  | close =>
      simp only [Link.act, close]
      split
      · exact h
      · next s hs =>
          refine h.congr ?_ rfl rfl h.reports
          rintro _ ⟨⟩
          refine ⟨s, hs, ?_⟩
          split <;> rfl
  | report =>
      cases hr : l.takeReport? with
      | none => simpa only [Link.act, hr, Option.getD_none] using h
      | some r =>
          simp only [Link.act, hr, Option.getD_some]
          unfold takeReport? at hr
          split at hr
          · cases hr
          · next number report rest hpop =>
              cases hr
              have hrest : Tidy { l with reports := rest } :=
                ⟨h.current, h.fading, fun x hx => h.reports x (by
                  rw [Fifo.toList_of_pop? hpop]
                  exact List.mem_cons_of_mem _ hx)⟩
              exact hrest.pass number report
  | move id m =>
      cases hr : l.move? id m with
      | none => simpa only [Link.act, hr, Option.getD_none] using h
      | some r => simpa only [Link.act, hr, Option.getD_some] using h.move hr

end Link

end FlightLink.Transport
