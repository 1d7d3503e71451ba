import FlightLink.Proofs.Transport.Due
import FlightLink.Proofs.Transport.Turns

/-!
# Every packet is accounted for

The bytes that a session writes are those of the packets passed to it, in order, and
what the controller is told of a packet is right.

Reports of a session that has been dropped get lost.  No packet is told of twice
nevertheless, and for those that are never told of there is the end of the connection.
The end of a transport is left out, since nobody is told anything any more.
-/

namespace FlightLink.Transport

theorem Session.done_of_isOver (s : Session) (h : s.isOver = true) : s.writer = .done := by
  have hhalves : s.reading = false ∧ s.isWriting = false := by simpa [isOver] using h
  simpa [isWriting] using hhalves.2

namespace Link

variable {id : Nat} {l l' : Link} {h es : List Entry}

/-- The writing half of a session, if it has not vanished, has nothing to do. -/
def WritesNothing (l : Link) (id : Nat) : Prop :=
  ∀ m : Session.Move, m.isWriters = true → l.move? id m = none

/-! ## The life of a session -/

/-- The current session, with its progress, the verdicts that have been told and those
that its reports are going to tell. -/
structure Current (id : Nat) (l : Link) (h : List Entry) (s : Session) (p : Progress)
    (vs due : List Verdict) : Prop where
  session : l.session? = some s
  number : s.id = id
  writes : s.Writes h [] p
  verdicts : Verdicts s.writer (Entry.packets h).length p.whole.length (vs ++ due)
  told : vs.map (Verdict.signal? (Entry.packets h)) = (Entry.answers h).map some
  waiting : due.map (Verdict.signal? (Entry.packets h)) =
    ((l.reportsOf id).filterMap Report.answer?).map some
  covered : s.writer ≠ .done → ∀ n q, p.whole[n]? = some q → q.after?.isSome = true →
    n ∈ (vs ++ due).map Prod.fst
  ending : s.cancelled = true → ∃ reason?, .ended reason? ∈ l.reportsOf id
  sound : s.Sound

/-- A session that has been dropped, as it was before it vanished.  The controller has
been told of the end of the connection since the last packet was passed. -/
structure Former (id : Nat) (l : Link) (h : List Entry) (s : Session)
    (extra : List Request) (p : Progress) (vs : List Verdict) : Prop where
  used : id ≤ l.opened
  apart : l.isCurrent id = false
  fading : l.fading.find? (·.id == id) = some s ∨
    l.fading.find? (·.id == id) = none ∧ s.writer = .done
  writes : s.Writes h extra p
  verdicts : Verdicts s.writer (Entry.packets h).length p.whole.length vs
  told : vs.map (Verdict.signal? (Entry.packets h)) = (Entry.answers h).map some
  down : ∃ before after, h = before ++ .told (.connected false) :: after ∧
    Entry.packets after = []

/-- Nothing has happened to a session that has not been opened. -/
structure Unopened (id : Nat) (l : Link) (h : List Entry) : Prop where
  number : id = 0 ∨ l.opened < id
  history : h = []

namespace Current

variable {s : Session} {p : Progress} {vs due : List Verdict}

theorem isCurrent (hc : Current id l h s p vs due) : l.isCurrent id = true :=
  isCurrent_iff.mpr ⟨s, hc.session, hc.number⟩

/-- All verdicts are on packets that have been passed. -/
theorem lt_packets (hc : Current id l h s p vs due) :
    ∀ v ∈ vs ++ due, v.1 < (Entry.packets h).length :=
  hc.verdicts.lt_total

/-- What is told stays what it is if further packets are passed. -/
theorem map_signal? (hc : Current id l h s p vs due) (more : List Parcel) :
    vs.map (Verdict.signal? (Entry.packets h ++ more)) = (Entry.answers h).map some ∧
      due.map (Verdict.signal? (Entry.packets h ++ more)) =
        ((l.reportsOf id).filterMap Report.answer?).map some := by
  rw [← hc.told, ← hc.waiting]
  exact ⟨Verdict.map_signal?_append (fun v hv => hc.lt_packets v (List.mem_append_left _ hv)) _,
    Verdict.map_signal?_append (fun v hv => hc.lt_packets v (List.mem_append_right _ hv)) _⟩

theorem ofConnection {peer : SocketAddress} {socket : Network.Socket}
    (hsession : l.session? = some (.ofConnection id peer socket))
    (hreports : l.reportsOf id = []) :
    Current id l [] (.ofConnection id peer socket) ⟨[], [], []⟩ [] [] where
  session := hsession
  number := rfl
  writes := .ofConnection id peer socket
  verdicts := .nil
  told := rfl
  waiting := by rw [hreports]; rfl
  covered _ _ _ hq := by cases hq
  ending := nofun
  sound := nofun

theorem asked (hc : Current id l h s p vs due) {s' : Session} {e : Entry} {r : Request}
    (hsession : l'.session? = some s') (hreports : l'.reportsOf id = l.reportsOf id)
    (hr : e.request? = some r)
    (hafter : s' = s.request r ∨ s.writer = .done ∧ s' = s.cancel) :
    Current id l' (h ++ [e]) s' { p with ahead := p.ahead ++ [r] } vs due := by
  have hanswers : Entry.answers [e] = [] := by
    cases e <;> first | rfl | cases hr
  have hkept : s'.id = s.id ∧ s'.writer = s.writer ∧
      (s'.cancelled = true → s.writer = .done ∨ s.cancelled = true) ∧
      (s.writer ≠ .done → s'.requests = s.requests.push r) := by
    rcases hafter with rfl | ⟨hdone, rfl⟩
    · exact ⟨rfl, rfl, .inr, fun _ => rfl⟩
    · exact ⟨rfl, rfl, fun _ => .inl hdone, fun hgoes => absurd hdone hgoes⟩
  obtain ⟨hid, hwriter, hcancelled, hrequests⟩ := hkept
  obtain ⟨htold, hdue⟩ := hc.map_signal? (Entry.packets [e])
  refine ⟨hsession, hid.trans hc.number, hc.writes.ask hr hwriter hcancelled hrequests, ?_,
    ?_, ?_, ?_, ?_, ?_⟩
  · rw [Entry.packets_append, List.length_append, hwriter]
    exact hc.verdicts.mono (Nat.le_add_right _ _) (Nat.le_refl _) fun hdone => ⟨hdone, rfl⟩
  · rw [Entry.packets_append, Entry.answers_append, hanswers, List.append_nil]
    exact htold
  · rw [Entry.packets_append, hreports]
    exact hdue
  · rw [hwriter]
    exact hc.covered
  · rw [hreports]
    exact fun hcancel => hc.ending ((hcancelled hcancel).elim hc.sound fun hold => hold)
  · intro hdone
    rw [hwriter] at hdone
    rcases hafter with rfl | ⟨-, rfl⟩
    · exact hc.sound hdone
    · rfl

/-- A packet that is refused is not written, and the controller is told so at once. -/
theorem refused (hc : Current id l h s p vs due) {q : Parcel} (hdone : s.writer = .done)
    (hsession : l'.session? = some s) (hreports : l'.reportsOf id = l.reportsOf id) :
    Current id l' (h ++ [.passed q, .told (.unsent q.after?)]) s
      { p with ahead := p.ahead ++ [.packet q] }
      (vs ++ [((Entry.packets h).length, false)]) due := by
  have hpackets : Entry.packets (h ++ [.passed q, .told (.unsent q.after?)]) =
      Entry.packets h ++ [q] := Entry.packets_append _ _
  have hwrites : s.Writes (h ++ [.passed q, .told (.unsent q.after?)]) []
      { p with ahead := p.ahead ++ [.packet q] } := by
    have hasked : s.Writes (h ++ [.passed q]) [] { p with ahead := p.ahead ++ [.packet q] } :=
      hc.writes.ask rfl rfl .inr fun hgoes => absurd hdone hgoes
    have hother : s.Writes (h ++ [.passed q] ++ [.told (.unsent q.after?)]) []
        { p with ahead := p.ahead ++ [.packet q] } :=
      hasked.other (by simp [Entry.request?, Entry.bytes]) rfl rfl .inl
    rwa [List.append_assoc] at hother
  obtain ⟨htold, hdue⟩ := hc.map_signal? [q]
  refine ⟨hsession, hc.number, hwrites, ?_, ?_, ?_, fun hgoes => absurd hdone hgoes, ?_,
    hc.sound⟩
  · have hfresh : (Entry.packets h).length ∉ (vs ++ due).map Prod.fst := by
      intro hmem
      obtain ⟨v, hv, heq⟩ := List.mem_map.mp hmem
      exact Nat.ne_of_lt (hc.lt_packets v hv) heq
    have hwhole : p.whole.length ≤ (Entry.packets h).length := by
      rw [hc.writes.packets, List.length_append]
      exact Nat.le_add_right _ _
    rw [hpackets, List.length_append, hdone]
    exact hc.verdicts.unsent hfresh hwhole (Nat.lt_succ_self _) (Nat.le_succ _)
  · have hlast : Verdict.signal? (Entry.packets h ++ [q]) ((Entry.packets h).length, false) =
        some (.unsent q.after?) := by
      rw [Verdict.signal?, List.getElem?_concat_length]
      rfl
    rw [hpackets, List.map_append, htold, List.map_singleton, hlast, Entry.answers_append,
      List.map_append]
    rfl
  · rw [hpackets, hreports]
    exact hdue
  · rw [hreports]
    exact hc.ending

/-- Reports that are taken are told. -/
theorem taken (hc : Current id l h s p vs due) (hsession : l'.session? = some s)
    {reports : List Report} (htaken : l.reportsOf id = reports ++ l'.reportsOf id)
    (hgoing : ∀ r ∈ reports, ∀ reason?, r ≠ .ended reason?) :
    ∃ vs' due',
      Current id l' (h ++ (reports.filterMap Report.answer?).map .told) s p vs' due' := by
  have hsilent : ∀ e ∈ (reports.filterMap Report.answer?).map Entry.told,
      e.request? = none ∧ e.bytes = [] ∧ e ≠ .finished := by
    intro e he
    obtain ⟨a, -, rfl⟩ := List.mem_map.mp he
    exact ⟨rfl, rfl, nofun⟩
  have hpackets : Entry.packets (h ++ (reports.filterMap Report.answer?).map .told) =
      Entry.packets h := by
    rw [Entry.packets_append, Entry.packets_eq_nil fun e he => (hsilent e he).1,
      List.append_nil]
  have hdue := hc.waiting
  rw [htaken, List.filterMap_append, List.map_append] at hdue
  obtain ⟨new, due', rfl, hnew, hrest⟩ := List.map_eq_append_iff.mp hdue
  refine ⟨vs ++ new, due', hsession, hc.number, hc.writes.other hsilent rfl rfl .inl, ?_, ?_,
    ?_, ?_, fun hcancelled => ?_, hc.sound⟩
  · rw [hpackets, List.append_assoc]
    exact hc.verdicts
  · rw [hpackets, List.map_append, hc.told, hnew, Entry.answers_append,
      Entry.answers_map_told, List.map_append]
  · rw [hpackets]
    exact hrest
  · rw [List.append_assoc]
    exact hc.covered
  · obtain ⟨reason?, hended⟩ := hc.ending hcancelled
    rw [htaken] at hended
    rcases List.mem_append.mp hended with hmem | hmem
    · exact absurd rfl (hgoing _ hmem reason?)
    · exact ⟨reason?, hmem⟩

theorem moved (hc : Current id l h s p vs due) {s' : Session} {m : Session.Move}
    {reports : List Report} (hmove : s.move? m = some (s', reports))
    (hsession : l'.session? = some s')
    (hqueued : l'.reportsOf id = l.reportsOf id ++ reports) :
    ∃ p' due', Current id l' (h ++ s.entries m s') s' p' vs due' := by
  obtain ⟨p', new, hadvances⟩ := hc.writes.advances_of_move? hmove
  have haccounts := Session.accounts_of_move? hmove
  have hsilent := s.entries_silent m s'
  have hpackets : Entry.packets (h ++ s.entries m s') = Entry.packets h := by
    rw [Entry.packets_append, Entry.packets_eq_nil fun e he => (hsilent e he).1,
      List.append_nil]
  refine ⟨p', due ++ new, hsession, ?_, hadvances.writes, ?_, ?_, ?_, ?_, ?_,
    haccounts.sound hc.sound⟩
  · rw [Session.id_of_move? hmove]
    exact hc.number
  · rw [hpackets, ← List.append_assoc]
    exact (hadvances.verdicts _ hc.verdicts).2
  · rw [hpackets, hc.told, Entry.answers_append,
      Entry.answers_eq_nil fun e he => (hsilent e he).2, List.append_nil]
  · rw [hpackets, List.map_append, hc.waiting, hadvances.reported, hqueued,
      List.filterMap_append, List.map_append]
  · intro hgoes n q hq hafter
    obtain ⟨hgoing, hcovered⟩ := hadvances.covered hgoes
    rw [← List.append_assoc, List.map_append, List.mem_append]
    exact (hcovered n q hq hafter).imp_left fun hold => hc.covered hgoing n q hold hafter
  · intro hcancelled
    rw [hqueued]
    rcases haccounts.ended hcancelled with hold | ⟨reason?, hended⟩
    · obtain ⟨reason?, hended⟩ := hc.ending hold
      exact ⟨reason?, List.mem_append_left _ hended⟩
    · exact ⟨reason?, List.mem_append_right _ hended⟩

/-- What has not been told of a session that is dropped gets lost. -/
theorem dropped (hc : Current id l h s p vs due) (htidy : l.Tidy)
    (hafter : l'.isCurrent id = false) (hfading : l'.fading = l.fade s)
    (hopened : l.opened ≤ l'.opened) :
    ∃ s' extra, Former id l' (h ++ [.cancelled, .told (.connected false)]) s' extra p vs := by
  obtain ⟨-, hused, hothers⟩ := htidy.current s hc.session
  rw [hc.number] at hused
  have hnone : l.fading.find? (·.id == id) = none := by
    rw [List.find?_eq_none]
    intro t ht hid
    exact hothers t ht ((beq_iff_eq.mp hid).trans hc.number.symm)
  have hsilent : ∀ e ∈ [Entry.cancelled, .told (.connected false)],
      e.request? = none ∧ e.bytes = [] ∧ e ≠ .finished := by
    simp [Entry.request?, Entry.bytes]
  have hpackets : Entry.packets (h ++ [.cancelled, .told (.connected false)]) =
      Entry.packets h := (Entry.packets_append _ _).trans (List.append_nil _)
  have hanswers : Entry.answers (h ++ [.cancelled, .told (.connected false)]) =
      Entry.answers h := (Entry.answers_append _ _).trans (List.append_nil _)
  have hverdicts : Verdicts s.writer
      (Entry.packets (h ++ [.cancelled, .told (.connected false)])).length
      p.whole.length vs := by
    rw [hpackets]
    exact hc.verdicts.sublist (List.sublist_append_left _ _)
  have hdown : ∃ before after, h ++ [.cancelled, .told (.connected false)] =
      before ++ .told (.connected false) :: after ∧ Entry.packets after = [] :=
    ⟨h ++ [.cancelled], [], (List.append_assoc h [.cancelled] _).symm, rfl⟩
  cases hover : s.isOver with
  | true =>
      refine ⟨s, [], Nat.le_trans hused hopened, hafter, .inr ⟨?_, s.done_of_isOver hover⟩,
        hc.writes.other hsilent rfl rfl .inl, hverdicts, ?_, hdown⟩
      · rw [hfading, fade, hover, if_pos rfl, hnone]
      · rw [hpackets, hanswers, hc.told]
  | false =>
      have hdismiss : s.dismiss.id = id := hc.number
      refine ⟨s.dismiss, [.close], Nat.le_trans hused hopened, hafter, .inl ?_,
        hc.writes.dismiss hsilent List.mem_cons_self, hverdicts, ?_, hdown⟩
      · rw [hfading, fade, hover, if_neg (by simp), List.find?_append, hnone]
        simp [hdismiss]
      · rw [hpackets, hanswers, hc.told]

end Current

namespace Former

variable {s : Session} {extra : List Request} {p : Progress} {vs : List Verdict}

/-- What a session does after it has been dropped is not told. -/
theorem faded (hf : Former id l h s extra p vs) {s' : Session} {m : Session.Move}
    {reports : List Report} (hmove : s.move? m = some (s', reports))
    (hafter : l'.isCurrent id = false)
    (hfound : l'.fading.find? (·.id == id) = if s'.isOver then none else some s')
    (hopened : l'.opened = l.opened) :
    ∃ p', Former id l' (h ++ s.entries m s') s' extra p' vs := by
  obtain ⟨p', new, hadvances⟩ := hf.writes.advances_of_move? hmove
  have hsilent := s.entries_silent m s'
  have hnone : Entry.packets (s.entries m s') = [] :=
    Entry.packets_eq_nil fun e he => (hsilent e he).1
  have hpackets : Entry.packets (h ++ s.entries m s') = Entry.packets h := by
    rw [Entry.packets_append, hnone, List.append_nil]
  refine ⟨p', hopened ▸ hf.used, hafter, ?_, hadvances.writes, ?_, ?_, ?_⟩
  · rw [hfound]
    cases hover : s'.isOver with
    | true => exact .inr ⟨rfl, s'.done_of_isOver hover⟩
    | false => exact .inl rfl
  · rw [hpackets]
    exact (hadvances.verdicts _ hf.verdicts).1
  · rw [hpackets, hf.told, Entry.answers_append,
      Entry.answers_eq_nil fun e he => (hsilent e he).2, List.append_nil]
  · obtain ⟨before, after, hsplit, hnew⟩ := hf.down
    refine ⟨before, after ++ s.entries m s', ?_, ?_⟩
    · rw [hsplit, List.append_assoc]
      rfl
    · rw [Entry.packets_append, hnew, hnone]
      rfl

end Former

/-- A session waits to be opened, is the current one, or has been dropped. -/
inductive Life (id : Nat) (l : Link) (h : List Entry) : Prop where
  | unopened (unopened : Unopened id l h)
  | current {s : Session} {p : Progress} {vs due : List Verdict}
      (current : Current id l h s p vs due)
  | former {s : Session} {extra : List Request} {p : Progress} {vs : List Verdict}
      (former : Former id l h s extra p vs)

theorem Current.turn {s : Session} {p : Progress} {vs due : List Verdict}
    (hc : Current id l h s p vs due) (htidy : l.Tidy) (hturn : Turn id l l' es) :
    Life id l' (h ++ es) := by
  have hsame : ∀ {t}, l.session? = some t → t = s := fun ht =>
    Option.some.inj (ht.symm.trans hc.session)
  have hnot : l.isCurrent id ≠ false := by simp [hc.isCurrent]
  cases hturn with
  | apart before => exact absurd before hnot
  | faded before => exact absurd before hnot
  | opened peer socket before =>
      obtain ⟨-, hle, -⟩ := htidy.current s hc.session
      rw [hc.number] at hle
      exact absurd before (Nat.not_lt_of_le hle)
  | asked before number session reports request after =>
      obtain rfl := hsame before
      exact .current (hc.asked session reports request after)
  | refused before number done session reports =>
      obtain rfl := hsame before
      exact .current (hc.refused done session reports)
  | told before number session reports taken going =>
      obtain rfl := hsame before
      obtain ⟨vs', due', hnext⟩ := hc.taken session taken going
      exact .current hnext
  | moved before number move session queued =>
      obtain rfl := hsame before
      obtain ⟨p', due', hnext⟩ := hc.moved move session queued
      exact .current hnext
  | dropped before number after fading opened =>
      obtain rfl := hsame before
      obtain ⟨s', extra, hnext⟩ := hc.dropped htidy after fading opened
      exact .former hnext

theorem Former.turn {s : Session} {extra : List Request} {p : Progress} {vs : List Verdict}
    (hf : Former id l h s extra p vs) (hturn : Turn id l l' es) : Life id l' (h ++ es) := by
  have hnot : ∀ {t}, l.session? = some t → t.id ≠ id := fun ht =>
    isCurrent_eq_false_iff.mp hf.apart _ ht
  cases hturn with
  | apart before after found opened unopened =>
      rw [List.append_nil]
      exact .former ⟨opened hf.used, after, by rw [found]; exact hf.fading, hf.writes,
        hf.verdicts, hf.told, hf.down⟩
  | opened peer socket before => exact absurd before (Nat.not_lt_of_le hf.used)
  | asked before number => exact absurd number (hnot before)
  | refused before number => exact absurd number (hnot before)
  | told before number => exact absurd number (hnot before)
  | moved before number => exact absurd number (hnot before)
  | dropped before number => exact absurd number (hnot before)
  | faded before after fading move found used =>
      rcases hf.fading with hfound | ⟨hnone, -⟩
      · obtain rfl := Option.some.inj (hfound.symm.trans fading)
        obtain ⟨p', hnext⟩ := hf.faded move after found used
        exact .former hnext
      · rw [hnone] at fading
        cases fading

theorem Unopened.turn (hu : Unopened id l h) (htidy : l.Tidy) (hturn : Turn id l l' es) :
    Life id l' (h ++ es) := by
  obtain ⟨hnumber, rfl⟩ := hu
  have hunused : ¬(0 < id ∧ id ≤ l.opened) := by
    rintro ⟨hpos, hle⟩
    exact hnumber.elim (Nat.ne_of_gt hpos) (Nat.not_lt_of_le hle)
  have hnot : ∀ {t}, l.session? = some t → t.id ≠ id := by
    rintro t ht rfl
    obtain ⟨hpos, hle, -⟩ := htidy.current t ht
    exact hunused ⟨hpos, hle⟩
  cases hturn with
  | apart before after found opened unopened =>
      exact .unopened ⟨hnumber.imp_right unopened, rfl⟩
  | opened peer socket before session reports =>
      exact .current (.ofConnection session reports)
  | asked before number => exact absurd number (hnot before)
  | refused before number => exact absurd number (hnot before)
  | told before number => exact absurd number (hnot before)
  | moved before number => exact absurd number (hnot before)
  | dropped before number => exact absurd number (hnot before)
  | @faded s _ _ _ before after fading =>
      obtain rfl : s.id = id := by simpa using List.find?_some fading
      obtain ⟨hpos, hle, -⟩ := htidy.fading s (List.mem_of_find?_eq_some fading)
      exact absurd ⟨hpos, hle⟩ hunused

theorem Life.turn (hlife : Life id l h) (htidy : l.Tidy) (hturn : Turn id l l' es) :
    Life id l' (h ++ es) := by
  cases hlife with
  | unopened hu => exact hu.turn htidy hturn
  | current hc => exact hc.turn htidy hturn
  | former hf => exact hf.turn hturn

/-- Whatever is done with a new link, its sessions live their lives. -/
theorem Book.life_run (id : Nat) (acts : List Act) :
    (run id acts).link.Tidy ∧ Life id (run id acts).link (run id acts).history := by
  induction acts using List.reverseRecOn with
  | nil =>
      refine ⟨tidy_idle, .unopened ⟨?_, rfl⟩⟩
      exact (Nat.eq_zero_or_pos id).imp_right fun hpos => hpos
  | append_singleton acts a ih =>
      obtain ⟨htidy, hlife⟩ := ih
      have hrun : run id (acts ++ [a]) = next id (run id acts) a := by
        rw [run, List.foldl_append]
        rfl
      rw [hrun]
      exact ⟨htidy.act a, hlife.turn htidy (turn_of_act htidy id a)⟩

/-! ## The accounts -/

/-- The packets passed to a session, before it was asked to close, are accounted for:
`whole` have been written as a whole, and `part` is what has been written of the first
one that is left. -/
structure Book.Accounted (id : Nat) (x : Book) (whole rest : List Parcel)
    (part : List UInt8) (verdicts : List Verdict) : Prop where
  packets : Entry.packets (Entry.beforeClose x.history) = whole ++ rest
  written : Entry.written x.history = whole.flatMap (·.bytes.data.toList) ++ part
  part : part = [] ∨ ∃ p ∈ rest.head?, part <+: p.bytes.data.toList
  /-- Once a request to close has taken effect, all packets have been written. -/
  finished : .finished ∈ x.history → rest = []
  /-- They are all written in the end if no write fails, and if nothing cancels the
  session before the request to close takes effect. -/
  drained : x.link.WritesNothing id → .failed ∉ x.history →
    (∀ before after, x.history = before ++ .cancelled :: after → .finished ∈ before) →
    rest = []
  /-- Each verdict is on another packet. -/
  nodup : (verdicts.map Prod.fst).Nodup
  sent_iff : ∀ v ∈ verdicts, v.2 = true ↔ v.1 < whole.length
  ordered : ((verdicts.filter Prod.snd).map Prod.fst).Pairwise (· < ·)
  /-- The verdicts are what the controller has been told. -/
  told : verdicts.map (Verdict.signal? (Entry.packets x.history)) =
    (Entry.answers x.history).map some
  /-- In the end there is a verdict on each packet that has an event, or the controller
  has been told of the end of the connection after the packet was passed. -/
  answered : x.link.WritesNothing id → x.link.reportsOf id = [] →
    ∀ before p after, x.history = before ++ .passed p :: after → p.after?.isSome = true →
      (Entry.packets before).length ∈ verdicts.map Prod.fst ∨
        .told (.connected false) ∈ after

/-- If a link has nothing to do for a session, then neither has the session. -/
theorem WritesNothing.done_or_waiting (hstill : l.WritesNothing id) {s : Session}
    (hfind : l.find? id = some s) :
    s.writer = .done ∨ s.writer = .waiting ∧ s.requests.toList = [] := by
  refine Session.done_or_waiting fun m hm => ?_
  have hnone := hstill m hm
  cases hmove : s.move? m with
  | none => rfl
  | some r => simp [move?, hfind, hmove] at hnone

/-- The accounts of a session that has been opened. -/
theorem Book.accounted_of_writes {s : Session} {extra : List Request} {p : Progress}
    {vs : List Verdict} (hw : s.Writes h extra p)
    (hv : Verdicts s.writer (Entry.packets h).length p.whole.length vs)
    (htold : vs.map (Verdict.signal? (Entry.packets h)) = (Entry.answers h).map some)
    (hstill : l.WritesNothing id →
      s.writer = .done ∨ s.writer = .waiting ∧ s.requests.toList = [])
    (hanswered : l.WritesNothing id → l.reportsOf id = [] →
      ∀ before q after, h = before ++ .passed q :: after → q.after?.isSome = true →
        (Entry.packets before).length ∈ vs.map Prod.fst ∨ .told (.connected false) ∈ after) :
    Accounted id ⟨l, h⟩ p.whole p.rest p.part vs where
  packets := hw.packets_beforeClose
  written := hw.written
  part := hw.part_prefix
  finished := hw.rest_of_finished
  drained hnothing := hw.rest_of_still (hstill hnothing)
  nodup := hv.nodup
  sent_iff := hv.sent_iff
  ordered := hv.ordered
  told := htold
  answered := hanswered

theorem Unopened.accounted (hu : Unopened id l h) : Book.Accounted id ⟨l, h⟩ [] [] [] [] := by
  obtain ⟨-, rfl⟩ := hu
  constructor <;> simp [Entry.beforeClose, Entry.packets, Entry.written, Entry.answers]

/-- The current session has reported on all that it has written, if no report waits. -/
theorem Current.accounted {s : Session} {p : Progress} {vs due : List Verdict}
    (hc : Current id l h s p vs due) :
    Book.Accounted id ⟨l, h⟩ p.whole p.rest p.part vs := by
  have hstill : l.WritesNothing id →
      s.writer = .done ∨ s.writer = .waiting ∧ s.requests.toList = [] := fun hnothing =>
    hnothing.done_or_waiting (find?_of_session hc.session hc.number)
  refine Book.accounted_of_writes hc.writes
    (hc.verdicts.sublist (List.sublist_append_left _ _)) hc.told hstill ?_
  intro hnothing hreports before q after hsplit hafter
  have hgoes : s.writer ≠ .done := by
    intro hdone
    obtain ⟨reason?, hended⟩ := hc.ending (hc.sound hdone)
    rw [hreports] at hended
    cases hended
  obtain ⟨hwaiting, hqueue⟩ := (hstill hnothing).resolve_left hgoes
  have hahead : p.ahead = [] := by
    obtain ⟨-, hrequests⟩ := hc.writes.waiting hwaiting
    rw [hqueue] at hrequests
    exact (List.append_eq_nil_iff.mp hrequests.symm).1
  have hpackets : Entry.packets h = p.whole := by
    rw [hc.writes.packets, hahead]
    exact List.append_nil _
  have hnth : p.whole[(Entry.packets before).length]? = some q := by
    rw [← hpackets, hsplit, Entry.packets_append,
      List.getElem?_append_right (Nat.le_refl _), Nat.sub_self]
    rfl
  have hdue : due = [] := by
    have hwaits := hc.waiting
    rw [hreports] at hwaits
    exact List.map_eq_nil_iff.mp hwaits
  have hcovered := hc.covered hgoes _ q hnth hafter
  rw [hdue, List.append_nil] at hcovered
  exact .inl hcovered

theorem Former.accounted {s : Session} {extra : List Request} {p : Progress}
    {vs : List Verdict} (hf : Former id l h s extra p vs) :
    Book.Accounted id ⟨l, h⟩ p.whole p.rest p.part vs := by
  refine Book.accounted_of_writes hf.writes hf.verdicts hf.told (fun hnothing => ?_) ?_
  · rcases hf.fading with hfound | ⟨-, hdone⟩
    · exact hnothing.done_or_waiting ((find?_of_not_isCurrent hf.apart).trans hfound)
    · exact .inl hdone
  · intro _ _ before q after hsplit _
    obtain ⟨front, back, hdown, hback⟩ := hf.down
    exact .inr (Entry.mem_of_no_packets hback (hsplit.symm.trans hdown) rfl)

/-- Whatever is done with a link and whatever its sessions do, in any order: the bytes
that one of them writes are those of the packets passed to it before it was asked to
close, in order, and each of them as a whole except perhaps the last.  All these packets
are written once the request to close takes effect, and, if no write fails and nothing
cancels the session before that, as soon as the session has nothing left to write.  Each
packet is reported as sent if it was written as a whole and as not sent otherwise, at
most once, and in order as far as it was sent.  A packet with an event is reported in
the end, or the end of the connection is told after it was passed. -/
theorem Book.packets_accounted (id : Nat) (acts : List Act) :
    ∃ whole rest part verdicts, (run id acts).Accounted id whole rest part verdicts := by
  obtain ⟨-, hlife⟩ := life_run id acts
  generalize run id acts = x at hlife ⊢
  cases hlife with
  | unopened hu => exact ⟨_, _, _, _, hu.accounted⟩
  | current hc => exact ⟨_, _, _, _, hc.accounted⟩
  | former hf => exact ⟨_, _, _, _, hf.accounted⟩

/-- A session is closed behind two packets, the first of which has an event, and writes
them in three pieces. -/
theorem Book.packets_accounted_closed :
    let peer : SocketAddress := ⟨.loopback, .number 8500⟩
    let p : Parcel := ⟨⟨#[1, 2, 3]⟩, some .localSetup⟩
    let q : Parcel := ⟨⟨#[4]⟩, none⟩
    let acts : List Act := [.establish peer ⟨1, .dialer⟩ none, .send p,
      .move 1 .takeRequest, .move 1 (.write 2), .send q, .close, .move 1 (.write 1),
      .move 1 .takeRequest, .move 1 (.write 1), .move 1 .takeRequest, .report, .report,
      .move 1 .stopReading, .report]
    let x := run 1 acts
    x.history =
        [.passed p, .wrote [1, 2], .passed q, .closed, .wrote [3], .wrote [4], .finished,
          .told (.sent .localSetup), .cancelled, .told (.connected false), .cancelled] ∧
      x.link.WritesNothing 1 ∧ x.link.reportsOf 1 = [] ∧
      ∃ whole part verdicts, x.Accounted 1 whole [] part verdicts := by
  intro peer p q acts x
  have hhistory : x.history =
      [.passed p, .wrote [1, 2], .passed q, .closed, .wrote [3], .wrote [4], .finished,
        .told (.sent .localSetup), .cancelled, .told (.connected false), .cancelled] := by
    decide +kernel
  have hgone : x.link.find? 1 = none := Option.isNone_iff_eq_none.mp (by decide +kernel)
  refine ⟨hhistory, fun m _ => by rw [move?, hgone], by decide +kernel, ?_⟩
  obtain ⟨whole, rest, part, verdicts, haccounted⟩ := packets_accounted 1 acts
  obtain rfl := haccounted.finished (by rw [hhistory]; decide)
  exact ⟨whole, part, verdicts, haccounted⟩

end Link

end FlightLink.Transport
