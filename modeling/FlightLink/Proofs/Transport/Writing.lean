import FlightLink.Proofs.History
import FlightLink.Proofs.Transport.Packets

/-!
# What a session writes

The writing half of a session takes packets one after another.  At any time it has
written some of them as a whole and perhaps a part of the next one, and nothing of those
that follow, or that were passed after a request to close.  Each of its moves takes it
further, and reports on no packet but the one it is at.
-/

namespace FlightLink.Transport

/-- How far a session has got with what it was asked for. -/
structure Progress where
  /-- The packets written as a whole. -/
  whole : List Parcel
  /-- What it was asked for after them. -/
  ahead : List Request
  /-- The bytes written after those of whole packets. -/
  part : List UInt8

/-- The packets that come next, up to a request to close. -/
def Progress.rest (p : Progress) : List Parcel :=
  (p.ahead.takeWhile (· ≠ .close)).filterMap Request.parcel?

namespace Session

/-- Whether a move is one of the writing half. -/
def Move.isWriters : Move → Bool
  | takeRequest | write _ | failWriting _ | stopWriting => true
  | receive _ | reachEnd | failReading _ | stopReading => false

/-- What a move writes down in the history of its session. -/
def entries (s : Session) (m : Move) (s' : Session) : List Entry :=
  match m with
  | .write count =>
    match s.writer with
    | .writing p n => [.wrote ((p.bytes.data.toList.drop n).take count)]
    | _ => []
  | .failWriting _ => [.failed]
  | .reachEnd | .failReading _ | .stopReading => [.cancelled]
  | .takeRequest => if s'.writer = .done then [.finished] else []
  | .receive _ | .stopWriting => []

/-- A move neither asks for anything nor tells of a packet. -/
theorem entries_silent (s : Session) (m : Move) (s' : Session) :
    ∀ e ∈ s.entries m s', e.request? = none ∧ e.answer? = none := by
  intro e he
  cases m with
  | write count =>
      simp only [entries] at he
      split at he
      · obtain rfl := List.mem_singleton.mp he
        exact ⟨rfl, rfl⟩
      · cases he
  | takeRequest =>
      simp only [entries] at he
      split at he
      · obtain rfl := List.mem_singleton.mp he
        exact ⟨rfl, rfl⟩
      · cases he
  | failWriting text | reachEnd | failReading text | stopReading =>
      obtain rfl := List.mem_singleton.mp he
      exact ⟨rfl, rfl⟩
  | receive bytes | stopWriting => cases he

/-- A session has got as far as its history tells.  What it will do besides what it was
asked for is in `extra`: a session that has been dropped will close. -/
structure Writes (s : Session) (h : List Entry) (extra : List Request) (p : Progress) :
    Prop where
  closing : ∀ r ∈ extra, r = .close
  requests : Entry.requests h = p.whole.map .packet ++ p.ahead
  written : Entry.written h = p.whole.flatMap (·.bytes.data.toList) ++ p.part
  part : p.part = [] ∨
    ∃ q rest, p.ahead = .packet q :: rest ∧ p.part <+: q.bytes.data.toList
  waiting : s.writer = .waiting → p.part = [] ∧ s.requests.toList = p.ahead ++ extra
  writing : ∀ q n, s.writer = .writing q n →
    ∃ rest, p.ahead = .packet q :: rest ∧ s.requests.toList = rest ++ extra ∧
      p.part = q.bytes.data.toList.take n ∧ n ≤ q.bytes.size
  finished : .finished ∈ h → s.writer = .done ∧ (p.ahead ++ extra).head? = some .close
  stopped : s.writer = .done ∨ s.cancelled = true →
    .finished ∈ h ∨ .failed ∈ h ∨ .cancelled ∈ h

namespace Writes

variable {s s' : Session} {h : List Entry} {extra : List Request} {p : Progress}

theorem ofConnection (id : Nat) (peer : SocketAddress) (socket : Network.Socket) :
    (Session.ofConnection id peer socket).Writes [] [] ⟨[], [], []⟩ where
  closing := nofun
  requests := rfl
  written := rfl
  part := .inl rfl
  waiting _ := ⟨rfl, rfl⟩
  writing := nofun
  finished := nofun
  stopped := by simp [Session.ofConnection]

theorem packets (hw : s.Writes h extra p) :
    Entry.packets h = p.whole ++ p.ahead.filterMap Request.parcel? := by
  have hwhole : (p.whole.map Request.packet).filterMap Request.parcel? = p.whole := by
    simp [List.filterMap_map, Function.comp_def, Request.parcel?]
  rw [Entry.packets_eq, hw.requests, List.filterMap_append, hwhole]

/-- Something happens that has nothing to do with what is asked for or written. -/
theorem other (hw : s.Writes h extra p) {es : List Entry}
    (hes : ∀ e ∈ es, e.request? = none ∧ e.bytes = [] ∧ e ≠ .finished)
    (hwriter : s'.writer = s.writer) (hrequests : s'.requests = s.requests)
    (hcancelled : s'.cancelled = true → s.cancelled = true ∨ .cancelled ∈ es) :
    s'.Writes (h ++ es) extra p := by
  have hnone : Entry.requests es = [] := List.filterMap_eq_nil_iff.mpr fun e he => (hes e he).1
  have hsilent : Entry.written es = [] := List.flatMap_eq_nil_iff.mpr fun e he => (hes e he).2.1
  refine ⟨hw.closing, ?_, ?_, hw.part, ?_, ?_, ?_, ?_⟩
  · rw [Entry.requests_append, hnone, List.append_nil, hw.requests]
  · rw [Entry.written_append, hsilent, List.append_nil, hw.written]
  · rw [hwriter, hrequests]
    exact hw.waiting
  · rw [hwriter, hrequests]
    exact hw.writing
  · rw [hwriter]
    intro hmem
    rcases List.mem_append.mp hmem with hold | hnew
    · exact hw.finished hold
    · exact absurd rfl (hes _ hnew).2.2
  · rw [hwriter]
    have hbefore : s.writer = .done ∨ s.cancelled = true →
        .finished ∈ h ++ es ∨ .failed ∈ h ++ es ∨ .cancelled ∈ h ++ es := fun hdone =>
      (hw.stopped hdone).imp (List.mem_append_left _)
        (Or.imp (List.mem_append_left _) (List.mem_append_left _))
    rintro (hdone | hcancel)
    · exact hbefore (.inl hdone)
    · rcases hcancelled hcancel with hold | hnew
      · exact hbefore (.inr hold)
      · exact .inr (.inr (List.mem_append_right _ hnew))

/-- The session is asked for something more.  If its writing half is done, it takes no
notice of it. -/
theorem ask (hw : s.Writes h [] p) {e : Entry} {r : Request} (hr : e.request? = some r)
    (hwriter : s'.writer = s.writer) (hcancelled : s'.cancelled = true →
      s.writer = .done ∨ s.cancelled = true)
    (hrequests : s.writer ≠ .done → s'.requests = s.requests.push r) :
    s'.Writes (h ++ [e]) [] { p with ahead := p.ahead ++ [r] } := by
  have hwritten : Entry.written [e] = [] := by
    cases e <;> first | rfl | cases hr
  have hmem : ∀ e', e'.request? = none → (e' ∈ h ++ [e] ↔ e' ∈ h) := by
    intro e' he'
    simp only [List.mem_append, List.mem_singleton, or_iff_left_iff_imp]
    rintro rfl
    rw [hr] at he'
    cases he'
  have hpush : s.writer ≠ .done → s'.requests.toList = s.requests.toList ++ [r] := fun hdone => by
    rw [hrequests hdone, Fifo.toList_push]
  refine ⟨nofun, ?_, ?_, ?_, ?_, ?_, ?_, ?_⟩
  · have hsingle : Entry.requests [e] = [r] := by
      rw [Entry.requests, List.filterMap_cons, hr]
      rfl
    rw [Entry.requests_append, hsingle, hw.requests, List.append_assoc]
  · rw [Entry.written_append, hwritten, List.append_nil, hw.written]
  · refine hw.part.imp_right ?_
    rintro ⟨q, rest, hahead, hprefix⟩
    exact ⟨q, rest ++ [r], by rw [hahead, List.cons_append], hprefix⟩
  · rw [hwriter]
    intro hwaiting
    obtain ⟨hpart, hqueue⟩ := hw.waiting hwaiting
    refine ⟨hpart, ?_⟩
    rw [hpush (by simp [hwaiting]), hqueue, List.append_nil, List.append_nil]
  · rw [hwriter]
    intro q n hwriting
    obtain ⟨rest, hahead, hqueue, hpart, hle⟩ := hw.writing q n hwriting
    refine ⟨rest ++ [r], by rw [hahead, List.cons_append], ?_, hpart, hle⟩
    rw [hpush (by simp [hwriting]), hqueue, List.append_nil, List.append_nil]
  · rw [hwriter, hmem _ rfl]
    intro hfinished
    obtain ⟨hdone, hhead⟩ := hw.finished hfinished
    refine ⟨hdone, ?_⟩
    rw [List.append_nil] at hhead ⊢
    rw [List.head?_append, hhead]
    rfl
  · rw [hwriter, hmem _ rfl, hmem _ rfl, hmem _ rfl]
    exact fun hdone => hw.stopped (hdone.elim .inl hcancelled)

/-- Before the session is dropped, there is nothing to be done besides what it was asked
for; then it will close. -/
theorem dismiss (hw : s.Writes h [] p) {es : List Entry}
    (hes : ∀ e ∈ es, e.request? = none ∧ e.bytes = [] ∧ e ≠ .finished)
    (hmem : .cancelled ∈ es) : s.dismiss.Writes (h ++ es) [.close] p := by
  have hafter : s.cancel.Writes (h ++ es) [] p :=
    hw.other hes rfl rfl fun _ => .inr hmem
  have hqueue : s.dismiss.requests.toList = s.requests.toList ++ [.close] :=
    Fifo.toList_push _ _
  refine ⟨by simp, hafter.requests, hafter.written, hafter.part, ?_, ?_, ?_, hafter.stopped⟩
  · intro hwaiting
    obtain ⟨hpart, hbefore⟩ := hw.waiting hwaiting
    rw [hqueue, hbefore, List.append_nil]
    exact ⟨hpart, rfl⟩
  · intro q n hwriting
    obtain ⟨rest, hahead, hbefore, hpart, hle⟩ := hw.writing q n hwriting
    refine ⟨rest, hahead, ?_, hpart, hle⟩
    rw [hqueue, hbefore, List.append_nil]
  · intro hfinished
    obtain ⟨hdone, hhead⟩ := hafter.finished hfinished
    refine ⟨hdone, ?_⟩
    rw [List.append_nil] at hhead
    rw [List.head?_append, hhead]
    rfl

theorem packets_beforeClose (hw : s.Writes h extra p) :
    Entry.packets (Entry.beforeClose h) = p.whole ++ p.rest := by
  have hwhole : (p.whole.map Request.packet).filterMap Request.parcel? = p.whole := by
    simp [List.filterMap_map, Function.comp_def, Request.parcel?]
  rw [Entry.packets_beforeClose, hw.requests, List.takeWhile_append_of_pos (by simp),
    List.filterMap_append, hwhole]
  rfl

theorem part_prefix (hw : s.Writes h extra p) :
    p.part = [] ∨ ∃ q ∈ p.rest.head?, p.part <+: q.bytes.data.toList := by
  refine hw.part.imp_right ?_
  rintro ⟨q, rest, hahead, hprefix⟩
  refine ⟨q, ?_, hprefix⟩
  rw [Progress.rest, hahead]
  rfl

/-- Once a request to close has taken effect, there is nothing left to be written. -/
theorem rest_of_finished (hw : s.Writes h extra p) (hfinished : .finished ∈ h) :
    p.rest = [] := by
  obtain ⟨-, hhead⟩ := hw.finished hfinished
  rw [Progress.rest]
  cases hahead : p.ahead with
  | nil => rfl
  | cons r ahead =>
      rw [hahead, List.cons_append, List.head?_cons, Option.some.injEq] at hhead
      subst hhead
      rfl

/-- A session that has neither failed nor been cancelled writes all there is to be
written. -/
theorem rest_of_still (hw : s.Writes h extra p)
    (hstill : s.writer = .done ∨ s.writer = .waiting ∧ s.requests.toList = [])
    (hfailed : .failed ∉ h)
    (hcancelled : ∀ before after, h = before ++ .cancelled :: after → .finished ∈ before) :
    p.rest = [] := by
  rcases hstill with hdone | ⟨hwaiting, hqueue⟩
  · rcases hw.stopped (.inl hdone) with hmem | hmem | hmem
    · exact hw.rest_of_finished hmem
    · exact absurd hmem hfailed
    · obtain ⟨before, after, hsplit⟩ := List.append_of_mem hmem
      refine hw.rest_of_finished ?_
      rw [hsplit]
      exact List.mem_append_left _ (hcancelled before after hsplit)
  · obtain ⟨-, hahead⟩ := hw.waiting hwaiting
    rw [hqueue] at hahead
    rw [Progress.rest, (List.append_eq_nil_iff.mp hahead.symm).1]
    rfl

end Writes

/-- A writing half that has nothing to do is done, or waits for something to be asked. -/
theorem done_or_waiting {s : Session}
    (hstill : ∀ m : Move, m.isWriters = true → s.move? m = none) :
    s.writer = .done ∨ s.writer = .waiting ∧ s.requests.toList = [] := by
  cases hwriter : s.writer with
  | done => exact .inl rfl
  | waiting =>
      refine .inr ⟨rfl, Fifo.pop?_eq_none_iff.mp ?_⟩
      have htake : s.takeRequest? = none := hstill .takeRequest rfl
      rw [takeRequest?, if_pos hwriter] at htake
      split at htake
      · assumption
      · cases htake
      · cases htake
  | writing q n =>
      have hfail : s.breakOff? (some "write failed: ") = none := hstill (.failWriting "") rfl
      rw [breakOff?, hwriter] at hfail
      cases hfail

/-! ## What a move writes -/

namespace Writes

variable {s s' : Session} {h es : List Entry} {extra : List Request} {p : Progress}
  {q : Parcel}

/-- A packet is taken from the queue.  What the session will do besides what it was asked
for is no packet. -/
theorem begun (hw : s.Writes h extra p) (hwaiting : s.writer = .waiting)
    {requests : Fifo Request} (hpop : s.requests.pop? = some (.packet q, requests)) :
    Session.Writes { s with requests := requests, writer := .writing q 0 } h extra p := by
  obtain ⟨hpart, hqueue⟩ := hw.waiting hwaiting
  rw [Fifo.toList_of_pop? hpop] at hqueue
  obtain ⟨rest, hahead, hrest⟩ :
      ∃ rest, p.ahead = .packet q :: rest ∧ requests.toList = rest ++ extra := by
    cases hp : p.ahead with
    | nil =>
        rw [hp, List.nil_append] at hqueue
        have hclose := hw.closing (.packet q) (by rw [← hqueue]; exact List.mem_cons_self)
        cases hclose
    | cons r rest =>
        rw [hp, List.cons_append, List.cons.injEq] at hqueue
        exact ⟨rest, by rw [hqueue.1], hqueue.2⟩
  refine ⟨hw.closing, hw.requests, hw.written, hw.part, nofun, ?_, fun hfinished => ?_, ?_⟩
  · rintro _ _ ⟨⟩
    exact ⟨rest, hahead, hrest, hpart, Nat.zero_le _⟩
  · rw [(hw.finished hfinished).1] at hwaiting
    cases hwaiting
  · rintro (hdone | hcancelled)
    · cases hdone
    · exact hw.stopped (.inr hcancelled)

/-- A request to close takes effect. -/
theorem finish (hw : s.Writes h extra p) (hwaiting : s.writer = .waiting)
    {requests : Fifo Request} (hpop : s.requests.pop? = some (.close, requests))
    (reports : List Report) (reason? : Option String) :
    (endWriting { s with requests := requests } reports reason?).1.Writes
      (h ++ [.finished]) extra p := by
  obtain ⟨-, hqueue⟩ := hw.waiting hwaiting
  refine ⟨hw.closing, ?_, ?_, hw.part, nofun, nofun, fun _ => ⟨rfl, ?_⟩,
    fun _ => .inl (List.mem_append_right _ (List.mem_singleton_self _))⟩
  · rw [Entry.requests_append, hw.requests]
    exact List.append_nil _
  · rw [Entry.written_append, hw.written]
    exact List.append_nil _
  · rw [← hqueue, Fifo.toList_of_pop? hpop]
    rfl

/-- The writing half stops before it is asked to close. -/
theorem stop (hw : s.Writes h extra p) (hgoes : s.writer ≠ .done)
    (hes : ∀ e ∈ es, e.request? = none ∧ e.bytes = [] ∧ e ≠ .finished)
    (hcause : s.cancelled = true ∨ .failed ∈ es) (reports : List Report)
    (reason? : Option String) : (s.endWriting reports reason?).1.Writes (h ++ es) extra p := by
  have hother : s.Writes (h ++ es) extra p := hw.other hes rfl rfl .inl
  refine ⟨hw.closing, hother.requests, hother.written, hother.part, nofun, nofun,
    fun hfinished => absurd (hother.finished hfinished).1 hgoes, fun _ => ?_⟩
  rcases hcause with hcancelled | hfailed
  · exact hother.stopped (.inr hcancelled)
  · exact .inr (.inl (List.mem_append_right _ hfailed))

/-- Further bytes of a packet are written. -/
theorem wrote (hw : s.Writes h extra p) {n count : Nat} (hwriting : s.writer = .writing q n)
    (hle : n + count ≤ q.bytes.size) :
    Session.Writes { s with writer := .writing q (n + count) }
      (h ++ [.wrote ((q.bytes.data.toList.drop n).take count)]) extra
      { p with part := q.bytes.data.toList.take (n + count) } := by
  obtain ⟨rest, hahead, hqueue, hpart, -⟩ := hw.writing q n hwriting
  refine ⟨hw.closing, ?_, ?_, .inr ⟨q, rest, hahead, List.take_prefix _ _⟩, nofun, ?_, ?_, ?_⟩
  · rw [Entry.requests_append, hw.requests]
    exact List.append_nil _
  · rw [Entry.written_append, hw.written, hpart, List.take_add, List.append_assoc]
    exact congrArg (_ ++ ·) (congrArg (_ ++ ·) (List.append_nil _))
  · rintro _ _ ⟨⟩
    exact ⟨rest, hahead, hqueue, rfl, hle⟩
  · intro hfinished
    have hbefore : .finished ∈ h := by simpa using hfinished
    rw [(hw.finished hbefore).1] at hwriting
    cases hwriting
  · rintro (hdone | hcancelled)
    · cases hdone
    · exact (hw.stopped (.inr hcancelled)).imp (List.mem_append_left _)
        (Or.imp (List.mem_append_left _) (List.mem_append_left _))

/-- All bytes of a packet have been written. -/
theorem complete (hw : s.Writes h extra p) {n : Nat} (hwriting : s.writer = .writing q n)
    (hsize : n = q.bytes.size) :
    ∃ rest, Session.Writes { s with writer := .waiting } h extra ⟨p.whole ++ [q], rest, []⟩ := by
  obtain ⟨rest, hahead, hqueue, hpart, -⟩ := hw.writing q n hwriting
  have hfull : q.bytes.data.toList.take n = q.bytes.data.toList := by
    rw [hsize]
    exact List.take_of_length_le (Nat.le_refl _)
  refine ⟨rest, hw.closing, ?_, ?_, .inl rfl, fun _ => ⟨rfl, hqueue⟩, nofun,
    fun hfinished => ?_, ?_⟩
  · rw [hw.requests, hahead, List.map_append, List.append_assoc]
    rfl
  · rw [hw.written, hpart, hfull, List.flatMap_append, List.flatMap_singleton, List.append_nil]
  · rw [(hw.finished hfinished).1] at hwriting
    cases hwriting
  · rintro (hdone | hcancelled)
    · cases hdone
    · exact hw.stopped (.inr hcancelled)

/-- The packet that is being written. -/
theorem getElem?_packets (hw : s.Writes h extra p) {n : Nat}
    (hwriting : s.writer = .writing q n) : (Entry.packets h)[p.whole.length]? = some q := by
  obtain ⟨rest, hahead, -⟩ := hw.writing q n hwriting
  rw [hw.packets, hahead, List.getElem?_append_right (Nat.le_refl _), Nat.sub_self]
  rfl

end Writes

/-! ## What a move reports -/

/-- What a move makes of the packets of a session: how far it has got afterwards, and the
verdicts that it reports.  No packet that has been written goes without a verdict, except
for those that have no event. -/
structure Advances (s s' : Session) (h es : List Entry) (extra : List Request)
    (reports : List Report) (p p' : Progress) (new : List Verdict) : Prop where
  writes : s'.Writes (h ++ es) extra p'
  reported : new.map (Verdict.signal? (Entry.packets h)) =
    (reports.filterMap Report.answer?).map some
  verdicts : ∀ vs, Verdicts s.writer (Entry.packets h).length p.whole.length vs →
    Verdicts s'.writer (Entry.packets h).length p'.whole.length vs ∧
      Verdicts s'.writer (Entry.packets h).length p'.whole.length (vs ++ new)
  covered : s'.writer ≠ .done → s.writer ≠ .done ∧
    ∀ n q, p'.whole[n]? = some q → q.after?.isSome = true →
      p.whole[n]? = some q ∨ n ∈ new.map Prod.fst

namespace Writes

variable {s s' : Session} {h es : List Entry} {extra : List Request} {p p' : Progress}
  {reports : List Report} {q : Parcel}

/-- A move that reports nothing of a packet. -/
theorem advances_of_none (hw : s'.Writes (h ++ es) extra p') (hwhole : p'.whole = p.whole)
    (hreports : reports.filterMap Report.answer? = [])
    (hwriter : s.writer = .done → s'.writer = .done) :
    s.Advances s' h es extra reports p p' [] := by
  refine ⟨hw, by rw [hreports]; rfl, fun vs hvs => ?_, fun hdone => ?_⟩
  · rw [List.append_nil, hwhole, and_self]
    exact hvs.mono (Nat.le_refl _) (Nat.le_refl _) fun hdone => ⟨hwriter hdone, rfl⟩
  · refine ⟨fun hbefore => hdone (hwriter hbefore), fun n q hq _ => .inl ?_⟩
    rwa [hwhole] at hq

/-- The packet that is being written is broken off. -/
theorem advances_breakOff (hw : s.Writes h extra p) {n : Nat}
    (hwriting : s.writer = .writing q n)
    (hes : ∀ e ∈ es, e.request? = none ∧ e.bytes = [] ∧ e ≠ .finished)
    (hcause : s.cancelled = true ∨ .failed ∈ es) (reason? : Option String) :
    s.Advances (s.endWriting [.unsent q.after?] reason?).1 h es extra
      [.unsent q.after?, .ended reason?] p p [(p.whole.length, false)] := by
  have hnth := hw.getElem?_packets hwriting
  have hlt := (List.getElem?_eq_some_iff.mp hnth).1
  have hgoes : s.writer ≠ .done := by simp [hwriting]
  refine ⟨hw.stop hgoes hes hcause _ _, ?_, fun vs hvs => ⟨?_, ?_⟩,
    fun hdone => absurd rfl hdone⟩
  · rw [List.map_singleton, Verdict.signal?, hnth]
    rfl
  · exact hvs.mono (Nat.le_refl _) (Nat.le_refl _) fun hdone => absurd hdone hgoes
  · have hfresh : p.whole.length ∉ (vs ++ []).map Prod.fst := by
      rw [List.append_nil]
      exact hvs.notMem hgoes
    have hunsent : Verdicts .done (Entry.packets h).length p.whole.length
        (vs ++ [(p.whole.length, false)] ++ []) :=
      Verdicts.unsent (by rwa [List.append_nil]) hfresh (Nat.le_refl _) hlt (Nat.le_refl _)
    rwa [List.append_nil] at hunsent

/-- The packet that is being written has been written as a whole. -/
theorem advances_complete (hw : s.Writes h extra p) {n : Nat}
    (hwriting : s.writer = .writing q n) {rest : List Request}
    (hafter : Session.Writes { s with writer := .waiting } (h ++ es) extra
      ⟨p.whole ++ [q], rest, []⟩) :
    ∃ new, s.Advances { s with writer := .waiting } h es extra (q.after?.toList.map .sent) p
      ⟨p.whole ++ [q], rest, []⟩ new := by
  have hnth := hw.getElem?_packets hwriting
  have hlt := (List.getElem?_eq_some_iff.mp hnth).1
  have hgoes : s.writer ≠ .done := by simp [hwriting]
  have hlength : (p.whole ++ [q]).length = p.whole.length + 1 := List.length_append
  have hmono : ∀ vs, Verdicts s.writer (Entry.packets h).length p.whole.length vs →
      Verdicts .waiting (Entry.packets h).length (p.whole ++ [q]).length vs := by
    intro vs hvs
    rw [hlength]
    exact hvs.mono (Nat.le_refl _) (Nat.le_succ _) fun hdone => absurd hdone hgoes
  have hcases : ∀ i r, (p.whole ++ [q])[i]? = some r →
      p.whole[i]? = some r ∨ i = p.whole.length ∧ r = q := fun i r hi =>
    (getElem?_concat_cases hi).imp_left (·.2)
  cases hevent : q.after? with
  | none =>
      refine ⟨[], hafter, rfl, fun vs hvs => ?_, fun _ => ⟨hgoes, fun i r hi hr => ?_⟩⟩
      · rw [List.append_nil, and_self]
        exact hmono vs hvs
      · refine (hcases i r hi).imp_right ?_
        rintro ⟨-, rfl⟩
        rw [hevent] at hr
        cases hr
  | some e =>
      refine ⟨[(p.whole.length, true)], hafter, ?_, fun vs hvs => ⟨hmono vs hvs, ?_⟩,
        fun _ => ⟨hgoes, fun i r hi _ => ?_⟩⟩
      · rw [List.map_singleton, Verdict.signal?, hnth]
        simp [Parcel.answer?, hevent, Report.answer?]
      · rw [hlength]
        exact hvs.sent hgoes hlt
      · refine (hcases i r hi).imp_right ?_
        rintro ⟨rfl, -⟩
        exact List.mem_singleton_self _

theorem advances_takeRequest (hw : s.Writes h extra p)
    (hm : s.takeRequest? = some (s', reports)) :
    ∃ p' new, s.Advances s' h (s.entries .takeRequest s') extra reports p p' new := by
  unfold takeRequest? at hm
  split at hm
  · next hwaiting =>
      have hgoes : s.writer ≠ .done := by simp [hwaiting]
      split at hm
      · cases hm
      · next q requests hpop =>
          cases hm
          refine ⟨p, [], advances_of_none ?_ rfl rfl fun hdone => absurd hdone hgoes⟩
          have hentries : h ++ s.entries .takeRequest
              { s with requests := requests, writer := .writing q 0 } = h := by
            simp [entries]
          rw [hentries]
          exact hw.begun hwaiting hpop
      · next requests hpop =>
          cases hm
          have hfinish := hw.finish hwaiting hpop [] (some "connection closed")
          exact ⟨p, [], advances_of_none hfinish rfl rfl fun hdone => absurd hdone hgoes⟩
  · cases hm

theorem advances_write (hw : s.Writes h extra p) {count : Nat}
    (hm : s.write? count = some (s', reports)) :
    ∃ p' new, s.Advances s' h (s.entries (.write count) s') extra reports p p' new := by
  unfold write? at hm
  split at hm
  · next q n hwriting =>
      have hentries : ∀ t, s.entries (.write count) t =
          [.wrote ((q.bytes.data.toList.drop n).take count)] := by
        simp [entries, hwriting]
      rw [hentries]
      split at hm
      · cases hm
      · next hsmall =>
          have hwrote := hw.wrote hwriting (Nat.le_of_not_lt hsmall)
          split at hm
          · next hsize =>
              cases hm
              obtain ⟨rest, hcomplete⟩ := hwrote.complete rfl hsize
              obtain ⟨new, hadvances⟩ := hw.advances_complete hwriting hcomplete
              exact ⟨_, new, hadvances⟩
          · cases hm
            exact ⟨_, [], advances_of_none hwrote rfl rfl fun hdone => by
              rw [hwriting] at hdone; cases hdone⟩
  · cases hm

theorem advances_breakOff? (hw : s.Writes h extra p) {reason? : Option String}
    (hm : s.breakOff? reason? = some (s', reports))
    (hes : ∀ e ∈ es, e.request? = none ∧ e.bytes = [] ∧ e ≠ .finished)
    (hcause : s.cancelled = true ∨ .failed ∈ es) :
    ∃ p' new, s.Advances s' h es extra reports p p' new := by
  unfold breakOff? at hm
  split at hm
  · next q n hwriting =>
      cases hm
      exact ⟨p, _, hw.advances_breakOff hwriting hes hcause reason?⟩
  · cases hm

/-- The writing half takes no notice when the reading half comes to its end. -/
theorem advances_endReading? (hw : s.Writes h extra p) {reason? : Option String}
    (hm : s.endReading? reason? = some (s', reports)) :
    ∃ p' new, s.Advances s' h [.cancelled] extra reports p p' new := by
  unfold endReading? at hm
  split at hm
  · cases hm
    exact ⟨p, [], advances_of_none (hw.other (by simp [Entry.request?, Entry.bytes]) rfl rfl
      fun _ => .inr (List.mem_singleton_self _)) rfl rfl fun hdone => hdone⟩
  · cases hm

/-- Every move takes a session further, or leaves it where it was. -/
theorem advances_of_move? (hw : s.Writes h extra p) {m : Move}
    (hm : s.move? m = some (s', reports)) :
    ∃ p' new, s.Advances s' h (s.entries m s') extra reports p p' new := by
  cases m with
  | receive bytes =>
      simp only [move?] at hm
      split at hm
      · cases hm
        exact ⟨p, [], advances_of_none (hw.other nofun rfl rfl .inl) rfl rfl
          fun hdone => hdone⟩
      · cases hm
  | reachEnd | failReading text => exact hw.advances_endReading? hm
  | stopReading =>
      simp only [move?] at hm
      split at hm
      · exact hw.advances_endReading? hm
      · cases hm
  | takeRequest => exact hw.advances_takeRequest hm
  | write count => exact hw.advances_write hm
  | failWriting text =>
      exact hw.advances_breakOff? hm (by simp [entries, Entry.request?, Entry.bytes])
        (.inr (List.mem_singleton_self _))
  | stopWriting =>
      simp only [move?] at hm
      split at hm
      · next hcancelled =>
          split at hm
          · next hwaiting =>
              cases hm
              have hgoes : s.writer ≠ .done := by simp [hwaiting]
              have hstop : (s.endWriting [] none).1.Writes (h ++ []) extra p :=
                hw.stop hgoes (by simp) (.inl hcancelled) [] none
              exact ⟨p, [], advances_of_none hstop rfl rfl fun hdone => absurd hdone hgoes⟩
          · exact hw.advances_breakOff? hm nofun (.inl hcancelled)
          · cases hm
      · cases hm

end Writes

end Session

end FlightLink.Transport
