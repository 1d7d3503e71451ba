import FlightLink.Proofs.Controller.Admission
import FlightLink.Proofs.History
import FlightLink.Proofs.Transport.Change

/-!
# Sessions are isolated on the receiving side

Sessions that were dropped still report, and a new session may be opened before
their reports are taken.  A link tells its controller of one session at a time
nevertheless: what it passes on between the start of a connection and its end
stems from the session that was opened with it.  Since the controller forgets what
it has received when a connection starts, every message that it hands to its
channel is cut from the bytes of one session only.

For this, everything told is tagged with the number of the session that it stems
from.  The tags are read by no step.
-/

namespace FlightLink.Transport

/-- A signal and the session that it stems from: that which reported it, and for
the start of a connection that which was opened with it. -/
abbrev Told := Option Nat × Signal

/-- Whether a signal passes on what a session has received or sent. -/
def Signal.isReported : Signal → Bool
  | received _ | sent _ => true
  | _ => false

/-- Whether a connection has started or come to its end. -/
def Signal.change? : Signal → Option Bool
  | connected up => some up
  | _ => none

namespace Told

/-- The session that is connected after a signal. -/
def follow (current? : Option Nat) (x : Told) : Option Nat :=
  match x.2 with
  | .connected true => x.1
  | .connected false => none
  | _ => current?

/-- The session that is connected after what has been told. -/
def current? (told : List Told) : Option Nat :=
  told.foldl follow none

/-- The starts and ends of connections. -/
def changes (told : List Told) : List Bool :=
  told.filterMap fun x => x.2.change?

/-- The sessions that were opened. -/
def openings (told : List Told) : List (Option Nat) :=
  (told.filter fun x => x.2 = .connected true).map Prod.fst

/-- The bytes received from a session. -/
def bytesOf (id : Nat) (told : List Told) : List UInt8 :=
  told.flatMap fun x =>
    match x.2 with
    | .received bytes => if x.1 = some id then bytes.data.toList else []
    | _ => []

@[simp] theorem current?_concat (told : List Told) (x : Told) :
    current? (told ++ [x]) = follow (current? told) x :=
  List.foldl_concat ..

@[simp] theorem changes_concat (told : List Told) (x : Told) :
    changes (told ++ [x]) = changes told ++ x.2.change?.toList := by
  obtain ⟨id?, s⟩ := x
  cases s <;> simp [changes, Signal.change?]

theorem openings_concat (told : List Told) (x : Told) :
    openings (told ++ [x]) =
      openings told ++ if x.2 = .connected true then [x.1] else [] := by
  unfold openings
  rw [List.filter_append, List.map_append]
  by_cases h : x.2 = .connected true
  · simp [h]
  · simp [h]

theorem bytesOf_concat (id : Nat) (told : List Told) (x : Told) :
    bytesOf id (told ++ [x]) =
      bytesOf id told ++
        match x.2 with
        | .received bytes => if x.1 = some id then bytes.data.toList else []
        | _ => [] := by
  simp [bytesOf]

/-- A position between the start of a connection, on which this session was
opened, and the end of that connection. -/
def Within (told : List Told) (id i : Nat) : Prop :=
  ∃ j < i, told[j]? = some (some id, .connected true) ∧
    ∀ k, j < k → k < i → ∀ x, told[k]? = some x → x.2.change? = none

/-- What fits what has been told so far.  A connection starts with a session of
its own, and only after the end of the one before. -/
def Fits (told : List Told) (x : Told) : Prop :=
  match x.2 with
  | .connected true =>
    current? told = none ∧ x.1 = some ((openings told).length + 1)
  | .connected false => (current? told).isSome
  | .raised _ => ∃ id, told.getLast? = some (some id, .connected true)
  | .received _ | .sent _ => x.1.isSome ∧ current? told = x.1
  | .unsent _ | .log _ _ => True

/-- All that has been told fits; this session is connected, and so many have been
opened. -/
structure Isolated (told : List Told) (id? : Option Nat) (opened : Nat) : Prop where
  fits : Heralded Fits told
  current : current? told = id?
  opened : (openings told).length = opened

namespace Isolated

variable {told : List Told} {id? : Option Nat} {opened : Nat}

theorem nil : Isolated [] none 0 := ⟨.nil, rfl, rfl⟩

theorem other {x : Told} (h : Isolated told id? opened) (hfits : Fits told x)
    (hx : x.2.change? = none) : Isolated (told ++ [x]) id? opened := by
  obtain ⟨o, s⟩ := x
  refine ⟨h.fits.concat hfits, ?_, ?_⟩
  · rw [current?_concat, h.current]
    cases s with
    | connected up => cases hx
    | _ => rfl
  · rw [openings_concat, if_neg, List.append_nil, h.opened]
    rintro rfl
    cases hx

theorem log (h : Isolated told id? opened) (o : Option Nat) (severity : Severity)
    (text : String) : Isolated (told ++ [(o, .log severity text)]) id? opened :=
  h.other trivial rfl

theorem unsent (h : Isolated told id? opened) (o : Option Nat)
    (after? : Option Event) : Isolated (told ++ [(o, .unsent after?)]) id? opened :=
  h.other trivial rfl

theorem still (h : Isolated told id? opened) : Isolated (told ++ []) id? opened := by
  rw [List.append_nil]
  exact h

/-- The session that is connected passes something on. -/
theorem reported {id : Nat} (h : Isolated told (some id) opened) {s : Signal}
    (hs : s.isReported = true) : Isolated (told ++ [(some id, s)]) (some id) opened := by
  cases s with
  | received _ | sent _ => exact h.other ⟨rfl, h.current⟩ rfl
  | _ => cases hs

theorem down {id : Nat} (h : Isolated told (some id) opened) (o : Option Nat) :
    Isolated (told ++ [(o, .connected false)]) none opened := by
  refine ⟨h.fits.concat ?_, ?_, ?_⟩
  · show (current? told).isSome = true
    rw [h.current]
    rfl
  · rw [current?_concat]
    rfl
  · rw [openings_concat, if_neg (by simp), List.append_nil, h.opened]

theorem up (h : Isolated told none opened) :
    Isolated (told ++ [(some (opened + 1), .connected true)]) (some (opened + 1))
      (opened + 1) := by
  refine ⟨h.fits.concat ⟨h.current, ?_⟩, ?_, ?_⟩
  · rw [h.opened]
  · rw [current?_concat]
    rfl
  · rw [openings_concat, if_pos rfl, List.length_append, h.opened]
    rfl

end Isolated

end Told

namespace Link

open Told

/-! ## Operations -/

/-- What can be asked of a link, and what its sessions do by themselves.  Any report
of any session may be passed on at any time. -/
inductive Operation
  | establish (peer : SocketAddress) (socket : Network.Socket)
      (raised? : Option Event)
  | send (p : Parcel)
  | close
  | drop
  | pass (id : Nat) (r : Report)
  | move (id : Nat) (m : Session.Move)

/-- The link after an operation, and its outputs. -/
def operate (l : Link) : Operation → Result
  | .establish peer socket raised? => l.establish peer socket raised?
  | .send p => l.send p
  | .close => (l.close, [])
  | .drop => l.dropSession
  | .pass id r => l.pass id r
  | .move id m => (l.move? id m).getD (l, [])

/-- The session that a signal of an operation stems from. -/
def Operation.origin? (after : Link) : Operation → Signal → Option Nat
  | .establish _ _ _, .connected true => some after.opened
  | .pass id _, .received _ | .pass id _, .sent _ | .pass id _, .unsent _ => some id
  | _, _ => none

/-- The signals of outputs, each with its origin. -/
def tagged (origin? : Signal → Option Nat) (outputs : List Output) : List Told :=
  (signals outputs).map fun s => (origin? s, s)

/-- What is told in an operation. -/
def tell (l : Link) (operation : Operation) : List Told :=
  tagged (operation.origin? (l.operate operation).1) (l.operate operation).2

/-- A link and what it has told so far. -/
structure Account where
  link : Link
  told : List Told

namespace Account

/-- One operation. -/
def next (x : Account) (operation : Operation) : Account :=
  ⟨(x.link.operate operation).1, x.told ++ x.link.tell operation⟩

/-- Operations in order. -/
def run (x : Account) (operations : List Operation) : Account :=
  operations.foldl next x

/-- A link that has never been connected. -/
def idle : Account := ⟨.idle, []⟩

/-- What has been told is in step with the link. -/
def Sound (x : Account) : Prop :=
  Isolated x.told (x.link.session?.map Session.id) x.link.opened

end Account

/-! ## What an operation tells -/

variable {l : Link} {told : List Told}

theorem tagged_append (origin? : Signal → Option Nat) (outputs more : List Output) :
    tagged origin? (outputs ++ more) =
      tagged origin? outputs ++ tagged origin? more := by
  simp [tagged, signals]

theorem isolated_dropSession
    (h : Isolated told (l.session?.map Session.id) l.opened)
    (origin? : Signal → Option Nat) :
    Isolated (told ++ tagged origin? l.dropSession.2) none l.opened ∧
      l.dropSession.1.session? = none ∧ l.dropSession.1.opened = l.opened := by
  unfold dropSession
  cases hs : l.session? with
  | none =>
      rw [hs] at h
      exact ⟨h.still, hs, rfl⟩
  | some s =>
      rw [hs] at h
      refine ⟨?_, rfl, rfl⟩
      have hlog := h.log (origin? (.log .info s!"disconnected from {s.peer.text}"))
        .info s!"disconnected from {s.peer.text}"
      have hdown := hlog.down (origin? (.connected false))
      rw [List.append_assoc] at hdown
      exact hdown

theorem isolated_establish
    (h : Isolated told (l.session?.map Session.id) l.opened)
    (peer : SocketAddress) (socket : Network.Socket) (raised? : Option Event) :
    Isolated (told ++ l.tell (.establish peer socket raised?))
      (some (l.opened + 1)) (l.opened + 1) := by
  let origin? := (Operation.establish peer socket raised?).origin?
    (l.establish peer socket raised?).1
  obtain ⟨hdrop, -, hopened⟩ := isolated_dropSession h origin?
  have horigin : origin? (.connected true) = some (l.opened + 1) := by
    rw [← hopened]
    rfl
  have htell : l.tell (.establish peer socket raised?) =
      tagged origin? l.dropSession.2 ++
        [(none, .log .info s!"connected to {peer.text}")] ++
        [(some (l.opened + 1), .connected true)] ++
        raised?.toList.map fun e => (none, .raised e) := by
    rw [← horigin]
    show tagged origin? (_ ++ _ ++ _) = _
    rw [tagged_append, tagged_append, List.append_assoc, List.append_assoc,
      List.append_assoc]
    cases raised? <;> rfl
  have hup := (hdrop.log none .info s!"connected to {peer.text}").up
  rw [htell, ← List.append_assoc, ← List.append_assoc, ← List.append_assoc]
  cases raised? with
  | none =>
      rw [Option.toList_none, List.map_nil, List.append_nil]
      exact hup
  | some e => exact hup.other ⟨l.opened + 1, List.getLast?_concat⟩ rfl

/-- A packet is handed to the session, or refused. -/
theorem send_cases (l : Link) (p : Parcel) :
    (∃ s, l.session? = some s ∧
      l.send p = ({ l with session? := some (s.request (.packet p)) }, [])) ∨
    l.send p = (l, refusal p) := by
  unfold send
  split
  · exact .inr rfl
  · next s hs =>
      split
      · exact .inl ⟨s, hs, rfl⟩
      · exact .inr rfl

theorem isolated_send (h : Isolated told (l.session?.map Session.id) l.opened)
    (p : Parcel) (origin? : Signal → Option Nat) :
    Isolated (told ++ tagged origin? (l.send p).2)
      ((l.send p).1.session?.map Session.id) (l.send p).1.opened := by
  obtain ⟨s, hs, hsend⟩ | hsend := l.send_cases p
  · rw [hsend]
    rw [hs] at h
    exact h.still
  · rw [hsend]
    have hunsent := (h.log (origin? (.log .warning "no connection, packet dropped"))
      .warning "no connection, packet dropped").unsent
      (origin? (.unsent p.after?)) p.after?
    rw [List.append_assoc] at hunsent
    exact hunsent

/-- The reason for which a session has ended is logged. -/
theorem isolated_ended (h : Isolated told (l.session?.map Session.id) l.opened)
    (reason? : Option String) (origin? : Signal → Option Nat) :
    Isolated (told ++ tagged origin? (reason?.toList.map (.log .warning)))
      (l.session?.map Session.id) l.opened := by
  cases reason? with
  | none => exact h.still
  | some reason => exact h.log _ .warning reason

theorem isolated_pass (h : Isolated told (l.session?.map Session.id) l.opened)
    (id : Nat) (r : Report) :
    Isolated (told ++ l.tell (.pass id r))
      ((l.pass id r).1.session?.map Session.id) (l.pass id r).1.opened := by
  let origin? := (Operation.pass id r).origin? (l.pass id r).1
  show Isolated (told ++ tagged origin? (l.pass id r).2) _ _
  by_cases hid : l.session?.any (·.id == id)
  · have hcurrent : l.session?.map Session.id = some id := by
      simpa [Option.any_eq_true] using hid
    cases r with
    | received bytes =>
        simp only [pass, hid, if_true]
        rw [hcurrent] at h ⊢
        exact h.reported (s := .received bytes) rfl
    | sent e =>
        simp only [pass, hid, if_true]
        rw [hcurrent] at h ⊢
        exact h.reported (s := .sent e) rfl
    | unsent after? =>
        simp only [pass, hid, if_true]
        exact h.unsent (some id) after?
    | ended reason? =>
        have hpass : l.pass id (.ended reason?) =
            (l.dropSession.1, reason?.toList.map (.log .warning) ++ l.dropSession.2) := by
          simp only [pass, hid, if_true]
        rw [hpass, tagged_append, ← List.append_assoc]
        obtain ⟨hdrop, hsession, hopened⟩ :=
          isolated_dropSession (isolated_ended h reason? origin?) origin?
        rw [hsession, hopened]
        exact hdrop
  · have hpass : l.pass id r = (l, []) := by
      simp only [pass, hid, Bool.false_eq_true, if_false]
    rw [hpass]
    exact h.still

/-- What a session does by itself is only told once its report is passed on. -/
theorem operate_move (l : Link) (id : Nat) (m : Session.Move) :
    signals (l.operate (.move id m)).2 = [] ∧
      (l.operate (.move id m)).1.session?.map Session.id =
        l.session?.map Session.id ∧
      (l.operate (.move id m)).1.opened = l.opened := by
  cases hmove : l.move? id m with
  | none =>
      have hoperate : l.operate (.move id m) = (l, []) := by
        rw [operate, hmove, Option.getD_none]
      rw [hoperate]
      exact ⟨rfl, rfl, rfl⟩
  | some r =>
      have hoperate : l.operate (.move id m) = r := by
        rw [operate, hmove, Option.getD_some]
      rw [hoperate]
      obtain ⟨hopened, -, t, t', reports, hid, ht, -, hsession⟩ :=
        session_of_move? hmove
      refine ⟨?_, ?_, hopened⟩
      · unfold move? at hmove
        split at hmove
        · cases hmove
        · split at hmove
          · cases hmove
          · cases hmove
            show signals (socketOutputs _ _ m) = []
            unfold socketOutputs
            split <;> split <;> rfl
      · rcases hsession with ⟨hsome, hsome'⟩ | ⟨-, hsame⟩
        · rw [hsome, hsome', Option.map_some, Option.map_some,
            Session.id_of_move? ht]
        · rw [hsame]

theorem isolated_operate (h : Isolated told (l.session?.map Session.id) l.opened)
    (operation : Operation) :
    Isolated (told ++ l.tell operation)
      ((l.operate operation).1.session?.map Session.id)
      (l.operate operation).1.opened := by
  cases operation with
  | establish peer socket raised? =>
      have hopened := (isolated_dropSession h fun _ => none).2.2
      have hid : (l.operate (.establish peer socket raised?)).1.opened =
          l.opened + 1 := by
        rw [← hopened]
        rfl
      have hsession : (l.operate (.establish peer socket raised?)).1.session?.map
          Session.id = some (l.opened + 1) := by
        rw [← hopened]
        rfl
      rw [hid, hsession]
      exact isolated_establish h peer socket raised?
  | send p => exact isolated_send h p _
  | close =>
      show Isolated (told ++ []) (l.close.session?.map Session.id) l.close.opened
      have hclose : l.close.session?.map Session.id = l.session?.map Session.id ∧
          l.close.opened = l.opened := by
        unfold close
        split
        · exact ⟨rfl, rfl⟩
        · next s hs =>
            rw [hs]
            split <;> exact ⟨rfl, rfl⟩
      rw [List.append_nil, hclose.1, hclose.2]
      exact h
  | drop =>
      obtain ⟨hdrop, hsession, hopened⟩ := isolated_dropSession h
        (Operation.drop.origin? l.dropSession.1)
      show Isolated _ (l.dropSession.1.session?.map _) l.dropSession.1.opened
      rw [hsession, hopened]
      exact hdrop
  | pass id r => exact isolated_pass h id r
  | move id m =>
      obtain ⟨hsilent, hsession, hopened⟩ := operate_move l id m
      unfold tell tagged
      rw [hsilent, hsession, hopened, List.map_nil, List.append_nil]
      exact h

theorem Account.Sound.idle : Account.idle.Sound := .nil

theorem Account.Sound.run {x : Account} (h : x.Sound)
    (operations : List Operation) : (x.run operations).Sound := by
  induction operations generalizing x with
  | nil => exact h
  | cons operation rest ih => exact ih (isolated_operate h operation)

end Link

/-! ## What is told of one session -/

namespace Told

variable {told : List Told}

/-- The connection that is up has started at some time, and nothing has happened to
it since. -/
theorem within_of_current? {id : Nat} (h : current? told = some id) :
    Within told id told.length := by
  induction told using List.reverseRecOn with
  | nil => cases h
  | append_singleton told x ih =>
      rw [current?_concat] at h
      obtain ⟨o, s⟩ := x
      by_cases hs : s.change? = none
      · have hcurrent : current? told = some id := by
          cases s with
          | connected up => cases hs
          | _ => exact h
        obtain ⟨j, hj, hup, hsince⟩ := ih hcurrent
        refine ⟨j, ?_, ?_, ?_⟩
        · rw [List.length_append]
          exact Nat.lt_add_right _ hj
        · rw [List.getElem?_append_left hj]
          exact hup
        · intro k hjk hk y hy
          rcases getElem?_concat_cases hy with ⟨hlt, hy⟩ | ⟨-, rfl⟩
          · exact hsince k hjk hlt y hy
          · exact hs
      · cases s with
        | connected up =>
            cases up with
            | false => cases h
            | true =>
                have ho : o = some id := h
                subst ho
                refine ⟨told.length, ?_, List.getElem?_concat_length, ?_⟩
                · rw [List.length_append]
                  exact Nat.lt_succ_self _
                · intro k hlt hk
                  rw [List.length_append, List.length_singleton] at hk
                  omega
        | _ => exact absurd rfl hs

theorem within_of_take {id i : Nat} (hi : i ≤ told.length)
    (h : current? (told.take i) = some id) : Within told id i := by
  obtain ⟨j, hj, hup, hsince⟩ := within_of_current? h
  rw [List.length_take, Nat.min_eq_left hi] at hj hsince
  rw [List.getElem?_take_of_lt hj] at hup
  refine ⟨j, hj, hup, ?_⟩
  intro k hjk hki y hy
  refine hsince k hjk hki y ?_
  rw [List.getElem?_take_of_lt hki]
  exact hy

/-- Starts and ends of connections take turns. -/
theorem alternate (h : Heralded Fits told) :
    (∀ i up, (changes told)[i]? = some up → up = (i % 2 == 0)) ∧
      (changes told).length % 2 = (current? told).toList.length := by
  induction told using List.reverseRecOn with
  | nil => exact ⟨nofun, rfl⟩
  | append_singleton told x ih =>
      obtain ⟨hbefore, hx⟩ := h.of_concat
      obtain ⟨halternate, hparity⟩ := ih hbefore
      obtain ⟨o, s⟩ := x
      rw [changes_concat, current?_concat]
      cases s with
      | connected up =>
          have hup : up = ((changes told).length % 2 == 0) ∧
              ((changes told).length + 1) % 2 =
                (follow (current? told) (o, .connected up)).toList.length := by
            cases up with
            | true =>
                obtain ⟨hnone, ho⟩ : current? told = none ∧ o = some _ := hx
                rw [hnone] at hparity
                have heven : (changes told).length % 2 = 0 := hparity
                refine ⟨by rw [heven]; rfl, ?_⟩
                rw [Nat.add_mod, heven, ho]
                rfl
            | false =>
                obtain ⟨id, hid⟩ := Option.isSome_iff_exists.1 hx
                rw [hid] at hparity
                have hodd : (changes told).length % 2 = 1 := hparity
                refine ⟨by rw [hodd]; rfl, ?_⟩
                rw [Nat.add_mod, hodd]
                rfl
          refine ⟨?_, ?_⟩
          · intro i up' hi
            rcases getElem?_concat_cases hi with ⟨-, hi⟩ | ⟨rfl, rfl⟩
            · exact halternate i up' hi
            · exact hup.1
          · show (changes told ++ [up]).length % 2 = _
            rw [List.length_append]
            exact hup.2
      | received _ | sent _ | unsent _ | raised _ | log _ _ =>
          show (∀ i up, (changes told ++ [])[i]? = _ → _) ∧
            (changes told ++ []).length % 2 = (current? told).toList.length
          rw [List.append_nil]
          exact ⟨halternate, hparity⟩

/-- Sessions are numbered in the order in which they were opened. -/
theorem openings_eq (h : Heralded Fits told) :
    openings told = (List.range (openings told).length).map fun k => some (k + 1) := by
  induction told using List.reverseRecOn with
  | nil => rfl
  | append_singleton told x ih =>
      obtain ⟨hbefore, hx⟩ := h.of_concat
      obtain ⟨o, s⟩ := x
      rw [openings_concat]
      by_cases hs : s = .connected true
      · subst hs
        obtain ⟨-, ho⟩ : current? told = none ∧ o = some _ := hx
        rw [if_pos rfl, List.length_append, List.length_singleton, List.range_succ,
          List.map_append, ← ih hbefore, ho]
        rfl
      · rw [if_neg hs, List.append_nil]
        exact ih hbefore

/-- The number of the session that is connected has been used. -/
theorem current?_le (h : Heralded Fits told) {id : Nat}
    (hid : current? told = some id) : id ≤ (openings told).length := by
  induction told using List.reverseRecOn with
  | nil => cases hid
  | append_singleton told x ih =>
      obtain ⟨hbefore, hx⟩ := h.of_concat
      obtain ⟨o, s⟩ := x
      rw [current?_concat] at hid
      rw [openings_concat, List.length_append]
      cases s with
      | connected up =>
          cases up with
          | true =>
              obtain ⟨-, ho⟩ : current? told = none ∧ o = some _ := hx
              have ho' : o = some id := hid
              rw [ho, Option.some.injEq] at ho'
              rw [if_pos rfl, List.length_singleton]
              exact Nat.le_of_eq ho'.symm
          | false => cases hid
      | received _ | sent _ | unsent _ | raised _ | log _ _ =>
          exact Nat.le_add_right_of_le (ih hbefore hid)

/-- Nothing has been received from a session that has not been opened. -/
theorem bytesOf_eq_nil (h : Heralded Fits told) {id : Nat}
    (hid : (openings told).length < id) : bytesOf id told = [] := by
  induction told using List.reverseRecOn with
  | nil => rfl
  | append_singleton told x ih =>
      obtain ⟨hbefore, hx⟩ := h.of_concat
      obtain ⟨o, s⟩ := x
      rw [openings_concat, List.length_append] at hid
      have hlt : (openings told).length < id := by omega
      rw [bytesOf_concat, ih hbefore hlt]
      cases s with
      | received bytes =>
          have hne : o ≠ some id := by
            intro ho
            obtain ⟨-, hcurrent⟩ : o.isSome ∧ current? told = o := hx
            have hle := current?_le hbefore (hcurrent.trans ho)
            omega
          show [] ++ (if o = some id then _ else []) = []
          rw [if_neg hne, List.append_nil]
      | _ => rfl

end Told

/-! ## What a controller hands to its channel -/

/-- The messages that a controller hands to its channel when it takes an input. -/
def handed (c : Controller) (i : Controller.Input) : List Message :=
  (c.inputs i).flatMap Channel.Input.arrivals

/-- A controller is fed with what a link has told: how many signals it has taken,
what it has become, and the messages that it has handed to its channel.  Whatever
else it takes in and carries out comes in between at any time, and so do changes of
its timers. -/
inductive Fed (config : Config) (told : List Told) :
    Nat → Controller → List Message → Prop where
  | init : Fed config told 0 (.ofConfig config) []
  | signal {n : Nat} {c : Controller} {messages : List Message} {x : Told}
      (h : Fed config told n c messages) (hx : told[n]? = some x) :
      Fed config told (n + 1) (c.take (.signal x.2)).1
        (messages ++ handed c (.signal x.2))
  | other {n : Nat} {c : Controller} {messages : List Message}
      {i : Controller.Input} (h : Fed config told n c messages)
      (hi : ∀ s, i ≠ .signal s) :
      Fed config told n (c.take i).1 (messages ++ handed c i)
  | perform {n : Nat} {c : Controller} {messages : List Message} {now : Nat}
      {r : Controller.Result} (h : Fed config told n c messages)
      (hr : c.performNext? now = some r) : Fed config told n r.1 messages
  | timers {n : Nat} {c : Controller} {messages : List Message}
      (h : Fed config told n c messages) (timers : TimerBank) :
      Fed config told n { c with timers } messages

namespace Fed

open Told

variable {config : Config} {told : List Told} {n : Nat} {c : Controller}
  {messages : List Message}

/-- What is left to be cut after an input. -/
theorem rest_of_take (c : Controller) {i : Controller.Input}
    (hi : ∀ s, i ≠ .signal s) : (c.take i).1.received = c.received ∧ handed c i = [] := by
  rw [Controller.take_received]
  cases i with
  | signal s => exact absurd rfl (hi s)
  | _ => exact ⟨rfl, rfl⟩

/-- Nothing has been received from a session that has just been connected. -/
theorem bytesOf_of_connected (hfits : Heralded Fits told) {x : Told}
    (hx : told[n]? = some x) {up : Bool} (hs : x.2 = .connected up) {id : Nat}
    (hid : current? (told.take n ++ [x]) = some id) : bytesOf id (told.take n ++ [x]) = [] := by
  have hfitsx := hfits n x hx
  obtain ⟨o, s⟩ := x
  obtain rfl : s = .connected up := hs
  rw [current?_concat] at hid
  cases up with
  | false => cases hid
  | true =>
      obtain ⟨-, ho⟩ : current? (told.take n) = none ∧ o = some _ := hfitsx
      have hid' : o = some id := hid
      rw [ho, Option.some.injEq] at hid'
      have hnone := bytesOf_eq_nil (hfits.take n)
        (Nat.lt_of_lt_of_eq (Nat.lt_succ_self _) hid')
      rw [bytesOf_concat, hnone]
      rfl

/-- Bytes come from the session that is connected. -/
theorem exists_session_of_received (hfits : Heralded Fits told) {o : Option Nat}
    {bytes : ByteArray} (hx : told[n]? = some (o, .received bytes)) :
    ∃ id, o = some id ∧ current? (told.take n) = some id ∧
      bytesOf id (told.take n ++ [(o, .received bytes)]) =
        bytesOf id (told.take n) ++ bytes.data.toList := by
  obtain ⟨hsome, hcurrent⟩ : o.isSome ∧ current? (told.take n) = o := hfits n _ hx
  obtain ⟨id, rfl⟩ := Option.isSome_iff_exists.1 hsome
  refine ⟨id, rfl, hcurrent, ?_⟩
  rw [bytesOf_concat]
  simp

/-- What has been received and not been cut is the end of what the session that is
connected has received.  Every message is cut from what some session has received. -/
theorem received (hfits : Heralded Fits told) (h : Fed config told n c messages) :
    (∀ id, current? (told.take n) = some id →
      c.received = (Framing.cutAll (bytesOf id (told.take n))).2) ∧
    ∀ m ∈ messages, ∃ id, Controller.Framed (bytesOf id (told.take n)) m := by
  induction h with
  | init => exact ⟨nofun, nofun⟩
  | @signal n c messages x h hx ih =>
      obtain ⟨hreceived, hframed⟩ := ih
      have hold : ∀ m ∈ messages,
          ∃ id, Controller.Framed (bytesOf id (told.take n ++ [x])) m := by
        intro m hm
        obtain ⟨id, hid⟩ := hframed m hm
        refine ⟨id, ?_⟩
        rw [bytesOf_concat]
        exact hid.append _
      have hnew : handed c (.signal x.2) = [] → ∀ m ∈ messages ++ handed c (.signal x.2),
          ∃ id, Controller.Framed (bytesOf id (told.take n ++ [x])) m := by
        intro hnone
        rw [hnone, List.append_nil]
        exact hold
      rw [take_add_one_of_getElem? hx, Controller.take_received]
      obtain ⟨o, s⟩ := x
      cases s with
      | connected up =>
          refine ⟨?_, hnew rfl⟩
          intro id hid
          rw [bytesOf_of_connected hfits hx rfl hid]
          exact (congrArg Prod.snd Framing.cutAll_nil).symm
      | received bytes =>
          obtain ⟨id, rfl, hcurrent, hbytes⟩ := exists_session_of_received hfits hx
          refine ⟨?_, ?_⟩
          · intro id' hid'
            rw [current?_concat] at hid'
            obtain rfl := Option.some.inj (hcurrent.symm.trans hid')
            rw [hbytes, Framing.cutAll_append_cutAll, ← hreceived id hcurrent]
            rfl
          · intro m hm
            rcases List.mem_append.1 hm with hm | hm
            · exact hold m hm
            · refine ⟨id, ?_⟩
              rw [hbytes]
              exact Controller.framed_of_mem_arrivals (hreceived id hcurrent) bytes m hm
      | sent _ | unsent _ | raised _ | log _ _ =>
          refine ⟨?_, hnew rfl⟩
          intro id hid
          rw [current?_concat] at hid
          rw [bytesOf_concat, List.append_nil]
          exact hreceived id hid
  | other h hi ih =>
      obtain ⟨hrest, hhanded⟩ := rest_of_take _ hi
      rw [hrest, hhanded, List.append_nil]
      exact ih
  | perform h hr ih =>
      obtain ⟨a, rest, -, rfl⟩ := Controller.exists_perform_of_performNext? hr
      rw [(Controller.follows_perform _ _ a).2.1]
      exact ih
  | timers h timers ih => exact ih

end Fed

namespace Link.Account

open Told

/-- Over any operations, the starts and ends of connections take turns, a start
first, and every start opens the next session.  An admission is told right after a
start.  What is told as received or sent stems from the session that was opened at
the latest start, and no connection has started or come to its end in between.  A
controller that is fed with all this hands to its channel only messages that are
cut from the bytes of one session. -/
theorem sessions_isolated (config : Config) (operations : List Operation) :
    let told := (Account.idle.run operations).told
    (∀ i up, (changes told)[i]? = some up → up = (i % 2 == 0)) ∧
    openings told = (List.range (openings told).length).map (fun k => some (k + 1)) ∧
    (∀ i o e, told[i]? = some (o, .raised e) →
      ∃ j id, i = j + 1 ∧ told[j]? = some (some id, .connected true)) ∧
    (∀ i o s, told[i]? = some (o, s) → s.isReported = true →
      ∃ id, o = some id ∧ Within told id i) ∧
    (∀ taken c messages, Fed config told taken c messages →
      ∀ m ∈ messages, ∃ id, Controller.Framed (bytesOf id (told.take taken)) m) := by
  intro told
  have hfits : Heralded Fits told := (Sound.idle.run operations).fits
  refine ⟨(alternate hfits).1, openings_eq hfits, ?_, ?_, ?_⟩
  · intro i o e hi
    obtain ⟨id, hid⟩ := hfits i _ hi
    have hlt := (List.getElem?_eq_some_iff.1 hi).1
    obtain ⟨j, hj, hup⟩ := getElem?_of_getLast?_take (Nat.le_of_lt hlt) hid
    exact ⟨j, id, hj, hup⟩
  · intro i o s hi hs
    have hcurrent : o.isSome ∧ current? (told.take i) = o := by
      have hx := hfits i _ hi
      cases s with
      | received _ | sent _ => exact hx
      | _ => cases hs
    obtain ⟨id, rfl⟩ := Option.isSome_iff_exists.1 hcurrent.1
    have hlt := (List.getElem?_eq_some_iff.1 hi).1
    exact ⟨id, rfl, within_of_take (Nat.le_of_lt hlt) hcurrent.2⟩
  · intro taken c messages hfed
    exact (Fed.received hfits hfed).2

/-- What the first of two sessions reports late is not passed on; what the second
one reports stems from it. -/
theorem sessions_isolated_reopened :
    let peer : SocketAddress := ⟨.loopback, .number 8500⟩
    let operations : List Operation :=
      [.establish peer ⟨1, .dialer⟩ none, .drop, .establish peer ⟨2, .dialer⟩ none,
        .pass 1 (.received ⟨#[1]⟩), .pass 2 (.received ⟨#[2]⟩)]
    let told := (Account.idle.run operations).told
    told[6]? = some (some 2, .received ⟨#[2]⟩) ∧ told[7]? = none ∧
      ∃ id, some 2 = some id ∧ Within told id 6 := by
  intro peer operations told
  have hlast : told[6]? = some (some 2, .received ⟨#[2]⟩) := by decide +kernel
  refine ⟨hlast, by decide +kernel, ?_⟩
  exact (sessions_isolated (.sample .client) operations).2.2.2.1 6 _ _ hlast rfl

end Link.Account

end FlightLink.Transport
