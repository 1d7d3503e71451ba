import FlightLink.Transport.Session
import Mathlib.Data.List.Nodup
import Mathlib.Tactic.Tauto

/-!
# What happens to the packets of a session

The history of a session tells what it was asked for, what it has written, how its
halves came to their ends, and what the controller was told of its packets.

What is told of a packet is attributed to it by its number.  Events may be the same for
many packets, so the signals themselves do not say which one they are about.
-/

namespace FlightLink.Transport

/-- What happens to a session, as far as its packets are concerned. -/
inductive Entry where
  /-- A packet is passed to the session, which may refuse it. -/
  | passed (p : Parcel)
  /-- The session is asked to close. -/
  | closed
  | wrote (bytes : List UInt8)
  /-- A write fails. -/
  | failed
  /-- The reading half comes to its end, or the session is dropped. -/
  | cancelled
  /-- A request to close takes effect. -/
  | finished
  /-- The controller is told of a packet, or of the end of the connection. -/
  | told (s : Signal)
  deriving DecidableEq

/-- The packet of a request. -/
def Request.parcel? : Request → Option Parcel
  | packet p => some p
  | close => none

/-- What a report tells of a packet. -/
def Report.answer? : Report → Option Signal
  | sent e => some (.sent e)
  | unsent after? => some (.unsent after?)
  | received _ | ended _ => none

namespace Entry

/-- The packet that is passed. -/
def parcel? : Entry → Option Parcel
  | passed p => some p
  | _ => none

/-- What the session is asked for. -/
def request? : Entry → Option Request
  | passed p => some (.packet p)
  | closed => some .close
  | _ => none

/-- The bytes that are written. -/
def bytes : Entry → List UInt8
  | wrote bytes => bytes
  | _ => []

/-- What is told of a packet. -/
def answer? : Entry → Option Signal
  | told (.sent e) => some (.sent e)
  | told (.unsent after?) => some (.unsent after?)
  | _ => none

/-- The packets passed. -/
def packets (h : List Entry) : List Parcel :=
  h.filterMap parcel?

/-- All that the session was asked for. -/
def requests (h : List Entry) : List Request :=
  h.filterMap request?

/-- The bytes written. -/
def written (h : List Entry) : List UInt8 :=
  h.flatMap bytes

/-- All that was told of packets. -/
def answers (h : List Entry) : List Signal :=
  h.filterMap answer?

/-- The history up to the first request to close. -/
def beforeClose (h : List Entry) : List Entry :=
  h.takeWhile (· ≠ .closed)

@[simp] theorem packets_append (h h' : List Entry) :
    packets (h ++ h') = packets h ++ packets h' := List.filterMap_append

@[simp] theorem requests_append (h h' : List Entry) :
    requests (h ++ h') = requests h ++ requests h' := List.filterMap_append

@[simp] theorem written_append (h h' : List Entry) :
    written (h ++ h') = written h ++ written h' := List.flatMap_append

@[simp] theorem answers_append (h h' : List Entry) :
    answers (h ++ h') = answers h ++ answers h' := List.filterMap_append

theorem packets_eq (h : List Entry) :
    packets h = (requests h).filterMap Request.parcel? := by
  rw [packets, requests, List.filterMap_filterMap]
  congr 1
  funext e
  cases e <;> rfl

/-- Up to the first request to close, only packets are asked for. -/
theorem packets_beforeClose (h : List Entry) :
    packets (beforeClose h) =
      ((requests h).takeWhile (· ≠ .close)).filterMap Request.parcel? := by
  induction h with
  | nil => rfl
  | cons e rest ih =>
      cases e with
      | closed => rfl
      | passed p => exact congrArg (p :: ·) ih
      | _ => exact ih

variable {es : List Entry}

theorem requests_eq_nil (hes : ∀ e ∈ es, e.request? = none) : requests es = [] :=
  List.filterMap_eq_nil_iff.mpr hes

theorem packets_eq_nil (hes : ∀ e ∈ es, e.request? = none) : packets es = [] := by
  rw [packets_eq, requests_eq_nil hes]
  rfl

theorem answers_eq_nil (hes : ∀ e ∈ es, e.answer? = none) : answers es = [] :=
  List.filterMap_eq_nil_iff.mpr hes

/-- If no packet is passed after an entry, then that entry comes after each packet. -/
theorem mem_of_no_packets {before after front back : List Entry} {p : Parcel} {e : Entry}
    (hback : packets back = [])
    (h : before ++ .passed p :: after = front ++ e :: back) (he : e.parcel? = none) :
    e ∈ after := by
  rcases List.append_eq_append_iff.mp h with ⟨between, -, hafter⟩ | ⟨between, -, hrest⟩
  · rcases List.cons_eq_append_iff.mp hafter with ⟨-, heq⟩ | ⟨middle, -, rfl⟩
    · cases heq
      cases he
    · exact List.mem_append_right _ List.mem_cons_self
  · rcases List.cons_eq_append_iff.mp hrest with ⟨-, heq⟩ | ⟨middle, -, rfl⟩
    · cases heq
      cases he
    · rw [packets_append] at hback
      cases (List.append_eq_nil_iff.mp hback).2

/-- What is reported of packets is told as it is. -/
theorem answers_map_told (reports : List Report) :
    answers ((reports.filterMap Report.answer?).map .told) =
      reports.filterMap Report.answer? := by
  induction reports with
  | nil => rfl
  | cons r rest ih =>
      cases r with
      | sent e => exact congrArg (Signal.sent e :: ·) ih
      | unsent after? => exact congrArg (Signal.unsent after? :: ·) ih
      | received bytes | ended reason? => exact ih

end Entry

/-! ## Attributing reports to packets -/

/-- What is told of a packet once it has been written, or has not. -/
def Parcel.answer? (p : Parcel) : Bool → Option Signal
  | true => p.after?.map .sent
  | false => some (.unsent p.after?)

/-- A packet by its number, and whether it was written as a whole. -/
abbrev Verdict := Nat × Bool

/-- What is told of one of the packets. -/
def Verdict.signal? (packets : List Parcel) (v : Verdict) : Option Signal :=
  packets[v.1]?.bind (·.answer? v.2)

/-- What is told of packets does not depend on those that follow. -/
theorem Verdict.map_signal?_append {vs : List Verdict} {packets : List Parcel}
    (hvs : ∀ v ∈ vs, v.1 < packets.length) (more : List Parcel) :
    vs.map (signal? (packets ++ more)) = vs.map (signal? packets) := by
  refine List.map_congr_left fun v hv => ?_
  rw [signal?, signal?, List.getElem?_append_left (hvs v hv)]

/-- Verdicts on packets of which `whole` have been written as a whole, out of `total`:
each packet has one at most, and the favourable ones are in order.  There are others
only once the writing half is done. -/
structure Verdicts (writer : Writer) (total whole : Nat) (vs : List Verdict) : Prop where
  nodup : (vs.map Prod.fst).Nodup
  sent_iff : ∀ v ∈ vs, v.2 = true ↔ v.1 < whole
  ordered : ((vs.filter Prod.snd).map Prod.fst).Pairwise (· < ·)
  lt_total : ∀ v ∈ vs, v.1 < total
  done : ∀ v ∈ vs, v.2 = false → writer = .done

namespace Verdicts

variable {writer writer' : Writer} {total whole : Nat} {vs vs' : List Verdict}

theorem nil : Verdicts writer total whole [] := by
  constructor <;> simp

theorem sublist (h : Verdicts writer total whole vs) (hsub : vs'.Sublist vs) :
    Verdicts writer total whole vs' where
  nodup := h.nodup.sublist (hsub.map _)
  sent_iff v hv := h.sent_iff v (hsub.subset hv)
  ordered := h.ordered.sublist ((hsub.filter _).map _)
  lt_total v hv := h.lt_total v (hsub.subset hv)
  done v hv := h.done v (hsub.subset hv)

/-- Further packets may be passed, and written as long as the writing half is not
done. -/
theorem mono (h : Verdicts writer total whole vs) {total' whole' : Nat}
    (htotal : total ≤ total') (hwhole : whole ≤ whole')
    (hdone : writer = .done → writer' = .done ∧ whole' = whole) :
    Verdicts writer' total' whole' vs where
  nodup := h.nodup
  sent_iff v hv := by
    refine ⟨fun hsent => Nat.lt_of_lt_of_le ((h.sent_iff v hv).mp hsent) hwhole, ?_⟩
    intro hlt
    by_contra hunsent
    have hfalse : v.2 = false := by simpa using hunsent
    rw [(hdone (h.done v hv hfalse)).2] at hlt
    exact hunsent ((h.sent_iff v hv).mpr hlt)
  ordered := h.ordered
  lt_total v hv := Nat.lt_of_lt_of_le (h.lt_total v hv) htotal
  done v hv hfalse := (hdone (h.done v hv hfalse)).1

/-- As long as the writing half goes on, there are only verdicts on what it has
written. -/
theorem lt_whole (h : Verdicts writer total whole vs) (hwriter : writer ≠ .done)
    {v : Verdict} (hv : v ∈ vs) : v.1 < whole := by
  refine (h.sent_iff v hv).mp ?_
  by_contra hunsent
  exact hwriter (h.done v hv (by simpa using hunsent))

theorem notMem (h : Verdicts writer total whole vs) (hwriter : writer ≠ .done) :
    whole ∉ vs.map Prod.fst := by
  intro hmem
  obtain ⟨v, hv, heq⟩ := List.mem_map.mp hmem
  exact Nat.ne_of_lt (h.lt_whole hwriter hv) heq

/-- The next packet has been written. -/
theorem sent (h : Verdicts writer total whole vs) (hwriter : writer ≠ .done)
    (htotal : whole < total) :
    Verdicts writer' total (whole + 1) (vs ++ [(whole, true)]) := by
  have hlt : ∀ v ∈ vs ++ [(whole, true)], v.1 < whole + 1 ∧ v.2 = true := by
    intro v hv
    rcases List.mem_append.mp hv with hold | hnew
    · exact ⟨Nat.lt_succ_of_lt (h.lt_whole hwriter hold),
        (h.sent_iff v hold).mpr (h.lt_whole hwriter hold)⟩
    · obtain rfl := List.mem_singleton.mp hnew
      exact ⟨Nat.lt_succ_self whole, rfl⟩
  refine ⟨?_, fun v hv => ?_, ?_, fun v hv => ?_, fun v hv hfalse => ?_⟩
  · have hconcat := List.Nodup.concat (h.notMem hwriter) h.nodup
    rw [List.concat_eq_append] at hconcat
    rwa [List.map_append]
  · exact ⟨fun _ => (hlt v hv).1, fun _ => (hlt v hv).2⟩
  · rw [List.filter_append, List.map_append, List.pairwise_append]
    refine ⟨h.ordered, List.pairwise_singleton _ _, ?_⟩
    intro n hn m hm
    obtain ⟨v, hv, rfl⟩ := List.mem_map.mp hn
    obtain rfl : m = whole := by simpa using hm
    exact h.lt_whole hwriter (List.mem_of_mem_filter hv)
  · exact Nat.lt_of_lt_of_le (hlt v hv).1 htotal
  · rw [(hlt v hv).2] at hfalse
    cases hfalse

/-- One more packet will not be written. -/
theorem unsent (h : Verdicts writer total whole (vs ++ vs')) {n total' : Nat}
    (hn : n ∉ (vs ++ vs').map Prod.fst) (hwhole : whole ≤ n) (hlt : n < total')
    (htotal : total ≤ total') :
    Verdicts .done total' whole (vs ++ [(n, false)] ++ vs') := by
  have hcases : ∀ v ∈ vs ++ [(n, false)] ++ vs', v = (n, false) ∨ v ∈ vs ++ vs' := by
    intro v hv
    simp only [List.mem_append, List.mem_singleton] at hv ⊢
    tauto
  refine ⟨?_, fun v hv => ?_, ?_, fun v hv => ?_, fun _ _ _ => rfl⟩
  · rw [List.append_assoc, List.map_append, List.singleton_append, List.map_cons,
      List.nodup_middle, ← List.map_append]
    exact List.nodup_cons.mpr ⟨hn, h.nodup⟩
  · rcases hcases v hv with rfl | hold
    · simpa using hwhole
    · exact h.sent_iff v hold
  · have hfilter : (vs ++ [(n, false)] ++ vs').filter Prod.snd =
        (vs ++ vs').filter Prod.snd := by simp
    rw [hfilter]
    exact h.ordered
  · rcases hcases v hv with rfl | hold
    · exact hlt
    · exact Nat.lt_of_lt_of_le (h.lt_total v hold) htotal

end Verdicts

end FlightLink.Transport
