import FlightLink.Proofs.Json.Printing
import FlightLink.Settings.Document
import Mathlib.Data.List.Perm.Subperm

/-!
# Settings from their fields

Settings are assembled from the values of their fields.  A field may be missing if its
value is the default.  The fields may be the members of an object, in any order and with
members of other names among them, or the first items of an array.
-/

namespace FlightLink.Settings

open Json

/-! ## The fields -/

/-- The fields of settings with their values, in their order. -/
def members (s : Settings) : List (String × Json) :=
  match s.toJson with
  | .object members => members
  | _ => []

theorem toJson_eq (s : Settings) : s.toJson = .object s.members := rfl

theorem map_fst_members (s : Settings) : s.members.map Prod.fst = fieldNames := rfl

theorem nodup_map_fst_members (s : Settings) : (s.members.map Prod.fst).Nodup := by
  rw [map_fst_members]
  decide

theorem isScalar_of_mem_members {s : Settings} {field : String × Json} (h : field ∈ s.members) :
    IsScalar field.2 := by
  have hall : ∀ field ∈ s.members, IsScalar field.2 := by
    simp only [members, toJson, List.forall_mem_cons, List.not_mem_nil, false_imp_iff,
      implies_true, and_true]
    refine ⟨.nat _, .string _, .string _, .string _, .string _, .string _, .string _, .nat _,
      .nat _, .nat _, .nat _, .nat _, .string _, .nat _, ?_, .string _, .bool _, .string _⟩
    cases s.clientIp? with
    | none => exact .null
    | some ip => exact .string ip
  exact hall field h

/-- For each field there is its value, or nothing if it has its default. -/
def Supplies (find : Nat → String → Found) (s : Settings) : Prop :=
  ∀ (i : Nat) (field : String × Json), s.members[i]? = some field →
    find i field.1 = some (some field.2) ∨
    find i field.1 = some none ∧ ({} : Settings).members[i]? = some field

section

variable {s : Settings} {find : Nat → String → Found}

theorem Supplies.field_eq (h : Supplies find s) {α : Type} {read : Json → Option α}
    {i : Nat} {name : String} {value value' : Json} {a default : α}
    (hfield : s.members[i]? = some (name, value)) (hread : read value = some a)
    (hfield' : ({} : Settings).members[i]? = some (name, value'))
    (hread' : read value' = some default) : field (find i name) read default = some a := by
  rcases h i _ hfield with hfind | ⟨hfind, hdefault⟩
  · rw [hfind]
    exact hread
  · have hsame : value' = value := congrArg Prod.snd (Option.some.inj (hfield'.symm.trans hdefault))
    rw [hfind]
    show some default = some a
    rw [← hread, ← hread', hsame]

theorem readBelow_nat {bound n : Nat} (h : n < bound) : readBelow bound (.nat n) = some n := by
  show (if n < bound then some n else none) = some n
  rw [if_pos h]

theorem readUInt32_nat (n : UInt32) : readUInt32 (.nat n.toNat) = some n := by
  rw [readUInt32, readBelow_nat n.toNat_lt]
  exact congrArg some UInt32.ofNat_toNat

theorem readUInt64_nat (n : UInt64) : readUInt64 (.nat n.toNat) = some n := by
  rw [readUInt64, readBelow_nat n.toNat_lt]
  exact congrArg some UInt64.ofNat_toNat

theorem readStartState_name (state : StartState) :
    readStartState (.string state.name) = some state := by
  cases state <;> rfl

theorem readOptionalText_eq (text? : Option String) :
    readOptionalText (match text? with | none => .null | some text => .string text) =
      some text? := by
  cases text? <;> rfl

/-- Settings are assembled from their fields. -/
theorem Supplies.ofFields_eq (h : Supplies find s) : ofFields find = some s := by
  have hid : field (find 0 "id") readUInt32 0 = some s.id :=
    h.field_eq rfl (readUInt32_nat s.id) rfl rfl
  have hdataType : field (find 1 "data_type") readText "" = some s.dataType :=
    h.field_eq rfl rfl rfl rfl
  have hnetRole : field (find 2 "net_role") readText "" = some s.netRole :=
    h.field_eq rfl rfl rfl rfl
  have hlocalName : field (find 3 "local_name") readText "" = some s.localName :=
    h.field_eq rfl rfl rfl rfl
  have hlocalAtc : field (find 4 "local_atc") readText "" = some s.localAtc :=
    h.field_eq rfl rfl rfl rfl
  have hremoteName : field (find 5 "remote_name") readText "" = some s.remoteName :=
    h.field_eq rfl rfl rfl rfl
  have hremoteAtc : field (find 6 "remote_atc") readText "" = some s.remoteAtc :=
    h.field_eq rfl rfl rfl rfl
  have hintervalTs : field (find 7 "interval_ts") readUInt64 0 = some s.intervalTs :=
    h.field_eq rfl (readUInt64_nat s.intervalTs) rfl rfl
  have hintervalTr : field (find 8 "interval_tr") readUInt64 0 = some s.intervalTr :=
    h.field_eq rfl (readUInt64_nat s.intervalTr) rfl rfl
  have hintervalTi : field (find 9 "interval_ti") readUInt64 0 = some s.intervalTi :=
    h.field_eq rfl (readUInt64_nat s.intervalTi) rfl rfl
  have hreconnectTimeout :
      field (find 10 "reconnect_timeout") readUInt64 0 = some s.reconnectTimeout :=
    h.field_eq rfl (readUInt64_nat s.reconnectTimeout) rfl rfl
  have hlocalPort : field (find 11 "local_port") readUInt32 0 = some s.localPort :=
    h.field_eq rfl (readUInt32_nat s.localPort) rfl rfl
  have hremoteAddress : field (find 12 "remote_address") readText "" = some s.remoteAddress :=
    h.field_eq rfl rfl rfl rfl
  have hremotePort : field (find 13 "remote_port") readUInt32 0 = some s.remotePort :=
    h.field_eq rfl (readUInt32_nat s.remotePort) rfl rfl
  have hclientIp : field (find 14 "client_ip") readOptionalText none = some s.clientIp? :=
    h.field_eq rfl (readOptionalText_eq s.clientIp?) rfl rfl
  have hdataEncoding : field (find 15 "data_encoding") readText "" = some s.dataEncoding :=
    h.field_eq rfl rfl rfl rfl
  have hdebug : field (find 16 "debug") readFlag false = some s.debug :=
    h.field_eq rfl rfl rfl rfl
  have hstartState :
      field (find 17 "initial_state") readStartState .dataReady = some s.startState :=
    h.field_eq rfl (readStartState_name s.startState) rfl rfl
  simp only [ofFields, hid, hdataType, hnetRole, hlocalName, hlocalAtc, hremoteName, hremoteAtc,
    hintervalTs, hintervalTr, hintervalTi, hreconnectTimeout, hlocalPort, hremoteAddress,
    hremotePort, hclientIp, hdataEncoding, hdebug, hstartState, Option.bind_eq_bind,
    Option.bind_some]
  rfl

/-! ## Fields by name and by position -/

/-- A field has one name and a name has one field. -/
theorem filter_fst_eq {fields : List (String × Json)} (hnodup : (fields.map Prod.fst).Nodup)
    {field : String × Json} (h : field ∈ fields) :
    (fields.filter fun m => m.1 == field.1) = [field] := by
  induction fields with
  | nil => cases h
  | cons first fields ih =>
      rw [List.map_cons, List.nodup_cons] at hnodup
      rcases List.mem_cons.mp h with rfl | h
      · have hnone : (fields.filter fun m => m.1 == field.1) = [] := by
          rw [List.filter_eq_nil_iff]
          intro m hm
          simp only [beq_iff_eq]
          exact fun hsame => hnodup.1 (hsame ▸ List.mem_map_of_mem hm)
        rw [List.filter_cons_of_pos (by simp), hnone]
      · have hother : ¬ (first.1 == field.1) = true := by
          simp only [beq_iff_eq]
          exact fun hsame => hnodup.1 (hsame ▸ List.mem_map_of_mem h)
        rw [List.filter_cons, if_neg hother, ih hnodup.2 h]

theorem eq_of_fst_eq {fields : List (String × Json)} (hnodup : (fields.map Prod.fst).Nodup)
    {field field' : String × Json} (h : field ∈ fields) (h' : field' ∈ fields)
    (hname : field'.1 = field.1) : field' = field := by
  have hmem : field' ∈ fields.filter fun m => m.1 == field.1 := by
    rw [List.mem_filter]
    exact ⟨h', by simp [hname]⟩
  rw [filter_fst_eq hnodup h] at hmem
  exact List.mem_singleton.mp hmem

/-- Fields stand at the same position for all settings. -/
theorem getElem?_members_of_mem {i : Nat} {field : String × Json}
    (h : s.members[i]? = some field) {s' : Settings} (hmem : field ∈ s'.members) :
    s'.members[i]? = some field := by
  obtain ⟨j, hj⟩ := List.mem_iff_getElem?.mp hmem
  have hname : ∀ {s : Settings} {i : Nat}, s.members[i]? = some field →
      fieldNames[i]? = some field.1 := by
    intro s i h
    rw [← map_fst_members s, List.getElem?_map, h]
    rfl
  have hi := List.getElem?_eq_some_iff.mp (hname h)
  have hij : i = j := (List.getElem?_inj hi.1 (by decide)).mp ((hname h).trans (hname hj).symm)
  rw [hij, hj]

/-- Members give settings if they are fields of them, each at most once, and fields are left out
only where they are the default. -/
theorem supplies_findMember {ms fields : List (String × Json)}
    (hms : (ms.filter fun m => fieldNames.contains m.1) = fields)
    (hfields : fields.Subperm s.members)
    (hdefaults : ∀ field ∈ s.members, field ∈ fields ∨ field ∈ ({} : Settings).members) :
    Supplies (findMember ms) s := by
  intro i field hget
  have hmem : field ∈ s.members := List.mem_of_getElem? hget
  have hnodup : (fields.map Prod.fst).Nodup := by
    obtain ⟨part, hperm, hpart⟩ := hfields
    exact ((hperm.map Prod.fst).nodup_iff).mp
      ((hpart.map Prod.fst).nodup (nodup_map_fst_members s))
  have hfind : (ms.filter fun m => m.1 == field.1) = fields.filter fun m => m.1 == field.1 := by
    have hname : field.1 ∈ fieldNames := by
      rw [← map_fst_members s]
      exact List.mem_map_of_mem hmem
    rw [← hms, List.filter_filter]
    refine List.filter_congr fun m _ => ?_
    by_cases hm : m.1 = field.1
    · simp [hm, hname]
    · simp [hm]
  rw [findMember, hfind]
  by_cases hgiven : field ∈ fields
  · rw [filter_fst_eq hnodup hgiven]
    exact .inl rfl
  · have hnone : (fields.filter fun m => m.1 == field.1) = [] := by
      rw [List.filter_eq_nil_iff]
      intro m hm
      simp only [beq_iff_eq]
      intro hname
      have := eq_of_fst_eq (nodup_map_fst_members s) hmem (hfields.subset hm) hname
      exact hgiven (this ▸ hm)
    rw [hnone]
    exact .inr ⟨rfl, getElem?_members_of_mem hget ((hdefaults field hmem).resolve_left hgiven)⟩

/-- The first values give settings if the fields after them are those of the default. -/
theorem supplies_getElem? {n : Nat}
    (hdefaults : s.members.drop n = ({} : Settings).members.drop n) :
    Supplies (fun i _ => some ((s.members.take n).map Prod.snd)[i]?) s := by
  intro i field hget
  dsimp only
  by_cases hi : i < n
  · left
    rw [List.getElem?_map, List.getElem?_take_of_lt hi, hget]
    rfl
  · right
    have hnone : ((s.members.take n).map Prod.snd)[i]? = none := by
      rw [List.getElem?_eq_none_iff, List.length_map, List.length_take]
      omega
    have hdrop : ∀ s : Settings, s.members[i]? = (s.members.drop n)[i - n]? := by
      intro s
      rw [List.getElem?_drop]
      congr 1
      omega
    refine ⟨by rw [hnone], ?_⟩
    rw [hdrop, ← hdefaults, ← hdrop, hget]

end

end FlightLink.Settings
