import FlightLink.Proofs.Settings
import FlightLink.Timer.Bank
import Mathlib.Data.List.TakeWhile

/-!
# The rules of settings

What settings have to satisfy is a list of rules, in the order in which they are
tried.  A check succeeds if all of them hold.  Otherwise it fails with the fault of
the first rule that is broken, whatever is wrong with the rest.  A rule for one role
holds of all settings that do not name this role.
-/

namespace FlightLink

namespace Text

/-- The text has a character that is not blank. -/
def HasContent (text : String) : Prop := ∃ c ∈ text.toList, isBlank c = false

theorem allBlank_eq_true_iff {text : String} : allBlank text = true ↔ ¬ HasContent text := by
  simp [allBlank, HasContent]

/-- Nothing is left of a text without content. -/
theorem isEmpty_trim_eq_true_iff {text : String} :
    (trim text).isEmpty = true ↔ ¬ HasContent text := by
  have hrest : (∀ c ∈ text.toList.dropWhile isBlank, isBlank c = true) ↔
      ∀ c ∈ text.toList, isBlank c = true := by
    constructor
    · intro h c hc
      rw [← List.takeWhile_append_dropWhile (p := isBlank) (l := text.toList)] at hc
      rcases List.mem_append.mp hc with hc | hc
      · exact List.mem_takeWhile_imp hc
      · exact h c hc
    · intro h c hc
      exact h c ((List.dropWhile_sublist _).subset hc)
  calc (trim text).isEmpty = true
      ↔ trimChars text.toList = [] := by
        rw [String.isEmpty_iff, ← String.toList_inj, trim, String.toList_ofList,
          String.toList_empty]
    _ ↔ ∀ c ∈ text.toList.dropWhile isBlank, isBlank c = true := by
        rw [trimChars, List.reverse_eq_nil_iff, List.dropWhile_eq_nil_iff]
        simp only [List.mem_reverse]
    _ ↔ ∀ c ∈ text.toList, isBlank c = true := hrest
    _ ↔ ¬ HasContent text := by simp [HasContent]

end Text

namespace Settings

/-- What settings must satisfy, and the fault of those that do not. -/
structure Rule where
  Holds : Settings → Prop
  fault : Settings → Fault

/-- A rule for settings of one role. -/
def Rule.forRole (role : Role) (rule : Rule) : Rule :=
  { rule with Holds := fun s => s.netRole = role.name → rule.Holds s }

/-! ## The rules one by one -/

def dataTypeRule : Rule :=
  ⟨fun s => Text.HasContent s.dataType, fun _ => .emptyDataType⟩

/-- The role is given by its exact name. -/
def roleRule : Rule :=
  ⟨fun s => ∃ role : Role, s.netRole = role.name, fun s => .invalidRole s.netRole⟩

def nameRule (field : String) (value : Settings → String) : Rule :=
  ⟨fun s => Text.HasContent (value s), fun _ => .emptyName field⟩

/-- Heartbeats are sent more often than they are waited for. -/
def timersRule : Rule :=
  ⟨fun s => 0 < s.intervalTs ∧ s.intervalTs < s.intervalTr,
    fun s => .invalidTimers s.intervalTs.toNat s.intervalTr.toNat⟩

def intervalRule (field : String) (value : Settings → UInt64) : Rule :=
  ⟨fun s => 0 < value s, fun _ => .zeroInterval field⟩

def portRule (field : String) (value : Settings → UInt32) : Rule :=
  ⟨fun s => 2001 ≤ value s ∧ value s ≤ 65534, fun s => .invalidPort field (value s).toNat⟩

/-- The address that clients must come from is one, if any is given. -/
def clientIpRule : Rule :=
  ⟨fun s => ∀ text, s.clientIp? = some text → Text.HasContent text →
      ∃ ip, IpAddress.parse? (Text.trim text) = some ip,
    fun s => .invalidClientIp (Text.trim (s.clientIp?.getD ""))⟩

def addressRule : Rule :=
  ⟨fun s => Text.HasContent s.remoteAddress, fun _ => .emptyRemoteAddress⟩

def encodingRule : Rule :=
  ⟨fun s => Text.HasContent s.dataEncoding, fun _ => .emptyEncoding⟩

/-- The encoding is given by a label of one of the character sets, in letters of either case. -/
def labelRule : Rule :=
  ⟨fun s => ∃ charset : Charset, ∃ label ∈ charset.labels,
      (Text.trim s.dataEncoding).toList.map Char.toLower = label.toList,
    fun s => .unsupportedEncoding s.dataEncoding⟩

/-- The rules for the names of the two sides. -/
def nameRules : List Rule :=
  [nameRule "local name" localName, nameRule "local ATC" localAtc,
    nameRule "remote name" remoteName, nameRule "remote ATC" remoteAtc]

/-- The rules for intervals. -/
def intervalRules : List Rule :=
  [timersRule, intervalRule "Ti" intervalTi,
    intervalRule "reconnect timeout" reconnectTimeout]

/-- The rules for the place to listen. -/
def serverRules : List Rule :=
  [portRule "local port" localPort, clientIpRule]

/-- The rules for the place to connect to. -/
def clientRules : List Rule :=
  [addressRule, portRule "remote port" remotePort]

/-- The rules after those for role and names. -/
def furtherRules : List Rule :=
  intervalRules ++ (serverRules.map (.forRole .server) ++ clientRules.map (.forRole .client)) ++
    [encodingRule, labelRule]

/-- All rules, in the order in which they are tried. -/
def rules : List Rule :=
  dataTypeRule :: roleRule :: (nameRules ++ furtherRules)

/-! ## The first rule that is broken -/

variable {s : Settings}

/-- The first of these rules that the settings break has this fault. -/
inductive FirstBroken (s : Settings) : List Rule → Fault → Prop where
  | here {rule : Rule} {rest : List Rule} (h : ¬ rule.Holds s) :
      FirstBroken s (rule :: rest) (rule.fault s)
  | later {rule : Rule} {rest : List Rule} {fault : Fault} (h : rule.Holds s)
      (hrest : FirstBroken s rest fault) : FirstBroken s (rule :: rest) fault

/-- Settings that break a rule do not satisfy all of them. -/
theorem FirstBroken.not_forall {rs : List Rule} {fault : Fault} (h : FirstBroken s rs fault) :
    ¬ ∀ rule ∈ rs, rule.Holds s := by
  induction h with
  | here h => exact fun hall => h (hall _ (List.mem_cons_self ..))
  | later _ _ ih => exact fun hall => ih fun rule hrule => hall rule (List.mem_cons_of_mem _ hrule)

/-- There is one first rule that is broken. -/
theorem FirstBroken.unique {rs : List Rule} {fault fault' : Fault}
    (h : FirstBroken s rs fault) (h' : FirstBroken s rs fault') : fault = fault' := by
  induction h with
  | here h =>
      cases h' with
      | here _ => rfl
      | later hholds _ => exact absurd hholds h
  | later hholds _ ih =>
      cases h' with
      | here h => exact absurd hholds h
      | later _ hrest => exact ih hrest

theorem FirstBroken.append {rs : List Rule} {fault : Fault} (h : FirstBroken s rs fault)
    (more : List Rule) : FirstBroken s (rs ++ more) fault := by
  induction h with
  | here h => exact .here h
  | later hholds _ ih => exact .later hholds ih

theorem FirstBroken.of_append {rs more : List Rule} {fault : Fault}
    (hall : ∀ rule ∈ rs, rule.Holds s) (h : FirstBroken s more fault) :
    FirstBroken s (rs ++ more) fault := by
  induction rs with
  | nil => exact h
  | cons rule rest ih =>
      rw [List.forall_mem_cons] at hall
      exact .later hall.1 (ih hall.2)

/-! ## Checks that go through rules -/

/-- The outcome is that of trying these rules one after another. -/
def Tries {α : Type} (s : Settings) (rs : List Rule) (outcome : Except Fault α) : Prop :=
  match outcome with
  | .ok _ => ∀ rule ∈ rs, rule.Holds s
  | .error fault => FirstBroken s rs fault

namespace Tries

variable {α β : Type} {rs more : List Rule} {x : Except Fault α}

theorem isOk_iff (h : s.Tries rs x) : (∃ a, x = .ok a) ↔ ∀ rule ∈ rs, rule.Holds s := by
  cases x with
  | ok a => exact ⟨fun _ => h, fun _ => ⟨a, rfl⟩⟩
  | error fault => exact ⟨nofun, fun hall => absurd hall h.not_forall⟩

theorem eq_error_iff (h : s.Tries rs x) {fault : Fault} :
    x = .error fault ↔ FirstBroken s rs fault := by
  cases x with
  | ok a => exact ⟨nofun, fun hbroken => absurd h hbroken.not_forall⟩
  | error fault' =>
      rw [Except.error.injEq]
      constructor
      · rintro rfl
        exact h
      · exact h.unique

theorem bind {f : α → Except Fault β} (hx : s.Tries rs x)
    (hf : ∀ a, x = .ok a → s.Tries more (f a)) : s.Tries (rs ++ more) (x >>= f) := by
  cases x with
  | error fault => exact hx.append more
  | ok a =>
      have hnext := hf a rfl
      show s.Tries (rs ++ more) (f a)
      cases hfa : f a with
      | ok b =>
          rw [hfa] at hnext
          exact List.forall_mem_append.mpr ⟨hx, hnext⟩
      | error fault =>
          rw [hfa] at hnext
          exact hnext.of_append hx

/-- What cannot fail tries no further rules. -/
theorem bind_of_ok {f : α → Except Fault β} (hx : s.Tries rs x) (hf : ∀ a, ∃ b, f a = .ok b) :
    s.Tries rs (x >>= f) := by
  cases x with
  | error fault => exact hx
  | ok a =>
      obtain ⟨b, hb⟩ := hf a
      show s.Tries rs (f a)
      rw [hb]
      exact hx

/-- A fault is thrown if one rule does not hold. -/
theorem guarded {rule : Rule} {p : Prop} [Decidable p] (hp : p ↔ ¬ rule.Holds s)
    {thrown : Except Fault α} (hthrown : thrown = .error (rule.fault s)) (hx : s.Tries rs x) :
    s.Tries (rule :: rs) (if p then thrown else x) := by
  by_cases h : p
  · rw [if_pos h, hthrown]
    exact .here (hp.mp h)
  · rw [if_neg h]
    have hholds : rule.Holds s := by
      by_contra hbroken
      exact h (hp.mpr hbroken)
    cases x with
    | ok a => exact List.forall_mem_cons.mpr ⟨hholds, hx⟩
    | error fault => exact .later hholds hx

/-- One rule decides. -/
theorem single {rule : Rule} (hok : ∀ a, x = .ok a → rule.Holds s)
    (herror : ∀ fault, x = .error fault → ¬ rule.Holds s ∧ fault = rule.fault s) :
    s.Tries [rule] x := by
  cases x with
  | ok a => exact List.forall_mem_singleton.mpr (hok a rfl)
  | error fault =>
      obtain ⟨hbroken, rfl⟩ := herror fault rfl
      exact .here hbroken

/-- Rules that hold anyway need not be tried. -/
theorem append_right (hx : s.Tries rs x) (hall : ∀ rule ∈ more, rule.Holds s) :
    s.Tries (rs ++ more) x := by
  cases x with
  | ok a => exact List.forall_mem_append.mpr ⟨hx, hall⟩
  | error fault => exact hx.append more

theorem append_left (hx : s.Tries more x) (hall : ∀ rule ∈ rs, rule.Holds s) :
    s.Tries (rs ++ more) x := by
  cases x with
  | ok a => exact List.forall_mem_append.mpr ⟨hall, hx⟩
  | error fault => exact hx.of_append hall

/-- For settings of a role, the rules for this role are rules like any other. -/
theorem forRole {role : Role} (hrole : s.netRole = role.name) (hx : s.Tries rs x) :
    s.Tries (rs.map (.forRole role)) x := by
  have hiff : ∀ rule : Rule, (rule.forRole role).Holds s ↔ rule.Holds s :=
    fun _ => ⟨fun h => h hrole, fun h _ => h⟩
  cases x with
  | ok a =>
      intro rule hrule
      obtain ⟨rule, hmem, rfl⟩ := List.mem_map.mp hrule
      exact (hiff rule).mpr (hx rule hmem)
  | error fault =>
      have hbroken : FirstBroken s rs fault := hx
      show FirstBroken s _ fault
      induction hbroken with
      | @here rule rest h => exact @FirstBroken.here _ (rule.forRole role) _ fun h' => h (h' hrole)
      | later hholds hrest ih => exact .later (fun _ => hholds) (ih hrest)

end Tries

/-- For settings of another role, the rules for a role hold. -/
theorem holds_forRole_of_ne {role : Role} {rs : List Rule} (hrole : s.netRole ≠ role.name) :
    ∀ rule ∈ rs.map (Rule.forRole role), rule.Holds s := by
  intro rule hrule
  obtain ⟨rule, -, rfl⟩ := List.mem_map.mp hrule
  exact fun h => absurd h hrole

/-! ## What the single checks try -/

theorem tries_checkName (field : String) (value : Settings → String) :
    s.Tries [nameRule field value] (checkName field (value s)) := by
  have hblank : Text.allBlank (value s) = true ↔ ¬ (nameRule field value).Holds s :=
    Text.allBlank_eq_true_iff
  exact .guarded hblank rfl nofun

theorem tries_checkPort (field : String) (value : Settings → UInt32) :
    s.Tries [portRule field value] (checkPort field (value s)) := by
  rw [checkPort]
  split
  · next h => exact List.forall_mem_singleton.mpr h
  · next h => exact .here h

/-- The role that is found has the name that the settings give. -/
theorem netRole_of_checkRole {role : Role} (h : checkRole s.netRole = .ok role) :
    s.netRole = role.name := by
  rw [checkRole, Role.ofName?] at h
  split_ifs at h with hclient hserver
  · cases h
    exact hclient
  · cases h
    exact hserver

theorem tries_checkRole : s.Tries [roleRule] (checkRole s.netRole) := by
  refine .single (fun role hrole => ⟨role, netRole_of_checkRole hrole⟩) fun fault h => ?_
  rw [checkRole, Role.ofName?] at h
  split_ifs at h with hclient hserver
  refine ⟨?_, (Except.error.inj h).symm⟩
  rintro ⟨role, hrole⟩
  cases role with
  | client => exact hclient hrole
  | server => exact hserver hrole

theorem tries_checkClientIp : s.Tries [clientIpRule] (checkClientIp s.clientIp?) := by
  cases htext : s.clientIp? with
  | none => exact List.forall_mem_singleton.mpr fun text h => by simp [htext] at h
  | some text =>
      rw [checkClientIp]
      rcases Decidable.em ((Text.trim text).isEmpty = true) with hempty | hempty
      · rw [if_pos hempty]
        refine List.forall_mem_singleton.mpr fun text' htext' hcontent => ?_
        cases htext.symm.trans htext'
        exact absurd hcontent (Text.isEmpty_trim_eq_true_iff.mp hempty)
      · rw [if_neg hempty]
        have hcontent : Text.HasContent text :=
          not_not.mp fun h => hempty (Text.isEmpty_trim_eq_true_iff.mpr h)
        cases hip : IpAddress.parse? (Text.trim text) with
        | some ip =>
            refine List.forall_mem_singleton.mpr fun text' htext' _ => ?_
            cases htext.symm.trans htext'
            exact ⟨ip, hip⟩
        | none =>
            have hbroken : ¬ clientIpRule.Holds s := by
              intro h
              obtain ⟨ip, hip'⟩ := h text htext hcontent
              cases hip.symm.trans hip'
            have hfault : clientIpRule.fault s = .invalidClientIp (Text.trim text) := by
              simp [clientIpRule, htext]
            exact hfault ▸ .here hbroken

/-- The rules for the other role are not tried, and hold. -/
theorem tries_checkEndpoint {role : Role} (hrole : s.netRole = role.name) :
    s.Tries (serverRules.map (.forRole .server) ++ clientRules.map (.forRole .client))
      (s.checkEndpoint role) := by
  cases role with
  | server =>
      have hserver : s.Tries serverRules (s.checkEndpoint .server) :=
        (tries_checkPort "local port" localPort).bind fun port _ =>
          tries_checkClientIp.bind_of_ok fun _ => ⟨_, rfl⟩
      refine (hserver.forRole hrole).append_right (holds_forRole_of_ne ?_)
      rw [hrole]
      decide
  | client =>
      have hblank : Text.allBlank s.remoteAddress = true ↔ ¬ addressRule.Holds s :=
        Text.allBlank_eq_true_iff
      have hclient : s.Tries clientRules (s.checkEndpoint .client) :=
        .guarded hblank rfl
          ((tries_checkPort "remote port" remotePort).bind_of_ok fun _ => ⟨_, rfl⟩)
      refine (hclient.forRole hrole).append_left (holds_forRole_of_ne ?_)
      rw [hrole]
      decide

theorem exists_ofLabel?_eq_some_iff :
    (∃ charset, Charset.ofLabel? s.dataEncoding = some charset) ↔ labelRule.Holds s := by
  have hall : ∀ charset : Charset, charset ∈ [Charset.utf8, .windows1251] := by
    rintro (_ | _) <;> decide
  rw [← Option.isSome_iff_exists, Charset.ofLabel?, List.find?_isSome]
  constructor
  · rintro ⟨charset, -, hlabel⟩
    refine ⟨charset, _, List.contains_iff_mem.mp hlabel, ?_⟩
    simp [Text.trim]
  · rintro ⟨charset, label, hmem, hlabel⟩
    refine ⟨charset, hall charset, List.contains_iff_mem.mpr ?_⟩
    rw [Text.trim, String.toList_ofList] at hlabel
    rwa [hlabel, String.ofList_toList]

theorem tries_checkCharset :
    s.Tries [encodingRule, labelRule] (checkCharset s.dataEncoding) := by
  have hblank : Text.allBlank s.dataEncoding = true ↔ ¬ encodingRule.Holds s :=
    Text.allBlank_eq_true_iff
  refine .guarded hblank rfl ?_
  cases hlabel : Charset.ofLabel? s.dataEncoding with
  | some charset =>
      exact List.forall_mem_singleton.mpr (exists_ofLabel?_eq_some_iff.mp ⟨charset, hlabel⟩)
  | none =>
      refine .here fun h => ?_
      obtain ⟨charset, hcharset⟩ := exists_ofLabel?_eq_some_iff.mpr h
      exact absurd (hlabel.symm.trans hcharset) nofun

/-- A check tries all the rules. -/
theorem tries_check : s.Tries rules s.check := by
  have hdata : Text.allBlank s.dataType = true ↔ ¬ dataTypeRule.Holds s :=
    Text.allBlank_eq_true_iff
  have htimers : (s.intervalTs = 0 ∨ s.intervalTr ≤ s.intervalTs) ↔ ¬ timersRule.Holds s := by
    simp only [timersRule, not_and_or, UInt64.not_lt, UInt64.le_zero_iff]
  have hzero : ∀ (field : String) (value : Settings → UInt64),
      value s = 0 ↔ ¬ (intervalRule field value).Holds s := by
    intro field value
    simp only [intervalRule, UInt64.not_lt, UInt64.le_zero_iff]
  unfold check
  dsimp only
  refine .guarded hdata rfl (tries_checkRole.bind fun role hrole => ?_)
  have hname := netRole_of_checkRole hrole
  refine (tries_checkName "local name" localName).bind fun _ _ => ?_
  refine (tries_checkName "local ATC" localAtc).bind fun _ _ => ?_
  refine (tries_checkName "remote name" remoteName).bind fun _ _ => ?_
  refine (tries_checkName "remote ATC" remoteAtc).bind fun _ _ => ?_
  refine .guarded htimers rfl (.guarded (hzero "Ti" intervalTi) rfl ?_)
  refine .guarded (hzero "reconnect timeout" reconnectTimeout) rfl ?_
  refine (tries_checkEndpoint hname).bind fun _ _ => ?_
  exact tries_checkCharset.bind_of_ok fun _ => ⟨_, rfl⟩

/-! ## Intervals -/

/-- The interval of a timer in settings, in seconds. -/
def interval (s : Settings) : TimerKind → UInt64
  | .send => s.intervalTs
  | .receive => s.intervalTr
  | .identification => s.intervalTi
  | .reconnect => s.reconnectTimeout

theorem interval_of_check {config : Config} (h : s.check = .ok config) (kind : TimerKind) :
    TimerBank.interval config kind = Clock.seconds (s.interval kind).toNat := by
  simp only [check, bind, Except.bind, pure, Except.pure, throw, throwThe,
    MonadExceptOf.throw] at h
  -- Every check has been passed, and the intervals have not been touched.
  repeat' split at h
  all_goals cases h
  cases kind <;> rfl

/-- No interval of a checked configuration is empty. -/
theorem interval_pos_of_check {config : Config} (h : s.check = .ok config) (kind : TimerKind) :
    0 < TimerBank.interval config kind := by
  have hrules : ∀ rule ∈ intervalRules, rule.Holds s := fun rule hrule =>
    tries_check.isOk_iff.mp ⟨config, h⟩ rule (by simp [rules, furtherRules, hrule])
  simp only [intervalRules, List.forall_mem_cons] at hrules
  obtain ⟨⟨hts, htr⟩, hti, hreconnect, -⟩ := hrules
  have hpos : 0 < s.interval kind := by
    cases kind with
    | send => exact hts
    | receive => exact UInt64.lt_trans hts htr
    | identification => exact hti
    | reconnect => exact hreconnect
  rw [interval_of_check h]
  exact Nat.mul_pos (UInt64.lt_iff_toNat_lt.mp hpos) (by decide)

/-! ## What is not looked at -/

/-- Settings without the role of a client are checked without where to connect to. -/
theorem check_with_remote (hrole : s.netRole ≠ Role.client.name) (address : String)
    (port : UInt32) :
    check { s with remoteAddress := address, remotePort := port } = s.check := by
  unfold check
  dsimp only
  cases hname : checkRole s.netRole with
  | error fault => rfl
  | ok role =>
      cases role with
      | client => exact absurd (netRole_of_checkRole hname) hrole
      | server => rfl

/-- Settings without the role of a server are checked without where to listen. -/
theorem check_with_local (hrole : s.netRole ≠ Role.server.name) (port : UInt32)
    (clientIp? : Option String) :
    check { s with localPort := port, clientIp? := clientIp? } = s.check := by
  unfold check
  dsimp only
  cases hname : checkRole s.netRole with
  | error fault => rfl
  | ok role =>
      cases role with
      | client => rfl
      | server => exact absurd (netRole_of_checkRole hname) hrole

/-- Settings are checked exactly: they become a configuration if they satisfy every rule, and
otherwise the fault is that of the first rule that they break.  What is set for the other role
does not matter. -/
theorem check_exact (s : Settings) :
    ((∃ config, s.check = .ok config) ↔ ∀ rule ∈ rules, rule.Holds s) ∧
    (∀ fault, s.check = .error fault ↔ FirstBroken s rules fault) ∧
    (s.netRole ≠ Role.client.name → ∀ address port,
      check { s with remoteAddress := address, remotePort := port } = s.check) ∧
    (s.netRole ≠ Role.server.name → ∀ port clientIp?,
      check { s with localPort := port, clientIp? := clientIp? } = s.check) :=
  ⟨tries_check.isOk_iff, fun _ => tries_check.eq_error_iff, check_with_remote, check_with_local⟩

/-- Of settings with an unknown role and without names, the role is at fault and not a name. -/
theorem role_before_names :
    FirstBroken { dataType := "OLDI", netRole := "peer" }
      (dataTypeRule :: (nameRules ++ roleRule :: furtherRules)) (.emptyName "local name") ∧
    check { dataType := "OLDI", netRole := "peer" } = .error (.invalidRole "peer") := by
  refine ⟨.later ⟨'O', by decide, by decide⟩ (.here ?_), by decide⟩
  rintro ⟨c, hc, -⟩
  simp at hc

end Settings

end FlightLink
