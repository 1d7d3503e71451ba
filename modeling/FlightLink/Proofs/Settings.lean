import FlightLink.Settings

/-!
# Checked settings

A configuration that a check has returned is one for a single role: its endpoint is
where a client connects to if its role is that of a client, and where a server listens
otherwise.
-/

namespace FlightLink

/-- The role that an endpoint is for. -/
def Endpoint.role : Endpoint → Role
  | connect .. => .client
  | listen .. => .server

namespace Settings

/-- A check that has been passed has been passed step by step. -/
theorem exists_of_bind_eq_ok {α β : Type} {x : Except Fault α}
    {f : α → Except Fault β} {b : β} (h : x >>= f = .ok b) :
    ∃ a, x = .ok a ∧ f a = .ok b := by
  cases x with
  | error fault => cases h
  | ok a => exact ⟨a, rfl, h⟩

theorem role_of_checkEndpoint {s : Settings} {r : Role} {e : Endpoint}
    (h : s.checkEndpoint r = .ok e) : e.role = r := by
  cases r with
  | server =>
      obtain ⟨port, -, h⟩ := exists_of_bind_eq_ok h
      obtain ⟨clientIp?, -, h⟩ := exists_of_bind_eq_ok h
      cases h
      rfl
  | client =>
      simp only [checkEndpoint] at h
      split at h
      · cases h
      · obtain ⟨port, -, h⟩ := exists_of_bind_eq_ok h
        cases h
        rfl

/-- The endpoint of a checked configuration is one for its role. -/
theorem endpoint_role_of_check {s : Settings} {config : Config}
    (h : s.check = .ok config) : config.endpoint.role = config.role := by
  have hendpoint : s.checkEndpoint config.role = .ok config.endpoint := by
    simp only [check, bind, Except.bind, pure, Except.pure, throw, throwThe,
      MonadExceptOf.throw] at h
    -- Every check has been passed, that of the endpoint among them.
    repeat' split at h
    all_goals cases h
    assumption
  exact role_of_checkEndpoint hendpoint

/-- A name passes the check as soon as it is not blank, however long it is. -/
theorem check_with_localAtc {s : Settings} {config : Config} (h : s.check = .ok config)
    {atc : String} (hatc : Text.allBlank atc = false) :
    check { s with localAtc := atc } = .ok { config with localAtc := atc } := by
  have hname : checkName "local ATC" atc = .ok atc := by
    rw [checkName, hatc]
    rfl
  have hendpoint : ∀ r, checkEndpoint { s with localAtc := atc } r = s.checkEndpoint r := by
    intro r
    cases r <;> rfl
  simp only [check, bind, Except.bind, pure, Except.pure, throw, throwThe,
    MonadExceptOf.throw, hname, hendpoint] at h ⊢
  -- Every check of the other settings has been passed.
  repeat' split at h
  all_goals cases h
  simp [*]

end Settings

end FlightLink
