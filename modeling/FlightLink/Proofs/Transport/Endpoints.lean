import FlightLink.Proofs.Settings
import FlightLink.Proofs.Transport.Change

/-!
# Endpoints of stations

A station plays one role for good.  It uses one endpoint, until it is ordered to use
another one of its role.  A server also waits between a failed attempt to bind and the
next one; no order says for how long, so this stays as it was when the server was made.
-/

namespace FlightLink.Transport

/-- The endpoint to be used after an order. -/
def Order.redirect (e : Endpoint) : Order → Endpoint
  | reconfigure e' => e'
  | _ => e

/-- The endpoint to be used after an input. -/
def Station.Input.redirect (e : Endpoint) : Station.Input → Endpoint
  | order o => o.redirect e
  | _ => e

/-! ## Clients -/

namespace Client

/-- Where a client connects to. -/
def endpoint (c : Client) : Endpoint := .connect c.address c.port

variable {c : Client}

theorem endpoint_attempt (c : Client) (text : String) (targets : List SocketAddress) :
    (c.attempt text targets).1.endpoint = c.endpoint := by
  cases targets <;> rfl

theorem endpoint_obey (c : Client) {o : Order}
    (ho : ∀ e, o = .reconfigure e → e.role = .client) :
    (c.obey o).1.endpoint = o.redirect c.endpoint := by
  cases o with
  | reconfigure e =>
      cases e with
      | connect address port => rfl
      | listen port clientIp? => cases ho _ rfl
  | _ => rfl

theorem endpoint_takeAnswer (c : Client) (now : Nat) (target : SocketAddress)
    (rest : List SocketAddress) (answer : Network.Dialled) :
    (c.takeAnswer now target rest answer).1.endpoint = c.endpoint := by
  cases answer with
  | failed p => exact c.endpoint_attempt _ rest
  | _ => rfl

theorem endpoint_of_take? {now : Nat} {i : Station.Input} {r : Result}
    (h : i.client?.bind (c.take? now) = some r)
    (hi : ∀ e, i = .order (.reconfigure e) → e.role = .client) :
    r.1.endpoint = i.redirect c.endpoint := by
  cases i with
  | bound answer | accepted answer => cases h
  | report =>
      simp only [Station.Input.client?, Option.bind_some, take?] at h
      split at h
      · obtain ⟨r, -, rfl⟩ := Option.map_eq_some_iff.mp h
        rfl
      · cases h
  | order o =>
      simp only [Station.Input.client?, Option.bind_some, take?] at h
      split at h
      · obtain rfl := Option.some.inj h
        exact c.endpoint_obey fun e he => hi e (congrArg _ he)
      · cases h
  | resolved answer =>
      simp only [Station.Input.client?, Option.bind_some, take?] at h
      split at h
      · obtain rfl := Option.some.inj h
        cases answer with
        | error p => rfl
        | ok ips => exact c.endpoint_attempt _ _
      · cases h
  | dialled answer =>
      simp only [Station.Input.client?, Option.bind_some, take?] at h
      split at h
      · obtain rfl := Option.some.inj h
        exact c.endpoint_takeAnswer now _ _ answer
      · cases h
  | timedOut =>
      simp only [Station.Input.client?, Option.bind_some, take?] at h
      split at h
      · split at h
        · obtain rfl := Option.some.inj h
          exact c.endpoint_attempt _ _
        · cases h
      · cases h

end Client

/-! ## Servers -/

namespace Server

/-- Where a server listens. -/
def endpoint (s : Server) : Endpoint := .listen s.port s.clientIp?

variable {s : Server}

/-- A step leaves a server with an endpoint, and with the delay that it was made with. -/
structure Keeps (s : Server) (e : Endpoint) (r : Result) : Prop where
  endpoint : r.1.endpoint = e
  retry : r.1.retry = s.retry

theorem keeps_unlisten (s : Server) : s.Keeps s.endpoint s.unlisten := by
  unfold unlisten
  split <;> exact ⟨rfl, rfl⟩

theorem keeps_finish (s : Server) (phase : Phase) : s.Keeps s.endpoint (s.finish phase) :=
  have h := keeps_unlisten { s with phase, link := s.link.abandon, retryAt? := none }
  ⟨h.endpoint, h.retry⟩

theorem keeps_move (s : Server) (now : Nat) (port : Port) :
    s.Keeps (.listen port s.clientIp?) (s.move now port) := by
  unfold move
  split
  · next hport =>
      subst hport
      exact ⟨rfl, rfl⟩
  · have h := keeps_unlisten { s with port, retryAt? := if s.wanted then some now else none }
    exact ⟨h.endpoint, h.retry⟩

theorem keeps_obey (s : Server) (now : Nat) {o : Order}
    (ho : ∀ e, o = .reconfigure e → e.role = .server) :
    s.Keeps (o.redirect s.endpoint) (s.obey now o) := by
  cases o with
  | halt =>
      have h := keeps_unlisten { s with link := s.link.close, wanted := false, retryAt? := none }
      exact ⟨h.endpoint, h.retry⟩
  | reconfigure e =>
      cases e with
      | connect address port => cases ho _ rfl
      | listen port clientIp? =>
          have h := keeps_move { s with link := s.link.dropSession.1, clientIp? } now port
          exact ⟨h.endpoint, h.retry⟩
  | _ => exact ⟨rfl, rfl⟩

theorem keeps_takeClient (s : Server)
    (answer : Except Network.Problem (Network.Socket × SocketAddress)) :
    s.Keeps s.endpoint (s.takeClient answer) := by
  unfold takeClient
  split
  · exact ⟨rfl, rfl⟩
  · split <;> exact ⟨rfl, rfl⟩

theorem keeps_takeBinding (s : Server) (clock : Clock) (now : Nat)
    (answer : Except Network.Problem Nat) :
    s.Keeps s.endpoint (s.takeBinding clock now answer) := by
  unfold takeBinding
  split
  · exact ⟨rfl, rfl⟩
  · dsimp only
    split
    · exact ⟨rfl, rfl⟩
    · exact ⟨(keeps_finish _ _).endpoint, (keeps_finish _ _).retry⟩

theorem keeps_of_take? {clock : Clock} {now : Nat} {i : Station.Input} {r : Result}
    (h : i.server?.bind (s.take? clock now) = some r)
    (hi : ∀ e, i = .order (.reconfigure e) → e.role = .server) :
    s.Keeps (i.redirect s.endpoint) r := by
  cases i with
  | resolved answer | dialled answer | timedOut => cases h
  | report =>
      simp only [Station.Input.server?, Option.bind_some, take?] at h
      split at h
      · obtain ⟨r, -, rfl⟩ := Option.map_eq_some_iff.mp h
        exact ⟨rfl, rfl⟩
      · cases h
  | order o =>
      simp only [Station.Input.server?, Option.bind_some, take?] at h
      split at h
      · obtain rfl := Option.some.inj h
        exact s.keeps_obey now fun e he => hi e (congrArg _ he)
      · cases h
  | bound answer =>
      simp only [Station.Input.server?, Option.bind_some, take?] at h
      split at h
      · split at h
        · obtain rfl := Option.some.inj h
          exact s.keeps_takeBinding clock now answer
        · cases h
      · cases h
  | accepted answer =>
      simp only [Station.Input.server?, Option.bind_some, take?] at h
      split at h
      · split at h
        · obtain rfl := Option.some.inj h
          exact s.keeps_takeClient answer
        · cases h
      · cases h

end Server

/-! ## Stations -/

namespace Station

/-- The role that a station plays. -/
def role : Station → Role
  | client _ => .client
  | server _ => .server

/-- Where a station connects to or listens. -/
def endpoint : Station → Endpoint
  | client c => c.endpoint
  | server s => s.endpoint

/-- How long a server waits between a failed attempt to bind and the next one. -/
def retryDelay? : Station → Option Nat
  | client _ => none
  | server s => some s.retry

/-- A step leaves a station with an endpoint, and leaves everything else that it was
made with. -/
structure Keeps (s : Station) (e : Endpoint) (s' : Station) : Prop where
  role : s'.role = s.role
  endpoint : s'.endpoint = e
  retryDelay? : s'.retryDelay? = s.retryDelay?

variable {s : Station}

theorem role_endpoint (s : Station) : s.endpoint.role = s.role := by
  cases s <;> rfl

/-- A station does as it is told, if it is told to use an endpoint of its role. -/
theorem keeps_of_take? {clock : Clock} {now : Nat} {i : Input} {r : Result}
    (h : s.take? clock now i = some r)
    (hi : ∀ e, i = .order (.reconfigure e) → e.role = s.role) :
    s.Keeps (i.redirect s.endpoint) r.1 := by
  cases s with
  | client c =>
      obtain ⟨r, hr, rfl⟩ := Option.map_eq_some_iff.mp h
      exact ⟨rfl, Client.endpoint_of_take? hr hi, rfl⟩
  | server s =>
      obtain ⟨r, hr, rfl⟩ := Option.map_eq_some_iff.mp h
      have hkeeps := Server.keeps_of_take? hr hi
      exact ⟨rfl, hkeeps.endpoint, congrArg some hkeeps.retry⟩

/-- What a session does by itself is no concern of the station. -/
theorem keeps_of_move? {id : Nat} {m : Session.Move} {r : Result}
    (h : s.move? id m = some r) : s.Keeps s.endpoint r.1 := by
  obtain ⟨r, -, rfl⟩ := Option.map_eq_some_iff.mp h
  cases s <;> exact ⟨rfl, rfl, rfl⟩

theorem endpoint_ofConfig (config : Config) : (ofConfig config).endpoint = config.endpoint := by
  unfold ofConfig
  cases config.endpoint <;> rfl

theorem role_ofConfig (config : Config) : (ofConfig config).role = config.endpoint.role := by
  rw [← role_endpoint, endpoint_ofConfig]

/-- Of two configurations for one role, servers differ in their delay only if it does. -/
theorem retryDelay?_ofConfig (config : Config) : (ofConfig config).retryDelay? =
    match config.endpoint.role with
    | .client => none
    | .server => some (retry config) := by
  unfold ofConfig
  cases config.endpoint <;> rfl

end Station

end FlightLink.Transport
