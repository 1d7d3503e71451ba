import FlightLink.Proofs.Conversation.Moves

/-!
# The stages of a handshake

The channels are set aside here.  A side is in a state, takes at most one
message at a time, and sends some.  What is on the way to a side is determined
by the states of both, up to the traffic of an association that is already up
on the other side, and whatever either side does leads from one such stage to
another.

Many messages would send a side back into `State.idle` if they came early.  No
stage has one of them on the way to a side that would take it.
-/

namespace FlightLink

/-- A message that is sent once both sides have been identified. -/
def Message.IsTraffic (m : Message) : Prop :=
  m = .startup ∨ m = .heartbeat ∨ ∃ text, m = .operational text

/-- The events that are owed to a side in a state. -/
def State.Owes (r : Role) : State → List Event → Prop
  | connectionPending, owed => r = .client ∧ owed = [.remoteSetup]
  | ready, owed => owed ≠ [] ∧ ∀ e ∈ owed, e = .localStartup
  | associationPending, owed => ∀ e ∈ owed, e = .localStartup
  | dataReady, owed => ∀ e ∈ owed, e = .localData
  | _, owed => owed = []

/-- The messages that are on their way to a side in a state, both sides having
been identified. -/
def State.Due : State → List Message → Prop
  | ready, inbox | associationPending, inbox =>
    ∃ rest, inbox = .startup :: rest ∧ ∀ m ∈ rest, m.IsTraffic
  | dataReady, inbox => ∀ m ∈ inbox, m.IsTraffic
  | _, _ => False

/-- What a side does in a state: the messages that it takes, the state that it
goes to, and the messages that it sends.  Each side sends `ident`. -/
inductive Turn (ident : Role → Message) (r : Role) :
    State → List Message → State → List Message → Prop where
  | rest (s : State) : Turn ident r s [] s []
  | connect : Turn ident r .connectionPending [] .idPending []
  | identify (hrole : r = .server) :
      Turn ident r .systemIdPending [ident r.peer] .idPending [ident r]
  | accept (hrole : r = .client) :
      Turn ident r .idPending [ident r.peer] .ready [.accept, .startup]
  | request (hrole : r = .server) :
      Turn ident r .idPending [.accept] .ready [.startup]
  | insist : Turn ident r .ready [] .ready [.startup]
  | associate : Turn ident r .ready [] .associationPending []
  | answer : Turn ident r .associationPending [.startup] .dataReady [.startup]
  | talk {m : Message} (hm : m.IsTraffic) :
      Turn ident r .dataReady [] .dataReady [m]
  | hear {m : Message} (hm : m.IsTraffic) :
      Turn ident r .dataReady [m] .dataReady []

/-- How far a client and a server have come: the state of each side and the
messages on their way to it. -/
inductive Stage (ident : Role → Message) :
    State → List Message → State → List Message → Prop where
  | opening {client : State}
      (hclient : client = .connectionPending ∨ client = .idPending) :
      Stage ident client [] .systemIdPending [ident .client]
  | identifying {client : State}
      (hclient : client = .connectionPending ∨ client = .idPending) :
      Stage ident client [ident .server] .idPending []
  | accepting {client : State} {l : List Message}
      (hclient : client = .ready ∨ client = .associationPending)
      (hserver : State.ready.Due l) :
      Stage ident client [] .idPending (.accept :: l)
  | associating {client server : State} {toClient toServer : List Message}
      (hclient : client.Due toClient) (hserver : server.Due toServer) :
      Stage ident client toClient server toServer

theorem Message.isTraffic_startup : ∀ m ∈ [Message.startup], m.IsTraffic :=
  fun _ hm => .inl (List.mem_singleton.mp hm)

namespace State

variable {s s' : State} {l rest received sent : List Message}

theorem Due.append (h : s.Due l) (hsent : ∀ m ∈ sent, m.IsTraffic) :
    s.Due (l ++ sent) := by
  cases s with
  | ready | associationPending =>
      obtain ⟨rest, rfl, hrest⟩ := h
      refine ⟨rest ++ sent, rfl, ?_⟩
      intro m hm
      exact (List.mem_append.mp hm).elim (hrest m) (hsent m)
  | dataReady =>
      intro m hm
      exact (List.mem_append.mp hm).elim (h m) (hsent m)
  | _ => exact h

/-- A side of an association keeps to what is on its way to it. -/
theorem Due.turn {ident : Role → Message} {r : Role}
    (h : s.Due (received ++ rest)) (hturn : Turn ident r s received s' sent) :
    s'.Due rest ∧ ∀ m ∈ sent, m.IsTraffic := by
  cases hturn with
  | rest => exact ⟨h, by simp⟩
  | connect => exact h.elim
  | identify => exact h.elim
  | accept => exact h.elim
  | request => exact h.elim
  | insist => exact ⟨h, Message.isTraffic_startup⟩
  | associate => exact ⟨h, by simp⟩
  | answer =>
      obtain ⟨rest', heq, hrest⟩ := h
      obtain ⟨-, rfl⟩ := List.cons_eq_cons.mp heq
      exact ⟨hrest, Message.isTraffic_startup⟩
  | talk hm =>
      refine ⟨h, ?_⟩
      intro m' hm'
      obtain rfl := List.mem_singleton.mp hm'
      exact hm
  | hear hm => exact ⟨fun m hm => h m (List.mem_cons_of_mem _ hm), by simp⟩

/-- A side of an association that awaits nothing is ready for the next
message. -/
theorem Due.exists_turn {ident : Role → Message} {r : Role} {m : Message}
    (h : s.Due (m :: rest)) (howes : s.Owes r []) :
    ∃ s' sent, Turn ident r s [m] s' sent := by
  cases s with
  | ready => exact absurd rfl howes.1
  | associationPending =>
      obtain ⟨_, heq, -⟩ := h
      obtain ⟨rfl, -⟩ := List.cons_eq_cons.mp heq
      exact ⟨_, _, .answer⟩
  | dataReady => exact ⟨_, _, .hear (h m List.mem_cons_self)⟩
  | idle | connectionPending | systemIdPending | idPending | disabled =>
      exact h.elim

end State

namespace Stage

variable {ident : Role → Message} {client client' server server' : State}
  {toClient toServer received rest sent : List Message}

/-- Whatever the client does leads to another stage. -/
theorem client_turn
    (h : Stage ident client (received ++ rest) server toServer)
    (hturn : Turn ident .client client received client' sent) :
    Stage ident client' rest server (toServer ++ sent) := by
  generalize htoClient : received ++ rest = toClient at h
  cases h with
  | opening hclient =>
      obtain ⟨rfl, rfl⟩ := List.append_eq_nil_iff.mp htoClient
      rcases hclient with rfl | rfl
      · cases hturn with
        | rest => exact .opening (.inl rfl)
        | connect => exact .opening (.inr rfl)
      · cases hturn with
        | rest => exact .opening (.inr rfl)
  | identifying hclient =>
      rcases hclient with rfl | rfl
      · cases hturn with
        | rest =>
            obtain rfl : rest = _ := htoClient
            exact .identifying (.inl rfl)
        | connect =>
            obtain rfl : rest = _ := htoClient
            exact .identifying (.inr rfl)
      · cases hturn with
        | rest =>
            obtain rfl : rest = _ := htoClient
            exact .identifying (.inr rfl)
        | accept =>
            obtain ⟨-, rfl⟩ := List.cons_eq_cons.mp htoClient
            exact .accepting (.inl rfl) ⟨[], rfl, by simp⟩
        | request hrole => cases hrole
  | accepting hclient hserver =>
      -- The client may ask for an association more than once before the server
      -- learns that it has been accepted.
      obtain ⟨rfl, rfl⟩ := List.append_eq_nil_iff.mp htoClient
      rcases hclient with rfl | rfl
      · cases hturn with
        | rest => simpa using .accepting (.inl rfl) hserver
        | insist =>
            exact .accepting (.inl rfl) (hserver.append Message.isTraffic_startup)
        | associate => simpa using .accepting (.inr rfl) hserver
      · cases hturn with
        | rest => simpa using .accepting (.inr rfl) hserver
  | associating hclient hserver =>
      subst htoClient
      obtain ⟨hnext, hsent⟩ := hclient.turn hturn
      exact .associating hnext (hserver.append hsent)

/-- Whatever the server does leads to another stage. -/
theorem server_turn
    (h : Stage ident client toClient server (received ++ rest))
    (hturn : Turn ident .server server received server' sent) :
    Stage ident client (toClient ++ sent) server' rest := by
  generalize htoServer : received ++ rest = toServer at h
  cases h with
  | opening hclient =>
      cases hturn with
      | rest =>
          obtain rfl : rest = _ := htoServer
          exact .opening hclient
      | identify =>
          obtain ⟨-, rfl⟩ := List.cons_eq_cons.mp htoServer
          exact .identifying hclient
  | identifying hclient =>
      obtain ⟨rfl, rfl⟩ := List.append_eq_nil_iff.mp htoServer
      cases hturn with
      | rest => simpa using .identifying hclient
  | accepting hclient hserver =>
      cases hturn with
      | rest =>
          obtain rfl : rest = _ := htoServer
          exact .accepting hclient hserver
      | accept hrole => cases hrole
      | request =>
          obtain ⟨-, rfl⟩ := List.cons_eq_cons.mp htoServer
          refine .associating ?_ hserver
          rcases hclient with rfl | rfl <;> exact ⟨[], rfl, by simp⟩
  | associating hclient hserver =>
      subst htoServer
      obtain ⟨hnext, hsent⟩ := hserver.turn hturn
      exact .associating (hclient.append hsent) hnext

/-- A client that awaits nothing is ready for the next message. -/
theorem exists_client_turn {m : Message}
    (h : Stage ident client (m :: rest) server toServer)
    (howes : client.Owes .client []) :
    ∃ s sent, Turn ident .client client [m] s sent := by
  cases h with
  | identifying hclient =>
      rcases hclient with rfl | rfl
      · cases howes.2
      · exact ⟨_, _, .accept rfl⟩
  | associating hclient _ => exact hclient.exists_turn howes

/-- A server that awaits nothing is ready for the next message. -/
theorem exists_server_turn {m : Message}
    (h : Stage ident client toClient server (m :: rest))
    (howes : server.Owes .server []) :
    ∃ s sent, Turn ident .server server [m] s sent := by
  cases h with
  | opening => exact ⟨_, _, .identify rfl⟩
  | accepting => exact ⟨_, _, .request rfl⟩
  | associating _ hserver => exact hserver.exists_turn howes

/-- Neither side is idle. -/
theorem ne_idle (h : Stage ident client toClient server toServer) :
    client ≠ .idle ∧ server ≠ .idle := by
  cases h with
  | opening hclient | identifying hclient =>
      rcases hclient with rfl | rfl <;> decide
  | accepting hclient _ => rcases hclient with rfl | rfl <;> decide
  | associating hclient hserver =>
      constructor
      · rintro rfl
        exact hclient
      · rintro rfl
        exact hserver

/-- If nothing is on the way, both sides are ready for data. -/
theorem eq_dataReady (h : Stage ident client [] server []) :
    client = .dataReady ∧ server = .dataReady := by
  have hdue {s : State} (h : s.Due []) : s = .dataReady := by
    cases s with
    | ready | associationPending =>
        obtain ⟨_, heq, -⟩ := h
        cases heq
    | dataReady => rfl
    | _ => exact h.elim
  cases h with
  | associating hclient hserver => exact ⟨hdue hclient, hdue hserver⟩

end Stage

end FlightLink
