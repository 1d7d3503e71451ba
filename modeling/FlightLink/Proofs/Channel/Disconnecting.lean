import FlightLink.Proofs.Channel.Connection

/-!
# The effect of a disconnect

A disconnect ends the association with a SHUTDOWN and takes the channel to
`State.idle`.  What becomes of the connection is a matter of entering that state,
and so of the role: a server has its connection closed in the same step.

A client only starts its reconnect timer.  The connection that it was told to
release stays open until the timer expires.
-/

namespace FlightLink

/-- Whether an action is one for the transport. -/
def Action.isOrder : Action → Bool
  | send _ _ | reconnect | disconnect | halt | reconfigure => true
  | restartTimer _ | stopTimer _ | deliver _ | log _ => false

/-- Whether an action makes the transport close the current connection. -/
def Action.closes : Action → Bool
  | reconnect | disconnect | halt => true
  | _ => false

/-- The action, if it is one for the transport. -/
def Action.order? (a : Action) : Option Action :=
  if a.isOrder then some a else none

instance : Effect.OmitsRecords Action.order? := ⟨fun _ => rfl⟩

/-- What the transport is ordered to do. -/
abbrev Effect.orders (effects : List Effect) : List Action :=
  Effect.collect Action.order? effects

/-- A disconnect has an entry in the table wherever a channel of the role can be. -/
theorem Table.next?_localDisconnect {role : Role} {s : State}
    (hserver : s = .systemIdPending → role = .server)
    (hclient : s = .connectionPending → role = .client) (hs : s ≠ .disabled) :
    next? role s .localDisconnect = some .idle := by
  cases s with
  | disabled => exact absurd rfl hs
  | systemIdPending => rw [hserver rfl]; rfl
  | connectionPending => rw [hclient rfl]; rfl
  | idle | idPending | ready | associationPending | dataReady => cases role <;> rfl

namespace Channel

open Effect

/-- The SHUTDOWN of a channel in the association. -/
def farewell (c : Channel) : List Action :=
  if c.state = .associationPending ∨ c.state = .dataReady then [.send .shutdown none] else []

theorem orders_leaving_localDisconnect (c : Channel) :
    orders (c.leaving .localDisconnect) = c.farewell := by
  unfold leaving farewell
  cases c.state <;> simp [Action.order?, Action.isOrder]

theorem orders_entering_idle (c : Channel) :
    orders (c.entering .idle) = if c.config.role = .server then [.disconnect] else [] := by
  unfold entering
  cases c.config.role <;> simp [Action.order?, Action.isOrder]

/-- A channel in service is idle after a disconnect.  The transport is ordered to send the
SHUTDOWN, and on a server to close the connection after that. -/
theorem Fits.orders_disconnect {role : Role} {c : Channel} (h : c.Fits role)
    (hs : c.state ≠ .disabled) :
    (c.obey .disconnect).channel.state = .idle ∧
      orders (c.obey .disconnect).effects =
        c.farewell ++ (if role = .server then [.disconnect] else []) ∧
      (role = .client → (.reconnect, true) ∈ timings (c.obey .disconnect).effects) := by
  obtain ⟨hrole, hconfig, hserver, hclient⟩ := h
  have hnext : c.next? .localDisconnect = some .idle := by
    rw [next?, hrole]
    exact Table.next?_localDisconnect hserver hclient hs
  refine ⟨?_, ?_, fun hrole => ?_⟩
  · rw [obey, raise_state, hnext, Option.getD_some]
  · calc
      orders (c.obey .disconnect).effects =
          orders (c.leaving .localDisconnect) ++ orders (c.entering .idle) := by
        rw [obey, orders, collect_raise, hnext, Option.elim_some]
      _ = c.farewell ++ (if role = .server then [.disconnect] else []) := by
        rw [orders_leaving_localDisconnect, orders_entering_idle, hconfig]
  · rw [obey, timings_raise, hnext, Option.elim_some, hconfig, hrole]
    exact List.mem_append_right _ (by simp [State.enteringTimings])

/-- Whatever a channel has gone through, unless it is out of service a disconnect takes it
to `State.idle`.  A server orders the transport in the same step to close the connection,
after the SHUTDOWN that ends an association.  A client orders the SHUTDOWN only, and
starts its reconnect timer. -/
theorem disconnect_releases (config : Config) (inputs : List Input) :
    let c := ((ofConfig config).stepAll inputs).channel
    let o := c.step (.command .disconnect)
    c.state ≠ .disabled →
      o.channel.state = .idle ∧
      (config.role = .server → orders o.effects = c.farewell ++ [.disconnect]) ∧
      (config.role = .client →
        orders o.effects = c.farewell ∧ (.reconnect, true) ∈ timings o.effects) := by
  intro c o hs
  have hfits : c.Fits config.role :=
    ((fits_ofConfig config).stepAll (holdsInOrder_ofConfig config) inputs).2
  obtain ⟨hidle, horders, htimer⟩ := hfits.orders_disconnect hs
  refine ⟨hidle, fun hserver => ?_, fun hclient => ⟨?_, htimer hclient⟩⟩
  · rw [if_pos hserver] at horders
    exact horders
  · have hother : config.role ≠ .server := by rw [hclient]; nofun
    rw [if_neg hother, List.append_nil] at horders
    exact horders

/-- A server in the middle of an association. -/
theorem disconnect_releases_dataReady :
    let inputs : List Input :=
      [.start, .connectionChanged true, .raise .remoteSetup,
        .receive (.identification "AAAA" "BBBB"), .receive .accept,
        .confirm .localStartup, .receive .startup]
    let c := ((ofConfig (.sample .server)).stepAll inputs).channel
    let o := c.step (.command .disconnect)
    c.state = .dataReady ∧ o.channel.state = .idle ∧
      orders o.effects = [.send .shutdown none, .disconnect] := by
  intro inputs c o
  have hstate : c.state = .dataReady := by decide +kernel
  obtain ⟨hidle, hserver, -⟩ := disconnect_releases (.sample .server) inputs
    (by rw [hstate]; nofun)
  refine ⟨hstate, hidle, ?_⟩
  rw [hserver rfl, farewell, if_pos (.inr hstate)]
  rfl

/-- A client in the middle of an association is told to release the connection, and does
nothing that makes the transport close it. -/
theorem disconnect_keeps_connection :
    ∃ inputs : List Input,
      let c := ((ofConfig (.sample .client)).stepAll inputs).channel
      let o := c.step (.command .disconnect)
      c.state = .dataReady ∧ o.channel.state = .idle ∧
        ∀ a ∈ actions o.effects, a.closes = false := by
  refine ⟨[.start, .connectionChanged true, .confirm .remoteSetup,
    .receive (.identification "BBBB" "AAAA"), .confirm .localStartup, .receive .startup], ?_⟩
  decide +kernel

end Channel

end FlightLink
