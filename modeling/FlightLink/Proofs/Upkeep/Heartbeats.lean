import FlightLink.Proofs.Upkeep.Opening

/-!
# Heartbeats keep an association alive

A client and a server get a connection that stays up, and their applications send data
and nothing else.  The intervals are such that each side comes up with a sign of life
before the other one gives it up.

There is a limit.  A sleep may be cut to the longest that the clock grants, so an interval
that is longer may come to its end as early as that.
-/

namespace FlightLink

namespace Upkeep

variable {clock : Clock} {config : Role → Config} {start : Nat} {c : Role → Controller}

/-- Two controllers keep their association alive.  Both have been started and have had
no connection when they get one, which stays up; from then on the applications send data
of any length whenever they want, and everything is delivered before time passes.  Then no
timer ever expires but the send timers, and once time has passed, both sides exchange
data.

A sleep for Ts has to last in full.  Whether one for Tr does is of no importance, for it is
not cut to less than that. -/
theorem heartbeats_keep_association (hclock : clock.Saturates) (hconfig : Suited config)
    (hkept : ∀ r, Clock.seconds (config r).ts < clock.longest)
    (hwaits : ∀ r, (c r).Waits clock (config r) start) {moves : List Move}
    (hmoves : (connected clock start c).Permits moves) (r : Role) :
    let x := (connected clock start c).run moves
    (∀ kind, (x.line r).controller.timers.Awaits kind → kind = .send) ∧
      (start < x.now → (x.line r).controller.channel.state = .dataReady) := by
  have hmatched := hconfig.matched hclock hkept
  have hrun := (kept_connected hconfig hwaits).run hmatched hconfig.isPosted hmoves
  refine hrun.expiry_and_state ?_ r
  rw [clock_run]
  exact hmatched

/-- Whatever has been sent arrives, and every event comes back. -/
def delivery : List Move :=
  [.meet .client .written, .meet .server (.arrival 100), .meet .server .written,
    .meet .client (.arrival 100)]

/-- The client sends data once; apart from that there is silence for 45 seconds. -/
def sampleMoves : List Move :=
  delivery ++ delivery ++ delivery ++ delivery ++
    .pass 14000 :: .meet .client (.data "FPL") :: delivery ++
    .pass 1000 :: .expiry .server :: delivery ++
    .pass 14000 :: .expiry .client :: delivery ++
    .pass 1000 :: .expiry .server :: delivery ++
    .pass 14000 :: .expiry .client :: delivery

/-- A controller a second after its start, without a connection so far. -/
def sampleController (r : Role) : Controller :=
  ((Controller.Clocked.started .standard (.sample r) 0).run
    [.signal (.connected false), .elapse 1000]).after.controller

theorem waits_sample (r : Role) : (sampleController r).Waits .standard (.sample r) 1000 := by
  refine ⟨0, [.signal (.connected false), .elapse 1000], ?_, ?_⟩
  · simp [Controller.Occurrence.IsPrior]
  · cases r <;> rfl

theorem suited_sample : Suited Config.sample where
  checked r := ⟨.sample r, Settings.check_sample r⟩
  role _ := rfl
  charset _ := rfl
  startState _ := rfl
  mirrors := ⟨rfl, rfl⟩
  fits := by decide +kernel
  shorter := by decide

theorem heartbeats_keep_association_sample :
    let x := (connected .standard 1000 sampleController).run sampleMoves
    x.now = 45000 ∧ ∀ r,
      (∀ kind, (x.line r).controller.timers.Awaits kind → kind = .send) ∧
        (x.line r).controller.channel.state = .dataReady := by
  have hmoves : (connected .standard 1000 sampleController).Permits sampleMoves := by
    decide +kernel
  have hnow : ((connected .standard 1000 sampleController).run sampleMoves).now = 45000 := by
    decide +kernel
  refine ⟨hnow, fun r => ?_⟩
  obtain ⟨hsend, hstate⟩ := heartbeats_keep_association Clock.saturates_standard suited_sample
    (by decide) waits_sample hmoves r
  exact ⟨hsend, hstate (by rw [hnow]; decide)⟩

/-- If a sleep for Ts is cut, Tr may come to its end at the same time.  Here both are longer
than thirty years.  After as long without data from the server, the receive timer of the
client and the send timer of the server have expired.  The client takes its expiry first, and
gives up its peer, although everything has been delivered. -/
theorem receive_expires_with_send :
    let config r := { Config.sample r with ts := 10 ^ 10, tr := 2 ^ 64 - 1 }
    let c r := (Controller.Clocked.started .standard (config r) 0).controller
    let moves := delivery ++ delivery ++ delivery ++ delivery ++
      .pass 1000 :: .meet .client (.data "FPL") :: delivery ++
      [.pass (Clock.thirtyYears - 1000), .expiry .client]
    let x := (connected .standard 0 c).run moves
    Suited config ∧ (∀ r, (c r).Waits .standard (config r) 0) ∧
      (connected .standard 0 c).Permits moves ∧ x.now = Clock.thirtyYears ∧
      (x.line .client).controller.channel.state = .idle := by
  intro config c moves x
  have hcheck : ∀ r, { Settings.sample r with
      intervalTs := 10 ^ 10, intervalTr := 2 ^ 64 - 1 }.check = .ok (config r) := by
    intro r
    cases r <;> decide +kernel
  refine ⟨⟨fun r => ⟨_, hcheck r⟩, fun _ => rfl, fun _ => rfl, fun _ => rfl, ⟨rfl, rfl⟩, ?_,
    ?_⟩, fun r => ⟨0, [], nofun, rfl⟩, ?_, ?_, ?_⟩
  · decide +kernel
  · decide +kernel
  · decide +kernel
  · decide +kernel
  · decide +kernel

end Upkeep

end FlightLink
