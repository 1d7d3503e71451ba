import FlightLink.Channel
import FlightLink.Fifo

/-!
# A channel with its queue of actions

The actions of a channel wait in a queue until somebody takes them, one at a time or all at once.
-/

namespace FlightLink.Channel

/-- A channel and the actions that nobody has taken yet. -/
structure Queued where
  channel : Channel
  actions : Fifo Action

namespace Queued

/-- A new channel without actions. -/
def ofConfig (config : Config) : Queued := ⟨.ofConfig config, .empty⟩

/-- A step of the channel, with the notes that it writes. -/
def step (q : Queued) (input : Input) : Queued × List Note :=
  let o := q.channel.step input
  (⟨o.channel, q.actions.append (Effect.actions o.effects)⟩, Effect.notes o.effects)

/-- Takes the next action. -/
def poll (q : Queued) : Option Action × Queued :=
  match q.actions.pop? with
  | none => (none, q)
  | some (a, rest) => (some a, { q with actions := rest })

/-- Takes all actions. -/
def takeAll (q : Queued) : List Action × Queued :=
  (q.actions.toList, { q with actions := .empty })

end Queued

end FlightLink.Channel
