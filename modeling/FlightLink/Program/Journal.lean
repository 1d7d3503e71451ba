import FlightLink.Host

/-!
# The journal of a running channel

The lines that the program for a channel writes while it runs, from a certain level on, on a host
where nobody else listens and no names are known.
-/

namespace FlightLink

/-- The level of a name, if it is one. -/
def Note.Level.ofName? (name : String) : Option Note.Level :=
  [Note.Level.trace, .debug, .info, .warn, .error].find? fun level =>
    level.name == name.map Char.toUpper

namespace Program

/-- A host that runs a channel. -/
def channelHost (config : Config) (net : Network) : Host :=
  let host := { Host.ofNetwork .standard net with notes := [Table.note config.role] }
  (host.install (.ofConfig config 0)).settle

/-- The lines of the notes from a level on, in their order. -/
def linesFrom (level : Note.Level) (h : Host) : List String :=
  (h.notes.reverse.filter fun n => level.rank ≤ n.level.rank).map Note.line

/-- Lets a host run until it has written enough lines; `fuel` bounds the instants at which it goes
on. -/
def runUntil (enough : Host → Bool) : (fuel : Nat) → Host → Host
  | 0, h => h
  | fuel + 1, h =>
    if enough h then h
    else
      match h.advanceToNext? with
      | none => h
      | some h => runUntil enough fuel h

/-- How many instants a journal covers at most. -/
def journalSpan : Nat := 4000

/-- The first lines that a channel writes from a level on. -/
def journal (config : Config) (level : Note.Level) (count : Nat) : List String :=
  let host := runUntil (fun h => count ≤ (linesFrom level h).length) journalSpan
    (channelHost config (.ofHosts []))
  (linesFrom level host).take count

end Program

end FlightLink
