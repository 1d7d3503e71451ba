import FlightLink.Network.Lookup
import FlightLink.Settings.Document
import FlightLink.Text.Utf8

/-!
# How the programs start

Both programs read the settings of one channel from a file whose path is their first argument.  The
one runs the channel; the other, the front, runs it behind an HTTP interface, and its second
argument says where the interface is offered.  A program that cannot start reports a failure, with
its cause if there is one.
-/

namespace FlightLink.Program

/-- What comes of reading a file. -/
inductive Reading where
  | bytes (content : ByteArray)
  | missing
  | directory
  | failed (text : String)

/-- Why a program does not start. -/
structure Failure where
  text : String
  cause? : Option String
  deriving DecidableEq, Repr

namespace Failure

/-- A text whose lines are indented. -/
def indented (text : String) : String :=
  "    " ++ "\n    ".intercalate (text.splitOn "\n")

/-- The report of a failure. -/
def report (f : Failure) : String :=
  match f.cause? with
  | none => s!"Error: {f.text}\n"
  | some cause => s!"Error: {f.text}\n\nCaused by:\n{indented cause}\n"

end Failure

/-- The text of a file. -/
def textOf (path : String) (reading : Reading) : Except Failure String :=
  let fail (cause : String) : Except Failure String :=
    .error ⟨s!"cannot read {path}", some cause⟩
  match reading with
  | .bytes content =>
    match Text.Utf8.decode? content.data.toList with
    | .ok text => .ok (String.ofList text)
    | .error _ => fail "stream did not contain valid UTF-8"
  | .missing => fail "No such file or directory (os error 2)"
  | .directory => fail "Is a directory (os error 21)"
  | .failed text => fail text

/-- The settings in a file. -/
def settingsOf (path : String) (reading : Reading) : Except Failure Settings := do
  match Settings.parse? (← textOf path reading) with
  | some settings => return settings
  | none => throw ⟨s!"cannot parse {path}", none⟩

/-- The configuration that the program for a channel runs with. -/
def startChannel (args : List String) (read : String → Reading) : Except Failure Config :=
  match args with
  | [] => .error ⟨"usage: fmtp-channel <settings.json>", none⟩
  | path :: _ => do
    match (← settingsOf path (read path)).check with
    | .ok config => return config
    | .error fault => throw ⟨"invalid channel settings", some fault.message⟩

/-- Where the front offers its interface unless it is told otherwise. -/
def defaultListen : String := "127.0.0.1:8000"

/-- The configuration that the front runs with, and the network where it listens. -/
def startFront (args : List String) (read : String → Reading) (net : Network) :
    Except Failure (Config × Network) :=
  match args with
  | [] => .error ⟨"usage: fmtp-http <settings.json> [listen address]", none⟩
  | path :: more => do
    let address := more.head?.getD defaultListen
    match (← settingsOf path (read path)).check with
    | .error fault => throw ⟨fault.message, none⟩
    | .ok config =>
      match net.listen address with
      | .ok (_, net) => return (config, net)
      | .error p => throw ⟨s!"cannot listen on {address}", some p.message⟩

end FlightLink.Program
