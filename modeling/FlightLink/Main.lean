import FlightLink.Program.Front
import FlightLink.Program.Startup

/-!
# The command line

The first argument names the program, the others are its own.  The program for a channel runs the
channel and writes its journal; the front answers the requests that it reads from its input, one a
line: the method, the target, and the body after the second blank.
-/

namespace FlightLink.CommandLine

open Program

/-- Reads a file. -/
def readFile (path : String) : IO Reading := do
  try
    return .bytes (← IO.FS.readBinFile path)
  catch
    | .noFileOrDirectory .. => return .missing
    | .inappropriateType .. => return .directory
    | problem => return .failed (toString problem)

/-- Reads the file that the first argument names. -/
def readFirst (args : List String) : IO Reading :=
  match args with
  | [] => return .missing
  | path :: _ => readFile path

/-- Reports a failure. -/
def fail (failure : Failure) : IO UInt32 := do
  IO.eprint failure.report
  return 1

/-- The level from which on notes are written. -/
def journalLevel : IO Note.Level := do
  match ← IO.getEnv "FMTP_LOG" with
  | none => return .error
  | some name => return (Note.Level.ofName? name).getD .error

/-- Writes the new notes of a host, waits for the next instant, and goes on. -/
partial def follow (level : Note.Level) (h : Host) : IO Unit := do
  (linesFrom level h).forM IO.println
  match { h with notes := [] }.advanceToNext? with
  | none => return
  | some next =>
    IO.sleep (next.now - h.now).toUInt32
    follow level next

/-- Runs a channel. -/
def runChannel (args : List String) : IO UInt32 := do
  let reading ← readFirst args
  match startChannel args fun _ => reading with
  | .error failure => fail failure
  | .ok config =>
    follow (← journalLevel) (channelHost config (.ofHosts []))
    return 0

/-- The request on a line. -/
def requestOf (line : String) : Request :=
  match line.splitOn " " with
  | [] => ⟨"", "", []⟩
  | [method] => ⟨method, "", []⟩
  | method :: target :: body => ⟨method, target, (" ".intercalate body).toUTF8.data.toList⟩

/-- The text of a body. -/
def bodyText : Body → String
  | .nothing => ""
  | .text s => s
  | .document value => value.text

/-- Answers the requests of a stream. -/
partial def answerAll (input : IO.FS.Stream) (front : Front) : IO Unit := do
  let line ← input.getLine
  if line.isEmpty then return
  let (response, front) := front.handle (requestOf (line.dropEndWhile (· == '\n')).copy)
  IO.println s!"{response.code} {bodyText response.body}"
  answerAll input front

/-- Runs the front of a channel. -/
def runFront (args : List String) : IO UInt32 := do
  let reading ← readFirst args
  match startFront args (fun _ => reading) (.ofHosts []) with
  | .error failure => fail failure
  | .ok (config, net) =>
    answerAll (← IO.getStdin) (.ofConfig config net)
    return 0

end FlightLink.CommandLine

/-- Runs the program that the first argument names. -/
def main (args : List String) : IO UInt32 :=
  match args with
  | "fmtp-channel" :: rest => FlightLink.CommandLine.runChannel rest
  | "fmtp-http" :: rest => FlightLink.CommandLine.runFront rest
  | _ => FlightLink.CommandLine.fail ⟨"usage: (fmtp-channel | fmtp-http) <settings.json> ...", none⟩
