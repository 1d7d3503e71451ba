import FlightLink.Network

/-!
# Looking up socket addresses

A socket address is written as a host and a port around a colon.  The host is an IP address, in
brackets if it is an IPv6 address, or a name that the network knows.
-/

namespace FlightLink.Network

/-- Why a text leads to no socket address. -/
inductive LookupProblem where
  /-- There is no colon. -/
  | noPort
  /-- What follows the last colon is no port number. -/
  | badPort
  | unresolved (p : Problem)
  /-- The name has no address. -/
  | noAddress
  /-- No address could be bound, for this reason. -/
  | unbound (p : Problem)
  deriving DecidableEq, Repr

/-- The wording of a problem. -/
def LookupProblem.message : LookupProblem → String
  | noPort => "invalid socket address"
  | badPort => "invalid port value"
  | unresolved p => p.message
  | noAddress => "could not resolve to any address"
  | unbound p => p.message

/-- A number of at most `limit`, in decimal digits. -/
def decimal? (limit : Nat) (digits : List Char) : Option Nat :=
  if digits.isEmpty || !digits.all Char.isDigit then none
  else
    let n := digits.foldl (fun n c => n * 10 + (c.toNat - 0x30)) 0
    if n ≤ limit then some n else none

/-- A port number, which may have a plus sign. -/
def portNumber? : List Char → Option Nat
  | '+' :: digits => decimal? 65535 digits
  | digits => decimal? 65535 digits

/-- The parts of a text around its last colon. -/
def splitAtLastColon? (text : List Char) : Option (List Char × List Char) :=
  let reversed := text.reverse
  match reversed.dropWhile (· != ':') with
  | [] => none
  | _ :: host => some (host.reverse, (reversed.takeWhile (· != ':')).reverse)

/-- An IPv6 address, with the number of a zone after a percent sign or without. -/
def zoned? (text : List Char) : Option IpAddress :=
  match text.dropWhile (· != '%') with
  | [] => IpAddress.parse6? text
  | _ :: zone =>
    (decimal? 0xFFFFFFFF zone).bind fun _ => IpAddress.parse6? (text.takeWhile (· != '%'))

/-- An IPv6 address in brackets and a port. -/
def bracketed? : List Char → Option SocketAddress
  | '[' :: rest =>
    match rest.dropWhile (· != ']') with
    | ']' :: ':' :: digits => do
      let ip ← zoned? (rest.takeWhile (· != ']'))
      let port ← decimal? 65535 digits
      return ⟨ip, .number port⟩
    | _ => none
  | _ => none

/-- The socket addresses that a text stands for. -/
def lookup (net : Network) (text : String) : Except LookupProblem (List SocketAddress) :=
  match bracketed? text.toList with
  | some address => .ok [address]
  | none =>
    match splitAtLastColon? text.toList with
    | none => .error .noPort
    | some (host, digits) =>
      match portNumber? digits with
      | none => .error .badPort
      | some port =>
        match net.resolve (String.ofList host) with
        | .error p => .error (.unresolved p)
        | .ok ips => .ok (ips.map (⟨·, .number port⟩))

/-- Listens on the first of some addresses that can be bound; `problem` is the answer if there is
none. -/
def bindFirst (net : Network) (problem : LookupProblem) :
    List SocketAddress → Except LookupProblem (Nat × Network)
  | [] => .error problem
  | address :: rest =>
    match net.bind address false with
    | .ok result => .ok result
    | .error p => bindFirst net (.unbound p) rest

/-- Listens on the socket address that a text stands for. -/
def listen (net : Network) (text : String) : Except LookupProblem (Nat × Network) :=
  match net.lookup text with
  | .error p => .error p
  | .ok addresses => net.bindFirst .noAddress addresses

end FlightLink.Network
