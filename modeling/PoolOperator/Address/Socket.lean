import PoolOperator.Address.Ip

/-!
# Socket addresses

An address with a port: `a.b.c.d:port`, or `[v6]:port`, where the brackets may also hold a numeric
scope behind a percent sign. A scope of zero is not written out.
-/

namespace PoolOperator

/-- Where a server listens. -/
structure SocketAddress where
  host : IpAddress
  /-- The scope of a version 6 address. -/
  scope : Nat
  port : Nat
deriving DecidableEq, Repr

namespace SocketAddress

/-- A decimal number of any length and at most the given value; leading zeros are allowed. -/
def readNumber? (greatest : Nat) (cs : List Char) : Option (Nat × List Char) :=
  let (ds, rest) := IpAddress.spanDigits 10 cs
  if ds.isEmpty then none
  else if greatest < IpAddress.ofDigits 10 ds then none
  else some (IpAddress.ofDigits 10 ds, rest)

/-- A colon and a port number. -/
def readPort? (cs : List Char) : Option (Nat × List Char) := do
  let cs ← IpAddress.readChar? ':' cs
  readNumber? Text.maxWord16 cs

/-- A percent sign and a scope; zero if there is no percent sign or no number behind it. -/
def readScope (cs : List Char) : Nat × List Char :=
  let scope? : Option (Nat × List Char) := do
    let cs ← IpAddress.readChar? '%' cs
    readNumber? Text.maxWord32 cs
  scope?.getD (0, cs)

/-- A version 4 address with a port at the start of a text. -/
def readV4? (cs : List Char) : Option (SocketAddress × List Char) := do
  let (bits, cs) ← IpAddress.readV4? cs
  let (port, cs) ← readPort? cs
  return (⟨.v4 bits, 0, port⟩, cs)

/-- A version 6 address in brackets with a port at the start of a text. -/
def readV6? (cs : List Char) : Option (SocketAddress × List Char) := do
  let cs ← IpAddress.readChar? '[' cs
  let (bits, cs) ← IpAddress.readV6? cs
  let (scope, cs) := readScope cs
  let cs ← IpAddress.readChar? ']' cs
  let (port, cs) ← readPort? cs
  return (⟨.v6 bits, scope, port⟩, cs)

/-- Reads a whole text as a socket address. -/
def parse? (text : String) : Option SocketAddress :=
  match (readV4? text.toList).or (readV6? text.toList) with
  | some (address, rest) => if rest.isEmpty then some address else none
  | none => none

/-- The text of a socket address. -/
def render (a : SocketAddress) : String :=
  match a.host with
  | .v4 bits => s!"{IpAddress.renderV4 bits}:{a.port}"
  | .v6 bits =>
    let host := IpAddress.renderV6 bits
    if a.scope = 0 then s!"[{host}]:{a.port}" else s!"[{host}%{a.scope}]:{a.port}"

end SocketAddress

end PoolOperator
