import PoolOperator.Text.Blank
import PoolOperator.Address.Ip

/-!
# Blocks of addresses

The texts a pool may list: one address, a network `address/length`, or an ascending range
`address-address` of one family. Blanks may surround each part. The first slash decides before
the first dash.
-/

namespace PoolOperator

/-- What one text of a pool stands for. -/
inductive AddressBlock where
  | single (address : IpAddress)
  | network (address : IpAddress) (length : Nat)
  | range (first last : IpAddress)
deriving DecidableEq, Repr

/-- Why a text is not a block of addresses. -/
inductive AddressError where
  | empty
  | notAnAddress (text : String)
  | lengthNotANumber (text : String)
  | lengthTooLarge (length greatest : Nat)
  | mixedFamilies
  | descending (first last : IpAddress)
deriving DecidableEq, Repr

/-- The wording of an address error. -/
def AddressError.message : AddressError → String
  | .empty => "empty address"
  | .notAnAddress text => s!"'{text}' is not an IP address"
  | .lengthNotANumber text => s!"prefix length '{text}' is not a number"
  | .lengthTooLarge length greatest => s!"prefix length {length} exceeds {greatest}"
  | .mixedFamilies => "range mixes IPv4 and IPv6"
  | .descending first last => s!"range start {first.render} is after end {last.render}"

namespace AddressBlock

/-- An address with blanks around it. -/
def parseIp (cs : List Char) : Except AddressError IpAddress :=
  match IpAddress.parse? (Text.trim cs) with
  | some address => .ok address
  | none => .error (.notAnAddress (String.ofList (Text.trim cs)))

/-- The two sides of a slash. -/
def parseNetwork (address length : List Char) : Except AddressError AddressBlock := do
  let ip ← parseIp address
  match Text.readNumeral Text.maxByte (Text.trim length) with
  | .error _ => .error (.lengthNotANumber (String.ofList length))
  | .ok n => if ip.width < n then .error (.lengthTooLarge n ip.width) else .ok (.network ip n)

/-- The two sides of a dash. -/
def parseRange (first last : List Char) : Except AddressError AddressBlock := do
  let a ← parseIp first
  let b ← parseIp last
  if a.isV4 ≠ b.isV4 then .error .mixedFamilies
  else if b.toNat < a.toNat then .error (.descending a b)
  else .ok (.range a b)

/-- Reads the text of a block of addresses. -/
def parse (text : String) : Except AddressError AddressBlock :=
  let cs := Text.trim text.toList
  if cs.isEmpty then .error .empty
  else
    match Text.splitFirst? '/' cs with
    | some (address, length) => parseNetwork address length
    | none =>
      match Text.splitFirst? '-' cs with
      | some (first, last) => parseRange first last
      | none => (parseIp cs).map .single

end AddressBlock

end PoolOperator
