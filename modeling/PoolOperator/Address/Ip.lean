import PoolOperator.Text.Numeral

/-!
# IP addresses

The two families of addresses, their texts and their order. A version 4 address is four decimal
octets without leading zeros; a version 6 address is eight groups of up to four hexadecimal
digits, of which one run of zero groups may be written `::` and the last two as a version 4
address. Written out, version 6 addresses are canonical: lower case, the first longest run of at
least two zero groups compressed, mapped version 4 addresses dotted.
-/

namespace PoolOperator

/-- An address of one of the two families, as its bits. -/
inductive IpAddress where
  | v4 (bits : BitVec 32)
  | v6 (bits : BitVec 128)
deriving DecidableEq, Repr

namespace IpAddress

/-- Whether the address is of version 4. -/
def isV4 : IpAddress → Bool
  | .v4 _ => true
  | .v6 _ => false

/-- The numeric value of the address's bits. -/
def toNat : IpAddress → Nat
  | .v4 bits => bits.toNat
  | .v6 bits => bits.toNat

/-- The length of the longest network prefix of the family. -/
def width : IpAddress → Nat
  | .v4 _ => 32
  | .v6 _ => 128

/-! ## Reading -/

/-- Joins digits of a base, most significant first. -/
def ofDigits (base : Nat) (digits : List Nat) : Nat := digits.foldl (fun n d => base * n + d) 0

/-- The digits at the start of a text, and what follows them. -/
def spanDigits (base : Nat) : List Char → List Nat × List Char
  | [] => ([], [])
  | c :: cs =>
    match Text.digit? base c with
    | none => ([], c :: cs)
    | some d => let (ds, rest) := spanDigits base cs; (d :: ds, rest)

/-- A decimal octet: one to three digits, the first of several not zero, at most 255. -/
def readOctet? (cs : List Char) : Option (Nat × List Char) :=
  let (ds, rest) := spanDigits 10 cs
  if ds.length = 0 ∨ 3 < ds.length then none
  else if ds.head? = some 0 ∧ 1 < ds.length then none
  else if Text.maxByte < ofDigits 10 ds then none
  else some (ofDigits 10 ds, rest)

/-- A group of one to four hexadecimal digits. -/
def readGroup? (cs : List Char) : Option (Nat × List Char) :=
  let (ds, rest) := spanDigits 16 cs
  if ds.length = 0 ∨ 4 < ds.length then none else some (ofDigits 16 ds, rest)

/-- Takes one given character off a text. -/
def readChar? (c : Char) : List Char → Option (List Char)
  | [] => none
  | d :: cs => if d = c then some cs else none

/-- Four octets joined by dots. -/
def readV4? (cs : List Char) : Option (BitVec 32 × List Char) := do
  let (a, cs) ← readOctet? cs
  let cs ← readChar? '.' cs
  let (b, cs) ← readOctet? cs
  let cs ← readChar? '.' cs
  let (c, cs) ← readOctet? cs
  let cs ← readChar? '.' cs
  let (d, cs) ← readOctet? cs
  return (BitVec.ofNat 32 (ofDigits 256 [a, b, c, d]), cs)

/-- What `readGroups` found: the groups, whether a dotted tail ended them, and the text behind. -/
structure Groups where
  values : List Nat
  dotted : Bool
  rest : List Char
deriving DecidableEq, Repr

/-- Reads groups joined by colons, at most `room` of them. Where two groups would still fit, a
dotted version 4 address is taken as the last two; all groups but the first one of a series
follow a colon. -/
def readGroups (first : Bool) : (room : Nat) → List Char → Groups
  | 0, cs => ⟨[], false, cs⟩
  | room + 1, cs =>
    match if first then some cs else readChar? ':' cs with
    | none => ⟨[], false, cs⟩
    | some body =>
      match if room = 0 then none else readV4? body with
      | some (bits, rest) => ⟨[bits.toNat / 65536, bits.toNat % 65536], true, rest⟩
      | none =>
        match readGroup? body with
        | none => ⟨[], false, cs⟩
        | some (g, rest) =>
          let more := readGroups false room rest
          ⟨g :: more.values, more.dotted, more.rest⟩

/-- Eight groups, or fewer groups around one `::` that stands for at least one zero group. A
dotted tail must be at the very end. -/
def readV6? (cs : List Char) : Option (BitVec 128 × List Char) :=
  let front := readGroups true 8 cs
  if front.values.length = 8 then some (BitVec.ofNat 128 (ofDigits 65536 front.values), front.rest)
  else if front.dotted then none
  else do
    let cs ← readChar? ':' front.rest
    let cs ← readChar? ':' cs
    let back := readGroups true (7 - front.values.length) cs
    let zeros := List.replicate (8 - front.values.length - back.values.length) 0
    return (BitVec.ofNat 128 (ofDigits 65536 (front.values ++ zeros ++ back.values)), back.rest)

/-- Reads a whole text as an address; a text that starts with a version 4 address is not tried as
version 6. -/
def parse? (cs : List Char) : Option IpAddress :=
  match readV4? cs with
  | some (bits, rest) => if rest.isEmpty then some (.v4 bits) else none
  | none =>
    match readV6? cs with
    | some (bits, rest) => if rest.isEmpty then some (.v6 bits) else none
    | none => none

/-! ## Writing -/

/-- The digits of a number in a base, a fixed count of them, most significant first. -/
def toDigits (base : Nat) : (count : Nat) → Nat → List Nat
  | 0, _ => []
  | count + 1, n => toDigits base count (n / base) ++ [n % base]

/-- Four octets joined by dots. -/
def renderV4 (bits : BitVec 32) : String :=
  ".".intercalate ((toDigits 256 4 bits.toNat).map Nat.repr)

/-- A group without leading zeros, in lower case. -/
def renderGroup (n : Nat) : String := String.ofList (Nat.toDigits 16 n)

/-- The start and length of the first longest run of zeros; length 0 if there is none. -/
def longestZeroRun (groups : List Nat) : Nat × Nat :=
  let runAt (i : Nat) : Nat := ((groups.drop i).takeWhile (· == 0)).length
  (List.range groups.length).foldl
    (fun (start, len) i => if len < runAt i then (i, runAt i) else (start, len)) (0, 0)

/-- The canonical text of eight groups. -/
def renderV6 (bits : BitVec 128) : String :=
  let groups := toDigits 65536 8 bits.toNat
  let join (gs : List Nat) : String := ":".intercalate (gs.map renderGroup)
  if groups.take 6 = [0, 0, 0, 0, 0, 65535] then
    "::ffff:" ++ renderV4 (BitVec.ofNat 32 bits.toNat)
  else
    let (start, len) := longestZeroRun groups
    if 1 < len then join (groups.take start) ++ "::" ++ join (groups.drop (start + len))
    else join groups

/-- The canonical text of an address. -/
def render : IpAddress → String
  | .v4 bits => renderV4 bits
  | .v6 bits => renderV6 bits

end IpAddress

end PoolOperator
