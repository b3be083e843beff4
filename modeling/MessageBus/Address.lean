import MessageBus.Text.Numeral

namespace MessageBus

open Text

/-!
# Internet addresses

The address of a peer is shown in log lines and in the directory, and the
address to listen at comes from the configuration as text.

An IPv6 address has many spellings and is written in one of them: groups in
lower case without leading zeros, the longest run of at least two zero groups
(the first of several) replaced by `::`, and the last two groups as four decimal
bytes if the address stands for an IPv4 one.  With a port behind it, it is put
into brackets together with its scope.
-/

inductive IpAddress where
  | v4 (bytes : List UInt8)
  | v6 (groups : List UInt16)
deriving DecidableEq, Repr

structure SocketAddress where
  ip : IpAddress
  port : UInt16
  /-- The zone in which a link-local address is meant; zero for none. -/
  scope : UInt32 := 0
deriving DecidableEq, Repr

/-! ## Writing -/

namespace IpAddress

/-- The four bytes of an IPv4 address with points between them. -/
def dotted (bytes : List Nat) : String :=
  ".".intercalate (bytes.map toString)

/-- Groups with colons between them. -/
def colons (groups : List UInt16) : String :=
  ":".intercalate (groups.map fun group => numeral 16 group.toNat)

/-- The length of the run of zero groups at the front. -/
def zeroRun (groups : List UInt16) : Nat :=
  (groups.takeWhile (· == 0)).length

/-- The longest run of zero groups, the first of several, as its start and its
length. -/
def longestZeroRun (groups : List UInt16) : Nat × Nat :=
  (List.range groups.length).foldl
    (fun best start =>
      let length := zeroRun (groups.drop start)
      if best.2 < length then (start, length) else best)
    (0, 0)

/-- Eight groups in their preferred spelling. -/
def compressed (groups : List UInt16) : String :=
  let (start, length) := longestZeroRun groups
  if 2 <= length then
    colons (groups.take start) ++ "::" ++ colons (groups.drop (start + length))
  else colons groups

def text : IpAddress -> String
  | .v4 bytes => dotted (bytes.map UInt8.toNat)
  | .v6 groups =>
      match groups with
      | [0, 0, 0, 0, 0, 0xFFFF, high, low] =>
          "::ffff:" ++ dotted
            [high.toNat / 256, high.toNat % 256, low.toNat / 256, low.toNat % 256]
      | _ => compressed groups

end IpAddress

namespace SocketAddress

def text (address : SocketAddress) : String :=
  match address.ip with
  | .v4 _ => s!"{address.ip.text}:{address.port}"
  | .v6 _ =>
      let scope := if address.scope = 0 then "" else s!"%{address.scope}"
      s!"[{address.ip.text}{scope}]:{address.port}"

end SocketAddress

/-!
## Reading

A reader of one part gives the part and the text behind it.
-/

namespace IpAddress

/-- A number in the given base that is not above `largest`. -/
def number (base largest : Nat) (text : List Char) : Option (Nat × List Char) :=
  let (digits, rest) := spanDigits base text
  let value := numeralValue base digits
  if digits.isEmpty || largest < value then none else some (value, rest)

/-- One byte of an IPv4 address; it has no superfluous zero in front. -/
def octet (text : List Char) : Option (UInt8 × List Char) := do
  let (value, rest) ← number 10 255 text
  if text.head? = some '0' && text.length != rest.length + 1 then none
  else some (UInt8.ofNat value, rest)

/-- The given character and then a part. -/
def after (mark : Char) (part : List Char -> Option (α × List Char)) (text : List Char) :
    Option (α × List Char) :=
  match text with
  | character :: rest => if character = mark then part rest else none
  | [] => none

/-- The four bytes of an IPv4 address. -/
def octets (text : List Char) : Option (List UInt8 × List Char) := do
  let (first, text) ← octet text
  let (second, text) ← after '.' octet text
  let (third, text) ← after '.' octet text
  let (fourth, text) ← after '.' octet text
  some ([first, second, third, fourth], text)

/-- One group of an IPv6 address: one to four hexadecimal digits. -/
def group (text : List Char) : Option (UInt16 × List Char) :=
  let (digits, rest) := spanDigits 16 text
  if digits.isEmpty || 4 < digits.length then none
  else some (UInt16.ofNat (numeralValue 16 digits), rest)

/-- Two groups written as the four bytes of an IPv4 address. -/
def dottedGroups (text : List Char) : Option (List UInt16 × List Char) := do
  let (bytes, rest) ← octets text
  match bytes with
  | [first, second, third, fourth] =>
      some ([first.toUInt16 * 256 + second.toUInt16, third.toUInt16 * 256 + fourth.toUInt16],
        rest)
  | _ => none

/-- A part that stands first, or behind a colon if it does not. -/
def separated (isFirst : Bool) (part : List Char -> Option (α × List Char))
    (text : List Char) : Option (α × List Char) :=
  if isFirst then part text else after ':' part text

/-- At most `room` groups, whether the last two were written as bytes, and the
text behind them. -/
def groups (isFirst : Bool) : (room : Nat) -> List Char -> List UInt16 × Bool × List Char
  | 0, text => ([], false, text)
  | room + 1, text =>
      let dotted? := if 1 <= room then separated isFirst dottedGroups text else none
      match dotted? with
      | some (pair, rest) => (pair, true, rest)
      | none =>
          match separated isFirst group text with
          | none => ([], false, text)
          | some (value, rest) =>
              let (more, dotted, rest) := groups false room rest
              (value :: more, dotted, rest)

/-- An IPv6 address without brackets.  A `::` stands for at least one group. -/
def readV6 (text : List Char) : Option (IpAddress × List Char) :=
  let (head, dotted, rest) := groups true 8 text
  if head.length = 8 then some (.v6 head, rest)
  else if dotted then none
  else match rest with
    | ':' :: ':' :: rest =>
        let (tail, _, rest) := groups true (7 - head.length) rest
        some (.v6 (head ++ List.replicate (8 - head.length - tail.length) 0 ++ tail), rest)
    | _ => none

end IpAddress

namespace SocketAddress

open IpAddress

/-- A zone behind a percent sign, or none. -/
def readScope (text : List Char) : Option (UInt32 × List Char) :=
  match text with
  | '%' :: rest => (number 10 (UInt32.size - 1) rest).map fun (value, rest) => (UInt32.ofNat value, rest)
  | _ => some (0, text)

/-- An address with a port. -/
def read (text : List Char) : Option (SocketAddress × List Char) :=
  match text with
  | '[' :: text => do
      let (ip, text) ← readV6 text
      let (scope, text) ← readScope text
      let (port, rest) ← after ']' (after ':' (number 10 65535)) text
      some (⟨ip, UInt16.ofNat port, scope⟩, rest)
  | _ => do
      let (bytes, text) ← octets text
      let (port, rest) ← after ':' (number 10 65535) text
      some (⟨.v4 bytes, UInt16.ofNat port, 0⟩, rest)

/-- The address that a text spells from its beginning to its end. -/
def ofText? (text : String) : Option SocketAddress :=
  match read text.toList with
  | some (address, []) => some address
  | _ => none

end SocketAddress

end MessageBus
