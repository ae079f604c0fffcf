import ContainerBridge.Text.Basic
import ContainerBridge.Text.Case
import ContainerBridge.Url.Percent
import ContainerBridge.Url.Punycode

/-! Hosts of URLs: names, and addresses in all their spellings. -/

namespace ContainerBridge.Url

/-- Why a text is no URL. -/
inductive Fault where
  | relativeWithoutBase
  | emptyHost
  | badPort
  | badIpv4
  | badIpv6
  | badDomain
  | badDomainCharacter
  /-- The base has no path to which a relative reference could be added. -/
  | opaqueBase
  deriving DecidableEq, Repr

def Fault.message : Fault → String
  | .relativeWithoutBase => "relative URL without a base"
  | .emptyHost => "empty host"
  | .badPort => "invalid port number"
  | .badIpv4 => "invalid IPv4 address"
  | .badIpv6 => "invalid IPv6 address"
  | .badDomain => "invalid international domain name"
  | .badDomainCharacter => "invalid domain character"
  | .opaqueBase => "relative URL with a cannot-be-a-base base"

inductive Host where
  | name (s : String)
  /-- An address of thirty-two bits. -/
  | ipv4 (n : Nat)
  /-- An address of eight groups of sixteen bits. -/
  | ipv6 (groups : List Nat)
  deriving DecidableEq, Repr

namespace Host

/-! Addresses of four numbers, which may be decimal, octal or hexadecimal. -/

def isHex (c : Char) : Bool := c.isDigit || ('a' ≤ c && c ≤ 'f') || ('A' ≤ c && c ≤ 'F')

def hexDigit (c : Char) : Nat :=
  if c.isDigit then c.toNat - 48 else if c.isLower then c.toNat - 87 else c.toNat - 55

def hexNumber (cs : List Char) : Nat := cs.foldl (fun n c => 16 * n + hexDigit c) 0

def octalNumber (cs : List Char) : Nat := cs.foldl (fun n c => 8 * n + (c.toNat - 48)) 0

/-- A number of an address; an octal one has a zero in front, a hexadecimal one `0x`. -/
def addressNumber : List Char → Option Nat
  | [] => none
  | ['0'] => some 0
  | '0' :: c :: rest =>
    if c = 'x' || c = 'X' then
      if rest.all isHex then some (hexNumber rest) else none
    else if (c :: rest).all (fun d => '0' ≤ d && d ≤ '7') then some (octalNumber (c :: rest))
    else none
  | cs => Text.digits? cs

/-- The parts of a name; one dot at the end does not count. -/
def nameParts (cs : List Char) : List (List Char) :=
  let ps := Text.parts '.' cs
  if 1 < ps.length && ps.getLast? = some [] then ps.dropLast else ps

/-- Whether the last part of a name is a number, which makes the name an address. -/
def endsInNumber (cs : List Char) : Bool :=
  match (nameParts cs).getLast? with
  | some last => (!last.isEmpty && last.all Char.isDigit) || (addressNumber last).isSome
  | none => false

/-- The last number of an address fills the places that the others leave. -/
def ipv4Of (numbers : List Nat) : Option Nat :=
  match numbers.reverse with
  | [] => none
  | last :: before =>
    let places := 4 - before.length
    if 4 < numbers.length || before.any (255 < ·) || Nat.pow 256 places ≤ last then none
    else some (before.reverse.foldl (fun n b => 256 * n + b) 0 * Nat.pow 256 places + last)

def parseIpv4 (cs : List Char) : Except Fault Host :=
  match ((nameParts cs).mapM addressNumber).bind ipv4Of with
  | some n => .ok (.ipv4 n)
  | none => .error .badIpv4

/-! Addresses of eight groups, of which a run of zeros may be left out. -/

/-- A number up to 255 without zeros in front. -/
def octet (cs : List Char) : Option Nat :=
  match cs with
  | '0' :: _ :: _ => none
  | cs => (Text.digits? cs).filter (· < 256)

def dotted (cs : List Char) : Option (List Nat) := do
  match ← (Text.parts '.' cs).mapM octet with
  | [a, b, c, d] => some [256 * a + b, 256 * c + d]
  | _ => none

def group (cs : List Char) : Option Nat :=
  if cs.isEmpty || 4 < cs.length || !cs.all isHex then none else some (hexNumber cs)

/-- Groups between colons; the last one may be an address of four numbers. -/
def groupList : List (List Char) → Option (List Nat)
  | [] => some []
  | [cs] => if cs.contains '.' then dotted cs else (group cs).map ([·])
  | cs :: rest => do
    let g ← group cs
    (groupList rest).map (g :: ·)

def groups (cs : List Char) : Option (List Nat) :=
  if cs.isEmpty then some [] else groupList (Text.parts ':' cs)

def ipv6Of (cs : List Char) : Option (List Nat) :=
  match Text.cutAt [':', ':'] cs with
  | none => (groups cs).filter (·.length = 8)
  | some (left, right) => do
    if left.contains '.' then none
    else
      let left ← groups left
      let right ← groups right
      if 7 < left.length + right.length then none
      else some (left ++ List.replicate (8 - left.length - right.length) 0 ++ right)

/-- An address in brackets, after the opening one. -/
def parseIpv6 (cs : List Char) : Except Fault Host :=
  if cs.getLast? = some ']' then
    match ipv6Of cs.dropLast with
    | some gs => .ok (.ipv6 gs)
    | none => .error .badIpv6
  else .error .badIpv6

/-! Names. -/

/-- Characters that are not written and count for nothing. -/
def isIgnored (c : Char) : Bool :=
  c.toNat = 0xAD || c.toNat = 0x200B || c.toNat = 0x2060 || c.toNat = 0xFEFF
    || (0xFE00 ≤ c.toNat && c.toNat ≤ 0xFE0F)

/-- The small letters that a character of a name stands for; wide forms stand for narrow ones, and
every full stop for a dot. -/
def foldName (c : Char) : List Char :=
  if c.toNat = 0x3002 || c.toNat = 0xFF61 then ['.']
  else if 0xFF01 ≤ c.toNat && c.toNat ≤ 0xFF5E then [(Char.ofNat (c.toNat - 0xFEE0)).toLower]
  else if isIgnored c then []
  else Text.lowerChar c

/-- Characters that no name holds. -/
def isForbidden (c : Char) : Bool :=
  c.toNat ≤ 0x20 || c.toNat = 0x7F || "#%/:<>?@[\\]^|".toList.contains c

def encodedStart : List Char := ['x', 'n', '-', '-']

/-- A label in the basic alphabet; one that is already encoded must be an encoding. -/
def basicLabel (cs : List Char) : Option (List Char) :=
  if cs.any (0x80 ≤ ·.toNat) then some (encodedStart ++ Punycode.encode cs)
  else if encodedStart.isPrefixOf cs then do
    let decoded ← Punycode.decode? (cs.drop 4)
    if decoded.any (0x80 ≤ ·.toNat) && Punycode.encode decoded = cs.drop 4 then some cs else none
  else some cs

/-- A name in the basic alphabet. -/
def basicName (s : String) : Option String := do
  let cs := s.toList.flatMap foldName
  if cs.any isForbidden then none
  else
    let labels ← (Text.parts '.' cs).mapM basicLabel
    some (Text.joinWith "." (labels.map String.ofList))

/-- The host of a URL whose scheme is special. -/
def parse (cs : List Char) : Except Fault Host :=
  match cs with
  | '[' :: rest => parseIpv6 rest
  | cs =>
    match (Text.ofBytes? (percentDecode (Text.bytes (String.ofList cs)))).bind basicName with
    | none => .error .badDomain
    | some domain =>
      if domain = "" then .error .emptyHost
      else if endsInNumber domain.toList then parseIpv4 domain.toList
      else .ok (.name domain)

/-- The host of any other URL. -/
def parseOpaque (cs : List Char) : Except Fault Host :=
  match cs with
  | '[' :: rest => parseIpv6 rest
  | cs =>
    if cs.any fun c => c = '\x00' || " #/:<>?@[\\]^|".toList.contains c then
      .error .badDomainCharacter
    else .ok (.name (percentEncode isControl cs))

def hexText (n : Nat) : String := String.ofList (Nat.toDigits 16 n)

/-- The length of the run of zeros that begins the list. -/
def zeros (gs : List Nat) : Nat := (gs.takeWhile (· = 0)).length

/-- Where the longest run of zeros begins, the first of several, and how long it is. -/
def longestRun (gs : List Nat) : Nat × Nat :=
  (List.range gs.length).foldl
    (fun best i => if best.2 < zeros (gs.drop i) then (i, zeros (gs.drop i)) else best) (0, 0)

def ipv6Text (gs : List Nat) : String :=
  let (start, length) := longestRun gs
  let colons (l : List Nat) := Text.joinWith ":" (l.map hexText)
  if length < 2 then colons gs
  else colons (gs.take start) ++ "::" ++ colons (gs.drop (start + length))

def ipv4Text (n : Nat) : String :=
  let bytes := [n / 0x1000000, n / 0x10000 % 0x100, n / 0x100 % 0x100, n % 0x100]
  Text.joinWith "." (bytes.map toString)

def text : Host → String
  | name s => s
  | ipv4 n => ipv4Text n
  | ipv6 gs => "[" ++ ipv6Text gs ++ "]"

end Host
end ContainerBridge.Url
