/-
CloudflareIpSync/Ipaddress.lean

Addresses and networks as Python's standard `ipaddress` module reads and
compares them, for texts of any shape.

* `ipAddress` is `ipaddress.ip_address` on a string: IPv4 is tried first, then
  IPv6 with its optional scope id.
* `ipNetwork` is `ipaddress.ip_network(_, strict=False)`: an address with an
  optional prefix length (or, for IPv4, a netmask or hostmask), whose host bits
  are masked off.
* `strip` is `str.strip` with no argument.

Every `ValueError` of the Python functions is `none` here.  A network carries
the proof that its host bits are zero, so two networks are equal exactly when
Python's are: same family, same network address (with its scope id), same mask.
-/
import Mathlib.Data.List.SplitLengths
import Mathlib.Data.List.DropRight
import Mathlib.Data.BitVec
import Mathlib.Tactic.Common

namespace Ipaddress

/-! ### Whitespace -/

/-- `str.isspace` on one character. -/
def isSpace (c : Char) : Bool :=
  let n := c.toNat
  (9 ≤ n && n ≤ 13) || (28 ≤ n && n ≤ 32) || n == 0x85 || n == 0xA0 || n == 0x1680 ||
    (0x2000 ≤ n && n ≤ 0x200A) || n == 0x2028 || n == 0x2029 || n == 0x202F ||
    n == 0x205F || n == 0x3000

/-- `str.strip()`. -/
def strip (s : String) : String :=
  String.ofList ((s.toList.dropWhile isSpace).rdropWhile isSpace)

/-! ### IPv4 -/

/-- `int(s, 10)` on ASCII decimal digits. -/
def decimalValue (s : List Char) : ℕ :=
  s.foldl (fun acc c => acc * 10 + (c.toNat - '0'.toNat)) 0

/-- `IPv4Address._parse_octet`. -/
def parseOctet (s : List Char) : Option ℕ :=
  if s = [] ∨ ¬ s.all Char.isDigit then none
  else if 3 < s.length then none
  else if s ≠ ['0'] ∧ s.head? = some '0' then none
  else if 255 < decimalValue s then none
  else some (decimalValue s)

/-- `IPv4Address._ip_int_from_string`: four octets, most significant first. -/
def ipv4FromString (s : List Char) : Option (BitVec 32) :=
  match s.splitOn '.' with
  | [a, b, c, d] => do
      -- `map(cls._parse_octet, octets)`: the first octet that fails raises
      let a ← parseOctet a
      let b ← parseOctet b
      let c ← parseOctet c
      let d ← parseOctet d
      return BitVec.ofNat 32 (((a * 256 + b) * 256 + c) * 256 + d)
  | _ => none

/-- `IPv4Address(s)`. -/
def ipv4Address (s : List Char) : Option (BitVec 32) :=
  if '/' ∈ s then none else ipv4FromString s

/-! ### IPv6 -/

/-- Membership in `IPv6Address._HEX_DIGITS`. -/
def isHexDigit (c : Char) : Bool :=
  c.isDigit || ('a' ≤ c && c ≤ 'f') || ('A' ≤ c && c ≤ 'F')

/-- The value of one hexadecimal digit. -/
def hexDigitValue (c : Char) : ℕ :=
  if c.isDigit then c.toNat - '0'.toNat
  else if 'a' ≤ c then c.toNat - 'a'.toNat + 10
  else c.toNat - 'A'.toNat + 10

/-- `IPv6Address._parse_hextet`. -/
def parseHextet (s : List Char) : Option ℕ :=
  if s = [] ∨ ¬ s.all isHexDigit then none
  else if 4 < s.length then none
  else some (s.foldl (fun acc c => acc * 16 + hexDigitValue c) 0)

/-- An IPv4 suffix after the last colon is replaced by the two hextets it
stands for. -/
def expandIpv4Suffix (parts : List (List Char)) : Option (List (List Char)) :=
  match parts.getLast? with
  | some last =>
      if '.' ∈ last then do
        let ip ← ipv4Address last
        return parts.dropLast ++
          [Nat.toDigits 16 (ip.toNat / 65536), Nat.toDigits 16 (ip.toNat % 65536)]
      else some parts
  | none => some parts

/-- The indices of the empty parts strictly between the first and the last:
where a `::` skips a run of zeroes. -/
def skipIndices (parts : List (List Char)) : List ℕ :=
  (List.range parts.length).filter fun i =>
    1 ≤ i && i + 1 < parts.length && parts[i]? == some []

/-- How many parts to copy from before and from after the `::`, and how many
hextets it skips. -/
def hextetLayout (parts : List (List Char)) : Option (ℕ × ℕ × ℕ) :=
  match skipIndices parts with
  | [] =>
      if parts.length ≠ 8 ∨ parts.head? = some [] ∨ parts.getLast? = some [] then none
      else some (8, 0, 0)
  | [skip] =>
      -- an empty first or last part is half of a `::` at that end
      let hi := if parts.head? = some [] then skip - 1 else skip
      let lo := if parts.getLast? = some [] then parts.length - skip - 2
        else parts.length - skip - 1
      if parts.head? = some [] ∧ hi ≠ 0 then none
      else if parts.getLast? = some [] ∧ lo ≠ 0 then none
      else if 8 < hi + lo + 1 then none
      else some (hi, lo, 8 - (hi + lo))
  | _ => none

/-- `IPv6Address._ip_int_from_string`. -/
def ipv6FromString (s : List Char) : Option (BitVec 128) := do
  let parts := s.splitOn ':'
  if parts.length < 3 then none else
  let parts ← expandIpv4Suffix parts
  if 9 < parts.length then none else
  let (hi, lo, skipped) ← hextetLayout parts
  let high ← (parts.take hi).mapM parseHextet
  let low ← (parts.drop (parts.length - lo)).mapM parseHextet
  return BitVec.ofNat 128
    ((high ++ List.replicate skipped 0 ++ low).foldl (fun acc h => acc * 65536 + h) 0)

/-- `IPv6Address._split_scope_id`. -/
def splitScopeId (s : List Char) : Option (List Char × Option (List Char)) :=
  match s.splitOn '%' with
  | [addr] => some (addr, none)
  | [addr, scope] => if scope = [] then none else some (addr, some scope)
  | _ => none

/-- `IPv6Address(s)`: the integer value and the scope id. -/
def ipv6Address (s : List Char) : Option (BitVec 128 × Option (List Char)) :=
  if '/' ∈ s then none else do
    let (addr, scope) ← splitScopeId s
    let ip ← ipv6FromString addr
    return (ip, scope)

/-! ### Addresses -/

/-- An IPv4 address, or an IPv6 address with its scope id. -/
inductive IPAddress
  | v4 (ip : BitVec 32)
  | v6 (ip : BitVec 128) (scopeId : Option (List Char))
  deriving DecidableEq

/-- `ipaddress.ip_address(s)`. -/
def ipAddress (s : String) : Option IPAddress :=
  match ipv4Address s.toList with
  | some ip => some (.v4 ip)
  | none => (ipv6Address s.toList).map fun a => .v6 a.1 a.2

/-! ### Networks -/

/-- The netmask of a prefix length. -/
def netmask (w prefixlen : ℕ) : BitVec w := BitVec.allOnes w <<< (w - prefixlen)

/-- A network: an address whose host bits are zero. -/
structure Network (w : ℕ) where
  address : BitVec w
  prefixlen : ℕ
  prefixlen_le : prefixlen ≤ w
  masked : address &&& netmask w prefixlen = address
  deriving DecidableEq

/-- The network of an address, its host bits masked off. -/
def Network.ofAddress {w : ℕ} (ip : BitVec w) (prefixlen : ℕ) (h : prefixlen ≤ w) :
    Network w where
  address := ip &&& netmask w prefixlen
  prefixlen := prefixlen
  prefixlen_le := h
  masked := by rw [BitVec.and_assoc, BitVec.and_self]

/-- The network that holds just one address. -/
def Network.host {w : ℕ} (ip : BitVec w) : Network w := .ofAddress ip w le_rfl

/-- An IPv4 network, or an IPv6 network with the scope id of its address. -/
inductive IPNetwork
  | v4 (net : Network 32)
  | v6 (net : Network 128) (scopeId : Option (List Char))
  deriving DecidableEq

/-- The longest digit string `int` accepts (`sys.int_info`'s default). -/
def intMaxStrDigits : ℕ := 4300

/-- `_prefix_from_prefix_string` for an address of `w` bits. -/
def prefixFromPrefixString (w : ℕ) (s : List Char) : Option ℕ :=
  if s = [] ∨ ¬ s.all Char.isDigit then none
  else if intMaxStrDigits < s.length then none
  else if w < decimalValue s then none
  else some (decimalValue s)

/-- `_prefix_from_ip_int`: the prefix length whose netmask `ip` is. -/
def prefixFromIpInt (ip : BitVec 32) : Option ℕ :=
  (List.range 33).find? fun p => ip == netmask 32 p

/-- `_prefix_from_ip_string`: a dotted netmask, else a dotted hostmask. -/
def prefixFromIpString (s : List Char) : Option ℕ := do
  let ip ← ipv4FromString s
  match prefixFromIpInt ip with
  | some p => some p
  | none => prefixFromIpInt (~~~ip)

/-- `IPv4Network._make_netmask` on a text. -/
def ipv4Prefix (s : List Char) : Option ℕ :=
  match prefixFromPrefixString 32 s with
  | some p => some p
  | none => prefixFromIpString s

/-- `IPv4Network(s, strict=False)`. -/
def ipv4Network (s : List Char) : Option IPNetwork :=
  match s.splitOn '/' with
  | [addr] => (ipv4Address addr).map fun ip => .v4 (.host ip)
  | [addr, mask] => do
      let ip ← ipv4Address addr
      let p ← ipv4Prefix mask
      if h : p ≤ 32 then some (.v4 (.ofAddress ip p h)) else none
  | _ => none

/-- The scope id survives only when no host bit was set: masking builds a new
address from the integer alone. -/
def ipv6NetworkOf (ip : BitVec 128) (scopeId : Option (List Char)) (p : ℕ) (h : p ≤ 128) :
    IPNetwork :=
  .v6 (.ofAddress ip p h) (if ip &&& netmask 128 p = ip then scopeId else none)

/-- `IPv6Network(s, strict=False)`. -/
def ipv6Network (s : List Char) : Option IPNetwork :=
  match s.splitOn '/' with
  | [addr] => (ipv6Address addr).map fun a => ipv6NetworkOf a.1 a.2 128 le_rfl
  | [addr, mask] => do
      let (ip, scopeId) ← ipv6Address addr
      let p ← prefixFromPrefixString 128 mask
      if h : p ≤ 128 then some (ipv6NetworkOf ip scopeId p h) else none
  | _ => none

/-- `ipaddress.ip_network(s, strict=False)`. -/
def ipNetwork (s : String) : Option IPNetwork :=
  match ipv4Network s.toList with
  | some net => some net
  | none => ipv6Network s.toList

/-! ### Stripping and bare addresses -/

/-- Dropping trailing spaces keeps a text without leading spaces that way. -/
theorem dropWhile_rdropWhile {l : List Char} (hl : l.dropWhile isSpace = l) :
    (l.rdropWhile isSpace).dropWhile isSpace = l.rdropWhile isSpace := by
  rcases e : l.rdropWhile isSpace with - | ⟨c, cs⟩
  · rfl
  · obtain ⟨tail, htail⟩ := List.rdropWhile_prefix isSpace l
    rw [e] at htail
    rw [← htail, List.cons_append, List.dropWhile_cons] at hl
    by_cases hc : isSpace c
    · rw [if_pos hc] at hl
      have hlen := congrArg List.length hl
      have hle := (List.dropWhile_sublist isSpace (l := cs ++ tail)).length_le
      simp only [List.length_cons] at hlen
      omega
    · rw [List.dropWhile_cons, if_neg hc]

theorem strip_strip (s : String) : strip (strip s) = strip s := by
  unfold strip
  rw [String.toList_ofList, dropWhile_rdropWhile (List.dropWhile_idempotent ..),
    List.rdropWhile_idempotent]

/-- The network `ip_network` reads from the text of a bare address. -/
def IPAddress.network : IPAddress → IPNetwork
  | .v4 ip => .v4 (.host ip)
  | .v6 ip scopeId => .v6 (.host ip) scopeId

theorem and_netmask_self {w : ℕ} (ip : BitVec w) : ip &&& netmask w w = ip := by
  simp [netmask]

/-- Every text `ip_address` accepts is a network of one address to `ip_network`. -/
theorem ipNetwork_of_ipAddress {s : String} {a : IPAddress} (h : ipAddress s = some a) :
    ipNetwork s = some a.network := by
  have hslash : '/' ∉ s.toList := by
    intro hmem
    simp [ipAddress, ipv4Address, ipv6Address, hmem] at h
  have hsplit : s.toList.splitOn '/' = [s.toList] := List.splitOn_eq_singleton hslash
  unfold ipAddress at h
  unfold ipNetwork ipv4Network ipv6Network
  rw [hsplit]
  rcases e : ipv4Address s.toList with - | ip
  · rw [e] at h
    obtain ⟨⟨ip, scopeId⟩, e', rfl⟩ := Option.map_eq_some_iff.mp h
    simp only [e, e', Option.map_none, Option.map_some, ipv6NetworkOf, and_netmask_self,
      if_true, IPAddress.network, Network.host]
  · rw [e] at h
    cases h
    simp only [e, Option.map_some, IPAddress.network]

example : ipAddress "2001:DB8::1" = ipAddress "2001:db8:0:0:0:0:0.0.0.1" := by decide

example : ipNetwork "10.1.2.3/255.0.0.0" = ipNetwork "10.9.9.9/8" := by decide

end Ipaddress
