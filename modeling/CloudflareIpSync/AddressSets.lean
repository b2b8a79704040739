/-
CloudflareIpSync/AddressSets.lean

Networks as sets of addresses.

`IPNetwork.contains` is Python's `ip in network`, and `IPNetwork.addresses` the
set of addresses for which it holds.  A scope id takes no part in it: a network
with a scope id has the addresses of the network without.

The result the other modules use is `IPNetwork.eq_network_of_subset`: a network
without a scope id that has no other address than `a` is the network `ip_network`
reads from the text of `a`.  The rest says which texts spell that network.
-/
import CloudflareIpSync.AddressText

namespace Ipaddress

/-! ### Networks of one family -/

section Network

variable {w : ℕ} {net : Network w} {ip ip' : BitVec w}

/-- `ip in network`. -/
def Network.contains (net : Network w) (ip : BitVec w) : Bool :=
  ip &&& netmask w net.prefixlen == net.address

theorem Network.contains_iff :
    net.contains ip = true ↔ ip &&& netmask w net.prefixlen = net.address := by
  simp [Network.contains]

/-- A network has its own address. -/
theorem Network.contains_address : net.contains net.address = true :=
  Network.contains_iff.mpr net.masked

/-- The network of one address has that address only. -/
theorem Network.contains_host : (Network.host ip).contains ip' = true ↔ ip' = ip := by
  rw [Network.contains_iff]
  show ip' &&& netmask w w = ip &&& netmask w w ↔ ip' = ip
  rw [and_netmask_self, and_netmask_self]

/-- The last bit is a host bit of every mask but the longest. -/
theorem netmask_getLsbD_zero {p : ℕ} (hp : p < w) : (netmask w p).getLsbD 0 = false := by
  rw [netmask, BitVec.getLsbD_shiftLeft]
  simp [Nat.sub_pos_of_lt hp]

/-- A network with a host bit has with every address the one that differs in
the last bit. -/
theorem Network.contains_xor_one (hp : net.prefixlen < w) :
    net.contains (ip ^^^ 1#w) = net.contains ip := by
  have hmasked : (ip ^^^ 1#w) &&& netmask w net.prefixlen = ip &&& netmask w net.prefixlen := by
    apply BitVec.eq_of_getLsbD_eq
    intro i hi
    rw [BitVec.getLsbD_and, BitVec.getLsbD_and, BitVec.getLsbD_xor, BitVec.getLsbD_one]
    by_cases hzero : i = 0
    · rw [hzero, netmask_getLsbD_zero hp, Bool.and_false, Bool.and_false]
    · simp [hzero]
  rw [Network.contains, Network.contains, hmasked]

/-- A network without another address than `ip` is the network of `ip`. -/
theorem Network.eq_host_of_forall (h : ∀ ip', net.contains ip' = true → ip' = ip) :
    net = .host ip := by
  have haddress : net.address = ip := h _ Network.contains_address
  have hlength : net.prefixlen = w := by
    by_contra hne
    have hlt : net.prefixlen < w := Nat.lt_of_le_of_ne net.prefixlen_le hne
    have hxor : ip ^^^ 1#w = ip := by
      apply h
      rw [Network.contains_xor_one hlt, ← haddress]
      exact Network.contains_address
    have hone : 1#w = 0#w := by
      calc 1#w = ip ^^^ (ip ^^^ 1#w) := by rw [← BitVec.xor_assoc, BitVec.xor_self, BitVec.zero_xor]
        _ = 0#w := by rw [hxor, BitVec.xor_self]
    have htoNat := congrArg BitVec.toNat hone
    rw [BitVec.toNat_ofNat, BitVec.toNat_ofNat, Nat.zero_mod,
      Nat.mod_eq_of_lt (Nat.one_lt_two_pow (by omega))] at htoNat
    exact Nat.one_ne_zero htoNat
  obtain ⟨address, prefixlen, hle, hmasked⟩ := net
  dsimp only at haddress hlength
  subst haddress hlength
  simp only [Network.host, Network.ofAddress, and_netmask_self]

end Network

/-! ### Networks of either family -/

/-- An address of either family, without a scope id. -/
inductive Address
  | v4 (ip : BitVec 32)
  | v6 (ip : BitVec 128)
  deriving DecidableEq

/-- The address `ip_address` read, if it has no scope id. -/
def IPAddress.unscoped : IPAddress → Option Address
  | .v4 ip => some (.v4 ip)
  | .v6 ip none => some (.v6 ip)
  | .v6 _ (some _) => none

/-- The network of one address. -/
def Address.network : Address → IPNetwork
  | .v4 ip => .v4 (.host ip)
  | .v6 ip => .v6 (.host ip) none

theorem IPAddress.network_of_unscoped {b : IPAddress} {a : Address} (h : b.unscoped = some a) :
    b.network = a.network := by
  rcases b with ip | ⟨ip, - | scopeId⟩
  · cases h
    rfl
  · cases h
    rfl
  · cases h

/-- The scope id of a network. -/
def IPNetwork.scopeId : IPNetwork → Option (List Char)
  | .v4 _ => none
  | .v6 _ scopeId => scopeId

/-- `ip in network`: an address of the other family is not in it. -/
def IPNetwork.contains : IPNetwork → Address → Bool
  | .v4 net, .v4 ip => net.contains ip
  | .v6 net _, .v6 ip => net.contains ip
  | _, _ => false

/-- The addresses of a network. -/
def IPNetwork.addresses (net : IPNetwork) : Set Address := {a | net.contains a = true}

theorem IPNetwork.mem_addresses {net : IPNetwork} {a : Address} :
    a ∈ net.addresses ↔ net.contains a = true := Iff.rfl

theorem Address.addresses_network (a : Address) : a.network.addresses = {a} := by
  ext b
  rw [IPNetwork.mem_addresses, Set.mem_singleton_iff]
  rcases a with ip | ip
  · rcases b with ip' | ip'
    · simpa [Address.network, IPNetwork.contains] using Network.contains_host
    · simp [Address.network, IPNetwork.contains]
  · rcases b with ip' | ip'
    · simp [Address.network, IPNetwork.contains]
    · simpa [Address.network, IPNetwork.contains] using Network.contains_host

/-- A network without a scope id and without another address than `a` is the
network of `a`: no network is empty. -/
theorem IPNetwork.eq_network_of_subset {net : IPNetwork} {a : Address}
    (hscope : net.scopeId = none) (h : net.addresses ⊆ {a}) : net = a.network := by
  rcases net with net | ⟨net, scopeId⟩
  · have hmem : ∀ ip, net.contains ip = true → Address.v4 ip = a := fun ip hip => h hip
    obtain rfl := hmem _ Network.contains_address
    have hhost : net = .host net.address := by
      apply Network.eq_host_of_forall
      intro ip hip
      exact Address.v4.inj (hmem ip hip)
    exact congrArg IPNetwork.v4 hhost
  · obtain rfl : scopeId = none := hscope
    have hmem : ∀ ip, net.contains ip = true → Address.v6 ip = a := fun ip hip => h hip
    obtain rfl := hmem _ Network.contains_address
    have hhost : net = .host net.address := by
      apply Network.eq_host_of_forall
      intro ip hip
      exact Address.v6.inj (hmem ip hip)
    exact congrArg (IPNetwork.v6 · none) hhost

/-! ### Texts of a network of one address -/

/-- The prefix that covers every bit of an address. -/
def IPAddress.fullLength : IPAddress → String
  | .v4 _ => "/32"
  | .v6 _ _ => "/128"

theorem slash_notMem_of_ipAddress {s : String} {a : IPAddress} (h : ipAddress s = some a) :
    '/' ∉ s.toList := by
  intro hmem
  simp [ipAddress, ipv4Address, ipv6Address, hmem] at h

/-- With a prefix of full length, an address is the network it is without. -/
theorem ipNetwork_fullLength {s : String} {a : IPAddress} (h : ipAddress s = some a) :
    ipNetwork (s ++ a.fullLength) = some a.network := by
  have hslash := slash_notMem_of_ipAddress h
  have hsplit : ∀ m : List Char, '/' ∉ m → (s.toList ++ '/' :: m).splitOn '/' = [s.toList, m] := by
    intro m hm
    have hjoin : s.toList ++ '/' :: m = ['/'].intercalate [s.toList, m] := by
      simp [List.intercalate]
    rw [hjoin, List.splitOn_intercalate]
    · simp [hslash, hm]
    · exact List.cons_ne_nil _ _
  unfold ipAddress at h
  unfold ipNetwork ipv4Network ipv6Network
  rw [String.toList_append]
  rcases e : ipv4Address s.toList with - | ip
  · rw [e] at h
    obtain ⟨⟨ip, scopeId⟩, e', rfl⟩ := Option.map_eq_some_iff.mp h
    have hfull : (IPAddress.v6 ip scopeId).fullLength.toList = '/' :: "128".toList := by
      simp [IPAddress.fullLength]
    rw [hfull, hsplit _ (by decide)]
    have hprefix : prefixFromPrefixString 128 "128".toList = some 128 := by decide
    simp only [e, e', hprefix, Option.bind_eq_bind, Option.bind_none, Option.bind_some, le_refl,
      dite_true, ipv6NetworkOf, and_netmask_self, if_true, IPAddress.network, Network.host]
  · rw [e] at h
    cases h
    have hfull : (IPAddress.v4 ip).fullLength.toList = '/' :: "32".toList := by
      simp [IPAddress.fullLength]
    rw [hfull, hsplit _ (by decide)]
    have hprefix : ipv4Prefix "32".toList = some 32 := by decide
    simp only [e, hprefix, Option.bind_eq_bind, Option.bind_some, le_refl, dite_true,
      IPAddress.network, Network.host]

/-- A stripped text stays stripped when something is appended that does not end
in a space. -/
theorem strip_append {s t : String} (hs : strip s ≠ "") (ht : t.toList ≠ [])
    (hlast : ∀ c, t.toList.getLast? = some c → isSpace c = false) :
    strip (strip s ++ t) = strip s ++ t := by
  have hnil : (strip s).toList ≠ [] := by simpa using hs
  have hdrop : (strip s).toList.dropWhile isSpace = (strip s).toList := by
    rw [strip, String.toList_ofList]
    exact dropWhile_rdropWhile (List.dropWhile_idempotent ..)
  obtain ⟨m, c, hm⟩ : ∃ m c, t.toList = m ++ [c] :=
    ⟨_, _, (List.dropLast_append_getLast ht).symm⟩
  have hc : isSpace c = false := hlast c (by rw [hm, List.getLast?_concat])
  have happend : ((strip s).toList ++ t.toList).dropWhile isSpace =
      (strip s).toList ++ t.toList := by
    obtain ⟨x, xs, hx⟩ := List.exists_cons_of_ne_nil hnil
    rw [hx, List.dropWhile_cons] at hdrop
    have hspace : isSpace x = false := by
      by_contra hspace
      rw [if_pos (by simpa using hspace)] at hdrop
      have hlength := congrArg List.length hdrop
      have hle := (List.dropWhile_sublist isSpace (l := xs)).length_le
      rw [List.length_cons] at hlength
      omega
    rw [hx, List.cons_append, List.dropWhile_cons, hspace, if_neg Bool.false_ne_true]
  generalize strip s = s' at happend ⊢
  rw [strip, String.toList_append, happend, hm, ← List.append_assoc,
    List.rdropWhile_concat_neg _ _ _ (by simp [hc]), List.append_assoc, ← hm,
    ← String.toList_append,
    String.ofList_toList]

end Ipaddress
