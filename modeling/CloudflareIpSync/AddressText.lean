/-
CloudflareIpSync/AddressText.lean

How many texts an address has.

An IPv4 address has one text `ip_address` accepts (`ipAddress_v4_inj`): an
octet is written without leading zeroes, so its digits are those of its value.
An IPv6 address has many.  `IPAddress.canonical` is the one a store that keeps
addresses gives back: lower-case digits, no leading zeroes, the longest run of
zero groups left out.
-/
import CloudflareIpSync.Ipaddress
import Mathlib.Data.Nat.Digits.Defs

namespace Ipaddress

/-! ### Decimal numbers -/

/-- The value of one decimal digit. -/
abbrev digitValue (c : Char) : ℕ := c.toNat - '0'.toNat

theorem isDigit_iff {c : Char} : c.isDigit = true ↔ 48 ≤ c.toNat ∧ c.toNat ≤ 57 := by
  simp only [Char.isDigit, Bool.and_eq_true, decide_eq_true_eq, ge_iff_le, UInt32.le_iff_toNat_le]
  rfl

theorem digitValue_inj {c d : Char} (hc : c.isDigit = true) (hd : d.isDigit = true)
    (h : digitValue c = digitValue d) : c = d := by
  have hc' := isDigit_iff.mp hc
  have hd' := isDigit_iff.mp hd
  have hnat : c.toNat = d.toNat := by
    change c.toNat - 48 = d.toNat - 48 at h
    omega
  exact Char.toNat_inj.mp hnat

theorem digitValue_lt {c : Char} (hc : c.isDigit = true) : digitValue c < 10 := by
  have hc' := isDigit_iff.mp hc
  change c.toNat - 48 < 10
  omega

theorem decimalValue_eq_ofDigits (s : List Char) :
    decimalValue s = Nat.ofDigits 10 (s.map digitValue).reverse := by
  induction s using List.reverseRecOn with
  | nil => rfl
  | append_singleton s c ih =>
      rw [List.map_append, List.reverse_append, List.map_singleton, List.reverse_singleton,
        List.singleton_append, Nat.ofDigits_cons, ← ih]
      simp only [decimalValue, List.foldl_append, List.foldl_cons, List.foldl_nil]
      rw [Nat.add_comm, Nat.mul_comm]

/-- Without a leading zero the digits of a text are those of its value. -/
theorem digits_decimalValue {s : List Char} (hs : s.all Char.isDigit = true)
    (hlead : s.head? ≠ some '0') :
    Nat.digits 10 (decimalValue s) = (s.map digitValue).reverse := by
  rw [List.all_eq_true] at hs
  rw [decimalValue_eq_ofDigits]
  apply Nat.digits_ofDigits 10 (by omega) _
  · intro d hd
    rw [List.mem_reverse, List.mem_map] at hd
    obtain ⟨c, hc, rfl⟩ := hd
    exact digitValue_lt (hs c hc)
  · intro hne
    rw [List.getLast_reverse]
    cases s with
    | nil => simp at hne
    | cons c s =>
        -- the most significant digit is the first character
        intro hzero
        have hc : c.isDigit = true := hs c List.mem_cons_self
        have heq : c = '0' := digitValue_inj hc rfl (by simpa using hzero)
        rw [heq] at hlead
        exact hlead rfl

/-- A text of digits that is just `0` or does not begin with it. -/
def IsDecimal (s : List Char) : Prop :=
  s ≠ [] ∧ s.all Char.isDigit = true ∧ (s ≠ ['0'] → s.head? ≠ some '0')

theorem digits_eq_nil_iff {s : List Char} (hs : IsDecimal s) :
    Nat.digits 10 (decimalValue s) = [] ↔ s = ['0'] := by
  constructor
  · intro h
    by_contra hne
    rw [digits_decimalValue hs.2.1 (hs.2.2 hne), List.reverse_eq_nil_iff, List.map_eq_nil_iff] at h
    exact hs.1 h
  · rintro rfl
    rfl

theorem map_digitValue_inj {s t : List Char} (hs : s.all Char.isDigit = true)
    (ht : t.all Char.isDigit = true) (h : s.map digitValue = t.map digitValue) : s = t := by
  induction s generalizing t with
  | nil => exact (List.map_eq_nil_iff.mp h.symm).symm
  | cons c s ih =>
      cases t with
      | nil => simp at h
      | cons d t =>
          rw [List.map_cons, List.map_cons, List.cons.injEq] at h
          rw [List.all_cons, Bool.and_eq_true] at hs ht
          rw [digitValue_inj hs.1 ht.1 h.1, ih hs.2 ht.2 h.2]

/-- A number has one decimal text. -/
theorem decimalValue_inj {s t : List Char} (hs : IsDecimal s) (ht : IsDecimal t)
    (h : decimalValue s = decimalValue t) : s = t := by
  have hzero : s = ['0'] ↔ t = ['0'] := by
    rw [← digits_eq_nil_iff hs, ← digits_eq_nil_iff ht, h]
  by_cases hs0 : s = ['0']
  · rw [hs0, hzero.mp hs0]
  · have ht0 : t ≠ ['0'] := fun ht0 => hs0 (hzero.mpr ht0)
    refine map_digitValue_inj hs.2.1 ht.2.1 (List.reverse_injective ?_)
    rw [← digits_decimalValue hs.2.1 (hs.2.2 hs0), ← digits_decimalValue ht.2.1 (ht.2.2 ht0), h]

/-! ### IPv4 texts -/

theorem parseOctet_eq_some {s : List Char} {n : ℕ} (h : parseOctet s = some n) :
    IsDecimal s ∧ decimalValue s = n ∧ n ≤ 255 := by
  unfold parseOctet at h
  by_cases hdigits : s = [] ∨ ¬ s.all Char.isDigit
  · rw [if_pos hdigits] at h
    cases h
  by_cases hlong : 3 < s.length
  · rw [if_neg hdigits, if_pos hlong] at h
    cases h
  by_cases hlead : s ≠ ['0'] ∧ s.head? = some '0'
  · rw [if_neg hdigits, if_neg hlong, if_pos hlead] at h
    cases h
  by_cases hbig : 255 < decimalValue s
  · rw [if_neg hdigits, if_neg hlong, if_neg hlead, if_pos hbig] at h
    cases h
  · rw [if_neg hdigits, if_neg hlong, if_neg hlead, if_neg hbig] at h
    cases h
    obtain ⟨hne, hall⟩ := not_or.mp hdigits
    refine ⟨⟨hne, not_not.mp hall, fun h0 hhead => hlead ⟨h0, hhead⟩⟩, rfl, not_lt.mp hbig⟩

theorem parseOctet_inj {s t : List Char} {n : ℕ} (hs : parseOctet s = some n)
    (ht : parseOctet t = some n) : s = t := by
  obtain ⟨hs, hns, -⟩ := parseOctet_eq_some hs
  obtain ⟨ht, hnt, -⟩ := parseOctet_eq_some ht
  exact decimalValue_inj hs ht (hns.trans hnt.symm)

/-- An IPv4 text is four octets joined by dots. -/
theorem ipv4FromString_eq_some {s : List Char} {ip : BitVec 32}
    (h : ipv4FromString s = some ip) :
    ∃ a b c d na nb nc nd, s = ['.'].intercalate [a, b, c, d] ∧ parseOctet a = some na ∧
      parseOctet b = some nb ∧ parseOctet c = some nc ∧ parseOctet d = some nd ∧
      ip.toNat = ((na * 256 + nb) * 256 + nc) * 256 + nd := by
  unfold ipv4FromString at h
  split at h
  · rename_i a b c d hsplit
    simp only [Option.bind_eq_bind, Option.bind_eq_some_iff] at h
    obtain ⟨na, ha, nb, hb, nc, hc, nd, hd, h⟩ := h
    refine ⟨a, b, c, d, na, nb, nc, nd, ?_, ha, hb, hc, hd, ?_⟩
    · rw [← hsplit, List.intercalate_splitOn]
    · cases h
      have hna := (parseOctet_eq_some ha).2.2
      have hnb := (parseOctet_eq_some hb).2.2
      have hnc := (parseOctet_eq_some hc).2.2
      have hnd := (parseOctet_eq_some hd).2.2
      rw [BitVec.toNat_ofNat]
      omega
  · cases h

/-- An IPv4 address has one text. -/
theorem ipv4FromString_inj {s t : List Char} {ip : BitVec 32} (hs : ipv4FromString s = some ip)
    (ht : ipv4FromString t = some ip) : s = t := by
  obtain ⟨a, b, c, d, na, nb, nc, nd, rfl, ha, hb, hc, hd, hip⟩ := ipv4FromString_eq_some hs
  obtain ⟨a', b', c', d', na', nb', nc', nd', rfl, ha', hb', hc', hd', hip'⟩ :=
    ipv4FromString_eq_some ht
  have hle := (parseOctet_eq_some hb).2.2
  have hle₁ := (parseOctet_eq_some hc).2.2
  have hle₂ := (parseOctet_eq_some hd).2.2
  have hle' := (parseOctet_eq_some hb').2.2
  have hle₁' := (parseOctet_eq_some hc').2.2
  have hle₂' := (parseOctet_eq_some hd').2.2
  -- octets are digits in base 256, so the number determines them
  have hoctets : na = na' ∧ nb = nb' ∧ nc = nc' ∧ nd = nd' := by omega
  obtain ⟨rfl, rfl, rfl, rfl⟩ := hoctets
  rw [parseOctet_inj ha ha', parseOctet_inj hb hb', parseOctet_inj hc hc', parseOctet_inj hd hd']

/-- An IPv4 text consists of digits and dots. -/
theorem isDigit_or_dot_of_ipv4 {s : List Char} {ip : BitVec 32} (h : ipv4FromString s = some ip)
    {ch : Char} (hch : ch ∈ s) : ch.isDigit = true ∨ ch = '.' := by
  obtain ⟨a, b, c, d, na, nb, nc, nd, rfl, ha, hb, hc, hd, -⟩ := ipv4FromString_eq_some h
  have hdigit : ∀ {o n}, parseOctet o = some n → ch ∈ o → ch.isDigit = true := by
    intro o n ho hmem
    exact List.all_eq_true.mp (parseOctet_eq_some ho).1.2.1 ch hmem
  simp only [List.intercalate_cons_cons, List.intercalate_singleton, List.mem_append,
    List.mem_singleton, or_assoc] at hch
  rcases hch with hch | rfl | hch | rfl | hch | rfl | hch
  · exact .inl (hdigit ha hch)
  · exact .inr rfl
  · exact .inl (hdigit hb hch)
  · exact .inr rfl
  · exact .inl (hdigit hc hch)
  · exact .inr rfl
  · exact .inl (hdigit hd hch)

theorem ipAddress_eq_v4 {s : String} {ip : BitVec 32} (h : ipAddress s = some (.v4 ip)) :
    ipv4FromString s.toList = some ip := by
  unfold ipAddress at h
  rcases e : ipv4Address s.toList with - | ip'
  · rw [e] at h
    obtain ⟨_, _, h⟩ := Option.map_eq_some_iff.mp h
    cases h
  · rw [e] at h
    cases h
    unfold ipv4Address at e
    split at e
    · cases e
    · exact e

/-- **One text.** Two texts of the same IPv4 address are equal. -/
theorem ipAddress_v4_inj {s t : String} {ip : BitVec 32} (hs : ipAddress s = some (.v4 ip))
    (ht : ipAddress t = some (.v4 ip)) : s = t :=
  String.toList_inj.mp (ipv4FromString_inj (ipAddress_eq_v4 hs) (ipAddress_eq_v4 ht))

/-! ### Stripping -/

theorem mem_dropWhile {p : Char → Bool} {l : List Char} {c : Char} (hc : c ∈ l)
    (hp : p c = false) : c ∈ l.dropWhile p := by
  rw [← List.takeWhile_append_dropWhile (p := p) (l := l), List.mem_append] at hc
  rcases hc with hc | hc
  · rw [List.mem_takeWhile_imp hc] at hp
    cases hp
  · exact hc

/-- Stripping drops spaces only. -/
theorem mem_strip {s : String} {c : Char} (hc : c ∈ s.toList) (hspace : isSpace c = false) :
    c ∈ (strip s).toList := by
  unfold strip
  rw [String.toList_ofList, ← List.mem_reverse, List.rdropWhile, List.reverse_reverse]
  refine mem_dropWhile ?_ hspace
  rw [List.mem_reverse]
  exact mem_dropWhile hc hspace

theorem mem_of_mem_strip {s : String} {c : Char} (hc : c ∈ (strip s).toList) : c ∈ s.toList := by
  unfold strip at hc
  rw [String.toList_ofList] at hc
  exact (List.dropWhile_sublist _).mem ((List.rdropWhile_prefix _ _).mem hc)

theorem strip_eq_self {s : String} (h : ∀ c ∈ s.toList, isSpace c = false) : strip s = s := by
  have hdrop : s.toList.dropWhile isSpace = s.toList := by
    rw [List.dropWhile_eq_self_iff]
    intro hl
    simp [h _ (List.getElem_mem hl)]
  have hrdrop : s.toList.rdropWhile isSpace = s.toList := by
    rw [List.rdropWhile_eq_self_iff]
    intro hl
    simp [h _ (List.getLast_mem hl)]
  rw [strip, hdrop, hrdrop, String.ofList_toList]

theorem isSpace_of_isDigit_or_dot {c : Char} (h : c.isDigit = true ∨ c = '.') :
    isSpace c = false := by
  rcases h with h | rfl
  · obtain ⟨h₁, h₂⟩ := isDigit_iff.mp h
    have hne : c.toNat ≠ 0x85 ∧ c.toNat ≠ 0xA0 := ⟨by omega, by omega⟩
    simp [isSpace]
    omega
  · rfl

/-! ### Addresses and their networks -/

theorem prefix_of_splitScopeId {s addr : List Char} {scope : Option (List Char)}
    (h : splitScopeId s = some (addr, scope)) : addr <+: s := by
  have hjoin : ['%'].intercalate (s.splitOn '%') = s := List.intercalate_splitOn '%'
  unfold splitScopeId at h
  split at h
  · rename_i e
    cases h
    rw [e] at hjoin
    exact ⟨[], by simpa using hjoin⟩
  · rename_i addr' scope' e
    split at h
    · cases h
    · cases h
      rw [e] at hjoin
      exact ⟨'%' :: scope', by simpa using hjoin⟩
  · cases h

/-- An IPv6 text has a colon. -/
theorem colon_mem_of_v6 {s : String} {ip : BitVec 128} {scopeId : Option (List Char)}
    (h : ipAddress s = some (.v6 ip scopeId)) : ':' ∈ s.toList := by
  unfold ipAddress at h
  split at h
  · cases h
  obtain ⟨⟨ip', scopeId'⟩, h, -⟩ := Option.map_eq_some_iff.mp h
  unfold ipv6Address at h
  split at h
  · cases h
  simp only [Option.bind_eq_bind, Option.bind_eq_some_iff] at h
  obtain ⟨⟨addr, scope⟩, hsplit, ip'', haddr, -⟩ := h
  have hcolon : ':' ∈ addr := by
    by_contra hno
    rw [ipv6FromString, List.splitOn_eq_singleton hno] at haddr
    cases haddr
  exact (prefix_of_splitScopeId hsplit).mem hcolon

theorem host_inj {w : ℕ} {ip ip' : BitVec w} (h : Network.host ip = Network.host ip') :
    ip = ip' := by
  have haddress := congrArg Network.address h
  change ip &&& netmask w w = ip' &&& netmask w w at haddress
  rwa [and_netmask_self, and_netmask_self] at haddress

/-- Without a slash, an IPv4 network is read from the text of an address. -/
theorem ipNetwork_eq_v4 {s : String} {net : Network 32} (hslash : '/' ∉ s.toList)
    (h : ipNetwork s = some (.v4 net)) : ∃ ip, ipAddress s = some (.v4 ip) ∧ net = .host ip := by
  have hsplit : s.toList.splitOn '/' = [s.toList] := List.splitOn_eq_singleton hslash
  unfold ipNetwork ipv4Network ipv6Network at h
  rw [hsplit] at h
  rcases e : ipv4Address s.toList with - | ip
  · simp only [e, Option.map_none] at h
    obtain ⟨_, _, h⟩ := Option.map_eq_some_iff.mp h
    cases h
  · simp only [e, Option.map_some, Option.some.injEq, IPNetwork.v4.injEq] at h
    refine ⟨ip, ?_, h.symm⟩
    rw [ipAddress, e]

/-- A text of an address whose network, spaces stripped, is that of an IPv4
address is the text of this address. -/
theorem eq_of_network_v4 {s t : String} {ip : BitVec 32} (hs : ipAddress s = some (.v4 ip))
    (ht : (ipAddress t).isSome) (hnet : ipNetwork (strip t) = some (.v4 (.host ip))) : t = s := by
  have hslash : '/' ∉ (strip t).toList := by
    intro hmem
    have hmem' := mem_of_mem_strip hmem
    simp [ipAddress, ipv4Address, ipv6Address, hmem'] at ht
  obtain ⟨ip', hstrip, hhost⟩ := ipNetwork_eq_v4 hslash hnet
  rw [← host_inj hhost] at hstrip
  obtain ⟨a, ha⟩ := Option.isSome_iff_exists.mp ht
  cases a with
  | v4 ip'' =>
      have hself : strip t = t := by
        apply strip_eq_self
        intro c hc
        exact isSpace_of_isDigit_or_dot (isDigit_or_dot_of_ipv4 (ipAddress_eq_v4 ha) hc)
      rw [hself] at hstrip
      exact ipAddress_v4_inj hstrip hs
  | v6 =>
      -- its colon would survive the stripping
      have hcolon := mem_strip (colon_mem_of_v6 ha) rfl
      rcases isDigit_or_dot_of_ipv4 (ipAddress_eq_v4 hstrip) hcolon with h | h
      · cases h
      · cases h

/-! ### Canonical texts -/

/-- The dotted text of an IPv4 address. -/
def dotted (ip : BitVec 32) : List Char :=
  ['.'].intercalate ((List.range 4).map fun i => Nat.toDigits 10 (ip.toNat / 256 ^ (3 - i) % 256))

/-- The longest run of zeroes, the first one if there are several: where it
starts and its length. -/
def longestZeroRun (l : List ℕ) : ℕ × ℕ :=
  (List.range l.length).foldl (fun best i =>
    let n := ((l.drop i).takeWhile (· == 0)).length
    if best.2 < n then (i, n) else best) (0, 0)

/-- The text of an IPv6 address with the longest run of zero groups left out. -/
def compressed (ip : BitVec 128) : List Char :=
  let groups := (List.range 8).map fun i => ip.toNat / 65536 ^ (7 - i) % 65536
  let text (l : List ℕ) := [':'].intercalate (l.map (Nat.toDigits 16))
  let (start, len) := longestZeroRun groups
  if len < 2 then text groups
  else text (groups.take start) ++ [':', ':'] ++ text (groups.drop (start + len))

/-- The text in which a store that keeps addresses gives one back. -/
def IPAddress.canonical : IPAddress → String
  | .v4 ip => String.ofList (dotted ip)
  | .v6 ip none => String.ofList (compressed ip)
  | .v6 ip (some scopeId) => String.ofList (compressed ip ++ '%' :: scopeId)

example : (ipAddress "2001:DB8:0:0:0:0:0:1").map IPAddress.canonical = some "2001:db8::1" := by
  decide +kernel

end Ipaddress
