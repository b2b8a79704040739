/-
CloudflareIpSync/ListMatch.lean

What `_is_in_sync` says about the addresses a Rule List admits.

An entry admits the addresses of its network, and the list the union of these
(`admitted`).  `_is_in_sync` compares networks.  For a local address without a
scope id the two agree: the list is in sync exactly when it admits the local
address and no other, and none of its entries has a scope id
(`isInSync_iff_admitted`).  The second half is needed since Python takes a
network with a scope id for another one than the network without, although both
have the same addresses (`scoped_entry_not_in_sync`).
-/
import CloudflareIpSync.AddressSets
import CloudflareIpSync.WriteSafety
import Mathlib.Data.Set.Basic

namespace CloudflareIpSync

open Interact Ipaddress

variable {localIp : String} {entries entries' : List String} {a : Address}

/-- The addresses a list of entries admits.  Entries that do not parse admit none. -/
def admitted (entries : List String) : Set Address :=
  {a | ∃ text ∈ entries, ∃ net, toNetwork text = some net ∧ a ∈ net.addresses}

/-- No entry that parses has a scope id. -/
def Unscoped (entries : List String) : Prop :=
  ∀ text ∈ entries, ∀ net, toNetwork text = some net → net.scopeId = none

/-- The comparison in terms of single entries. -/
theorem isInSync_iff_forall {net : IPNetwork} (hlocal : toNetwork localIp = some net) :
    isInSync (some localIp) entries = true ↔
      (∃ text ∈ entries, toNetwork text = some net) ∧
        ∀ text ∈ entries, ∀ net', toNetwork text = some net' → net' = net := by
  unfold isInSync
  rw [decide_eq_true_iff, hlocal]
  constructor
  · intro heq
    have hmem : ∀ n, n ∈ (entries.map toNetwork).toFinset.erase none ↔ n = some net := by
      intro n
      rw [← heq, Finset.mem_singleton]
    refine ⟨?_, ?_⟩
    · have hself := Finset.mem_of_mem_erase ((hmem _).mpr rfl)
      exact List.mem_map.mp (List.mem_toFinset.mp hself)
    · intro text htext net' hnet'
      have hentry : some net' ∈ (entries.map toNetwork).toFinset.erase none := by
        refine Finset.mem_erase.mpr ⟨Option.some_ne_none _, List.mem_toFinset.mpr ?_⟩
        exact List.mem_map.mpr ⟨text, htext, hnet'⟩
      exact Option.some.inj ((hmem _).mp hentry)
  · rintro ⟨⟨text, htext, hnet⟩, hall⟩
    ext n
    rw [Finset.mem_singleton, Finset.mem_erase, List.mem_toFinset, List.mem_map]
    constructor
    · rintro rfl
      exact ⟨Option.some_ne_none _, text, htext, hnet⟩
    · rintro ⟨hnone, text', htext', rfl⟩
      rcases e : toNetwork text' with - | net'
      · exact absurd e hnone
      · rw [hall text' htext' net' e]

/-- What the comparison reads of a list is the set of its networks. -/
theorem isInSync_congr
    (h : ∀ net, some net ∈ entries.map toNetwork ↔ some net ∈ entries'.map toNetwork) :
    isInSync (some localIp) entries = isInSync (some localIp) entries' := by
  have hsets : (entries.map toNetwork).toFinset.erase none =
      (entries'.map toNetwork).toFinset.erase none := by
    ext n
    rw [Finset.mem_erase, Finset.mem_erase, List.mem_toFinset, List.mem_toFinset]
    rcases n with - | net
    · simp
    · rw [h net]
  unfold isInSync
  rw [hsets]

/-- The network of a local address without a scope id. -/
theorem toNetwork_of_unscoped {state : Option String} (husable : UsableSource state localIp)
    (haddr : (ipAddress localIp).bind IPAddress.unscoped = some a) :
    toNetwork localIp = some a.network := by
  obtain ⟨text, -, -, -, -, rfl, -⟩ := husable
  obtain ⟨b, hb, hunscoped⟩ := Option.bind_eq_some_iff.mp haddr
  rw [toNetwork, strip_strip, ipNetwork_of_ipAddress hb, IPAddress.network_of_unscoped hunscoped]

/-- Two texts of an address, with and without a prefix of full length. -/
theorem toNetwork_spellings {text : String} {b : IPAddress} (hb : ipAddress (strip text) = some b) :
    toNetwork text = some b.network ∧ toNetwork (strip text ++ b.fullLength) = some b.network := by
  refine ⟨ipNetwork_of_ipAddress hb, ?_⟩
  have hne : strip text ≠ "" := by
    intro hempty
    have hnone : ipAddress "" = none := by decide
    rw [hempty, hnone] at hb
    cases hb
  have hstrip : strip (strip text ++ b.fullLength) = strip text ++ b.fullLength := by
    apply strip_append hne
    · cases b <;> simp [IPAddress.fullLength]
    · cases b <;> simp [IPAddress.fullLength, isSpace]
  rw [toNetwork, hstrip]
  exact ipNetwork_fullLength hb

/-- **In sync means that exactly the local address is admitted.**  For a usable
local IP without a scope id and every list of entries: the list is in sync
exactly when the addresses of its entries are the local address alone and no
entry has a scope id.  So the answer depends on the networks of the entries
only, which all spellings of an address share; it is `false` for the empty list
and whenever an entry admits another address. -/
theorem isInSync_iff_admitted {state : Option String} (husable : UsableSource state localIp)
    (haddr : (ipAddress localIp).bind IPAddress.unscoped = some a) (entries : List String) :
    (isInSync (some localIp) entries = true ↔ admitted entries = {a} ∧ Unscoped entries) ∧
      (∀ entries' : List String,
        (∀ net, some net ∈ entries.map toNetwork ↔ some net ∈ entries'.map toNetwork) →
          isInSync (some localIp) entries = isInSync (some localIp) entries') ∧
      (∀ text b, ipAddress (strip text) = some b →
        toNetwork text = some b.network ∧ toNetwork (strip text ++ b.fullLength) = some b.network) ∧
      isInSync (some localIp) [] = false ∧
      ∀ text ∈ entries, ∀ net, toNetwork text = some net → ∀ b ∈ net.addresses, b ≠ a →
        isInSync (some localIp) entries = false := by
  have hlocal := toNetwork_of_unscoped husable haddr
  have hiff : isInSync (some localIp) entries = true ↔
      admitted entries = {a} ∧ Unscoped entries := by
    rw [isInSync_iff_forall hlocal]
    constructor
    · rintro ⟨⟨text, htext, hnet⟩, hall⟩
      refine ⟨?_, ?_⟩
      · ext b
        rw [← Address.addresses_network a]
        constructor
        · rintro ⟨text', htext', net', hnet', hb⟩
          rw [hall text' htext' net' hnet'] at hb
          exact hb
        · intro hb
          exact ⟨text, htext, a.network, hnet, hb⟩
      · intro text' htext' net' hnet'
        rw [hall text' htext' net' hnet']
        cases a <;> rfl
    · rintro ⟨hadmitted, hunscoped⟩
      -- every network lies in `{a}`, so it is the network of `a`
      have hall : ∀ text ∈ entries, ∀ net, toNetwork text = some net → net = a.network := by
        intro text htext net hnet
        apply IPNetwork.eq_network_of_subset (hunscoped text htext net hnet)
        intro b hb
        rw [← hadmitted]
        exact ⟨text, htext, net, hnet, hb⟩
      have hmem : a ∈ admitted entries := by
        rw [hadmitted]
        exact Set.mem_singleton a
      obtain ⟨text, htext, net, hnet, -⟩ := hmem
      rw [hall text htext net hnet] at hnet
      exact ⟨⟨text, htext, hnet⟩, hall⟩
  refine ⟨hiff, fun entries' => isInSync_congr, fun text b => toNetwork_spellings, ?_, ?_⟩
  · rw [Bool.eq_false_iff, Ne, isInSync_iff_forall hlocal]
    rintro ⟨⟨text, htext, -⟩, -⟩
    cases htext
  · intro text htext net hnet b hb hne
    rw [Bool.eq_false_iff, Ne, hiff]
    rintro ⟨hadmitted, -⟩
    have hmem : b ∈ admitted entries := ⟨text, htext, net, hnet, hb⟩
    rw [hadmitted] at hmem
    exact hne hmem

/-- An entry with a scope id admits the local address and no other, and the
list of just this entry is not in sync. -/
theorem scoped_entry_not_in_sync :
    ¬ ∀ (state : Option String) (localIp : String) (a : Address) (entries : List String),
      UsableSource state localIp → (ipAddress localIp).bind IPAddress.unscoped = some a →
        (isInSync (some localIp) entries = true ↔ admitted entries = {a}) := by
  intro hall
  have hsource : UsableSource (some "fe80::1") "fe80::1" :=
    ⟨"fe80::1", rfl, by decide, by decide, by decide, by decide +kernel, by decide +kernel⟩
  have haddr : (ipAddress "fe80::1").bind IPAddress.unscoped =
      some (.v6 0xfe800000000000000000000000000001) := by decide +kernel
  have hiff := hall _ _ _ ["fe80::1%eth0"] hsource haddr
  have hscoped : toNetwork "fe80::1%eth0" =
      some (.v6 (.host 0xfe800000000000000000000000000001) (some "eth0".toList)) := by
    decide +kernel
  have hadmitted : admitted ["fe80::1%eth0"] = {.v6 0xfe800000000000000000000000000001} := by
    rw [← Address.addresses_network]
    ext b
    simp only [admitted, List.mem_singleton, exists_eq_left, hscoped, Option.some.injEq,
      exists_eq_left', Set.mem_ofPred_eq]
    cases b <;> rfl
  have hsync : isInSync (some "fe80::1") ["fe80::1%eth0"] = false := by decide +kernel
  rw [hiff.mpr hadmitted] at hsync
  cases hsync

/-- Two spellings of one IPv6 address, one with a prefix of full length. -/
theorem isInSync_iff_admitted_spellings :
    isInSync (some "2001:db8::1") ["2001:DB8::1", "2001:db8:0::1/128", "no address"] = true ↔
      admitted ["2001:DB8::1", "2001:db8:0::1/128", "no address"] =
          {.v6 0x20010db8000000000000000000000001} ∧
        Unscoped ["2001:DB8::1", "2001:db8:0::1/128", "no address"] := by
  have hsource : UsableSource (some "2001:db8::1") "2001:db8::1" :=
    ⟨"2001:db8::1", rfl, by decide, by decide, by decide, by decide +kernel, by decide +kernel⟩
  exact (isInSync_iff_admitted hsource (by decide +kernel) _).1

end CloudflareIpSync
