import PingGuard.Library.IpAddress

/-!
# The address policy of the probe

`app/ssrf.py`. `isIpBlocked` is the verdict every hop of a probe and every registration consults:
six properties of the `ipaddress` module, nineteen networks, and one level of recursion for an
address synthesised by NAT64 for an IPv4 destination.

The policy is meant to follow a destination through its spellings. `isIpBlocked_nat64` says that it
does for NAT64. For the IPv4-mapped spelling it does not where an IPv4 range is refused by the
network list alone: no IPv6 address is in an IPv4 network, and the properties of a mapped address
are those of the IPv4 address, which the list was to complement.
`embeddingsKeepVerdict_iff` names the addresses for which the spellings agree, which are all but
the shared range `100.64.0.0/10` and the two addresses the registry excepts from `192.0.0.0/24`.
-/

set_option autoImplicit false
set_option relaxedAutoImplicit false

namespace PingGuard.Ssrf

open Library.IpAddress

/-! ### The policy -/

/-- `BLOCKED_NETWORKS`. -/
def blockedNetworks : List Network :=
  [network4 127 0 0 0 8, network4 10 0 0 0 8, network4 172 16 0 0 12, network4 192 168 0 0 16,
    network4 169 254 0 0 16, network4 0 0 0 0 8, network4 100 64 0 0 10, network4 192 0 0 0 24,
    network4 192 0 2 0 24, network4 198 51 100 0 24, network4 203 0 113 0 24,
    network4 224 0 0 0 4, network4 240 0 0 0 4, network4 255 255 255 255 32,
    network6 0 0 0 1 128, network6 0 0 0 0 128, network6 0xfe80 0 0 0 10,
    network6 0xfc00 0 0 0 7, network6 0xff00 0 0 0 8]

/-- `NAT64_WELL_KNOWN_PREFIX`. -/
def nat64WellKnownPrefix : Network := network6 0x64 0xff9b 0 0 96

/-- The part of `is_ip_blocked` below the NAT64 branch: the six properties, then the networks. -/
def isInBlockedRange (ip : IPAddress) : Bool :=
  ip.isPrivate || ip.isLoopback || ip.isLinkLocal || ip.isReserved || ip.isMulticast ||
    ip.isUnspecified || blockedNetworks.any (·.contains ip)

/-- `is_ip_blocked`. The recursive call of the source is on an IPv4 address, for which the NAT64
branch is not taken, so it is written as the rest of the body. -/
def isIpBlocked : IPAddress → Bool
  | .v4 address => isInBlockedRange (.v4 address)
  | .v6 address =>
    if nat64WellKnownPrefix.contains (.v6 address) then isInBlockedRange (.v4 address.lowIPv4)
    else isInBlockedRange (.v6 address)

/-- An address below the NAT64 prefix gets the verdict of the IPv4 address it embeds. -/
theorem isIpBlocked_of_nat64 {address : IPv6Address}
    (hnat64 : nat64WellKnownPrefix.contains (.v6 address) = true) :
    isIpBlocked (.v6 address) = isIpBlocked (.v4 address.lowIPv4) := by
  simp only [isIpBlocked, hnat64, if_true]

/-! ### Spellings of an IPv4 destination -/

/-- The NAT64 address `64:ff9b::a`. -/
def nat64 (address : IPv4Address) : IPv6Address :=
  embed (0x64 * 2 ^ 80 + 0xff9b * 2 ^ 64) (by norm_num) address

/-- The NAT64 spelling of an address is below the NAT64 prefix. -/
theorem nat64WellKnownPrefix_contains_nat64 (address : IPv4Address) :
    nat64WellKnownPrefix.contains (.v6 (nat64 address)) = true := by
  have hlt := address.value_lt
  rw [nat64WellKnownPrefix, network6_contains_v6_iff, nat64, value_embed]
  omega

/-- The NAT64 spelling of an address gets the verdict of the address. -/
theorem isIpBlocked_nat64 (address : IPv4Address) :
    isIpBlocked (.v6 (nat64 address)) = isIpBlocked (.v4 address) := by
  rw [isIpBlocked_of_nat64 (nat64WellKnownPrefix_contains_nat64 address), nat64, lowIPv4_embed]

/-- The IPv4-mapped spelling of an address is not below the NAT64 prefix. -/
theorem nat64WellKnownPrefix_contains_mapped (address : IPv4Address) :
    nat64WellKnownPrefix.contains (.v6 (mapped address)) = false := by
  have hlt := address.value_lt
  rw [← Bool.not_eq_true, nat64WellKnownPrefix, network6_contains_v6_iff, value_mapped]
  omega

/-- No blocked network contains an IPv4-mapped address: the IPv4 ones are of the other family and
the IPv6 ones are elsewhere. -/
theorem blockedNetworks_any_mapped (address : IPv4Address) :
    blockedNetworks.any (·.contains (.v6 (mapped address))) = false := by
  have hlt := address.value_lt
  rw [← Bool.not_eq_true]
  simp only [blockedNetworks, List.any_cons, List.any_nil, network4_contains_v6, Bool.or_eq_true,
    network6_contains_v6_iff, value_mapped, Bool.false_eq_true, false_or, or_false]
  omega

/-- The verdict on the IPv4-mapped spelling reads five properties of the address itself. Its
loopback property and the network list contribute nothing. -/
theorem isIpBlocked_mapped (address : IPv4Address) :
    isIpBlocked (.v6 (mapped address)) =
      (address.isPrivate || address.isLinkLocal || address.isReserved || address.isMulticast ||
        address.isUnspecified) := by
  have hloopback : (mapped address).isLoopback = false := by
    have hlt := address.value_lt
    simp only [IPv6Address.isLoopback, value_mapped, beq_eq_false_iff_ne, ne_eq]
    omega
  simp only [isIpBlocked, nat64WellKnownPrefix_contains_mapped, isInBlockedRange,
    blockedNetworks_any_mapped, IPAddress.isPrivate, IPAddress.isLoopback, hloopback,
    IPAddress.isLinkLocal, IPAddress.isReserved, IPAddress.isMulticast, IPAddress.isUnspecified,
    IPv6Address.isPrivate, IPv6Address.isLinkLocal, IPv6Address.isReserved,
    IPv6Address.isMulticast, IPv6Address.isUnspecified, ipv4Mapped_mapped, Bool.or_false,
    Bool.false_eq_true, if_false]

/-- An IPv4 address is blocked when its IPv4-mapped spelling is, or when it lies in one of the
three places that only the network list refuses. -/
theorem isIpBlocked_v4_iff (address : IPv4Address) :
    isIpBlocked (.v4 address) = true ↔
      isIpBlocked (.v6 (mapped address)) = true ∨
        (network4 100 64 0 0 10).contains (.v4 address) = true ∨
          (network4 192 0 0 9 32).contains (.v4 address) = true ∨
            (network4 192 0 0 10 32).contains (.v4 address) = true := by
  have hlt := address.value_lt
  rw [isIpBlocked_mapped]
  simp only [isIpBlocked, isInBlockedRange, IPAddress.isPrivate, IPAddress.isLoopback,
    IPAddress.isLinkLocal, IPAddress.isReserved, IPAddress.isMulticast, IPAddress.isUnspecified,
    IPv4Address.isPrivate, IPv4Address.isLoopback, IPv4Address.isLinkLocal,
    IPv4Address.isReserved, IPv4Address.isMulticast, IPv4Address.isUnspecified,
    privateNetworks4, privateNetworksExceptions4, blockedNetworks, List.any_cons, List.any_nil,
    List.all_cons, List.all_nil, Bool.or_eq_true, Bool.and_eq_true, Bool.not_eq_true',
    ← Bool.not_eq_true, beq_iff_eq, network4_contains_v4_iff, network6_contains_v4,
    Bool.false_eq_true, or_false, and_true]
  omega

/-- In the three places that only the network list refuses, the IPv4-mapped spelling is not
blocked. -/
theorem isIpBlocked_mapped_of_listed {address : IPv4Address}
    (hlisted : (network4 100 64 0 0 10).contains (.v4 address) = true ∨
      (network4 192 0 0 9 32).contains (.v4 address) = true ∨
        (network4 192 0 0 10 32).contains (.v4 address) = true) :
    ¬ isIpBlocked (.v6 (mapped address)) = true := by
  rw [isIpBlocked_mapped]
  simp only [IPv4Address.isPrivate, IPv4Address.isLinkLocal, IPv4Address.isReserved,
    IPv4Address.isMulticast, IPv4Address.isUnspecified, privateNetworks4,
    privateNetworksExceptions4, List.any_cons, List.any_nil, List.all_cons, List.all_nil,
    Bool.or_eq_true, Bool.and_eq_true, Bool.not_eq_true', ← Bool.not_eq_true, beq_iff_eq,
    network4_contains_v4_iff, Bool.false_eq_true, or_false, and_true] at hlisted ⊢
  omega

/-- Blocking an IPv4 address blocks both IPv6 spellings of it, and the NAT64 spelling is blocked
for no other reason. -/
def EmbeddingsKeepVerdict (address : IPv4Address) : Prop :=
  (isIpBlocked (.v4 address) = true →
    isIpBlocked (.v6 (mapped address)) = true ∧ isIpBlocked (.v6 (nat64 address)) = true) ∧
  (isIpBlocked (.v6 (nat64 address)) = true → isIpBlocked (.v4 address) = true)

/-- The spellings of an address get its verdict exactly when the address is outside the shared
range `100.64.0.0/10` and is neither `192.0.0.9` nor `192.0.0.10`. -/
theorem embeddingsKeepVerdict_iff (address : IPv4Address) :
    EmbeddingsKeepVerdict address ↔
      ¬ (network4 100 64 0 0 10).contains (.v4 address) = true ∧
        ¬ (network4 192 0 0 9 32).contains (.v4 address) = true ∧
          ¬ (network4 192 0 0 10 32).contains (.v4 address) = true := by
  have hblocked := isIpBlocked_v4_iff address
  rw [EmbeddingsKeepVerdict, isIpBlocked_nat64]
  constructor
  · rintro ⟨hkeeps, _⟩
    have hunlisted := fun hlisted ↦ isIpBlocked_mapped_of_listed hlisted
      (hkeeps (hblocked.mpr (Or.inr hlisted))).1
    exact ⟨fun h ↦ hunlisted (Or.inl h), fun h ↦ hunlisted (Or.inr (Or.inl h)),
      fun h ↦ hunlisted (Or.inr (Or.inr h))⟩
  · rintro ⟨hshared, hnine, hten⟩
    refine ⟨fun h ↦ ⟨?_, h⟩, id⟩
    rcases hblocked.mp h with hmapped | hlisted | hlisted | hlisted
    · exact hmapped
    · exact absurd hlisted hshared
    · exact absurd hlisted hnine
    · exact absurd hlisted hten

/-- `100.64.0.1`. -/
def sharedAddress : IPv4Address := ⟨0x64400001, by norm_num⟩

/-- `100.64.0.1` is blocked and `::ffff:100.64.0.1` is not. -/
theorem sharedAddress_mapped_not_blocked :
    isIpBlocked (.v4 sharedAddress) = true ∧ isIpBlocked (.v6 (mapped sharedAddress)) = false ∧
      ¬ EmbeddingsKeepVerdict sharedAddress := by
  have hblocked : isIpBlocked (.v4 sharedAddress) = true := by decide
  have hmapped : isIpBlocked (.v6 (mapped sharedAddress)) = false := by decide
  refine ⟨hblocked, hmapped, ?_⟩
  intro hkeeps
  have hkept := (hkeeps.1 hblocked).1
  rw [hmapped] at hkept
  exact absurd hkept (by decide)

end PingGuard.Ssrf
