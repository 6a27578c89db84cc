import Mathlib.Tactic.NormNum

/-!
# Internet addresses, networks and their special-purpose properties

The numeric half of Python's `ipaddress` module, as CPython 3.12 ships it from 3.12.6 on. An
address is a bounded natural number, with a zone for IPv6, and a network is an address with a
prefix length. `Network.contains` is the `in` operator: an address of one family is never in a
network of the other. The special-purpose properties are membership in the registry tables of the
module, and for an IPv4-mapped IPv6 address all of them except `is_loopback` are those of the
mapped address.

The `contains` lemmas turn membership into two bounds, the form in which linear arithmetic decides
it. `embed` puts an IPv4 address below a 96-bit prefix, and `ipv4Mapped_mapped`
reads it back off an IPv4-mapped address.
-/

set_option autoImplicit false
set_option relaxedAutoImplicit false

namespace PingGuard.Library.IpAddress

/-! ### Addresses and networks -/

/-- An IPv4 address, as the integer the module keeps in `_ip`. -/
structure IPv4Address where
  value : ℕ
  value_lt : value < 2 ^ 32
  deriving DecidableEq

/-- An IPv6 address: the integer of `_ip` and the zone of `_scope_id`. -/
structure IPv6Address where
  value : ℕ
  value_lt : value < 2 ^ 128
  scopeId : Option (List Char)
  deriving DecidableEq

/-- What `ipaddress.ip_address` returns: an address of either family. -/
inductive IPAddress
  | v4 (address : IPv4Address)
  | v6 (address : IPv6Address)
  deriving DecidableEq

/-- What `ipaddress.ip_network` returns: a network address and a prefix length. -/
inductive Network
  | v4 (network prefixLength : ℕ)
  | v6 (network prefixLength : ℕ)
  deriving DecidableEq

/-- The IPv4 network `a.b.c.d/prefixLength`. -/
def network4 (a b c d prefixLength : ℕ) : Network :=
  .v4 (a * 2 ^ 24 + b * 2 ^ 16 + c * 2 ^ 8 + d) prefixLength

/-- The IPv6 network `a:b:c::last/prefixLength`. -/
def network6 (a b c last prefixLength : ℕ) : Network :=
  .v6 (a * 2 ^ 112 + b * 2 ^ 96 + c * 2 ^ 80 + last) prefixLength

/-- `address in network`: the address has the family of the network and its leading bits. -/
def Network.contains : Network → IPAddress → Bool
  | .v4 network prefixLength, .v4 address =>
    address.value / 2 ^ (32 - prefixLength) == network / 2 ^ (32 - prefixLength)
  | .v6 network prefixLength, .v6 address =>
    address.value / 2 ^ (128 - prefixLength) == network / 2 ^ (128 - prefixLength)
  | .v4 _ _, .v6 _ => false
  | .v6 _ _, .v4 _ => false

/-- Two numbers have the same quotient by a block size when the first lies in the block of the
second. -/
theorem div_eq_div_iff_mem_block (value network size : ℕ) (hsize : 0 < size) :
    value / size = network / size ↔
      network / size * size ≤ value ∧ value < network / size * size + size := by
  rw [Nat.div_eq_iff hsize]
  have hpos : 1 ≤ size := hsize
  omega

/-- An IPv4 address is in an IPv4 network when it lies between the first and the last address of
the network. -/
@[simp] theorem network4_contains_v4_iff (a b c d prefixLength : ℕ) (address : IPv4Address) :
    (network4 a b c d prefixLength).contains (.v4 address) = true ↔
      (a * 2 ^ 24 + b * 2 ^ 16 + c * 2 ^ 8 + d) / 2 ^ (32 - prefixLength) *
          2 ^ (32 - prefixLength) ≤ address.value ∧
        address.value < (a * 2 ^ 24 + b * 2 ^ 16 + c * 2 ^ 8 + d) / 2 ^ (32 - prefixLength) *
          2 ^ (32 - prefixLength) + 2 ^ (32 - prefixLength) :=
  beq_iff_eq.trans (div_eq_div_iff_mem_block _ _ _ (Nat.two_pow_pos _))

/-- An IPv6 address is in an IPv6 network when it lies between the first and the last address of
the network. -/
@[simp] theorem network6_contains_v6_iff (a b c last prefixLength : ℕ) (address : IPv6Address) :
    (network6 a b c last prefixLength).contains (.v6 address) = true ↔
      (a * 2 ^ 112 + b * 2 ^ 96 + c * 2 ^ 80 + last) / 2 ^ (128 - prefixLength) *
          2 ^ (128 - prefixLength) ≤ address.value ∧
        address.value < (a * 2 ^ 112 + b * 2 ^ 96 + c * 2 ^ 80 + last) / 2 ^ (128 - prefixLength) *
          2 ^ (128 - prefixLength) + 2 ^ (128 - prefixLength) :=
  beq_iff_eq.trans (div_eq_div_iff_mem_block _ _ _ (Nat.two_pow_pos _))

@[simp] theorem network4_contains_v6 (a b c d prefixLength : ℕ) (address : IPv6Address) :
    (network4 a b c d prefixLength).contains (.v6 address) = false :=
  rfl

@[simp] theorem network6_contains_v4 (a b c last prefixLength : ℕ) (address : IPv4Address) :
    (network6 a b c last prefixLength).contains (.v4 address) = false :=
  rfl

/-! ### The properties of an IPv4 address -/

/-- `_IPv4Constants._private_networks`. -/
def privateNetworks4 : List Network :=
  [network4 0 0 0 0 8, network4 10 0 0 0 8, network4 127 0 0 0 8, network4 169 254 0 0 16,
    network4 172 16 0 0 12, network4 192 0 0 0 24, network4 192 0 0 170 31, network4 192 0 2 0 24,
    network4 192 168 0 0 16, network4 198 18 0 0 15, network4 198 51 100 0 24,
    network4 203 0 113 0 24, network4 240 0 0 0 4, network4 255 255 255 255 32]

/-- `_IPv4Constants._private_networks_exceptions`. -/
def privateNetworksExceptions4 : List Network :=
  [network4 192 0 0 9 32, network4 192 0 0 10 32]

namespace IPv4Address

/-- `IPv4Address.is_private`. The shared range `100.64.0.0/10` is not in the table. -/
def isPrivate (address : IPv4Address) : Bool :=
  privateNetworks4.any (·.contains (.v4 address)) &&
    privateNetworksExceptions4.all fun network ↦ !network.contains (.v4 address)

/-- `IPv4Address.is_loopback`. -/
def isLoopback (address : IPv4Address) : Bool := (network4 127 0 0 0 8).contains (.v4 address)

/-- `IPv4Address.is_link_local`. -/
def isLinkLocal (address : IPv4Address) : Bool := (network4 169 254 0 0 16).contains (.v4 address)

/-- `IPv4Address.is_reserved`. -/
def isReserved (address : IPv4Address) : Bool := (network4 240 0 0 0 4).contains (.v4 address)

/-- `IPv4Address.is_multicast`. -/
def isMulticast (address : IPv4Address) : Bool := (network4 224 0 0 0 4).contains (.v4 address)

/-- `IPv4Address.is_unspecified`. -/
def isUnspecified (address : IPv4Address) : Bool := address.value == 0

end IPv4Address

/-! ### The properties of an IPv6 address -/

/-- `_IPv6Constants._private_networks`. -/
def privateNetworks6 : List Network :=
  [network6 0 0 0 1 128, network6 0 0 0 0 128,
    .v6 (0xffff * 2 ^ 32) 96, network6 0x64 0xff9b 1 0 48, network6 0x100 0 0 0 64,
    network6 0x2001 0 0 0 23, network6 0x2001 0xdb8 0 0 32, network6 0x2002 0 0 0 16,
    network6 0x3fff 0 0 0 20, network6 0xfc00 0 0 0 7, network6 0xfe80 0 0 0 10]

/-- `_IPv6Constants._private_networks_exceptions`. -/
def privateNetworksExceptions6 : List Network :=
  [network6 0x2001 1 0 1 128, network6 0x2001 1 0 2 128, network6 0x2001 3 0 0 32,
    network6 0x2001 4 0x112 0 48, network6 0x2001 0x20 0 0 28,
    network6 0x2001 0x30 0 0 28]

/-- `_IPv6Constants._reserved_networks`. -/
def reservedNetworks6 : List Network :=
  [network6 0 0 0 0 8, network6 0x100 0 0 0 8, network6 0x200 0 0 0 7,
    network6 0x400 0 0 0 6, network6 0x800 0 0 0 5, network6 0x1000 0 0 0 4,
    network6 0x4000 0 0 0 3, network6 0x6000 0 0 0 3, network6 0x8000 0 0 0 3,
    network6 0xa000 0 0 0 3, network6 0xc000 0 0 0 3, network6 0xe000 0 0 0 4,
    network6 0xf000 0 0 0 5, network6 0xf800 0 0 0 6, network6 0xfe00 0 0 0 9]

namespace IPv6Address

/-- The low 32 bits as an IPv4 address: `IPv4Address(self._ip & 0xFFFFFFFF)`, and also
`IPv4Address(self.packed[-4:])`. -/
def lowIPv4 (address : IPv6Address) : IPv4Address :=
  ⟨address.value % 2 ^ 32, Nat.mod_lt _ (by norm_num)⟩

/-- `IPv6Address.ipv4_mapped`. -/
def ipv4Mapped (address : IPv6Address) : Option IPv4Address :=
  if address.value / 2 ^ 32 = 0xffff then some address.lowIPv4 else none

/-- `IPv6Address.is_private`. -/
def isPrivate (address : IPv6Address) : Bool :=
  match address.ipv4Mapped with
  | some mapped => mapped.isPrivate
  | none =>
    privateNetworks6.any (·.contains (.v6 address)) &&
      privateNetworksExceptions6.all fun network ↦ !network.contains (.v6 address)

/-- `IPv6Address.is_loopback`: the only property that 3.12 does not read off a mapped address. -/
def isLoopback (address : IPv6Address) : Bool := address.value == 1

/-- `IPv6Address.is_link_local`. -/
def isLinkLocal (address : IPv6Address) : Bool :=
  match address.ipv4Mapped with
  | some mapped => mapped.isLinkLocal
  | none => (network6 0xfe80 0 0 0 10).contains (.v6 address)

/-- `IPv6Address.is_reserved`. -/
def isReserved (address : IPv6Address) : Bool :=
  match address.ipv4Mapped with
  | some mapped => mapped.isReserved
  | none => reservedNetworks6.any (·.contains (.v6 address))

/-- `IPv6Address.is_multicast`. -/
def isMulticast (address : IPv6Address) : Bool :=
  match address.ipv4Mapped with
  | some mapped => mapped.isMulticast
  | none => (network6 0xff00 0 0 0 8).contains (.v6 address)

/-- `IPv6Address.is_unspecified`. -/
def isUnspecified (address : IPv6Address) : Bool :=
  match address.ipv4Mapped with
  | some mapped => mapped.isUnspecified
  | none => address.value == 0

end IPv6Address

/-! ### The properties of an address of either family -/

namespace IPAddress

/-- `is_private` of either family. -/
def isPrivate : IPAddress → Bool
  | .v4 address => address.isPrivate
  | .v6 address => address.isPrivate

/-- `is_loopback` of either family. -/
def isLoopback : IPAddress → Bool
  | .v4 address => address.isLoopback
  | .v6 address => address.isLoopback

/-- `is_link_local` of either family. -/
def isLinkLocal : IPAddress → Bool
  | .v4 address => address.isLinkLocal
  | .v6 address => address.isLinkLocal

/-- `is_reserved` of either family. -/
def isReserved : IPAddress → Bool
  | .v4 address => address.isReserved
  | .v6 address => address.isReserved

/-- `is_multicast` of either family. -/
def isMulticast : IPAddress → Bool
  | .v4 address => address.isMulticast
  | .v6 address => address.isMulticast

/-- `is_unspecified` of either family. -/
def isUnspecified : IPAddress → Bool
  | .v4 address => address.isUnspecified
  | .v6 address => address.isUnspecified

end IPAddress

/-! ### IPv4 addresses embedded in IPv6 addresses -/

/-- The IPv6 address that carries an IPv4 address in its low 32 bits below a 96-bit prefix. -/
def embed (leading : ℕ) (hleading : leading < 2 ^ 96) (address : IPv4Address) : IPv6Address where
  value := leading * 2 ^ 32 + address.value
  value_lt := by
    have := address.value_lt
    omega
  scopeId := none

@[simp] theorem value_embed (leading : ℕ) (hleading : leading < 2 ^ 96) (address : IPv4Address) :
    (embed leading hleading address).value = leading * 2 ^ 32 + address.value :=
  rfl

@[simp] theorem lowIPv4_embed (leading : ℕ) (hleading : leading < 2 ^ 96)
    (address : IPv4Address) : (embed leading hleading address).lowIPv4 = address := by
  have := address.value_lt
  cases address
  simp only [IPv6Address.lowIPv4, value_embed, IPv4Address.mk.injEq]
  omega

/-- The IPv4-mapped address `::ffff:a`. -/
def mapped (address : IPv4Address) : IPv6Address := embed 0xffff (by norm_num) address

/-- The value of `::ffff:a` is the value of `a` above `0xffff` times two to the 32. -/
theorem value_mapped (address : IPv4Address) :
    (mapped address).value = 0xffff * 2 ^ 32 + address.value :=
  rfl

@[simp] theorem ipv4Mapped_mapped (address : IPv4Address) :
    (mapped address).ipv4Mapped = some address := by
  have := address.value_lt
  have hhigh : (mapped address).value / 2 ^ 32 = 0xffff := by
    rw [value_mapped]
    omega
  rw [IPv6Address.ipv4Mapped, if_pos hhigh, mapped, lowIPv4_embed]

end PingGuard.Library.IpAddress
