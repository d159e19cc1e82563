import Mathlib.Logic.Basic
import Mathlib.Data.Nat.Notation

/-!
# The adapters of the stacks: `gnrc/stack.c` and `emb6/stack.c`

The experiments configure either stack through `stack_add_prefix` and `stack_add_route`. The
functions of the stacks themselves are left open in `Stacks`, and what the adapters rely on is in
`Documented`. Addresses are in network byte order.
-/

namespace RiotPlayground

namespace Adapters

abbrev Ipv6Addr : Type := BitVec 128

section Join

variable {w : ℕ}

/-- The first `n` bits of `pfx`, followed by those of `out`. -/
def join (pfx out : BitVec w) (n : ℕ) : BitVec w :=
  let host := BitVec.allOnes w >>> n
  (pfx &&& ~~~host) ||| (out &&& host)

lemma getMsbD_join (pfx out : BitVec w) {n i : ℕ} (hi : i < w) :
    (join pfx out n).getMsbD i = if i < n then pfx.getMsbD i else out.getMsbD i := by
  have hsub : i - n < w := by omega
  simp only [join, BitVec.getMsbD_or, BitVec.getMsbD_and, BitVec.getMsbD_not,
    BitVec.getMsbD_ushiftRight, BitVec.getMsbD_allOnes, hi, hsub, decide_true, Bool.true_and]
  by_cases hn : i < n
  · simp [hn]
  · simp [hn]

/-- The bits of a prefix decide what it is joined to. -/
lemma eq_join {pfx out a : BitVec w} {n : ℕ}
    (h : ∀ i < w, a.getMsbD i = if i < n then pfx.getMsbD i else out.getMsbD i) :
    a = join pfx out n := by
  apply BitVec.eq_of_getMsbD_eq
  intro i hi
  rw [h i hi, getMsbD_join pfx out hi]

/-- Joining changes nothing if the bits behind the prefix are there already. -/
lemma eq_join_iff {pfx out : BitVec w} {n : ℕ} :
    pfx = join pfx out n ↔ ∀ i < w, n ≤ i → pfx.getMsbD i = out.getMsbD i := by
  constructor
  · intro h i hi hn
    rw [h, getMsbD_join pfx out hi, if_neg (Nat.not_lt.mpr hn)]
  · intro h
    apply eq_join
    intro i hi
    by_cases hn : i < n
    · rw [if_pos hn]
    · rw [if_neg hn]
      exact h i hi (Nat.not_lt.mp hn)

end Join

/-- An entry of `gnrc_ipv6_fib_table`. -/
structure FibEntry where
  iface : ℕ
  dst : Ipv6Addr
  dstFlags : BitVec 32
  nextHop : Ipv6Addr
  nextHopFlags : BitVec 32
  lifetime : BitVec 32

structure UipDs6Addr where
  ipaddr : Ipv6Addr

structure UipDs6Route where
  ipaddr : Ipv6Addr
  length : BitVec 8
  nextHop : Ipv6Addr
  lifetime : BitVec 32

/-- `iid` is what the driver of an interface gets for `NETOPT_IPV6_IID`. What adds something returns
what is added, or `none` if there is no room: `gnrc_ipv6_netif_add_addr` of an address, the length
of its prefix and flags, `uip_ds6_addr_add` of an address with a lifetime and `ADDR_MANUAL`. -/
structure Stacks where
  pids : ℕ → ℕ
  iid : ℕ → BitVec 64
  ipv6AddrInitPrefix : Ipv6Addr → Ipv6Addr → BitVec 8 → Ipv6Addr
  ipv6AddrIsUnspecified : Ipv6Addr → Bool
  gnrcIpv6NetifAddAddr : ℕ → Ipv6Addr → BitVec 8 → BitVec 8 → Option Ipv6Addr
  fibFlagNetPrefixShift : ℕ
  fibLifetimeNoExpire : BitVec 32
  fibAddEntry : ℕ → Ipv6Addr → BitVec 32 → Ipv6Addr → BitVec 32 → BitVec 32 → Option FibEntry
  uipDs6AddrAdd : Ipv6Addr → BitVec 32 → Option UipDs6Addr
  uipDs6RouteAdd : Ipv6Addr → BitVec 8 → Ipv6Addr → Option UipDs6Route

/-- What the adapters rely on. -/
structure Stacks.Documented (L : Stacks) : Prop where
  initPrefix : ∀ out pfx bits, ∀ i < 128, (L.ipv6AddrInitPrefix out pfx bits).getMsbD i =
    if i < bits.toNat then pfx.getMsbD i else out.getMsbD i
  isUnspecified : ∀ addr, L.ipv6AddrIsUnspecified addr = true ↔ addr = 0
  netifAddAddr : ∀ pid addr len flags a,
    L.gnrcIpv6NetifAddAddr pid addr len flags = some a → a = addr
  shift_le : L.fibFlagNetPrefixShift + 8 ≤ 32
  addEntry : ∀ iface dst dstFlags nextHop nextHopFlags lifetime entry,
    L.fibAddEntry iface dst dstFlags nextHop nextHopFlags lifetime = some entry →
      entry = ⟨iface, dst, dstFlags, nextHop, nextHopFlags, lifetime⟩
  addrAdd : ∀ addr lifetime a, L.uipDs6AddrAdd addr lifetime = some a → a.ipaddr = addr
  routeAdd : ∀ addr length nextHop route, L.uipDs6RouteAdd addr length nextHop = some route →
    route.ipaddr = addr ∧ route.length = length ∧ route.nextHop = nextHop

section Stack

variable (L : Stacks)

namespace Gnrc

def stackAddPrefix (iface : ℕ) (pfx : Ipv6Addr) (prefixLen : BitVec 8) : Option Ipv6Addr :=
  -- the identifier is written to `u64[1]` of the unspecified address
  let addr : Ipv6Addr := (L.iid iface).setWidth 128
  -- this would complete the address, but the prefix is what is added
  let _addr := L.ipv6AddrInitPrefix addr pfx prefixLen
  L.gnrcIpv6NetifAddAddr (L.pids iface) pfx prefixLen 0

def stackAddRoute (iface : ℕ) (pfx : Ipv6Addr) (prefixLen : BitVec 8) (nextHop : Ipv6Addr) :
    Option FibEntry :=
  let prefixFlags : BitVec 32 := 0
  let prefixFlags :=
    if L.ipv6AddrIsUnspecified pfx then
      prefixFlags ||| (prefixLen.setWidth 32 <<< L.fibFlagNetPrefixShift)
    else prefixFlags
  L.fibAddEntry (L.pids iface) pfx prefixFlags nextHop 0 L.fibLifetimeNoExpire

end Gnrc

/-! ### emb6 -/

namespace Emb6

def stackAddPrefix (iface : ℕ) (pfx : Ipv6Addr) (prefixLen : BitVec 8) : Option Ipv6Addr :=
  let addr : Ipv6Addr := (L.iid iface).setWidth 128
  let addr := L.ipv6AddrInitPrefix addr pfx prefixLen
  -- without room a member of `NULL` is pointed to, which is no address
  (L.uipDs6AddrAdd addr 0).map UipDs6Addr.ipaddr

def stackAddRoute (pfx : Ipv6Addr) (prefixLen : BitVec 8) (nextHop : Ipv6Addr) :
    Option UipDs6Route :=
  (L.uipDs6RouteAdd pfx prefixLen nextHop).map fun res =>
    { res with lifetime := BitVec.allOnes 32 }

end Emb6

/-- The prefix bits followed by the identifier of the interface. -/
def interfaceAddr (iface : ℕ) (pfx : Ipv6Addr) (prefixLen : BitVec 8) : Ipv6Addr :=
  join pfx ((L.iid iface).setWidth 128) prefixLen.toNat

/-- The FIB takes the length of the prefix from the flags. -/
def FibEntry.prefixLen (entry : FibEntry) : BitVec 8 :=
  (entry.dstFlags >>> L.fibFlagNetPrefixShift).setWidth 8

/-- The addresses `a` of GNRC and `b` of emb6 are the one that is asked for, and so are the routes
`entry` of GNRC and `route` of emb6. -/
structure SameConfiguration (iface : ℕ) (pfx : Ipv6Addr) (prefixLen : BitVec 8) (dst : Ipv6Addr)
    (dstLen : BitVec 8) (nextHop : Ipv6Addr) (a b : Ipv6Addr) (entry : FibEntry)
    (route : UipDs6Route) : Prop where
  same : a = b
  addr : b = interfaceAddr L iface pfx prefixLen
  entry_dst : entry.dst = dst
  entry_len : entry.prefixLen L = dstLen
  entry_hop : entry.nextHop = nextHop
  route_dst : route.ipaddr = dst
  route_len : route.length = dstLen
  route_hop : route.nextHop = nextHop

end Stack

variable {L : Stacks} {iface : ℕ} {pfx dst nextHop a b : Ipv6Addr} {prefixLen dstLen : BitVec 8}
  {entry : FibEntry} {route : UipDs6Route}

/-- GNRC assigns the prefix itself. -/
lemma gnrc_addr (hL : L.Documented) (h : Gnrc.stackAddPrefix L iface pfx prefixLen = some a) :
    a = pfx :=
  hL.netifAddAddr _ _ _ _ _ h

lemma emb6_addr (hL : L.Documented) (h : Emb6.stackAddPrefix L iface pfx prefixLen = some b) :
    b = interfaceAddr L iface pfx prefixLen := by
  obtain ⟨added, hadded, rfl⟩ := Option.map_eq_some_iff.mp h
  rw [hL.addrAdd _ _ _ hadded]
  apply eq_join
  intro i hi
  exact hL.initPrefix _ pfx prefixLen i hi

lemma emb6_route (hL : L.Documented) (h : Emb6.stackAddRoute L dst dstLen nextHop = some route) :
    route.ipaddr = dst ∧ route.length = dstLen ∧ route.nextHop = nextHop := by
  obtain ⟨res, hres, rfl⟩ := Option.map_eq_some_iff.mp h
  have hadded := hL.routeAdd _ _ _ _ hres
  exact hadded

/-- A length is found again where it was shifted to. -/
lemma setWidth_shift (len : BitVec 8) {shift : ℕ} (h : shift + 8 ≤ 32) :
    ((len.setWidth 32 <<< shift) >>> shift).setWidth 8 = len := by
  apply BitVec.eq_of_getLsbD_eq
  intro i hi
  have hlt : shift + i < 32 := by omega
  have hi32 : i < 32 := by omega
  simp [hi, hlt, hi32]

/-- The length is in the flags for the unspecified prefix only. -/
lemma gnrc_route (hL : L.Documented)
    (h : Gnrc.stackAddRoute L iface dst dstLen nextHop = some entry) :
    entry.dst = dst ∧ entry.nextHop = nextHop ∧
      entry.prefixLen L = if dst = 0 then dstLen else 0 := by
  obtain rfl := hL.addEntry _ _ _ _ _ _ _ h
  apply And.intro rfl
  apply And.intro rfl
  unfold FibEntry.prefixLen
  dsimp only
  by_cases hdst : dst = 0
  · rw [if_pos ((hL.isUnspecified dst).mpr hdst), if_pos hdst]
    simp only [BitVec.ofNat_eq_ofNat, BitVec.zero_or]
    exact setWidth_shift dstLen hL.shift_le
  · rw [if_neg (mt (hL.isUnspecified dst).mp hdst), if_neg hdst]
    simp

/-- GNRC ends up with the configuration of emb6 if the identifier is there behind the prefix
already, and the route is for the unspecified prefix or for the length 0. -/
theorem sameConfiguration_iff (hL : L.Documented)
    (ha : Gnrc.stackAddPrefix L iface pfx prefixLen = some a)
    (hb : Emb6.stackAddPrefix L iface pfx prefixLen = some b)
    (hentry : Gnrc.stackAddRoute L iface dst dstLen nextHop = some entry)
    (hroute : Emb6.stackAddRoute L dst dstLen nextHop = some route) :
    SameConfiguration L iface pfx prefixLen dst dstLen nextHop a b entry route ↔
      (∀ i < 128, prefixLen.toNat ≤ i →
        pfx.getMsbD i = ((L.iid iface).setWidth 128).getMsbD i) ∧ (dst = 0 ∨ dstLen = 0) := by
  rw [← eq_join_iff]
  have hgnrc := gnrc_addr hL ha
  have hemb6 := emb6_addr hL hb
  obtain ⟨hdst, hhop, hlen⟩ := gnrc_route hL hentry
  obtain ⟨hdst', hlen', hhop'⟩ := emb6_route hL hroute
  constructor
  · intro h
    constructor
    · calc pfx = a := hgnrc.symm
        _ = b := h.same
        _ = join pfx ((L.iid iface).setWidth 128) prefixLen.toNat := hemb6
    · have hsame := hlen.symm.trans h.entry_len
      by_cases hzero : dst = 0
      · exact .inl hzero
      · rw [if_neg hzero] at hsame
        exact .inr hsame.symm
  · rintro ⟨hpfx, hzero⟩
    refine ⟨?_, hemb6, hdst, ?_, hhop, hdst', hlen', hhop'⟩
    · rw [hgnrc, hemb6]
      exact hpfx
    · rw [hlen]
      rcases hzero with hzero | hzero
      · exact if_pos hzero
      · rw [hzero, ite_self]

/-- Stacks that have room for everything, on interfaces with the identifier `::1`. -/
def roomy : Stacks where
  pids := id
  iid _ := 1
  ipv6AddrInitPrefix out pfx bits := join pfx out bits.toNat
  ipv6AddrIsUnspecified addr := addr = 0
  gnrcIpv6NetifAddAddr _ addr _ _ := some addr
  fibFlagNetPrefixShift := 24
  fibLifetimeNoExpire := BitVec.allOnes 32
  fibAddEntry iface dst dstFlags nextHop nextHopFlags lifetime :=
    some ⟨iface, dst, dstFlags, nextHop, nextHopFlags, lifetime⟩
  uipDs6AddrAdd addr _ := some ⟨addr⟩
  uipDs6RouteAdd addr length nextHop := some ⟨addr, length, nextHop, 0⟩

lemma documented_roomy : roomy.Documented where
  initPrefix out pfx _ _ hi := getMsbD_join pfx out hi
  isUnspecified _ := decide_eq_true_iff
  netifAddAddr _ _ _ _ _ h := (Option.some.inj h).symm
  shift_le := Nat.le_refl 32
  addEntry _ _ _ _ _ _ _ h := (Option.some.inj h).symm
  addrAdd _ _ a h := by
    obtain rfl := Option.some.inj h
    rfl
  routeAdd _ _ _ route h := by
    obtain rfl := Option.some.inj h
    exact ⟨rfl, rfl, rfl⟩

/-- With the address of the interface for a prefix and the default route both are the same. -/
theorem sameConfiguration_default :
    SameConfiguration roomy 0 0x20010db8000000000000000000000001 64 0 0
      0xfe800000000000000000000000000002 0x20010db8000000000000000000000001
      0x20010db8000000000000000000000001
      ⟨0, 0, 0, 0xfe800000000000000000000000000002, 0, BitVec.allOnes 32⟩
      ⟨0, 0, 0xfe800000000000000000000000000002, BitVec.allOnes 32⟩ := by
  apply (sameConfiguration_iff documented_roomy rfl ?_ rfl rfl).mpr
  · exact ⟨eq_join_iff.mp (by decide), .inl rfl⟩
  · decide

/-- `2001:db8::/64` is assigned as an address, and the route for `2001:db8:1::/48` gets the
length 0. -/
theorem not_sameConfiguration : ¬ ∀ (L : Stacks), L.Documented →
    ∀ iface pfx prefixLen dst dstLen nextHop a b entry route,
      Gnrc.stackAddPrefix L iface pfx prefixLen = some a →
      Emb6.stackAddPrefix L iface pfx prefixLen = some b →
      Gnrc.stackAddRoute L iface dst dstLen nextHop = some entry →
      Emb6.stackAddRoute L dst dstLen nextHop = some route →
      SameConfiguration L iface pfx prefixLen dst dstLen nextHop a b entry route := by
  intro h
  have hsame := h roomy documented_roomy 0 0x20010db8000000000000000000000000 64
    0x20010db8000100000000000000000000 48 0xfe800000000000000000000000000002 _ _ _ _
    rfl rfl rfl rfl
  have hdiffer : (0x20010db8000000000000000000000000 : Ipv6Addr) ≠
      join 0x20010db8000000000000000000000000 1 64 := by
    decide
  exact hdiffer hsame.same

end Adapters

end RiotPlayground
