import RiotPlayground.Lib.Buffer
import RiotPlayground.Lib.TransitionSystem

/-!
# The receive-time experiment: `time_rx/gnrc/exp.c`

`exp_run` sweeps over payload sizes. For each packet it fills up to `MAX_FRAGMENTS` frames, and
the device under test fetches them one by one with `_netdev_recv`. Buffers are functions of the
index.
-/

namespace RiotPlayground

open Buffer

namespace Exp

@[simp] abbrev IEEE802154_MAX_FRAME_SIZE : ℕ := 125
@[simp] abbrev MHR_LEN : ℕ := 23
@[simp] abbrev MAX_FRAGMENTS : ℕ := 18
@[simp] abbrev EXP_MAX_PAYLOAD : ℕ := 1232

/-- `sizeof(ipv6_hdr_t) + sizeof(udp_hdr_t)`. -/
@[simp] abbrev IPUDP_LEN : ℕ := 40 + 8

/-- `sizeof(sixlowpan_frag_t)` and `sizeof(sixlowpan_frag_n_t)`. -/
@[simp] abbrev FRAG_LEN : ℕ := 4
@[simp] abbrev FRAG_N_LEN : ℕ := 5

abbrev PROTNUM_UDP : UInt8 := 17

abbrev SIXLOWPAN_FRAG_1_DISP : UInt8 := 0xc0
abbrev SIXLOWPAN_FRAG_N_DISP : UInt8 := 0xe0
abbrev SIXLOWPAN_IPHC1_DISP : UInt8 := 0x60
abbrev SIXLOWPAN_IPHC1_TF : UInt8 := 0x18
abbrev SIXLOWPAN_IPHC1_NH : UInt8 := 0x04
abbrev SIXLOWPAN_IPHC2_SAM : UInt8 := 0x30
abbrev SIXLOWPAN_IPHC2_DAM : UInt8 := 0x03

/-- What is fixed when the experiment is compiled. -/
structure Config where
  lwip : Bool
  srcPort : UInt16
  dstPort : UInt16
  src : Vector UInt8 16
  dst : Vector UInt8 16

/-- The functions of RIOT that are called: the checksums, and the MHR that
`ieee802154_set_frame_hdr` writes for a sequence number. -/
structure Riot where
  inetCsum : UInt16 → List UInt8 → UInt16
  ipv6HdrInetCsum : UInt16 → List UInt8 → UInt8 → UInt16 → UInt16
  mhr : ℕ → List UInt8

/-- The static variables. `fragmented` is the local of `exp_run`, set by `prepare_sixlowpan`. -/
structure State where
  payloadSize : ℕ
  fragBuf : ℕ → ℕ → UInt8
  fragLen : ℕ → ℕ
  uncomp : ℕ → UInt8
  frag : ℕ
  fragmented : Option Bool

def State.setFrag (s : State) (i : ℕ) (buf : ℕ → UInt8) (len : ℕ) : State :=
  { s with
    fragBuf := Function.update s.fragBuf i buf
    fragLen := Function.update s.fragLen i len }

def State.frame (s : State) (i : ℕ) : List UInt8 := slice (s.fragBuf i) 0 (s.fragLen i)

section SetFrag

variable (s : State) {i j : ℕ} (buf : ℕ → UInt8) (len : ℕ)

@[simp] lemma setFrag_payloadSize : (s.setFrag i buf len).payloadSize = s.payloadSize := rfl

@[simp] lemma setFrag_uncomp : (s.setFrag i buf len).uncomp = s.uncomp := rfl

@[simp] lemma setFrag_frag : (s.setFrag i buf len).frag = s.frag := rfl

@[simp] lemma setFrag_fragmented : (s.setFrag i buf len).fragmented = s.fragmented := rfl

@[simp] lemma setFrag_fragBuf_self : (s.setFrag i buf len).fragBuf i = buf :=
  Function.update_self ..

@[simp] lemma setFrag_fragLen_self : (s.setFrag i buf len).fragLen i = len :=
  Function.update_self ..

lemma setFrag_fragBuf_ne (h : j ≠ i) : (s.setFrag i buf len).fragBuf j = s.fragBuf j :=
  Function.update_of_ne h ..

lemma setFrag_fragLen_ne (h : j ≠ i) : (s.setFrag i buf len).fragLen j = s.fragLen j :=
  Function.update_of_ne h ..

end SetFrag

variable (R : Riot) (c : Config)

def iphcLen : ℕ :=
  if c.dstPort &&& 0xfff0 = 0xf0b0 ∧ c.srcPort &&& 0xfff0 = 0xf0b0 then 6
  else if c.dstPort &&& 0xff00 = 0xf000 ∨ c.srcPort &&& 0xff00 = 0xf000 then 8
  else 9

/-- `byteorder_htons`. -/
def htons (n : ℕ) : List UInt8 := [UInt8.ofNat (n / 256), UInt8.ofNat n]

/-- The first field of a fragment header. -/
def dispSize (disp : UInt8) (size : ℕ) : List UInt8 :=
  [UInt8.ofNat (size / 256) &&& ~~~disp ||| disp, UInt8.ofNat size]

def initFrag1 (buf : ℕ → UInt8) (size tag : ℕ) : ℕ → UInt8 :=
  poke buf MHR_LEN (dispSize SIXLOWPAN_FRAG_1_DISP size ++ htons tag)

def initFragn (buf : ℕ → UInt8) (size tag offset : ℕ) : ℕ → UInt8 :=
  poke buf MHR_LEN
    (dispSize SIXLOWPAN_FRAG_N_DISP size ++ htons tag ++ [UInt8.ofNat (offset >>> 3)])

/-- The compressed UDP header without its checksum. -/
def nhcUdp : List UInt8 :=
  let srcHi := (c.srcPort >>> 8).toUInt8
  let srcLo := (c.srcPort &&& 0xff).toUInt8
  let dstHi := (c.dstPort >>> 8).toUInt8
  let dstLo := (c.dstPort &&& 0xff).toUInt8
  if c.dstPort &&& 0xfff0 = 0xf0b0 ∧ c.srcPort &&& 0xfff0 = 0xf0b0 then
    [0xf0 ||| 0x03, ((c.srcPort &&& 0xf) <<< 4 ||| (c.dstPort &&& 0xf)).toUInt8]
  else if c.dstPort &&& 0xff00 = 0xf000 then [0xf0 ||| 0x01, srcHi, srcLo, dstLo]
  else if c.srcPort &&& 0xff00 = 0xf000 then [0xf0 ||| 0x02, srcLo, dstHi, dstLo]
  else [0xf0, srcHi, srcLo, dstHi, dstLo]

def setTag (buf : ℕ → UInt8) (tag : ℕ) : ℕ → UInt8 := poke buf (MHR_LEN + 2) (htons tag)

/-- The bytes `_init_iphc` writes: all but the checksum at the end. -/
def initIphc : List UInt8 :=
  [SIXLOWPAN_IPHC1_DISP ||| (SIXLOWPAN_IPHC1_TF ||| SIXLOWPAN_IPHC1_NH) ||| 0x02,
    0 ||| SIXLOWPAN_IPHC2_SAM ||| SIXLOWPAN_IPHC2_DAM] ++ nhcUdp c

/-- The checksum of the UDP header in `uncomp_buffer`, copied to the end of the IPHC header at
`pos`. -/
def setChksum (buf : ℕ → UInt8) (pos : ℕ) (uncomp : ℕ → UInt8) : ℕ → UInt8 :=
  poke buf (pos + (iphcLen c - 2)) [uncomp 46, uncomp 47]

def initIpv6 (uncomp : ℕ → UInt8) : ℕ → UInt8 := poke uncomp 8 (c.src.toList ++ c.dst.toList)

def initUdp (length : ℕ) (uncomp : ℕ → UInt8) : ℕ → UInt8 :=
  let length := UInt16.ofNat (length + 8)
  let uncomp := poke uncomp 40
    (htons c.srcPort.toNat ++ htons c.dstPort.toNat ++ htons length.toNat ++ [0, 0])
  let chksum := R.inetCsum 0 (slice uncomp 40 length.toNat)
  let chksum := R.ipv6HdrInetCsum chksum (slice uncomp 0 40) PROTNUM_UDP length
  let chksum := if chksum = 0 then 0xffff else chksum
  poke uncomp 46 (htons (~~~chksum).toNat)

def prepareMhrs (s : State) : State :=
  { s with fragBuf := fun i => if i < MAX_FRAGMENTS then poke (s.fragBuf i) 0 (R.mhr i)
      else s.fragBuf i }

def datagramSize (s : State) : ℕ :=
  if c.lwip then s.payloadSize + iphcLen c else s.payloadSize + IPUDP_LEN

/-- The loop of `prepare_sixlowpan` over the `n` frames from `frag` on. -/
def prepareFragn : ℕ → ℕ → ℕ → State → State
  | 0, _, _, s => s
  | n + 1, frag, offset, s =>
    let buf := initFragn (s.fragBuf frag) (datagramSize c s) 0 offset
    let buf := poke buf (MHR_LEN + FRAG_N_LEN) (initIphc c)
    prepareFragn n (frag + 1)
      (offset + (IEEE802154_MAX_FRAME_SIZE - MHR_LEN - FRAG_N_LEN) >>> 3 <<< 3)
      (s.setFrag frag buf (MHR_LEN + FRAG_N_LEN))

def firstOffset : ℕ :=
  if c.lwip then (IEEE802154_MAX_FRAME_SIZE - MHR_LEN - FRAG_LEN - iphcLen c) >>> 3 <<< 3
  else (IEEE802154_MAX_FRAME_SIZE - MHR_LEN - FRAG_LEN - iphcLen c + IPUDP_LEN) >>> 3 <<< 3

def needsFragments (s : State) : Bool :=
  s.payloadSize > IEEE802154_MAX_FRAME_SIZE - MHR_LEN - iphcLen c

def prepareSixlowpan (s : State) : State :=
  if needsFragments c s then
    let buf := poke (s.fragBuf 0) (MHR_LEN + FRAG_LEN) (initIphc c)
    let buf := initFrag1 buf (datagramSize c s) 0
    prepareFragn c (MAX_FRAGMENTS - 1) 1 (firstOffset c)
      ({ s with fragmented := some true }.setFrag 0 buf (MHR_LEN + FRAG_LEN + iphcLen c))
  else
    let buf := poke (s.fragBuf 0) MHR_LEN (initIphc c)
    { s with fragmented := some false }.setFrag 0 buf (MHR_LEN + iphcLen c)

/-- `n` times `buf[len++] = uncomp_buffer[offset++]`, with a length of eight bits. -/
def copyBytes (uncomp : ℕ → UInt8) : ℕ → (ℕ → UInt8) → ℕ → ℕ → (ℕ → UInt8) × ℕ
  | 0, buf, len, _ => (buf, len)
  | n + 1, buf, len, offset =>
    copyBytes uncomp n (Function.update buf len (uncomp offset)) ((len + 1) % 256) (offset + 1)

/-- The most payload that goes into frame `i`, whose headers take `len` bytes. -/
def room (i len : ℕ) : ℕ :=
  if c.lwip ∧ i = 0 then (IEEE802154_MAX_FRAME_SIZE - len) >>> 3 <<< 3 - iphcLen c
  else (IEEE802154_MAX_FRAME_SIZE - len) >>> 3 <<< 3

/-- The loop of `exp_run` that fills the `n` frames from `i` on. Returns the number of fragments
as well. -/
def fillFrags (id : ℕ) : ℕ → ℕ → ℕ → ℕ → State → State × ℕ
  | 0, _, _, fragments, s => (s, fragments)
  | n + 1, i, offset, fragments, s =>
    let buf := setTag (s.fragBuf i) id
    if IPUDP_LEN + s.payloadSize ≤ offset then
      fillFrags id n (i + 1) offset fragments (s.setFrag i buf 0)
    else
      let maxLen := min (room c i (s.fragLen i)) (IPUDP_LEN + s.payloadSize - offset)
      let copied := copyBytes s.uncomp maxLen buf (s.fragLen i) offset
      fillFrags id n (i + 1) (offset + maxLen) (fragments + 1) (s.setFrag i copied.1 copied.2)

/-- The payload and the UDP header go into `uncomp_buffer`, the checksum into the first frame. -/
def loadPacket (payload : List UInt8) (s : State) : State :=
  let s := { s with uncomp := initUdp R c s.payloadSize (poke s.uncomp IPUDP_LEN payload) }
  s.setFrag 0 (setChksum c (s.fragBuf 0) (s.fragLen 0 - iphcLen c) s.uncomp) (s.fragLen 0)

/-- The frames for one packet with the given payload, and their number. -/
def buildFrames (id : ℕ) (payload : List UInt8) (s : State) : State × ℕ :=
  let s := loadPacket R c payload s
  if s.fragmented = some true then fillFrags c id MAX_FRAGMENTS 0 IPUDP_LEN 0 s
  else
    let copied := copyBytes s.uncomp s.payloadSize (s.fragBuf 0) (s.fragLen 0) IPUDP_LEN
    (s.setFrag 0 copied.1 copied.2, 1)

/-- `_netdev_recv` with a buffer of `len` bytes; `none` is `-ENOBUFS`. -/
def netdevRecv (len : ℕ) (s : State) : Option (List UInt8) × State :=
  if len < s.fragLen s.frag then (none, s)
  else (some (s.frame s.frag), { s with frag := (s.frag + 1) % 256 })

/-- The device fetches a frame for each interrupt, the `k`-th time into `bufs k` bytes. The
frames it was handed out. -/
def fetch (bufs : ℕ → ℕ) : ℕ → ℕ → State → List (List UInt8) × State
  | 0, _, s => ([], s)
  | n + 1, k, s =>
    let recv := netdevRecv (bufs k) s
    let rest := fetch bufs n (k + 1) recv.2
    (recv.1.toList ++ rest.1, rest.2)

def resetFragBuf (s : State) : State :=
  if needsFragments c s then
    { s with
      fragLen := fun frag =>
        if frag = 0 then MHR_LEN + iphcLen c + FRAG_LEN
        else if frag < MAX_FRAGMENTS then MHR_LEN + FRAG_N_LEN
        else s.fragLen frag }
  else { s with fragLen := Function.update s.fragLen 0 (MHR_LEN + iphcLen c) }

/-- The body of the inner loop of `exp_run`: the frames handed out, and the state after. -/
def runPacket (id : ℕ) (payload : List UInt8) (bufs : ℕ → ℕ) (s : State) :
    List (List UInt8) × State :=
  let built := buildFrames R c id payload s
  let fetched := fetch bufs built.2 0 built.1
  (fetched.1, { resetFragBuf c fetched.2 with frag := 0 })

/-- The sweep: the next payload size, or the next packet of that size. -/
inductive Event
  | size (n : ℕ)
  | packet (id : ℕ) (payload : List UInt8) (bufs : ℕ → ℕ)

def step (s : State) : Event → Option State
  | .size n =>
    if n ≤ EXP_MAX_PAYLOAD then some (prepareSixlowpan c { s with payloadSize := n }) else none
  | .packet id payload bufs =>
    if s.fragmented.isSome ∧ payload.length = s.payloadSize then
      some (runPacket R c id payload bufs s).2
    else none

def sweep : TransitionSystem State Event := ⟨step R c⟩

/-- The state in which `exp_run` enters the sweep. -/
def init : State :=
  prepareMhrs R
    { payloadSize := 0
      fragBuf := fun _ _ => 0
      fragLen := fun _ => 0
      uncomp := initIpv6 c fun _ => 0
      frag := 0
      fragmented := none }

end Exp

end RiotPlayground
