import RiotPlayground.Websniffer.Sixlowpan

/-!
# 6LoWPAN dissection

What the reassembly relies on in scapy, and an instance of it: `lowpanScapy` reads the dispatch
byte the way scapy does for IPHC headers (with or without a compressed UDP header) and for
uncompressed IPv6. It instantiates the parameter `S` where a concrete run is looked at.
-/

namespace RiotPlayground

/-- The dissection `add` relies on. `header bytes = some (c, u)` says that `bytes` start with
an IPHC dispatch and hold the whole compressed header: `c` bytes that stand for `u` bytes of
the datagram. Behind the dispatch `0x41` the IPv6 header is read as it is. -/
structure Scapy.Dissects {Mac Pkt IPv6 : Type} (S : Scapy Mac Pkt IPv6)
    (header : List UInt8 → Option (ℕ × ℕ)) : Prop where
  dispatch : ∀ bytes c u, header bytes = some (c, u) →
    ∃ b rest, bytes = b :: rest ∧ b.toNat / 32 = 3
  header_le : ∀ bytes c u, header bytes = some (c, u) → c ≤ bytes.length
  header_append : ∀ bytes rest c u, header bytes = some (c, u) →
    header (bytes ++ rest) = some (c, u)
  iphc : ∀ mac bytes c u, header bytes = some (c, u) →
    ∃ ip, S.ipv6 (S.dot15d4 mac bytes) = some ip ∧ S.plen ip + 40 = u + (bytes.length - c)
  uncompressed : ∀ mac (hdr rest : List UInt8), hdr.length = 40 →
    ∃ ip, S.ipv6 (S.dot15d4 mac (0x41 :: hdr ++ rest)) = some ip ∧
      S.plen ip = hdr[4]!.toNat * 256 + hdr[5]!.toNat

/-- Bytes carried in line by an IPHC header with encoding bytes `b0` and `b1`. -/
def iphcInline (b0 b1 : ℕ) : ℕ :=
  let tf := [4, 3, 1, 0].getD (b0 / 8 % 4) 0
  let nh := 1 - b0 / 4 % 2
  let hlim := if b0 % 4 = 0 then 1 else 0
  let cid := b1 / 128
  let sam := if b1 / 64 % 2 = 1 ∧ b1 / 16 % 4 = 0 then 0 else [16, 8, 2, 0].getD (b1 / 16 % 4) 0
  let dam := if b1 / 8 % 2 = 1 then [16, 6, 4, 1].getD (b1 % 4) 0 else [16, 8, 2, 0].getD (b1 % 4) 0
  cid + tf + nh + hlim + sam + dam

/-- Length of a compressed UDP header with encoding byte `nhc`. -/
def udpNhcLength (nhc : ℕ) : ℕ :=
  1 + [4, 3, 3, 1].getD (nhc % 4) 0 + if nhc / 4 % 2 = 1 then 0 else 2

/-- The lengths of a complete IPHC header and of what it stands for. -/
def iphcHeader : List UInt8 → Option (ℕ × ℕ)
  | b0 :: b1 :: rest =>
    if b0.toNat / 32 = 3 then
      let n := iphcInline b0.toNat b1.toNat
      if b0.toNat / 4 % 2 = 0 then
        if n ≤ rest.length then some (2 + n, 40) else none
      else
        match rest[n]? with
        | some nhc =>
          if nhc.toNat / 8 = 30 ∧ n + udpNhcLength nhc.toNat ≤ rest.length then
            some (2 + n + udpNhcLength nhc.toNat, 48)
          else none
        | none => none
    else none
  | _ => none

def lowpanPlen (bytes : List UInt8) : Option ℕ :=
  match iphcHeader bytes with
  | some (c, u) => some (u - 40 + (bytes.length - c))
  | none =>
    if bytes.head? = some 0x41 ∧ 41 ≤ bytes.length then
      some (bytes[5]!.toNat * 256 + bytes[6]!.toNat)
    else none

/-- Packets are their bytes; the IPv6 layer is known by its payload length. -/
def lowpanScapy : Scapy ℕ (List UInt8) ℕ where
  dot15d4 _ bytes := bytes
  ipv6 := lowpanPlen
  plen := id

lemma iphcHeader_some {bytes : List UInt8} {c u : ℕ} (h : iphcHeader bytes = some (c, u)) :
    ∃ b0 b1 rest, bytes = b0 :: b1 :: rest ∧ b0.toNat / 32 = 3 ∧ c ≤ bytes.length ∧ 40 ≤ u ∧
      ∀ more, iphcHeader (bytes ++ more) = some (c, u) := by
  match bytes, h with
  | b0 :: b1 :: rest, h =>
    refine ⟨b0, b1, rest, rfl, ?_⟩
    by_cases hd : b0.toNat / 32 = 3
    swap
    · simp [iphcHeader, hd] at h
    simp only [iphcHeader, hd, if_true] at h
    generalize hn : iphcInline b0.toNat b1.toNat = n at h
    by_cases hnh : b0.toNat / 4 % 2 = 0
    · simp only [hnh, if_true] at h
      split at h
      · rename_i hle
        obtain ⟨rfl, rfl⟩ := by simpa only [Option.some.injEq, Prod.mk.injEq] using h
        refine ⟨hd, by simp only [List.length_cons]; omega, le_rfl, fun more => ?_⟩
        have hle' : n ≤ (rest ++ more).length := by simp only [List.length_append]; omega
        simp only [List.cons_append, iphcHeader, hd, if_true, hn, hnh, if_pos hle']
      · cases h
    · simp only [hnh, if_false] at h
      split at h
      · rename_i nhc hget
        split at h
        · rename_i hudp
          obtain ⟨rfl, rfl⟩ := by simpa only [Option.some.injEq, Prod.mk.injEq] using h
          refine ⟨hd, by simp only [List.length_cons]; omega, by omega, fun more => ?_⟩
          have hlt : n < rest.length := (List.getElem?_eq_some_iff.mp hget).1
          have hget' : (rest ++ more)[n]? = some nhc := by
            rw [List.getElem?_append_left hlt, hget]
          have hudp' : nhc.toNat / 8 = 30 ∧
              n + udpNhcLength nhc.toNat ≤ (rest ++ more).length :=
            ⟨hudp.1, by simp only [List.length_append]; omega⟩
          simp only [List.cons_append, iphcHeader, hd, if_true, hn, hnh, if_false, hget',
            if_pos hudp']
        · cases h
      · cases h

theorem lowpanScapy_dissects : lowpanScapy.Dissects iphcHeader where
  dispatch bytes c u h := by
    obtain ⟨b0, b1, rest, rfl, hd, -⟩ := iphcHeader_some h
    exact ⟨b0, b1 :: rest, rfl, hd⟩
  header_le bytes c u h := by
    obtain ⟨-, -, -, -, -, hle, -⟩ := iphcHeader_some h
    exact hle
  header_append bytes rest c u h := by
    obtain ⟨-, -, -, -, -, -, -, happ⟩ := iphcHeader_some h
    exact happ rest
  iphc mac bytes c u h := by
    obtain ⟨-, -, -, -, -, -, hu, -⟩ := iphcHeader_some h
    refine ⟨u - 40 + (bytes.length - c), by simp [lowpanScapy, lowpanPlen, h], ?_⟩
    simp only [lowpanScapy, id]
    omega
  uncompressed mac hdr rest hlen := by
    match hdr, hlen with
    | h0 :: h1 :: h2 :: h3 :: h4 :: h5 :: hdr, hlen =>
      refine ⟨_, ?_, rfl⟩
      have hnone : iphcHeader (0x41 :: (h0 :: h1 :: h2 :: h3 :: h4 :: h5 :: hdr) ++ rest) =
          none := by
        simp [iphcHeader]
      have hle : 41 ≤ (0x41 :: (h0 :: h1 :: h2 :: h3 :: h4 :: h5 :: hdr) ++ rest).length := by
        simp only [List.length_cons] at hlen
        simp only [List.cons_append, List.length_cons, List.length_append]
        omega
      simp only [lowpanScapy, lowpanPlen, hnone]
      rw [if_pos ⟨rfl, hle⟩]
      rfl

def shortFirst : Frame ℕ :=
  ⟨8, 1166689614016130, some (.first 52 15 [0x7a, 0x33, 17, 1, 2, 3, 4, 5, 6, 7, 8])⟩

def shortSubsequent : Frame ℕ :=
  ⟨9, 1166689614016130, some (.subsequent 52 15 6 [9, 10, 11, 12])⟩

end RiotPlayground
