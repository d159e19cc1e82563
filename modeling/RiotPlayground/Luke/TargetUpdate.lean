import RiotPlayground.Luke.Target

/-!
# What a POST does to the target
-/

namespace RiotPlayground

open Buffer FlatJson

namespace Luke

variable {P : Packages}

/-- The address that is parsed, where the request gets that far. -/
def parsedAddress (P : Packages) (pdu : TargetPdu) : Option (List UInt8) :=
  if pdu.contentType = COAP_FORMAT_JSON then
    match findTarget P pdu with
    | some ⟨payload, some remote, len, some _, _⟩ =>
      if len = 0 then none else some ((slice payload remote len).takeWhile (· ≠ 0))
    | _ => none
  else none

/-- The endpoint and the path are what they were. -/
def SameTarget (s t : Common) : Prop :=
  t.targetRemote = s.targetRemote ∧ t.targetPath = s.targetPath

lemma makeSockEp_refused {ep : SockUdpEp} {addr : List UInt8}
    (h : (makeSockEp P ep addr).1 = false) :
    (makeSockEp P ep addr).2 = (P.sockUdpStr2ep { ep with port := 0 } addr).2 := by
  unfold makeSockEp at h ⊢
  dsimp only at h ⊢
  split at h
  · cases h
  · rename_i hrefused
    rw [if_neg hrefused]

/-- What a walk with both members leaves behind when the address is refused. -/
lemma storeTarget_rejected {payload : ℕ → UInt8} {remote len path pathLen : ℕ} {s : Common}
    (h : (storeTarget P ⟨payload, some remote, len, some path, pathLen⟩ s).1 = .badRequest) :
    len ≠ 0 ∧ (storeTarget P ⟨payload, some remote, len, some path, pathLen⟩ s).2 = { s with
      targetRemote := (P.sockUdpStr2ep { s.targetRemote with port := 0 }
        ((slice payload remote len).takeWhile (· ≠ 0))).2 } := by
  unfold storeTarget at h ⊢
  dsimp only at h ⊢
  split at h
  · rename_i hrefused
    rw [if_pos hrefused, makeSockEp_refused hrefused.2]
    exact ⟨hrefused.1, rfl⟩
  · cases h

lemma sameTarget_of_remote {s : Common} (ep : SockUdpEp) :
    SameTarget s { s with targetRemote := ep } ↔ ep = s.targetRemote :=
  and_iff_left rfl

/-- A rejected request leaves the target alone if and only if it is turned down before the address
is parsed, or what the parser leaves in the endpoint, whose port it finds cleared, is the target. -/
theorem rejected_sameTarget_iff {pdu : TargetPdu} {s : Common}
    (h : (lukeSetTarget P pdu s).1.map TargetResponse.code = some .badRequest) :
    SameTarget s (lukeSetTarget P pdu s).2 ↔ ∀ addr, parsedAddress P pdu = some addr →
      (P.sockUdpStr2ep { s.targetRemote with port := 0 } addr).2 = s.targetRemote := by
  unfold lukeSetTarget at h ⊢
  unfold parsedAddress
  cases hmethod : pdu.method with
  | get =>
    rw [hmethod] at h
    exact nomatch Option.some.inj h
  | other =>
    rw [hmethod] at h
    cases h
  | post =>
    rw [hmethod] at h
    dsimp only at h ⊢
    by_cases htype : pdu.contentType = COAP_FORMAT_JSON
    · rw [if_pos htype] at h ⊢
      rw [if_pos htype]
      have hcode : (setTargetFromPayload P pdu s).1 = .badRequest := Option.some.inj h
      unfold setTargetFromPayload at hcode ⊢
      cases hfind : findTarget P pdu with
      | none => exact iff_of_true ⟨rfl, rfl⟩ nofun
      | some w =>
        obtain ⟨payload, remoteTok, len, pathTok, pathLen⟩ := w
        rw [hfind] at hcode
        cases remoteTok with
        | none => exact iff_of_true ⟨rfl, rfl⟩ nofun
        | some remote =>
          cases pathTok with
          | none => exact iff_of_true ⟨rfl, rfl⟩ nofun
          | some path =>
            obtain ⟨hlen, hafter⟩ := storeTarget_rejected hcode
            dsimp only
            rw [hafter, if_neg hlen, sameTarget_of_remote]
            exact ⟨fun hep addr haddr => Option.some.inj haddr ▸ hep, fun hall => hall _ rfl⟩
    · rw [if_neg htype, if_neg htype]
      exact iff_of_true ⟨rfl, rfl⟩ nofun

/-- A POST whose payload is `doc`. -/
def postDocument (doc : List UInt8) : TargetPdu where
  method := .post
  contentType := COAP_FORMAT_JSON
  payload := poke (fun _ => 0) 0 doc
  payloadLen := doc.length
  stack _ := ⟨.undefined, 0, 0⟩

def stringTok (span : Span) : JsmnTok := ⟨.string, UInt32.ofNat span.start, UInt32.ofNat span.stop⟩

/-- The tokens of a flat object. -/
def objectToks (ms : List Member) : List JsmnTok :=
  ⟨.object, 0, UInt32.ofNat (objectText ms).length⟩ :: (membersSpans 1 ms).map stringTok

def targetMembers (addr path : List UInt8) : List Member :=
  [⟨ascii ['a', 'd', 'd', 'r'], addr⟩, ⟨ascii ['p', 'a', 't', 'h'], path⟩]

/-- A parser of endpoints that takes no text, and writes nothing. -/
def refusing (ms : List Member) : Packages where
  jsmnParse text := if text = objectText ms then some (objectToks ms) else none
  sockUdpStr2ep ep _ := (false, ep)
  sockUdpEpFmt ep := ([], ep.port)

def storedTarget : Common :=
  { Common.init with
    targetRemote := ⟨.inet6, Vector.replicate 16 1, SOCK_ADDR_ANY_NETIF, LUKE_TARGET_PORT⟩
    targetPath := fun i => if i = 0 then 47 else 0 }

theorem rejected_brokenJson :
    SameTarget storedTarget (lukeSetTarget (refusing []) (postDocument [123]) storedTarget).2 := by
  apply (rejected_sameTarget_iff (by decide +kernel)).mpr
  intro addr haddr
  have hnone : parsedAddress (refusing []) (postDocument [123]) = none := by decide +kernel
  rw [hnone] at haddr
  cases haddr

/-- A JSON document with an address that is refused. -/
def refusedMembers : List Member := targetMembers (ascii ['x']) (ascii ['/', 'p'])

/-- The port of the stored target is cleared. -/
theorem rejected_portCleared : ¬ ∀ (P : Packages) (pdu : TargetPdu) (s : Common),
    (lukeSetTarget P pdu s).1.map TargetResponse.code = some .badRequest →
    SameTarget s (lukeSetTarget P pdu s).2 := by
  intro h
  have hsame := h (refusing refusedMembers) (postDocument (objectText refusedMembers)) storedTarget
    (by decide +kernel)
  have hport := congrArg SockUdpEp.port hsame.1
  exact absurd hport (by decide +kernel)

end Luke

end RiotPlayground
