import RiotPlayground.Luke.Display
import RiotPlayground.Luke.Dino

/-!
# The points message: the sender and its two receivers
-/

namespace RiotPlayground

open Directive

namespace Luke

/-- The request as it arrives: of JSON format, in a buffer that goes on with `rest`. -/
def Request.pdu (r : Request) (rest : List Char) : Pdu := ⟨.post, COAP_FORMAT_JSON, r.payload, rest⟩

/-- The display accepts the message and adds `n`. -/
def DisplayAccepts (pdu : Pdu) (n : UInt32) : Prop :=
  ∀ (ledCnt : UInt16) (obs : Bool) (s : Display.Vars), Display.lukePoints ledCnt pdu obs s =
    (some ⟨.valid, []⟩, Display.incrementPoints ledCnt n obs s)

/-- The dino accepts the message, moves unless `n` is 0, and reports `n` to its observers. -/
def DinoAccepts (pdu : Pdu) (n : UInt32) : Prop :=
  ∀ (obs : Bool) (s : Dino.State), Dino.dinoMove pdu obs s =
    (some ⟨.valid, []⟩, if 0 < n then Dino.notifyPoints n obs (Dino.setDino s) else s)

/-- Both receivers answer with an error and do nothing. -/
def BothReject (pdu : Pdu) : Prop :=
  (∀ (ledCnt : UInt16) (obs : Bool) (s : Display.Vars),
    Display.lukePoints ledCnt pdu obs s = (some ⟨.badRequest, []⟩, s)) ∧
  ∀ (obs : Bool) (s : Dino.State), Dino.dinoMove pdu obs s = (some ⟨.badRequest, []⟩, s)

lemma payload_of_request {s : Common} {points now later : UInt32} {res : ℕ} {r : Request}
    (h : (s.postPointsToTarget points now later res).request = some r) :
    r.payload = pointsText points := by
  unfold Common.postPointsToTarget at h
  split at h
  · cases h
  · split at h
    · cases h
    · exact congrArg Request.payload (Option.some.inj h).symm

lemma accepts_of_scan {pdu : Pdu} {n : UInt32} (hpost : pdu.method = .post)
    (hscan : pdu.scanPoints = some n) : DisplayAccepts pdu n ∧ DinoAccepts pdu n := by
  constructor
  · intro ledCnt obs s
    unfold Display.lukePoints
    rw [hpost, hscan]
  · intro obs s
    unfold Dino.dinoMove
    rw [hpost, hscan]
    rfl

lemma rejects_of_scan {pdu : Pdu} (hpost : pdu.method = .post) (hscan : pdu.scanPoints = none) :
    BothReject pdu := by
  constructor
  · intro ledCnt obs s
    unfold Display.lukePoints
    rw [hpost, hscan]
  · intro obs s
    unfold Dino.dinoMove
    rw [hpost, hscan]
    rfl

/-- Numbers of up to three digits arrive as they were sent, larger ones are turned down. -/
theorem points_arrive {s : Common} {points now later : UInt32} {res : ℕ} {r : Request}
    (h : (s.postPointsToTarget points now later res).request = some r) (rest : List Char) :
    if points < 1000 then DisplayAccepts (r.pdu rest) points ∧ DinoAccepts (r.pdu rest) points
    else BothReject (r.pdu rest) := by
  have hscan : (r.pdu rest).scanPoints = if points < 1000 then some points else none :=
    scanPoints_pointsText (payload_of_request h) rfl
  by_cases hpoints : points < 1000
  · rw [if_pos hpoints] at hscan ⊢
    exact accepts_of_scan rfl hscan
  · rw [if_neg hpoints] at hscan ⊢
    exact rejects_of_scan rfl hscan

/-- A node with a target that has not sent anything for two seconds. -/
def senderReady : Common :=
  { Common.init with
    targetRemote := ⟨.inet6, Vector.replicate 16 1, SOCK_ADDR_ANY_NETIF, LUKE_TARGET_PORT⟩
    targetPath := fun _ => 47 }

lemma senderReady_sends (points : UInt32) :
    ∃ r, (senderReady.postPointsToTarget points 2000000 2000000 40).request = some r :=
  ⟨_, rfl⟩

theorem points_arrive_255 : ∃ r,
    (senderReady.postPointsToTarget 255 2000000 2000000 40).request = some r ∧
    DisplayAccepts (r.pdu []) 255 ∧ DinoAccepts (r.pdu []) 255 := by
  obtain ⟨r, hr⟩ := senderReady_sends 255
  have harrive := points_arrive hr []
  rw [if_pos (by decide)] at harrive
  exact ⟨r, hr, harrive⟩

/-- A counter of 1000 is too long for the receivers. -/
theorem points_refused_1000 : ¬ ∀ (s : Common) (points now later : UInt32) (res : ℕ) (r : Request),
    (s.postPointsToTarget points now later res).request = some r →
    DisplayAccepts (r.pdu []) points ∧ DinoAccepts (r.pdu []) points := by
  intro h
  obtain ⟨r, hr⟩ := senderReady_sends 1000
  have hscan : (r.pdu []).scanPoints = if (1000 : UInt32) < 1000 then some 1000 else none :=
    scanPoints_pointsText (payload_of_request hr) rfl
  have hreject := (rejects_of_scan rfl (hscan.trans (if_neg (by decide)))).1 64 true .init
  have haccept := (h _ 1000 _ _ _ r hr).1 64 true .init
  have hcode := congrArg (fun after => after.1.map Response.code) (hreject.symm.trans haccept)
  exact absurd hcode (by decide)

end Luke

end RiotPlayground
