import RiotPlayground.Websniffer.Follow

/-!
# Emptying the capture file

`POST /empty` truncates the file behind the back of the sniffer, whose file object keeps its
offset: what it writes next stands where it would have stood, behind a hole that reads as NULs.
-/

namespace RiotPlayground

open PyText

/-- A websocket with its own position in the file, and the packets it has parsed. -/
structure Reader where
  pos : ℕ
  delivered : List (List UInt8)

/-- The writer's side of the file, the file itself, and the websockets in the order they were
opened. -/
structure Capture where
  out : Outfile
  file : List Char
  readers : List Reader

namespace Capture

def init : Capture := ⟨.init, [], []⟩

inductive Event
  | serial (raw : List UInt8)
  | empty
  | connect
  | read (i : ℕ)

def nul : Char := Char.ofNat 0

/-- Writes at an offset, behind NULs where the file is too short for it. -/
def writeAt (file : List Char) (offset : ℕ) (cs : List Char) : List Char :=
  (file ++ List.replicate (offset - file.length) nul).take offset ++ cs ++
    file.drop (offset + cs.length)

/-- What the writer has flushed between `w` and `w'` goes into the file. -/
def flushInto (file : List Char) (w w' : Outfile) : List Char :=
  let cs := w'.flushed.drop w.flushed.length
  if cs = [] then file else writeAt file w.flushed.length cs

/-- How a websocket sees the file. -/
def follow (s : Capture) (r : Reader) : Follow :=
  ⟨{ s.out with flushed := s.file }, r.pos, r.delivered⟩

variable (U : Unicode) (maxDigits : Option ℕ) (clock : ℕ → List Char)

def step (s : Capture) : Event → Option Capture
  | .serial raw => (generateLine U maxDigits clock s.out raw).map fun w =>
      { s with
        out := w
        file := flushInto s.file s.out w }
  | .empty => some { s with file := [] }
  | .connect => some { s with readers := s.readers ++ [⟨0, []⟩] }
  | .read i => s.readers[i]?.map fun r =>
      let f := (s.follow r).read U
      { s with readers := s.readers.set i ⟨f.pos, f.delivered⟩ }

def system : TransitionSystem Capture Event := ⟨step U maxDigits clock⟩

/-- Where the writer was at the last truncation, and the first websocket opened after it. -/
structure Emptied where
  since : ℕ
  first : ℕ

def note (h : Emptied) (s : Capture) (e : Event) (_ : Capture) : Emptied :=
  match e with
  | .empty => ⟨s.out.flushed.length, s.readers.length⟩
  | _ => h

/-- The text from `since` on, from the first start of a line. -/
def wholeLines (flushed : List Char) (since : ℕ) : List Char :=
  if AtLineStart (flushed.take since) then flushed.drop since
  else ((flushed.drop since).dropWhile (· ≠ '\n')).tail

/-- A websocket opened after the last truncation that has read all of the file has parsed every
packet whose line was written completely since then. -/
def Kept (p : Capture × Emptied) : Prop :=
  ∀ i r, p.2.first ≤ i → p.1.readers[i]? = some r → (p.1.follow r).unread = [] →
    (Follow.packetLines U (wholeLines p.1.out.flushed p.2.since)).Sublist r.delivered

/-- The file is emptied before anything is in it or in the middle of a line, and read where it
holds a whole line or nothing. -/
def Calm (p : Capture × Emptied) : Event → Prop
  | .empty => p.1.out.flushed = [] ∨ ¬ AtLineStart p.1.out.flushed
  | .read i => ∀ r, p.2.first ≤ i → p.1.readers[i]? = some r →
      Follow.WholeLine (p.1.follow r) .read
  | _ => True

instance (p : Capture × Emptied) : DecidablePred (Calm p)
  | .empty => inferInstanceAs (Decidable (_ ∨ ¬ AtLineStart p.1.out.flushed))
  | .read i => decidable_of_iff
      (p.2.first ≤ i → ∀ r ∈ p.1.readers[i]?, Follow.WholeLine (p.1.follow r) .read)
      ⟨fun h r hi hr => h hi r hr, fun h hi r hr => h r hi hr⟩
  | .serial _ | .connect => .isTrue trivial

def onePacket : List Event :=
  [.serial (encode (rftestHeader ++ ['0', '2'])), .serial (encode ['0', '1', ' ', '0', '2'])]

/-- The first packet after the truncation is not parsed. -/
theorem firstPacket_lost : ¬ ∀ U maxDigits clock, (∀ k, IsTime (clock k)) →
    ∀ es p, ((system U maxDigits clock).recording note).run (init, ⟨0, 0⟩) es = some p →
      Kept U p := by
  intro h
  have hrun : (((system asciiOnly none sampleClock).recording note).run (init, ⟨0, 0⟩)
      (onePacket ++ [.empty] ++ onePacket ++ [.connect, .read 0])).map
        (fun p => (p.1.readers[0]?.map fun r => ((p.1.follow r).unread, r.delivered), p.2.first,
          Follow.packetLines asciiOnly (wholeLines p.1.out.flushed p.2.since))) =
      some (some ([], []), 0, [[1, 2]]) := by
    decide +kernel
  obtain ⟨p, hp, hread⟩ := Option.map_eq_some_iff.mp hrun
  obtain ⟨hreader, hrest⟩ := Prod.mk.inj hread
  obtain ⟨hfirst, hpackets⟩ := Prod.mk.inj hrest
  obtain ⟨r, hr, hnothing⟩ := Option.map_eq_some_iff.mp hreader
  obtain ⟨hunread, hdelivered⟩ := Prod.mk.inj hnothing
  have hkept := h asciiOnly none sampleClock isTime_sampleClock _ p hp 0 r hfirst.le hr hunread
  rw [hpackets, hdelivered] at hkept
  cases hkept

variable {U maxDigits clock}

lemma flushInto_grows {file : List Char} {w w' : Outfile}
    (hlen : file.length ≤ w.flushed.length) : file <+: flushInto file w w' := by
  unfold flushInto
  dsimp only
  split
  · exact List.prefix_refl file
  · unfold writeAt
    rw [List.append_assoc, List.take_of_length_le, List.append_assoc]
    · exact List.prefix_append _ _
    · rw [List.length_append, List.length_replicate]
      omega

/-- The file holds what was written since the truncation, behind the hole. -/
def Behind (since : ℕ) (flushed file : List Char) : Prop :=
  file = if flushed.length = since then [] else List.replicate since nul ++ flushed.drop since

lemma Behind.length_le {since : ℕ} {flushed file : List Char} (h : Behind since flushed file)
    (hle : since ≤ flushed.length) : file.length ≤ flushed.length := by
  unfold Behind at h
  rw [h]
  split
  · exact Nat.zero_le _
  · rw [List.length_append, List.length_replicate, List.length_drop]
    omega

lemma Behind.flush {since : ℕ} {file : List Char} {w w' : Outfile}
    (h : Behind since w.flushed file) (hle : since ≤ w.flushed.length)
    (hgrows : w.flushed <+: w'.flushed) : Behind since w'.flushed (flushInto file w w') := by
  obtain ⟨cs, hcs⟩ := hgrows
  unfold flushInto
  rw [← hcs, List.drop_left]
  dsimp only
  split
  · rename_i hnil
    rwa [hnil, List.append_nil]
  · rename_i hcs'
    have hpos := List.length_pos_iff.mpr hcs'
    have hwritten : w.flushed.length + cs.length ≠ since := by omega
    have hlen := h.length_le hle
    unfold Behind writeAt at *
    rw [List.length_append, if_neg hwritten, List.drop_append_of_le_length hle,
      List.drop_eq_nil_of_le (by omega), List.append_nil, List.take_of_length_le]
    · by_cases hfirst : w.flushed.length = since
      · rw [if_pos hfirst] at h
        rw [h, List.drop_eq_nil_of_le (by omega), hfirst]
        rfl
      · rw [if_neg hfirst] at h
        have hfull : file.length = w.flushed.length := by
          rw [h, List.length_append, List.length_replicate, List.length_drop]
          omega
        rw [hfull, Nat.sub_self, List.replicate_zero, List.append_nil, h, List.append_assoc]
    · rw [List.length_append, List.length_replicate]
      omega

lemma packetLines_sublist (text : List Char) :
    (Follow.packetLines U text).Sublist (sendPkts U text) :=
  List.filter_sublist.filterMap _

/-- Whoever has read all of the file has parsed the whole lines, if the hole is at the start of no
line. -/
lemma Behind.parsed {since : ℕ} {flushed file : List Char} (h : Behind since flushed file)
    (hmid : since = 0 ∨ ¬ AtLineStart (flushed.take since)) :
    (Follow.packetLines U (wholeLines flushed since)).Sublist (sendPkts U file) := by
  unfold wholeLines
  rcases hmid with rfl | hmid
  · rw [if_pos (.inl List.take_zero), List.drop_zero]
    unfold Behind at h
    split at h
    · rename_i hnil
      rw [List.length_eq_zero_iff.mp hnil]
      exact List.nil_sublist _
    · rw [h, List.replicate_zero, List.nil_append, List.drop_zero]
      exact packetLines_sublist flushed
  · rw [if_neg hmid]
    by_cases hnl : '\n' ∈ flushed.drop since
    · obtain ⟨line, rest, htext, hline⟩ := List.eq_append_cons_of_mem hnl
      have hrest : ((line ++ '\n' :: rest).dropWhile (· ≠ '\n')).tail = rest := by
        rw [List.dropWhile_append_of_pos, List.dropWhile_cons_of_neg (by decide), List.tail_cons]
        intro c hc
        exact decide_eq_true fun heq => hline (heq ▸ hc)
      have hwritten : flushed.length ≠ since := by
        intro hlen
        rw [List.drop_eq_nil_of_le hlen.le] at hnl
        cases hnl
      have hstart : AtLineStart (List.replicate since nul ++ line ++ ['\n']) :=
        .inr List.getLast?_concat
      unfold Behind at h
      rw [if_neg hwritten, htext, List.append_cons, ← List.append_assoc, ← List.append_assoc] at h
      rw [h, sendPkts_append hstart, htext, hrest]
      exact (packetLines_sublist rest).trans (List.sublist_append_right _ _)
    · have hnone : (flushed.drop since).dropWhile (· ≠ '\n') = [] :=
        List.dropWhile_eq_nil_iff.mpr fun c hc => decide_eq_true fun heq => hnl (heq ▸ hc)
      rw [hnone]
      exact List.nil_sublist _

/-- What holds in a calm run. -/
structure Sound (U : Unicode) (p : Capture × Emptied) : Prop where
  file : Behind p.2.since p.1.out.flushed p.1.file
  since_le : p.2.since ≤ p.1.out.flushed.length
  mid : p.2.since = 0 ∨ ¬ AtLineStart (p.1.out.flushed.take p.2.since)
  inStep : ∀ i r, p.2.first ≤ i → p.1.readers[i]? = some r → Follow.InStep U (p.1.follow r)

lemma sound_init : Sound U (init, ⟨0, 0⟩) := ⟨rfl, le_rfl, .inl rfl, nofun⟩

lemma Sound.kept {p : Capture × Emptied} (h : Sound U p) : Kept U p := by
  intro i r hfirst hr hunread
  obtain ⟨hle, -, hdelivered⟩ := h.inStep i r hfirst hr
  have hall : p.1.file.length ≤ r.pos := List.drop_eq_nil_iff.mp hunread
  change r.delivered = sendPkts U (p.1.file.take r.pos) at hdelivered
  rw [List.take_of_length_le hall] at hdelivered
  rw [hdelivered]
  exact h.file.parsed h.mid

lemma sound_serial {p : Capture × Emptied} {w : Outfile} {raw : List UInt8} (h : Sound U p)
    (hw : generateLine U maxDigits clock p.1.out raw = some w) :
    Sound U ({ p.1 with
      out := w
      file := flushInto p.1.file p.1.out w }, p.2) := by
  have hgrows := (generateLine_grows hw).2
  obtain ⟨rest, hrest⟩ := (generateLine_grows hw).2
  refine ⟨h.file.flush h.since_le hgrows, h.since_le.trans hgrows.length_le, ?_,
    fun i r hfirst hr => ?_⟩
  · have htake : w.flushed.take p.2.since = p.1.out.flushed.take p.2.since := by
      rw [← hrest, List.take_append_of_le_length h.since_le]
    simpa only [htake] using h.mid
  · exact (h.inStep i r hfirst hr).grow (flushInto_grows (h.file.length_le h.since_le))

lemma sound_empty {p : Capture × Emptied} (hC : Calm p .empty) :
    Sound U ({ p.1 with file := [] }, ⟨p.1.out.flushed.length, p.1.readers.length⟩) := by
  refine ⟨(if_pos rfl).symm, le_rfl, ?_, fun i r hfirst hr => ?_⟩
  · refine hC.imp (fun hnil => ?_) fun hmid => ?_
    · exact List.length_eq_zero_iff.mpr hnil
    · rwa [List.take_length]
  · rw [List.getElem?_eq_none hfirst] at hr
    cases hr

lemma sound_connect {p : Capture × Emptied} (h : Sound U p) :
    Sound U ({ p.1 with readers := p.1.readers ++ [⟨0, []⟩] }, p.2) := by
  refine ⟨h.file, h.since_le, h.mid, fun i r hfirst hr => ?_⟩
  by_cases hi : i < p.1.readers.length
  · rw [List.getElem?_append_left hi] at hr
    exact h.inStep i r hfirst hr
  · have hmem := List.mem_of_getElem? ((List.getElem?_append_right (by omega)).symm.trans hr)
    rw [List.mem_singleton.mp hmem]
    exact ⟨Nat.zero_le _, .inl rfl, rfl⟩

lemma sound_read {p : Capture × Emptied} {i : ℕ} {r : Reader} (h : Sound U p)
    (hC : Calm p (.read i)) (hr : p.1.readers[i]? = some r) :
    Sound U ({ p.1 with
      readers := p.1.readers.set i
        ⟨((p.1.follow r).read U).pos, ((p.1.follow r).read U).delivered⟩ }, p.2) := by
  refine ⟨h.file, h.since_le, h.mid, fun j q hfirst hq => ?_⟩
  by_cases hj : i = j
  · subst hj
    rw [List.getElem?_set_self (List.getElem?_eq_some_iff.mp hr).1] at hq
    obtain rfl := Option.some.inj hq
    have hread := Follow.inStep_read (h.inStep i r hfirst hr) (hC r hfirst hr)
    have hfile : ((p.1.follow r).read U).file = (p.1.follow r).file := by
      unfold Follow.read
      split <;> rfl
    have hsame : Follow.mk (p.1.follow r).file ((p.1.follow r).read U).pos
        ((p.1.follow r).read U).delivered = (p.1.follow r).read U := by
      rw [← hfile]
    rw [← hsame] at hread
    exact hread
  · rw [List.getElem?_set_ne hj] at hq
    exact h.inStep j q hfirst hq

lemma sound_step {p q : Capture × Emptied} {e : Event} (h : Sound U p) (hC : Calm p e)
    (hs : ((system U maxDigits clock).recording note).step p e = some q) : Sound U q := by
  obtain ⟨hs, hnote⟩ := TransitionSystem.recording_step.mp hs
  obtain ⟨t, k⟩ := q
  obtain rfl : k = note p.2 p.1 e t := hnote
  cases e with
  | serial raw =>
    obtain ⟨w, hw, rfl⟩ := Option.map_eq_some_iff.mp hs
    exact sound_serial h hw
  | empty =>
    obtain rfl := Option.some.inj hs
    exact sound_empty hC
  | connect =>
    obtain rfl := Option.some.inj hs
    exact sound_connect h
  | read i =>
    obtain ⟨r, hr, rfl⟩ := Option.map_eq_some_iff.mp hs
    exact sound_read h hC hr

/-- Emptying the file keeps later captures readable in calm runs. -/
theorem readable_of_calm {es : List Event} {p : Capture × Emptied}
    (hC : ((system U maxDigits clock).recording note).Meets Calm (init, ⟨0, 0⟩) es)
    (hrun : ((system U maxDigits clock).recording note).run (init, ⟨0, 0⟩) es = some p) :
    Kept U p := by
  have h : Sound U p := (TransitionSystem.reach_of_run hC hrun).invariant sound_init
    fun _ _ _ h hC hs => sound_step h hC hs
  exact h.kept

/-- The file is emptied in the middle of a packet, and the next packet is read. -/
def emptiedInLine : List Event :=
  onePacket ++ [.serial (encode (rftestHeader ++ ['0', '4'])),
    .serial (encode ['0', '1', ' ', '0', '2']), .empty,
    .serial (encode ['0', '3', ' ', '0', '4'])] ++ onePacket ++ [.connect, .read 0, .read 0]

theorem readable_emptiedInLine : ∃ p r,
    ((system asciiOnly none sampleClock).recording note).run (init, ⟨0, 0⟩) emptiedInLine =
      some p ∧ p.1.readers[0]? = some r ∧
    Follow.packetLines asciiOnly (wholeLines p.1.out.flushed p.2.since) = [[1, 2]] ∧
    [[1, 2]].Sublist r.delivered := by
  have hrun : (((system asciiOnly none sampleClock).recording note).run (init, ⟨0, 0⟩)
      emptiedInLine).map (fun p => (p.1.readers[0]?.map fun r => (p.1.follow r).unread, p.2.first,
        Follow.packetLines asciiOnly (wholeLines p.1.out.flushed p.2.since))) =
      some (some [], 0, [[1, 2]]) := by
    decide +kernel
  obtain ⟨p, hp, hread⟩ := Option.map_eq_some_iff.mp hrun
  obtain ⟨hreader, hrest⟩ := Prod.mk.inj hread
  obtain ⟨hfirst, hpackets⟩ := Prod.mk.inj hrest
  obtain ⟨r, hr, hunread⟩ := Option.map_eq_some_iff.mp hreader
  have hkept := readable_of_calm (by decide +kernel) hp 0 r hfirst.le hr hunread
  rw [hpackets] at hkept
  exact ⟨p, r, hp, hr, hpackets, hkept⟩

end Capture

end RiotPlayground
