import RiotPlayground.Luke.DisplayRanges

/-!
# The buttons for the difficulty in `js/luke.js`

They post the number on the page plus or minus one, and the page shows what the display answers and
what it tells its observers. `coap_service.py` sends the documents on as they are. Requests, answers
and notifications take their time, and the display's threads and its button go on meanwhile.
-/

namespace RiotPlayground

open Directive Luke Luke.Display

namespace Webfrontend

/-- `JSON.stringify` of the object with a difficulty. -/
def difficultyDocument (n : ℤ) : List Char :=
  ['{', '"', 'd', 'i', 'f', 'f', 'i', 'c', 'u', 'l', 't', 'y', '"', ':'] ++
    ((if n < 0 then ['-'] else []) ++ (Nat.toDigits 10 n.natAbs ++ ['}']))

/-- A click on `.increment` or `.decrement`, with the number that the page showed. -/
structure Click where
  up : Bool
  shown : ℕ
  deriving DecidableEq

/-- The difficulty that is posted. -/
def Click.posted (c : Click) : ℤ := if c.up then c.shown + 1 else c.shown - 1

/-- The request, with what is behind its payload in the buffer. -/
def difficultyPdu (n : ℤ) (rest : List Char) : Pdu :=
  ⟨.post, COAP_FORMAT_JSON, difficultyDocument n, rest⟩

def Click.pdu (c : Click) (rest : List Char) : Pdu := difficultyPdu c.posted rest

/-- The display works on the request of a click. `written` is the number of writes to `_difficulty`
up to that of the handler, when it is done. -/
structure Handling where
  click : Click
  rest : List Char
  written : Option ℕ

/-- An answer of the display, to a click or to the request of `observe`. `text` is `none` for a bad
request. `written` is the number of writes to `_difficulty` up to that of the handler, or up to the
read. -/
structure Answer where
  click : Option Click
  text : Option (List Char)
  written : ℕ

/-- The display with the page, where `shown` is `parseInt($("#difficulty").text())`. The requests
and the answers arrive in any order, twice or not at all. -/
structure Panel where
  display : Threads
  writes : ℕ
  handling : Option Handling
  shown : ℕ
  posts : List Click
  answers : List Answer

/-- The number in `display.html.part` is 0. -/
def Panel.init : Panel := ⟨.init, 0, none, 0, [], []⟩

/-- A step of the display's threads or its button, a click, the request of a click reaches the
display and is answered, the request of `observe` is answered, and an answer or a notification
reaches the page. -/
inductive PanelEvent
  | display (e : ThreadEvent)
  | click (up : Bool)
  | handle (i : ℕ) (rest : List Char)
  | respond
  | observe
  | answer (i : ℕ)
  | arrive (i : ℕ)

/-- Until it has answered, the thread of the handlers takes no other request, and main does not
run. -/
def waits : ThreadEvent → Bool
  | .handler _ => false
  | .button => false
  | _ => true

/-- The handler writes the difficulty. -/
def assignsNow (s : Threads) : ThreadEvent → Bool
  | .handler _ =>
    match s.handler with
    | .assign _ => true
    | _ => false
  | _ => false

def writesNow (s : Threads) (e : ThreadEvent) : Bool := e matches .button || assignsNow s e

/-- The number of writes after a step of the display. -/
def Panel.writesAfter (s : Panel) (e : ThreadEvent) : ℕ :=
  if writesNow s.display e then s.writes + 1 else s.writes

def Panel.difficultyText (s : Panel) : List Char :=
  sprintf LUKE_DIFFICULTY_FMT [s.display.vars.difficulty.toUInt32]

section Page

/- `parse` is the member `difficulty` of what `JSON.parse` makes of a text. -/
variable (parse : List Char → Option ℕ) (ledCnt : UInt16)

/-- `post_handlers["difficulty"]`, where 0 counts as false. -/
def showDifficulty (text : List Char) (shown : ℕ) : ℕ :=
  match parse text with
  | some d => if d = 0 then shown else d
  | none => shown

/-- The page only logs an error. -/
def Answer.show (a : Answer) (shown : ℕ) : ℕ :=
  match a.text with
  | some text => showDifficulty parse text shown
  | none => shown

def panelStep (s : Panel) : PanelEvent → Option Panel
  | .display e =>
    if s.handling.isSome ∧ waits e then none
    else
      (threadStep ledCnt s.display e).map fun t =>
        { s with
          display := t
          writes := s.writesAfter e
          handling := s.handling.map fun h =>
            if assignsNow s.display e then { h with written := some (s.writesAfter e) } else h }
  | .click up => some { s with posts := s.posts ++ [⟨up, s.shown⟩] }
  | .handle i rest =>
    if s.display.handler = .idle ∧ s.handling.isNone then
      s.posts[i]?.map fun c =>
        { s with
          display := { s.display with handler := difficultyRequest (c.pdu rest) }
          handling := some ⟨c, rest, none⟩ }
    else none
  | .respond =>
    if s.display.handler = .idle then
      s.handling.map fun h =>
        let text := (scanDifficulty (h.click.pdu h.rest)).map fun _ => s.difficultyText
        { s with
          handling := none
          answers := s.answers ++ [⟨some h.click, text, h.written.getD s.writes⟩] }
    else none
  | .observe =>
    if s.display.handler = .idle ∧ s.handling.isNone then
      some { s with answers := s.answers ++ [⟨none, some s.difficultyText, s.writes⟩] }
    else none
  | .answer i => s.answers[i]?.map fun a => { s with shown := a.show parse s.shown }
  | .arrive i =>
    s.display.vars.notified[i]?.map fun n =>
      { s with
        shown :=
          match n.resource with
          | .difficulty => showDifficulty parse n.payload s.shown
          | .points => s.shown }

end Page

/-- The text of a difficulty in its range. -/
def DifficultyText (text : List Char) : Prop :=
  ∃ d : UInt8, InDifficulty d ∧ text = sprintf LUKE_DIFFICULTY_FMT [d.toUInt32]

/-- The payload of a notification that is being made. -/
def notifyPayload : Notify → Option (List Char)
  | .format => none
  | .load payload => some payload
  | .store payload _ => some payload
  | .send payload => some payload

def handlerPayload : Handler → Option (List Char)
  | .notify at_ _ => notifyPayload at_
  | _ => none

def mainPayload : Main → Option (List Char)
  | .notify at_ => notifyPayload at_
  | _ => none

/-- The notifications of the difficulty have the text of one in its range. -/
def NotifiesDifficulty (s : Vars) : Prop :=
  ∀ n ∈ s.notified, n.resource matches .difficulty → DifficultyText n.payload

/-- The display has a difficulty in its range, and tells nothing else. -/
structure TellsDifficulty (s : Threads) : Prop where
  difficulty : InDifficulty s.vars.difficulty
  assigns : ∀ d ∈ s.handler.assigns, InDifficulty d
  handler : ∀ payload ∈ handlerPayload s.handler, DifficultyText payload
  main : ∀ payload ∈ mainPayload s.main, DifficultyText payload
  notified : NotifiesDifficulty s.vars

variable {s t : Threads} {ledCnt : UInt16}

lemma notifies_displayPoints {s : Vars} (h : NotifiesDifficulty s) (obs : Bool) :
    NotifiesDifficulty (displayPoints obs s) := by
  unfold Display.displayPoints notifyPoints
  split
  · cases obs with
    | false => exact h
    | true =>
      intro n hn hresource
      rcases List.mem_append.mp hn with hn | hn
      · exact h n hn hresource
      · rw [List.mem_singleton.mp hn] at hresource
        cases hresource
  · exact h

lemma notifies_resetVictory {s : Vars} (h : NotifiesDifficulty s) :
    NotifiesDifficulty (resetVictory ledCnt s) := by
  unfold resetVictory
  split <;> exact h

/-- A step of `_notify_difficulty` formats a difficulty in its range, or sends what it formatted. -/
lemma notifies_step {s : Vars} {at_ : Notify} (h : NotifiesDifficulty s)
    (hd : InDifficulty s.difficulty)
    (hpayload : ∀ payload ∈ notifyPayload at_, DifficultyText payload) (obs : Bool) :
    NotifiesDifficulty (at_.step obs s).2 ∧
      ∀ next ∈ (at_.step obs s).1, ∀ payload ∈ notifyPayload next, DifficultyText payload := by
  cases at_ with
  | format =>
    cases obs with
    | false => exact ⟨h, nofun⟩
    | true =>
      refine ⟨h, ?_⟩
      rintro next ⟨⟩ payload ⟨⟩
      exact ⟨s.difficulty, hd, rfl⟩
  | load payload =>
    refine ⟨h, ?_⟩
    rintro next ⟨⟩
    exact hpayload
  | store payload difficulty =>
    refine ⟨h, ?_⟩
    rintro next ⟨⟩
    exact hpayload
  | send payload =>
    refine ⟨fun n hn hresource => ?_, nofun⟩
    rcases List.mem_append.mp hn with hn | hn
    · exact h n hn hresource
    · rw [List.mem_singleton.mp hn]
      exact hpayload payload rfl

lemma TellsDifficulty.handlerStep {obs : Bool} (h : TellsDifficulty s)
    (hs : handlerStep ledCnt obs s = some t) : TellsDifficulty t := by
  have hdid := handlerDid hs
  have hdifficulty : InDifficulty t.vars.difficulty := by
    rcases hdid.difficulty with heq | heq
    · rw [heq]
      exact h.difficulty
    · exact h.assigns _ heq
  have hassigns : ∀ d ∈ t.handler.assigns, InDifficulty d := by
    rcases hdid.assigns with heq | heq
    · exact not_mem_none heq
    · rw [heq]
      exact h.assigns
  have hmain : ∀ payload ∈ mainPayload t.main, DifficultyText payload := by
    rw [hdid.main]
    exact h.main
  refine ⟨hdifficulty, hassigns, ?_, hmain, ?_⟩
  · cases handlerMoves_of_step hs with
    | @lock job hat howner => cases job <;> exact nofun
    | @notify at_ d hat =>
      have hpayload : ∀ payload ∈ notifyPayload at_, DifficultyText payload := by
        have := h.handler
        rwa [hat] at this
      have hnext := (notifies_step h.notified h.difficulty hpayload obs).2
      dsimp only
      cases hstep : (at_.step obs s.vars).1 with
      | none => exact nofun
      | some next => exact hnext next hstep
    | _ => exact nofun
  · cases handlerMoves_of_step hs with
    | display hat => exact notifies_displayPoints h.notified obs
    | @notify at_ d hat =>
      have hpayload : ∀ payload ∈ notifyPayload at_, DifficultyText payload := by
        have := h.handler
        rwa [hat] at this
      exact (notifies_step h.notified h.difficulty hpayload obs).1
    | _ => exact h.notified

lemma TellsDifficulty.mainStep {obs : Bool} {now later : UInt32} {res : ℕ}
    (h : TellsDifficulty s) (hs : mainStep ledCnt obs now later res s = some t) :
    TellsDifficulty t := by
  have hstill {t : Threads} (hdifficulty : t.vars.difficulty = s.vars.difficulty)
      (hhandler : t.handler = s.handler) (hmain : mainPayload t.main = none)
      (hnotified : NotifiesDifficulty t.vars) : TellsDifficulty t := by
    refine ⟨hdifficulty ▸ h.difficulty, hhandler ▸ h.assigns, hhandler ▸ h.handler, ?_, hnotified⟩
    exact not_mem_none hmain
  cases mainMoves_of_step hs with
  | check hat =>
    refine hstill rfl rfl ?_ h.notified
    dsimp only
    split <;> rfl
  | display hat =>
    exact hstill (displayPoints_difficulty obs s.vars) rfl rfl
      (notifies_displayPoints h.notified obs)
  | reset hat =>
    exact hstill (resetVictory_vars s.vars).2 rfl rfl (notifies_resetVictory h.notified)
  | unlock hat =>
    unfold unlockMain
    split
    · rename_i job _
      refine ⟨h.difficulty, not_mem_none (start_assigns job), ?_, nofun, h.notified⟩
      cases job <;> exact nofun
    · exact hstill rfl rfl rfl h.notified
  | compare hat =>
    refine hstill rfl rfl ?_ h.notified
    dsimp only
    split <;> rfl
  | @notify at_ hat =>
    have hpayload : ∀ payload ∈ notifyPayload at_, DifficultyText payload := by
      have := h.main
      rwa [hat] at this
    obtain ⟨hnotified, hnext⟩ := notifies_step h.notified h.difficulty hpayload obs
    refine ⟨?_, h.assigns, h.handler, ?_, hnotified⟩
    · dsimp only
      rw [(notifyStep_vars obs s.vars at_).2]
      exact h.difficulty
    · dsimp only
      cases hstep : (at_.step obs s.vars).1 with
      | none => exact nofun
      | some next => exact hnext next hstep
  | test hat =>
    refine hstill rfl rfl ?_ h.notified
    dsimp only
    split <;> rfl
  | _ => exact hstill rfl rfl rfl h.notified

lemma TellsDifficulty.request {handler : Handler} (h : TellsDifficulty s)
    (hassigns : ∀ d ∈ handler.assigns, InDifficulty d) (hpayload : handlerPayload handler = none) :
    TellsDifficulty { s with handler := handler } :=
  ⟨h.difficulty, hassigns, not_mem_none hpayload, h.main, h.notified⟩

lemma pointsRequest_payload (pdu : Pdu) : handlerPayload (pointsRequest pdu) = none := by
  rcases pointsRequest_cases pdu with h | h | ⟨p, h⟩
  all_goals
    rw [h]
    rfl

lemma difficultyRequest_payload (pdu : Pdu) : handlerPayload (difficultyRequest pdu) = none := by
  rcases difficultyRequest_cases pdu with h | ⟨d, h⟩
  all_goals
    rw [h]
    rfl

/-- Whatever happens at the display. -/
lemma TellsDifficulty.step (h : TellsDifficulty s) {e : ThreadEvent}
    (hs : threadStep ledCnt s e = some t) : TellsDifficulty t := by
  cases e with
  | points pdu =>
    obtain ⟨-, hs⟩ := Option.ite_none_right_eq_some.mp hs
    obtain rfl := Option.some.inj hs
    exact h.request (not_mem_none (pointsRequest_assigns pdu)) (pointsRequest_payload pdu)
  | difficulty pdu =>
    obtain ⟨-, hs⟩ := Option.ite_none_right_eq_some.mp hs
    obtain rfl := Option.some.inj hs
    exact h.request (difficultyRequest_assigns pdu) (difficultyRequest_payload pdu)
  | handler obs => exact h.handlerStep hs
  | main obs now later res => exact h.mainStep (Option.ite_none_left_eq_some.mp hs).2
  | button =>
    obtain rfl := Option.some.inj hs
    exact ⟨inDifficulty_next _, h.assigns, h.handler, h.main, h.notified⟩

/-- The difficulty that a click is to bring: saturating, but 0 minus one wraps around. -/
def Click.sets (c : Click) : ℕ :=
  if c.up then min 10 (c.shown + 1) else if c.shown = 0 then 10 else max 1 (c.shown - 1)

lemma scannable_difficulty :
    Scannable LUKE_DIFFICULTY_FMT ∧ conversions LUKE_DIFFICULTY_FMT = 1 := by
  refine ⟨?_, rfl⟩
  exact ⟨rfl, rfl, rfl, rfl, rfl, rfl, rfl, rfl, rfl, rfl, rfl, rfl, rfl, rfl,
    ⟨'}', [], rfl, rfl⟩, rfl, trivial⟩

/-- The document is what the display would print, and of a size that it accepts. -/
lemma difficultyDocument_eq : ∀ k < 12,
    difficultyDocument (k : ℕ) = sprintf LUKE_DIFFICULTY_FMT [UInt32.ofNat k] ∧
      16 ≤ (difficultyDocument (k : ℕ)).length ∧ (difficultyDocument (k : ℕ)).length ≤ 17 := by
  decide

lemma clampDifficulty_ofNat : ∀ k < 12,
    (clampDifficulty (UInt32.ofNat k)).toNat = max 1 (min 10 k) := by
  decide

lemma scan_document {k : ℕ} (hk : k < 12) (rest : List Char) :
    scanDifficulty (difficultyPdu k rest) = some (UInt32.ofNat k) := by
  obtain ⟨hdocument, hmin, hmax⟩ := difficultyDocument_eq k hk
  have hscan : scanDifficulty (difficultyPdu k rest) = _ :=
    Pdu.scan_sprintf scannable_difficulty.1 scannable_difficulty.2 hdocument rfl
  have hsize : ¬ ((difficultyPdu k rest).payload.length < LUKE_DIFFICULTY_MIN_SIZE ∨
      LUKE_DIFFICULTY_MAX_SIZE < (difficultyPdu k rest).payload.length) :=
    not_or.mpr ⟨Nat.not_lt.mpr hmin, Nat.not_lt.mpr hmax⟩
  rw [hscan, if_neg hsize]

/-- `%u` takes the sign. -/
lemma scan_minusOne (rest : List Char) :
    scanDifficulty (difficultyPdu (-1) rest) = some 4294967295 := rfl

/-- The display accepts what a click posts. -/
lemma scan_clicked {c : Click} (hshown : c.shown ≤ 10) (rest : List Char) :
    ∃ d, scanDifficulty (c.pdu rest) = some d ∧ (clampDifficulty d).toNat = c.sets := by
  obtain ⟨up, shown⟩ := c
  dsimp only at hshown
  cases up with
  | true =>
    refine ⟨_, scan_document (k := shown + 1) (by omega) rest, ?_⟩
    rw [clampDifficulty_ofNat _ (by omega)]
    change max 1 (min 10 (shown + 1)) = min 10 (shown + 1)
    omega
  | false =>
    cases shown with
    | zero => exact ⟨_, scan_minusOne rest, by decide⟩
    | succ shown =>
      have hposted : (⟨false, shown + 1⟩ : Click).posted = shown := by
        change ((shown + 1 : ℕ) : ℤ) - 1 = shown
        omega
      refine ⟨_, hposted ▸ scan_document (k := shown) (by omega) rest, ?_⟩
      rw [clampDifficulty_ofNat _ (by omega)]
      change _ = if shown + 1 = 0 then 10 else max 1 shown
      rw [if_neg (Nat.succ_ne_zero shown)]
      omega

variable {parse : List Char → Option ℕ} {p q : Panel}

/-- `parse` reads the texts of the difficulties. -/
def ParsesDifficulty (parse : List Char → Option ℕ) : Prop :=
  ∀ d : UInt8, InDifficulty d → parse (sprintf LUKE_DIFFICULTY_FMT [d.toUInt32]) = some d.toNat

lemma showDifficulty_eq (hparse : ParsesDifficulty parse) {d : UInt8} (hd : InDifficulty d)
    (shown : ℕ) :
    showDifficulty parse (sprintf LUKE_DIFFICULTY_FMT [d.toUInt32]) shown = d.toNat := by
  have hpos : d.toNat ≠ 0 := Nat.pos_iff_ne_zero.mp hd.1
  unfold showDifficulty
  rw [hparse d hd]
  exact if_neg hpos

lemma showDifficulty_le (hparse : ParsesDifficulty parse) {text : List Char}
    (htext : DifficultyText text) (shown : ℕ) : showDifficulty parse text shown ≤ 10 := by
  obtain ⟨d, hd, rfl⟩ := htext
  rw [showDifficulty_eq hparse hd]
  exact hd.2

/-! ### The page and the display -/

/-- Until the handler has written the difficulty it is to write that of the click. After that the
display has it, unless it was written again. -/
def Handling.Sound (h : Handling) (p : Panel) : Prop :=
  h.click.shown ≤ 10 ∧
    match h.written with
    | none => ∃ d, p.display.handler.assigns = some d ∧ d.toNat = h.click.sets
    | some w => p.display.handler = .idle ∧ w ≤ p.writes ∧
        (w = p.writes → p.display.vars.difficulty.toNat = h.click.sets)

/-- The answer tells a difficulty in its range. The display has it, unless it was written again, and
then it is that of the click. -/
def Answer.Sound (a : Answer) (p : Panel) : Prop :=
  ∃ d : UInt8, InDifficulty d ∧ a.text = some (sprintf LUKE_DIFFICULTY_FMT [d.toUInt32]) ∧
    a.written ≤ p.writes ∧
    (a.written = p.writes → p.display.vars.difficulty = d ∧ ∀ c ∈ a.click, d.toNat = c.sets)

/-- The page shows 0 or a difficulty in its range, as the display does. -/
structure Panel.Sound (p : Panel) : Prop where
  tells : TellsDifficulty p.display
  shown : p.shown ≤ 10
  posts : ∀ c ∈ p.posts, c.shown ≤ 10
  handling : ∀ h ∈ p.handling, h.Sound p
  answers : ∀ a ∈ p.answers, a.Sound p

/-- Only the button and a handler that assigns it write the difficulty. -/
lemma difficulty_step {e : ThreadEvent} (hs : threadStep ledCnt s e = some t)
    (hwrites : writesNow s e = false) : t.vars.difficulty = s.vars.difficulty := by
  cases e with
  | points pdu =>
    obtain rfl := Option.some.inj (Option.ite_none_right_eq_some.mp hs).2
    rfl
  | difficulty pdu =>
    obtain rfl := Option.some.inj (Option.ite_none_right_eq_some.mp hs).2
    rfl
  | button => cases hwrites
  | handler obs =>
    cases handlerMoves_of_step hs with
    | display hat => exact displayPoints_difficulty obs s.vars
    | @notify at_ d hat => exact (notifyStep_vars obs s.vars at_).2
    | assign hat =>
      unfold writesNow assignsNow at hwrites
      rw [hat] at hwrites
      cases hwrites
    | _ => rfl
  | main obs now later res =>
    cases mainMoves_of_step (Option.ite_none_left_eq_some.mp hs).2 with
    | display hat => exact displayPoints_difficulty obs s.vars
    | reset hat => exact (resetVictory_vars s.vars).2
    | @notify at_ hat => exact (notifyStep_vars obs s.vars at_).2
    | unlock hat =>
      unfold unlockMain
      split <;> rfl
    | _ => rfl

/-- On its way to the assignment the handler keeps what it is to assign. -/
lemma assigns_step {obs : Bool} {d : UInt8} (hs : handlerStep ledCnt obs s = some t)
    (hassigns : s.handler.assigns = some d) :
    s.handler = .assign d ∧ t.handler = .idle ∧ t.vars.difficulty = d ∨
      (∀ d', s.handler ≠ .assign d') ∧ t.handler.assigns = some d := by
  cases hat : s.handler with
  | assign d' =>
    rw [hat] at hassigns
    obtain rfl := Option.some.inj hassigns
    unfold handlerStep at hs
    rw [hat] at hs
    obtain rfl := Option.some.inj hs
    exact .inl ⟨rfl, rfl, rfl⟩
  | notify at_ d' =>
    rw [hat] at hassigns
    obtain rfl := Option.some.inj hassigns
    unfold handlerStep at hs
    rw [hat] at hs
    obtain rfl := Option.some.inj hs
    refine .inr ⟨nofun, ?_⟩
    dsimp only
    cases (at_.step obs s.vars).1 <;> rfl
  | _ =>
    rw [hat] at hassigns
    cases hassigns

lemma Answer.Sound.written_lt {a : Answer} (h : a.Sound p) (hlt : p.writes < q.writes) :
    a.Sound q := by
  obtain ⟨d, hd, htext, hle, -⟩ := h
  exact ⟨d, hd, htext, by omega, fun heq => by omega⟩

lemma Answer.Sound.congr {a : Answer} (h : a.Sound p) (hwrites : q.writes = p.writes)
    (hdifficulty : q.display.vars.difficulty = p.display.vars.difficulty) : a.Sound q := by
  obtain ⟨d, hd, htext, hle, htold⟩ := h
  refine ⟨d, hd, htext, hwrites ▸ hle, fun heq => ?_⟩
  rw [hdifficulty]
  exact htold (heq.trans hwrites)

lemma answers_display {e : ThreadEvent} {handling : Option Handling} (h : p.Sound)
    (hs : threadStep ledCnt p.display e = some t) : ∀ a ∈ p.answers, a.Sound
      { p with display := t, writes := p.writesAfter e, handling := handling } := by
  intro a ha
  unfold Panel.writesAfter
  cases hwrites : writesNow p.display e with
  | true => exact (h.answers a ha).written_lt (Nat.lt_succ_self p.writes)
  | false => exact (h.answers a ha).congr rfl (difficulty_step hs hwrites)

/-- While the display works on the request of a click only its handler and the button step. -/
lemma handling_display {e : ThreadEvent} {h : Handling} (hsound : h.Sound p)
    (hwaits : waits e = false) (hs : threadStep ledCnt p.display e = some t)
    (handling : Option Handling) :
    (if assignsNow p.display e then { h with written := some (p.writesAfter e) } else h).Sound
      { p with display := t, writes := p.writesAfter e, handling := handling } := by
  obtain ⟨hshown, hwritten⟩ := hsound
  cases e with
  | points | difficulty | main => cases hwaits
  | button =>
    obtain rfl := Option.some.inj hs
    have hnow : assignsNow p.display .button = false := rfl
    rw [hnow, if_neg Bool.false_ne_true]
    refine ⟨hshown, ?_⟩
    cases hw : h.written with
    | none =>
      rw [hw] at hwritten
      exact hwritten
    | some w =>
      rw [hw] at hwritten
      obtain ⟨hidle, hle, -⟩ := hwritten
      have hlt : w < p.writes + 1 := Nat.lt_succ_of_le hle
      exact ⟨hidle, Nat.le_of_lt hlt, fun heq => absurd heq (Nat.ne_of_lt hlt)⟩
  | handler obs =>
    cases hw : h.written with
    | some w =>
      rw [hw] at hwritten
      change handlerStep ledCnt obs p.display = some t at hs
      unfold handlerStep at hs
      rw [hwritten.1] at hs
      cases hs
    | none =>
      rw [hw] at hwritten
      obtain ⟨d, hassigns, hd⟩ := hwritten
      rcases assigns_step hs hassigns with ⟨hat, hidle, hdifficulty⟩ | ⟨hat, hnext⟩
      · have hnow : assignsNow p.display (.handler obs) = true := by
          unfold assignsNow
          rw [hat]
        rw [if_pos hnow]
        refine ⟨hshown, hidle, le_rfl, fun _ => ?_⟩
        dsimp only
        rw [hdifficulty, hd]
      · have hnow : assignsNow p.display (.handler obs) = false := by
          unfold assignsNow
          dsimp only
          split
          · exact absurd ‹_› (hat _)
          · rfl
        rw [hnow, if_neg Bool.false_ne_true]
        refine ⟨hshown, ?_⟩
        rw [hw]
        exact ⟨d, hnext, hd⟩

variable (hparse : ParsesDifficulty parse)

include hparse in
lemma Answer.Sound.shows {a : Answer} (h : a.Sound p) (shown : ℕ) : ∃ d : UInt8, InDifficulty d ∧
    a.text = some (sprintf LUKE_DIFFICULTY_FMT [d.toUInt32]) ∧ a.show parse shown = d.toNat ∧
    (a.written = p.writes → p.display.vars.difficulty = d ∧ ∀ c ∈ a.click, d.toNat = c.sets) := by
  obtain ⟨d, hd, htext, -, htold⟩ := h
  refine ⟨d, hd, htext, ?_, htold⟩
  unfold Answer.show
  rw [htext]
  exact showDifficulty_eq hparse hd shown

include hparse in
theorem Panel.Sound.step (h : p.Sound) {e : PanelEvent}
    (hs : panelStep parse ledCnt p e = some q) : q.Sound := by
  cases e with
  | display e =>
    obtain ⟨hwaits, hs⟩ := Option.ite_none_left_eq_some.mp hs
    obtain ⟨t, ht, rfl⟩ := Option.map_eq_some_iff.mp hs
    refine ⟨h.tells.step ht, h.shown, h.posts, fun g' hg' => ?_, answers_display h ht⟩
    obtain ⟨g, hg, rfl⟩ := Option.map_eq_some_iff.mp hg'
    have hfree : waits e = false := by
      rw [hg] at hwaits
      simpa using hwaits
    exact handling_display (h.handling g hg) hfree ht _
  | click up =>
    obtain rfl := Option.some.inj hs
    refine ⟨h.tells, h.shown, fun c hc => ?_, h.handling, h.answers⟩
    rcases List.mem_append.mp hc with hc | hc
    · exact h.posts c hc
    · rw [List.mem_singleton.mp hc]
      exact h.shown
  | handle i rest =>
    obtain ⟨-, hs⟩ := Option.ite_none_right_eq_some.mp hs
    obtain ⟨c, hc, rfl⟩ := Option.map_eq_some_iff.mp hs
    have hshown := h.posts c (List.mem_of_getElem? hc)
    obtain ⟨d, hscan, hclamp⟩ := scan_clicked hshown rest
    have hrequest : difficultyRequest (c.pdu rest) = .notify .format (clampDifficulty d) := by
      have hmethod : (c.pdu rest).method = .post := rfl
      unfold difficultyRequest
      rw [hmethod]
      dsimp only
      rw [hscan]
    refine ⟨h.tells.request (difficultyRequest_assigns _) (difficultyRequest_payload _), h.shown,
      h.posts, ?_, fun a ha => (h.answers a ha).congr rfl rfl⟩
    rintro _ ⟨⟩
    refine ⟨hshown, clampDifficulty d, ?_, hclamp⟩
    dsimp only
    rw [hrequest]
    rfl
  | respond =>
    obtain ⟨hidle, hs⟩ := Option.ite_none_right_eq_some.mp hs
    obtain ⟨g, hg, rfl⟩ := Option.map_eq_some_iff.mp hs
    refine ⟨h.tells, h.shown, h.posts, nofun, fun a ha => ?_⟩
    rcases List.mem_append.mp ha with ha | ha
    · exact (h.answers a ha).congr rfl rfl
    · obtain ⟨hshown, hwritten⟩ := h.handling g hg
      obtain ⟨d, hscan, -⟩ := scan_clicked hshown g.rest
      rw [List.mem_singleton.mp ha]
      cases hw : g.written with
      | none =>
        rw [hw, hidle] at hwritten
        obtain ⟨d, hd, -⟩ := hwritten
        cases hd
      | some w =>
        rw [hw] at hwritten
        obtain ⟨-, hle, hsets⟩ := hwritten
        refine ⟨p.display.vars.difficulty, h.tells.difficulty, ?_, hle, fun heq => ⟨rfl, ?_⟩⟩
        · dsimp only
          rw [hscan]
          rfl
        · rintro _ ⟨⟩
          exact hsets heq
  | observe =>
    obtain ⟨-, hs⟩ := Option.ite_none_right_eq_some.mp hs
    obtain rfl := Option.some.inj hs
    refine ⟨h.tells, h.shown, h.posts, h.handling, fun a ha => ?_⟩
    rcases List.mem_append.mp ha with ha | ha
    · exact (h.answers a ha).congr rfl rfl
    · rw [List.mem_singleton.mp ha]
      exact ⟨p.display.vars.difficulty, h.tells.difficulty, rfl, le_rfl, fun _ => ⟨rfl, nofun⟩⟩
  | answer i =>
    obtain ⟨a, ha, rfl⟩ := Option.map_eq_some_iff.mp hs
    obtain ⟨d, hd, -, hshow, -⟩ := (h.answers a (List.mem_of_getElem? ha)).shows hparse p.shown
    refine ⟨h.tells, ?_, h.posts, h.handling, h.answers⟩
    dsimp only
    rw [hshow]
    exact hd.2
  | arrive i =>
    obtain ⟨n, hn, rfl⟩ := Option.map_eq_some_iff.mp hs
    refine ⟨h.tells, ?_, h.posts, h.handling, h.answers⟩
    have htold := h.tells.notified n (List.mem_of_getElem? hn)
    change (match n.resource with
      | .difficulty => showDifficulty parse n.payload p.shown
      | .points => p.shown) ≤ 10
    cases hresource : n.resource with
    | difficulty => exact showDifficulty_le hparse (htold (hresource ▸ rfl)) p.shown
    | points => exact h.shown

end Webfrontend

end RiotPlayground
