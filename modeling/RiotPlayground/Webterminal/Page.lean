import Mathlib.Data.List.Infix
import RiotPlayground.Client.Switch
import RiotPlayground.Webfrontend.ParseLink
import RiotPlayground.Webterminal.Configured
import RiotPlayground.Webterminal.LogLines

/-!
# The page of `webterminal/templates/base.html`

The box `crypto` of the page follows what the node prints about its switch, and decides whether a
name is asked for with `doc` or with `dns`.
-/

namespace RiotPlayground

open PyText Client Webfrontend

namespace Webterminal

def switchIs : Text := "Switch is".toList

/-- What `_check_switch` prints for a level of the pin. -/
def switchText (pin : Bool) : Text :=
  if pin then "Switch is OFF".toList else "Switch is ON".toList

/-- The box `crypto` after a line of the log. -/
def checkCrypto (crypto : Bool) (line : Text) : Bool :=
  if switchIs <:+: line then
    let on := if switchText false <:+: line then true else crypto
    if switchText true <:+: line then false else on
  else crypto

/-- What stands before the last ` (IPv4)` or ` (IPv6)`. -/
def beforeFamily : Text → Option Text
  | [] => none
  | c :: text =>
    match beforeFamily text with
    | some addr => some (c :: addr)
    | none =>
      if " (IPv4)".toList <+: c :: text ∨ " (IPv6)".toList <+: c :: text then some [] else none

def resolvesTo : Text := " resolves to ".toList

/-- The second group of `(.*) resolves to (.*) \(IPv[46]\)` at the start of a text. -/
def resolved : Text → Option Text
  | [] => none
  | c :: text =>
    (resolved text).or
      (if resolvesTo <+: c :: text then beforeFamily ((c :: text).drop resolvesTo.length) else none)

def hostnameText : Text := "Hostname ".toList

def hostnameHere (text : Text) : Option Text :=
  if hostnameText <+: text then resolved (text.drop hostnameText.length) else none

/-- `match(/Hostname (.*) resolves to (.*) \(IPv[46]\)/)[2]` -/
def matchAddr (reply : Text) : Option Text :=
  (reply.splitOnP isLineEnd).findSome? fun line => line.tails.findSome? hostnameHere

/-- A line for `replace(/^.*Switch is (ON|OFF).*$/mg, "")`. -/
def dropSwitch (line : Text) : Text :=
  if switchText false <:+: line ∨ switchText true <:+: line then [] else line

/-- The lines of a text that begins with the rest of a line. -/
def dropSwitchFrom (line : Text) : Text → Text
  | [] => dropSwitch line
  | c :: text =>
    if isLineEnd c then dropSwitch line ++ c :: dropSwitchFrom [] text
    else dropSwitchFrom (line ++ [c]) text

def dropSwitches (reply : Text) : Text := dropSwitchFrom [] reply

/-- `submitted` is whether the handler of the form has set `ws.onmessage`. In `success`, `none` is
the cross. -/
structure Page where
  submitted : Bool
  crypto : Bool
  family : Bool
  output : List Text
  success : List (Option Text)
  sent : List Text

/-- The messages by their keys, and what the user does. -/
inductive PageEvent
  | line (text : Text)
  | shellReply (text : Text)
  | submit (name : Text)
  | clickFamily
  | clickCrypto
  | clickReboot

def queryText (crypto family : Bool) (name : Text) : Text :=
  (if crypto then "doc ".toList else "dns ".toList) ++ name ++
    ' ' :: (if family then "inet6".toList else "inet".toList)

def pageStep (s : Page) : PageEvent → Page
  | .line text => { s with crypto := checkCrypto s.crypto text }
  | .shellReply text =>
    if s.submitted then
      let reply := dropSwitches text
      match matchAddr reply with
      | some addr => { s with success := s.success ++ [some addr] }
      | none => { s with output := s.output ++ [reply], success := s.success ++ [none] }
    else s
  | .submit name =>
    { s with
      submitted := true, output := [], success := [],
      sent := s.sent ++ [queryText s.crypto s.family name] }
  | .clickFamily => { s with family := !s.family }
  | .clickCrypto => { s with crypto := !s.crypto }
  | .clickReboot => { s with sent := s.sent ++ ["reboot".toList] }

def PageEvent.line? : PageEvent → Option Text
  | .line text => some text
  | _ => none

/-- One line with its newline. -/
def IsLine (text : Text) : Prop := fileLines text = [text] ∧ text.getLast? = some '\n'

/-- A line that is read is read to its end. -/
def ReadsWhole (s : LogSocket) : LogEvent → Prop
  | .sendLines => s.sendLines = .reading →
      ∀ text ∈ (fileLines (s.log.drop s.pos)).head?, text.getLast? = some '\n'
  | _ => True

lemma isLine_of_fileLines {text line : Text} {rest : List Text}
    (h : fileLines text = line :: rest) (hlast : line.getLast? = some '\n') : IsLine line := by
  refine ⟨?_, hlast⟩
  induction text generalizing line rest with
  | nil => cases h
  | cons c text ih =>
    unfold fileLines at h
    by_cases hc : c = '\n'
    · rw [if_pos hc] at h
      obtain ⟨rfl, -⟩ := List.cons.inj h
      rw [hc]
      rfl
    · rw [if_neg hc] at h
      cases hlines : fileLines text with
      | nil =>
        rw [hlines] at h
        obtain ⟨rfl, -⟩ := List.cons.inj h
        exact absurd (Option.some.inj hlast) hc
      | cons l ls =>
        rw [hlines] at h
        obtain ⟨rfl, -⟩ := List.cons.inj h
        have hne : l ≠ [] := by
          rintro rfl
          exact hc (Option.some.inj hlast)
        rw [List.getLast?_cons_of_ne_nil hne] at hlast
        unfold fileLines
        rw [if_neg hc, ih hlines hlast]

/-- What was sent are the lines of the log. -/
structure SentWhole (s : LogSocket) : Prop where
  lines : fileLines s.sent.flatten = s.sent
  start : AtLineStart s.sent.flatten
  held : ∀ text, s.sendLines = .line text → IsLine text

lemma sentWhole_init : SentWhole .init := ⟨rfl, .inl rfl, nofun⟩

variable {s t : LogSocket}

lemma SentWhole.of_held (h : SentWhole s) (hsent : t.sent = s.sent)
    (hheld : ∀ text, t.sendLines = .line text → s.sendLines = .line text) : SentWhole t where
  lines := by
    rw [hsent]
    exact h.lines
  start := by
    rw [hsent]
    exact h.start
  held text htext := h.held text (hheld text htext)

lemma SentWhole.send (h : SentWhole s) {text : Text} (hline : IsLine text) :
    SentWhole { s with sendLines := .reading, sent := s.sent ++ [text] } := by
  have hflat : (s.sent ++ [text]).flatten = s.sent.flatten ++ text := by
    rw [List.flatten_append, List.flatten_singleton]
  have hne : text ≠ [] := by
    rintro rfl
    cases hline.2
  refine ⟨?_, ?_, nofun⟩
  · change fileLines (s.sent ++ [text]).flatten = s.sent ++ [text]
    rw [hflat, fileLines_append h.start, h.lines, hline.1]
  · change AtLineStart (s.sent ++ [text]).flatten
    rw [hflat]
    apply Or.inr
    rw [List.getLast?_append_of_ne_nil _ hne]
    exact hline.2

theorem SentWhole.step (h : SentWhole s) {e : LogEvent} (hwhole : ReadsWhole s e)
    (hmoves : LogMoves s e t) : SentWhole t := by
  cases hmoves with
  | output text => exact h.of_held rfl fun _ => id
  | opened => exact h.of_held rfl fun _ => id
  | configured answered =>
    refine h.of_held rfl fun text htext => ?_
    cases answered <;> cases htext
  | disconnect => exact h.of_held rfl fun _ => id
  | onClose => exact h.of_held rfl fun _ => id
  | test =>
    refine h.of_held rfl fun text htext => ?_
    change (if s.logfile then SendLines.reading else .returned) = _ at htext
    split at htext <;> cases htext
  | error => exact h.of_held rfl nofun
  | read hat htext =>
    refine ⟨h.lines, h.start, fun text hheld => ?_⟩
    obtain rfl := SendLines.line.inj hheld
    apply isLine_of_fileLines htext
    apply hwhole hat
    rw [htext]
    rfl
  | send hat => exact h.send (h.held _ hat)
  | look => exact h.of_held rfl fun _ => id
  | close => exact h.of_held rfl fun _ => id
  | unset => exact h.of_held rfl fun _ => id

/-! ### The box -/

/-- The line tells a level of the pin, and not the other one. -/
def Tells (pin : Bool) (line : Text) : Prop :=
  switchText pin <:+: line ∧ ¬ switchText (!pin) <:+: line

variable {line : Text} {pin crypto : Bool}

lemma switchIs_within (pin : Bool) : switchIs <:+: switchText pin := by
  cases pin with
  | true => exact ⟨[], " OFF".toList, by decide⟩
  | false => exact ⟨[], " ON".toList, by decide⟩

lemma checkCrypto_tells (h : Tells pin line) : checkCrypto crypto line = !pin := by
  obtain ⟨htold, hother⟩ := h
  have hswitch : switchIs <:+: line := (switchIs_within pin).trans htold
  unfold checkCrypto
  rw [if_pos hswitch]
  dsimp only
  cases pin with
  | true => exact if_pos htold
  | false =>
    have hoff : ¬ switchText true <:+: line := hother
    rw [if_neg hoff]
    exact if_pos htold

lemma foldl_checkCrypto {before after : List Text} (hline : Tells pin line)
    (hafter : ∀ l ∈ after, ¬ switchIs <:+: l) :
    (before ++ line :: after).foldl checkCrypto crypto = !pin := by
  rw [List.foldl_append, List.foldl_cons, checkCrypto_tells hline]
  induction after with
  | nil => rfl
  | cons l after ih =>
    obtain ⟨hl, hrest⟩ := List.forall_mem_cons.mp hafter
    have hkept : checkCrypto (!pin) l = !pin := if_neg hl
    rw [List.foldl_cons, hkept, ih hrest]

/-- As long as the user leaves it alone, the box only follows the lines. -/
lemma crypto_foldl {es : List PageEvent} (h : ∀ e ∈ es, e ≠ .clickCrypto) (page : Page) :
    (es.foldl pageStep page).crypto =
      (es.filterMap PageEvent.line?).foldl checkCrypto page.crypto := by
  induction es generalizing page with
  | nil => rfl
  | cons e es ih =>
    obtain ⟨he, hrest⟩ := List.forall_mem_cons.mp h
    rw [List.foldl_cons, ih hrest]
    cases e with
    | line text => rfl
    | shellReply text =>
      have hkept : (pageStep page (.shellReply text)).crypto = page.crypto := by
        unfold pageStep
        dsimp only
        split
        · split <;> rfl
        · rfl
      rw [hkept]
      rfl
    | submit name => rfl
    | clickFamily => rfl
    | clickCrypto => exact absurd rfl he
    | clickReboot => rfl

variable {start : Bool} {board : Board}

/-- When the node is at rest and all of its log was sent in whole lines, the last of which about
the switch is the last that the node printed, then the page asks with `doc` if and only if the
switch is on. -/
theorem query_follows_switch {es : List BoardEvent}
    (hboard : Client.board.run (.boot start) es = some board)
    (hkept : Client.board.Meets CommandKept (.boot start) es) (hrest : board.AtRest)
    (htold : board.told = some pin) {fs : List LogEvent} (hlog : logSocket.run .init fs = some s)
    (hwhole : logSocket.Meets ReadsWhole .init fs) (hsent : s.sent.flatten = s.log)
    {before after : List Text} (hlines : fileLines s.log = before ++ line :: after)
    (hline : Tells pin line) (hafter : ∀ l ∈ after, ¬ switchIs <:+: l) {ps : List PageEvent}
    (hmessages : ps.filterMap PageEvent.line? = s.sent) (hclicks : ∀ e ∈ ps, e ≠ .clickCrypto)
    (page : Page) (name : Text) :
    let t := ps.foldl pageStep page
    (pageStep t (.submit name)).sent = t.sent ++ [queryText (!board.pin) t.family name] := by
  have hright : board.LineRight start := by
    have htolds := (TransitionSystem.reach_of_run hkept hboard).invariant
      (P := Told start) (told_boot start) fun _ _ _ h hC hs => h.step hC (moves_of_step hs)
    exact htolds.lineRight
  have hpin : pin = board.pin := by
    have hlast := hright hrest
    rw [htold] at hlast
    exact hlast
  have hwholes : SentWhole s := (TransitionSystem.reach_of_run hwhole hlog).invariant
    sentWhole_init fun _ _ _ h hC hs => h.step hC (logMoves_of_step hs)
  have hcrypto : (ps.foldl pageStep page).crypto = !pin := by
    rw [crypto_foldl hclicks, hmessages, ← hwholes.lines, hsent, hlines]
    exact foldl_checkCrypto hline hafter
  intro t
  change t.sent ++ [queryText t.crypto t.family name] = _
  rw [hcrypto, hpin]

/-- The node after its start: the switch is on, and `open` asks for it. -/
def askedOn : Board := ⟨false, false, .idle, false, .idle, .prompt, true, some false⟩

def askOn : List BoardEvent := [.main, .main, .command, .main, .main]

/-- Its answer, on the prompt. -/
def onLine : Text := "> Switch is ON\n".toList

def onLog : List LogEvent :=
  [.opened, .output onLine, .configured true, .sendLines, .sendLines, .sendLines]

def onSocket : LogSocket :=
  ⟨onLine, .returned, true, false, onLine.length, .reading, .absent, false, [onLine]⟩

def newPage : Page := ⟨false, false, true, [], [], []⟩

/-- The page asks with `doc`. -/
theorem query_follows_switch_on :
    Client.board.run (.boot false) askOn = some askedOn ∧
      logSocket.run .init onLog = some onSocket ∧
      ([.line onLine, .submit "a".toList].foldl pageStep newPage).sent =
        ["doc a inet6".toList] := by
  have hboard : Client.board.run (.boot false) askOn = some askedOn := rfl
  have hlog : logSocket.run .init onLog = some onSocket := by decide +kernel
  refine ⟨hboard, hlog, ?_⟩
  have hkept : Client.board.Meets CommandKept (.boot false) askOn := by
    refine (TransitionSystem.meets_cons rfl).mpr ⟨nofun, ?_⟩
    refine (TransitionSystem.meets_cons rfl).mpr ⟨nofun, ?_⟩
    refine (TransitionSystem.meets_cons rfl).mpr ⟨trivial, ?_⟩
    refine (TransitionSystem.meets_cons rfl).mpr ⟨nofun, ?_⟩
    refine ⟨fun pin hpin => .inl ?_, fun _ _ => trivial⟩
    exact (MainThread.telling.inj hpin).symm
  have hwhole : logSocket.Meets ReadsWhole .init onLog := by
    refine (TransitionSystem.meets_cons rfl).mpr ⟨trivial, ?_⟩
    refine (TransitionSystem.meets_cons rfl).mpr ⟨trivial, ?_⟩
    refine (TransitionSystem.meets_cons rfl).mpr ⟨trivial, ?_⟩
    refine (TransitionSystem.meets_cons rfl).mpr ⟨nofun, ?_⟩
    refine (TransitionSystem.meets_cons rfl).mpr ⟨fun _ text htext => ?_, ?_⟩
    · obtain rfl : onLine = text := Option.some.inj htext
      decide
    · exact (TransitionSystem.meets_cons rfl).mpr ⟨nofun, trivial⟩
  have hmessages : [PageEvent.line onLine].filterMap PageEvent.line? = onSocket.sent := rfl
  have hlines : fileLines onSocket.log = [] ++ onLine :: [] := by decide
  have hline : Tells false onLine := ⟨by decide, by decide⟩
  exact query_follows_switch hboard hkept ⟨rfl, rfl, rfl, rfl⟩ rfl hlog hwhole rfl hlines hline
    (fun _ => nofun) hmessages (by simp) newPage "a".toList

end Webterminal

end RiotPlayground
