import RiotPlayground.Webterminal.Page

/-!
# A name from the form of the page to its answer

The form sends a line for the shell of `client/main.c`, and the page looks for the answer in what
is printed, between whatever else the node prints meanwhile.
-/

namespace RiotPlayground

open PyText Client Webfrontend Luke

namespace Webterminal

/-- The texts of the addresses that `gcoap_dns_query` and `sock_dns_query` give. -/
structure Resolver where
  dnsQuery : Text → Family → Text
  sockDnsQuery : Text → Family → Text
  strerror : ℤ → Text

def ipv4Text : Text := " (IPv4)".toList

def ipv6Text : Text := " (IPv6)".toList

/-- A line with an address. -/
def answerLine (name addr fam : Text) : Text :=
  hostnameText ++ (name ++ (resolvesTo ++ (addr ++ fam)))

/-- `_print_addr` -/
def printedAddr (hostname addr : Text) (addrLen : ℤ) : Text :=
  if addrLen = 4 then answerLine hostname addr ipv4Text
  else if addrLen = 16 then answerLine hostname addr ipv6Text
  else "Unexpected address format resolved for hostname ".toList ++ hostname

/-- The family asked for, `AF_INET6` unless there are three arguments. -/
def askedFamily (argv : List Text) : Family :=
  if argv.length = 3 then parseAf (argv.getD 2 []) else .inet6

def unexpectedFamily (argv : List Text) : Text := "Unexpected family ".toList ++ argv.getD 2 []

variable (L : Libs) (R : RiotShell) (V : Resolver)

/-- The lines of `_query`. -/
def printedQuery (argv : List Text) : List Text :=
  if argv.length < 2 then
    ["usage: ".toList ++ argv.getD 0 [] ++ " <hostname> [inet|inet6]".toList]
  else if askedFamily argv = .unspec then [unexpectedFamily argv]
  else
    let hostname := argv.getD 1 []
    let res := L.dnsQuery hostname (askedFamily argv)
    if res < 0 then ["Unable to resolve query: ".toList ++ V.strerror (-res)]
    else [printedAddr hostname (V.dnsQuery hostname (askedFamily argv)) res]

/-- The lines of `_dns`, which goes on after the usage. -/
def printedDns (argv : List Text) : List Text :=
  (if argv.length < 2 then
    ["usage: ".toList ++ argv.getD 0 [] ++ " request <name> [inet|inet6]".toList] else []) ++
  if askedFamily argv = .unspec then [unexpectedFamily argv]
  else
    let hostname := argv.getD 1 []
    [printedAddr hostname (V.sockDnsQuery hostname (askedFamily argv))
      (L.sockDnsQuery hostname (askedFamily argv))]

/-- The lines of the handlers of `doc` and `dns` for a line. -/
def printed (text : Text) : List Text :=
  let argv := R.argv lineBufSize text
  match findCommand (argv.headD []) with
  | some .doc => printedQuery L V argv
  | some .dns => printedDns L V argv
  | _ => []

def askedOf (family : Bool) : Family := if family then .inet6 else .inet

/-- `doc` asks with `gcoap_dns_query`, `dns` with `sock_dns_query`. -/
def queryRes (crypto : Bool) (name : Text) (family : Bool) : ℤ :=
  if crypto then L.dnsQuery name (askedOf family) else L.sockDnsQuery name (askedOf family)

/-- There is an address that can be printed. -/
def Resolves (crypto : Bool) (name : Text) (family : Bool) : Prop :=
  queryRes L crypto name family = 4 ∨ queryRes L crypto name family = 16

instance {crypto : Bool} {name : Text} {family : Bool} :
    Decidable (Resolves L crypto name family) := inferInstanceAs (Decidable (_ ∨ _))

/-- The text of that address. -/
def Resolver.gives (crypto : Bool) (name : Text) (family : Bool) : Text :=
  if crypto then V.dnsQuery name (askedOf family) else V.sockDnsQuery name (askedOf family)

/-- The line that `doc` or `dns` prints for the name. -/
def queryLine (crypto : Bool) (name : Text) (family : Bool) : Text :=
  let res := queryRes L crypto name family
  if crypto ∧ res < 0 then "Unable to resolve query: ".toList ++ V.strerror (-res)
  else printedAddr name (V.gives crypto name family) res

/-- The arguments in the text of the form. -/
def queryArgv (crypto family : Bool) (name : Text) : List Text :=
  [if crypto then "doc".toList else "dns".toList, name,
    if family then "inet6".toList else "inet".toList]

/-- An address as `ipv4_addr_to_str` and `ipv6_addr_to_str` print it. -/
def AddrText (addr : Text) : Prop :=
  addr ≠ [] ∧ ∀ c ∈ addr, (hexValue c).isSome = true ∨ c = ':' ∨ c = '.'

variable {L R V} {addr name rest text fam : Text} {b : Bool}

lemma AddrText.ne (h : AddrText addr) {d : Char} (hd : hexValue d = none)
    (hcolon : d ≠ ':') (hdot : d ≠ '.') : d ∉ addr := by
  intro hmem
  obtain hhex | rfl | rfl := h.2 d hmem
  · rw [hd] at hhex
    cases hhex
  · exact hcolon rfl
  · exact hdot rfl

/-- Text that a pattern begins in must have its first character. -/
lemma not_infix_append {p : Text} {d : Char} (hd : d ∉ addr) (h : ¬ d :: p <:+: rest) :
    ¬ d :: p <:+: addr ++ rest := by
  induction addr with
  | nil => exact h
  | cons c addr ih =>
    obtain ⟨hc, haddr⟩ := not_or.mp (List.mem_cons.not.mp hd)
    rw [List.cons_append, List.infix_cons_iff, List.cons_prefix_cons]
    exact not_or.mpr ⟨fun heq => hc heq.1, ih haddr⟩

/-- Nor does it begin before text without its second character. -/
lemma not_infix_append_second {p : Text} {d e : Char} (he : e ∉ text)
    (h : ¬ d :: e :: p <:+: rest) (hbegin : ¬ e :: p <+: rest) :
    ¬ d :: e :: p <:+: text ++ rest := by
  induction text with
  | nil => exact h
  | cons c text ih =>
    obtain ⟨-, htext⟩ := not_or.mp (List.mem_cons.not.mp he)
    rw [List.cons_append, List.infix_cons_iff, List.cons_prefix_cons]
    refine not_or.mpr ⟨fun heq => ?_, ih htext⟩
    cases text with
    | nil => exact hbegin heq.2
    | cons b text => exact htext ((List.cons_prefix_cons.mp heq.2).1 ▸ List.mem_cons_self)

lemma beforeFamily_append (haddr : ' ' ∉ addr) (hfam : fam = ipv4Text ∨ fam = ipv6Text) :
    beforeFamily (addr ++ fam) = some addr := by
  induction addr with
  | nil =>
    obtain rfl | rfl := hfam
    · decide
    · decide
  | cons c addr ih =>
    rw [List.cons_append]
    unfold beforeFamily
    rw [ih (List.not_mem_of_not_mem_cons haddr)]

lemma resolved_eq_none (h : ¬ resolvesTo <:+: text) : resolved text = none := by
  induction text with
  | nil => rfl
  | cons c text ih =>
    obtain ⟨hhere, htext⟩ := not_or.mp (List.infix_cons_iff.not.mp h)
    unfold resolved
    rw [ih htext, if_neg hhere]
    rfl

lemma not_resolvesTo (haddr : AddrText addr) (hfam : fam = ipv4Text ∨ fam = ipv6Text) :
    ¬ resolvesTo <:+: resolvesTo.tail ++ (addr ++ fam) := by
  have hspace : ' ' ∉ addr := haddr.ne rfl (by decide) (by decide)
  have hletter : 'r' ∉ addr := haddr.ne rfl (by decide) (by decide)
  have hbegins : [' ', 'r'] <+: resolvesTo := ⟨"esolves to ".toList, rfl⟩
  have hfirst : ¬ ['r'] <+: addr ++ fam := by
    obtain ⟨c, more, rfl⟩ := List.exists_cons_of_ne_nil haddr.1
    rw [List.cons_append, List.cons_prefix_cons]
    exact fun heq => hletter (heq.1 ▸ List.mem_cons_self)
  have hmore : ¬ [' ', 'r'] <:+: addr ++ fam := by
    apply not_infix_append hspace
    obtain rfl | rfl := hfam
    · decide
    · decide
  have hname : ¬ [' ', 'r'] <:+: "esolves to ".toList ++ (addr ++ fam) :=
    not_infix_append_second (by decide) hmore hfirst
  have hparts : resolvesTo.tail ++ (addr ++ fam) =
      ['r'] ++ ("esolves to ".toList ++ (addr ++ fam)) := rfl
  rw [hparts]
  intro hwithin
  exact not_infix_append (by decide) hname (hbegins.isInfix.trans hwithin)

/-- The expression is greedy: the last ` resolves to ` counts. -/
lemma resolved_append (haddr : AddrText addr) (hfam : fam = ipv4Text ∨ fam = ipv6Text) :
    resolved (name ++ (resolvesTo ++ (addr ++ fam))) = some addr := by
  induction name with
  | nil =>
    have hhere : resolvesTo <+: resolvesTo ++ (addr ++ fam) := List.prefix_append _ _
    change (resolved (resolvesTo.tail ++ (addr ++ fam))).or
      (if resolvesTo <+: resolvesTo ++ (addr ++ fam) then
        beforeFamily ((resolvesTo ++ (addr ++ fam)).drop resolvesTo.length) else none) = _
    rw [resolved_eq_none (not_resolvesTo haddr hfam), if_pos hhere, List.drop_left]
    exact beforeFamily_append (haddr.ne rfl (by decide) (by decide)) hfam
  | cons c name ih =>
    rw [List.cons_append]
    unfold resolved
    rw [ih]
    rfl

lemma findSome_answerLine (haddr : AddrText addr) (hfam : fam = ipv4Text ∨ fam = ipv6Text) :
    (answerLine name addr fam).tails.findSome? hostnameHere = some addr := by
  have hhere : hostnameHere (answerLine name addr fam) = some addr := by
    unfold hostnameHere answerLine
    rw [if_pos (List.prefix_append _ _), List.drop_left, resolved_append haddr hfam]
  generalize answerLine name addr fam = line at hhere ⊢
  cases line with
  | nil => exact congrArg (Option.or · none) hhere
  | cons c line => rw [List.tails_cons, List.findSome?_cons, hhere]

/-- In the text about the switch there is `h i`, which a name without spaces can not bring about. -/
lemma dropSwitch_answerLine (hname : ' ' ∉ name) (haddr : AddrText addr)
    (hfam : fam = ipv4Text ∨ fam = ipv6Text) :
    dropSwitch (answerLine name addr fam) = answerLine name addr fam := by
  have hletter : 'h' ∉ addr := haddr.ne rfl (by decide) (by decide)
  have hmore : ¬ ['h', ' ', 'i'] <:+: addr ++ fam := by
    apply not_infix_append hletter
    obtain rfl | rfl := hfam
    · decide
    · decide
  have hrest : ¬ ['h', ' ', 'i'] <:+: resolvesTo ++ (addr ++ fam) :=
    not_infix_append (by decide) hmore
  have hbegin : ¬ [' ', 'i'] <+: resolvesTo ++ (addr ++ fam) := fun heq =>
    absurd (List.cons_prefix_cons.mp (List.cons_prefix_cons.mp heq).2).1 (by decide)
  have hnames : ¬ ['h', ' ', 'i'] <:+: name ++ (resolvesTo ++ (addr ++ fam)) :=
    not_infix_append_second hname hrest hbegin
  have hall : ¬ ['h', ' ', 'i'] <:+: answerLine name addr fam := not_infix_append (by decide) hnames
  have hswitch : ∀ pin, ¬ switchText pin <:+: answerLine name addr fam := by
    intro pin hwithin
    have hpattern : ['h', ' ', 'i'] <:+: switchText pin := by
      cases pin with
      | true => exact ⟨"Switc".toList, "s OFF".toList, rfl⟩
      | false => exact ⟨"Switc".toList, "s ON".toList, rfl⟩
    exact hall (hpattern.trans hwithin)
  exact if_neg (not_or.mpr ⟨hswitch false, hswitch true⟩)

/-- The address that the page finds in a line. -/
def lineAddr (line : Text) : Option Text := (dropSwitch line).tails.findSome? hostnameHere

lemma lineAddr_answerLine (hname : ' ' ∉ name) (haddr : AddrText addr)
    (hfam : fam = ipv4Text ∨ fam = ipv6Text) : lineAddr (answerLine name addr fam) = some addr := by
  unfold lineAddr
  rw [dropSwitch_answerLine hname haddr hfam, findSome_answerLine haddr hfam]

lemma lineAddr_eq_none (h : ¬ hostnameText <:+: text) : lineAddr text = none := by
  unfold lineAddr dropSwitch
  split
  · rfl
  · rw [List.findSome?_eq_none_iff]
    intro rest hrest
    refine if_neg fun hhere => h ?_
    exact hhere.isInfix.trans ((List.mem_tails _ _).mp hrest).isInfix

lemma dropSwitch_lines {line : Text} (h : ∀ c ∈ line, isLineEnd c = false) :
    (dropSwitch line).splitOnP isLineEnd = [dropSwitch line] := by
  apply List.splitOnP_eq_singleton
  unfold dropSwitch
  split
  · exact fun c hc => absurd hc List.not_mem_nil
  · exact h

lemma splitOnP_dropSwitchFrom {line : Text} (h : ∀ c ∈ line, isLineEnd c = false) (text : Text) :
    (dropSwitchFrom line text).splitOnP isLineEnd =
      ((line ++ text).splitOnP isLineEnd).map dropSwitch := by
  have hnil : ∀ c ∈ ([] : Text), isLineEnd c = false := fun c hc => absurd hc List.not_mem_nil
  induction text generalizing line with
  | nil =>
    unfold dropSwitchFrom
    rw [dropSwitch_lines h, List.append_nil, List.splitOnP_eq_singleton h]
    rfl
  | cons c text ih =>
    unfold dropSwitchFrom
    by_cases hc : isLineEnd c = true
    · rw [if_pos hc, List.splitOnP_append_cons _ _ hc, dropSwitch_lines h, ih hnil,
        List.splitOnP_append_cons_of_forall_mem h c hc]
      rfl
    · have hline : ∀ d ∈ line ++ [c], isLineEnd d = false := by
        intro d hd
        obtain hd | hd := List.mem_append.mp hd
        · exact h d hd
        · rw [List.mem_singleton.mp hd]
          exact Bool.not_eq_true _ ▸ hc
      rw [if_neg hc, ih hline, List.append_assoc]
      rfl

lemma matchAddr_dropSwitches (reply : Text) :
    matchAddr (dropSwitches reply) = (reply.splitOnP isLineEnd).findSome? lineAddr := by
  have hdropped : (dropSwitchFrom [] reply).splitOnP isLineEnd = _ :=
    splitOnP_dropSwitchFrom (fun c hc => absurd hc List.not_mem_nil) reply
  unfold matchAddr dropSwitches
  rw [hdropped, List.nil_append, List.findSome?_map]
  rfl

lemma success_shellReply {t : Page} (ht : t.submitted = true) (reply : Text) :
    (pageStep t (.shellReply reply)).success =
      t.success ++ [(reply.splitOnP isLineEnd).findSome? lineAddr] := by
  rw [← matchAddr_dropSwitches]
  unfold pageStep
  dsimp only
  rw [if_pos ht]
  split
  · next hmatch => rw [hmatch]
  · next hmatch => rw [hmatch]

lemma findSome_lineAddr {before after : List Text} {line : Text}
    (h : ∀ l ∈ before ++ after, lineAddr l = none) :
    (before ++ line :: after).findSome? lineAddr = lineAddr line := by
  have hbefore : before.findSome? lineAddr = none :=
    List.findSome?_eq_none_iff.mpr fun l hl => h l (List.mem_append_left _ hl)
  have hafter : after.findSome? lineAddr = none :=
    List.findSome?_eq_none_iff.mpr fun l hl => h l (List.mem_append_right _ hl)
  rw [List.findSome?_append, hbefore, List.findSome?_cons, hafter]
  cases lineAddr line <;> rfl

variable {crypto family : Bool}

lemma queryText_eq : queryText crypto family name = joined (queryArgv crypto family name) := by
  unfold queryText queryArgv
  rw [joined_cons, joined_cons, joined_singleton]
  cases crypto <;> rfl

lemma queryArgv_word (hname : Word name) : ∀ w ∈ queryArgv crypto family name, Word w := by
  intro w hw
  unfold queryArgv at hw
  obtain rfl | rfl | hw := by simpa only [List.mem_cons, List.not_mem_nil, or_false] using hw
  · cases crypto <;> decide
  · exact hname
  · rw [hw]
    cases family <;> decide

lemma length_queryArgv : ¬ (queryArgv crypto family name).length < 2 :=
  not_lt.mpr (by decide : 2 ≤ 3)

lemma askedFamily_queryArgv :
    askedFamily (queryArgv crypto family name) = askedOf family := by
  cases family <;> rfl

lemma askedOf_ne : askedOf family ≠ .unspec := by
  cases family <;> nofun

lemma printed_queryText (hsplits : R.Splits) (hname : Word name)
    (hfits : (queryText crypto family name).length < lineBufSize) :
    printed L R V (queryText crypto family name) = [queryLine L V crypto name family] := by
  have hargv : R.argv lineBufSize (queryText crypto family name) =
      queryArgv crypto family name := by
    rw [queryText_eq] at hfits ⊢
    exact hsplits _ (List.cons_ne_nil _ _) (queryArgv_word hname) hfits
  unfold printed
  rw [hargv]
  cases crypto with
  | true =>
    change printedQuery L V (queryArgv true family name) = _
    unfold printedQuery
    rw [askedFamily_queryArgv, if_neg length_queryArgv, if_neg askedOf_ne]
    by_cases hres : queryRes L true name family < 0
    · have hline : queryLine L V true name family = _ := if_pos ⟨rfl, hres⟩
      rw [hline]
      exact if_pos hres
    · have hline : queryLine L V true name family = _ := if_neg fun h => hres h.2
      rw [hline]
      exact if_neg hres
  | false =>
    change printedDns L V (queryArgv false family name) = _
    unfold printedDns
    rw [askedFamily_queryArgv, if_neg length_queryArgv, if_neg askedOf_ne]
    rfl

/-- `Hostname ` is in a line with an address only. -/
lemma lineAddr_queryLine (hname : ' ' ∉ name)
    (haddr : Resolves L crypto name family → AddrText (V.gives crypto name family))
    (hstrerror : ∀ e, ¬ hostnameText <:+: V.strerror e) :
    lineAddr (queryLine L V crypto name family) =
      if Resolves L crypto name family then some (V.gives crypto name family) else none := by
  have hhostname : hostnameText = 'H' :: "ostname ".toList := rfl
  unfold queryLine
  dsimp only
  by_cases hfails : crypto = true ∧ queryRes L crypto name family < 0
  · have hres : ¬ Resolves L crypto name family := by
      unfold Resolves
      omega
    rw [if_pos hfails, if_neg hres]
    apply lineAddr_eq_none
    rw [hhostname]
    exact not_infix_append (by decide) (hstrerror _)
  · rw [if_neg hfails]
    unfold printedAddr
    by_cases hfour : queryRes L crypto name family = 4
    · have hres : Resolves L crypto name family := Or.inl hfour
      rw [if_pos hfour, if_pos hres]
      exact lineAddr_answerLine hname (haddr hres) (.inl rfl)
    by_cases hsixteen : queryRes L crypto name family = 16
    · have hres : Resolves L crypto name family := Or.inr hsixteen
      rw [if_neg hfour, if_pos hsixteen, if_pos hres]
      exact lineAddr_answerLine hname (haddr hres) (.inr rfl)
    · have hres : ¬ Resolves L crypto name family := not_or.mpr ⟨hfour, hsixteen⟩
      rw [if_neg hfour, if_neg hsixteen, if_neg hres]
      apply lineAddr_eq_none
      have hwithin : ¬ hostnameText <:+: name := fun h => hname (h.subset (by decide))
      rw [hhostname] at hwithin ⊢
      exact not_infix_append (by decide) hwithin

/-- The node prints one line for a name, and when no other line of the reply has an address, the
page shows the address that the name was resolved to, or the cross if there is none. -/
theorem name_answered (hsplits : R.Splits) (page : Page) (hname : Word name)
    (hfits : (queryText page.crypto page.family name).length < lineBufSize)
    (haddr : Resolves L page.crypto name page.family →
      AddrText (V.gives page.crypto name page.family))
    (hstrerror : ∀ e, ¬ hostnameText <:+: V.strerror e) :
    ∃ text line, (pageStep page (.submit name)).sent = page.sent ++ [text] ∧
      printed L R V text = [line] ∧
      ∀ t : Page, t.submitted = true → ∀ reply before after,
        reply.splitOnP isLineEnd = before ++ line :: after →
        (∀ l ∈ before ++ after, lineAddr l = none) →
        (pageStep t (.shellReply reply)).success = t.success ++
          [if Resolves L page.crypto name page.family then
            some (V.gives page.crypto name page.family) else none] := by
  have hspace : ' ' ∉ name := fun hmem => absurd (hname.2 ' ' hmem).1 (by decide)
  refine ⟨_, _, rfl, printed_queryText hsplits hname hfits, ?_⟩
  intro t ht reply before after hlines hothers
  rw [success_shellReply ht, hlines, findSome_lineAddr hothers,
    lineAddr_queryLine hspace haddr hstrerror]

/-- A resolver that knows `::1` only, for every name. -/
def loopback : Resolver where
  dnsQuery _ _ := "::1".toList
  sockDnsQuery _ _ := "::1".toList
  strerror _ := "Connection timed out".toList

def askPage : Page := ⟨false, true, true, [], [], []⟩

/-- What `doc a inet6` brings, with the state of the switch before it. -/
def aReply : Text :=
  "doc a inet6\r\nSwitch is ON\r\nHostname a resolves to ::1 (IPv6)\r\n".toList

def aText : Text := "doc a inet6".toList

def aAnswer : Text := "Hostname a resolves to ::1 (IPv6)".toList

/-- The page shows `::1`. -/
theorem name_answered_loopback :
    printed acceptingLibs plainShell loopback aText = [aAnswer] ∧
      ([.submit "a".toList, .shellReply aReply].foldl pageStep askPage).success =
        [some "::1".toList] := by
  have hprinted : printed acceptingLibs plainShell loopback aText = [aAnswer] := by decide +kernel
  refine ⟨hprinted, ?_⟩
  have hname : Word "a".toList := by decide
  have haddr : AddrText "::1".toList := by
    refine ⟨by decide, fun c hc => ?_⟩
    obtain rfl | rfl | rfl : c = ':' ∨ c = ':' ∨ c = '1' := by simpa using hc
    · exact .inr (.inl rfl)
    · exact .inr (.inl rfl)
    · exact .inl rfl
  have hstrerror : ∀ e, ¬ hostnameText <:+: loopback.strerror e := by
    intro e
    change ¬ hostnameText <:+: "Connection timed out".toList
    decide
  obtain ⟨text, line, hsent, hline, hshown⟩ :=
    name_answered (L := acceptingLibs) (V := loopback) plainShell_splits askPage hname (by decide)
      (fun _ => haddr) hstrerror
  obtain rfl : aText = text := (List.cons.inj hsent).1
  obtain rfl : aAnswer = line := (List.cons.inj (hprinted.symm.trans hline)).1
  exact hshown (pageStep askPage (.submit "a".toList)) rfl aReply
    ["doc a inet6".toList, [], "Switch is ON".toList, []] [[], []]
    (by decide +kernel) (by decide)

end Webterminal

end RiotPlayground
