import Mathlib.Data.Bool.AllAny
import RiotPlayground.Client.Atomic
import RiotPlayground.Client.Bounds
import RiotPlayground.Webterminal.Terminal

/-!
# What `config_node` of `webterminal/main.py` makes of the node

The commands of `config_node` are lines for the shell of `client/main.c`. Those that come after the
discovery are sent in one piece, so that the node has the given context at their end, whatever it
had before.
-/

namespace RiotPlayground

open PyText Buffer Client

namespace Webterminal

/-- The variables of `client/main.c`, and the URI and the context that the libraries accepted
last. -/
structure Node where
  vars : Vars
  uri : Option Text
  secctx : Option UserCtx

def Node.boot : Node := ⟨.init, none, none⟩

/-- `sizeof(line_buf)` -/
def lineBufSize : ℕ := 512

/-- The shell of RIOT: the arguments in a line, for the size of the buffer it is read to, and the
commands that are not in `_shell_commands`. -/
structure RiotShell where
  argv : ℕ → Text → List Text
  other : List Text → Node → Node

/-- `_shell_commands` -/
def shellCommands : List (Text × ShellCommand) :=
  [("switch".toList, .switch), ("uri".toList, .uri), ("server".toList, .server),
    ("creds".toList, .creds), ("proxy".toList, .proxy), ("doc".toList, .doc),
    ("dns".toList, .dns), ("resp".toList, .resp), ("userctx".toList, .userctx)]

def findCommand (name : Text) : Option ShellCommand :=
  (shellCommands.find? fun entry => entry.1 = name).map Prod.snd

variable (L : Libs) (R : RiotShell)

/-- The URI after `_set_uri`. -/
def uriAfter (argv : List Text) (uri : Option Text) : Option Text :=
  if 1 < argv.length ∧ argv.getD 1 [] = ['-', 'd'] then none
  else if argv.length = 1 ∨ L.uriSet (argv.getD 1 []) < 0 then uri
  else some (argv.getD 1 [])

/-- The context after `_userctx`. -/
def secctxAfter (argv : List Text) (s : UserCtx) (secctx : Option UserCtx) : Option UserCtx :=
  match (userctx L.toCrypto argv (L.setSecctx s) s).call with
  | some given => if L.setSecctx given < 0 then secctx else some given
  | none => secctx

def Node.command (n : Node) (cmd : ShellCommand) (argv : List Text) : Node where
  vars := (cmd.handler L argv n.vars).state
  uri :=
    match cmd with
    | .uri => uriAfter L argv n.uri
    | _ => n.uri
  secctx :=
    match cmd with
    | .userctx => secctxAfter L argv n.vars.userctx n.secctx
    | _ => n.secctx

def Node.call (n : Node) (argv : List Text) : Node :=
  match findCommand (argv.headD []) with
  | some cmd => n.command L cmd argv
  | none => R.other argv n

def Node.line (n : Node) (text : Text) : Node := n.call L R (R.argv lineBufSize text)

/-- What the node makes of what is sent to it. -/
def Node.hear (n : Node) : Sent → Node
  | .reset _ => .boot
  | .config _ cmd => n.line L R cmd
  | .user _ cmd => n.line L R cmd
  | .configured _ => n

def joined (argv : List Text) : Text := [' '].intercalate argv

def dnsUri (addr : Text) : Text := "coap://[".toList ++ addr ++ "]/dns".toList

def Userctx.id (ctx : Userctx) : Peer → Text
  | .sender => ctx.senderId
  | .recipient => ctx.recipientId

def Userctx.key (ctx : Userctx) : Peer → Text
  | .sender => ctx.senderKey
  | .recipient => ctx.recipientKey

def serverArgv (addr : Text) : List Text := ["server".toList, addr]

def nodeArgv (ctx : Userctx) (addr : Text) : List (List Text) :=
  [["uri".toList, dnsUri addr],
    ["userctx".toList, ['-', 'i'], ctx.algNum, ctx.commonIv],
    ["userctx".toList, ['-', 's'], ctx.id .sender, ctx.key .sender],
    ["userctx".toList, ['-', 'r'], ctx.id .recipient, ctx.key .recipient],
    ["userctx".toList, ['-', 'c']]]

/-- The arguments of the commands after the discovery. -/
def configArgv (args : Args) (addr : Text) : List (List Text) :=
  if args.serverAddr.isSome then serverArgv addr :: nodeArgv args.userctx addr
  else nodeArgv args.userctx addr

def configCmds (args : Args) (addr : Text) : List Text :=
  if args.serverAddr.isSome then setServerCmd addr :: nodeCmds args.userctx addr
  else nodeCmds args.userctx addr

lemma joined_cons (w v : Text) (argv : List Text) :
    joined (w :: v :: argv) = w ++ ' ' :: joined (v :: argv) := by
  simp [joined]

lemma joined_singleton (w : Text) : joined [w] = w := by simp [joined]

lemma userctx_opt (opt : Char) (id key : Text) :
    ['u', 's', 'e', 'r', 'c', 't', 'x', ' ', '-', opt, ' '] ++ id ++ ' ' :: key =
      joined ["userctx".toList, ['-', opt], id, key] := by
  rw [joined_cons, joined_cons, joined_cons, joined_singleton]
  rfl

lemma nodeCmds_eq (ctx : Userctx) (addr : Text) :
    nodeCmds ctx addr = (nodeArgv ctx addr).map joined := by
  have huri : "uri coap://[".toList ++ addr ++ "]/dns".toList =
      joined ["uri".toList, dnsUri addr] := by
    rw [joined_cons, joined_singleton]
    rfl
  have hcommit : "userctx -c".toList = joined ["userctx".toList, ['-', 'c']] := by
    rw [joined_cons, joined_singleton]
    rfl
  unfold nodeCmds nodeArgv
  rw [huri, hcommit, List.map_cons, List.map_cons, List.map_cons, List.map_cons, List.map_singleton,
    ← userctx_opt, ← userctx_opt, ← userctx_opt]
  rfl

lemma configCmds_eq (args : Args) (addr : Text) :
    configCmds args addr = (configArgv args addr).map joined := by
  have hserver : setServerCmd addr = joined (serverArgv addr) := by
    rw [serverArgv, joined_cons, joined_singleton]
    rfl
  unfold configCmds configArgv
  split
  · rw [hserver, nodeCmds_eq]
    rfl
  · exact nodeCmds_eq args.userctx addr

/-- A word that the shell leaves as it is. -/
def Word (w : Text) : Prop := w ≠ [] ∧ ∀ c ∈ w, '!' ≤ c ∧ c ≤ '~' ∧ c ∉ ['"', '\'', '\\']

instance : DecidablePred Word := fun w =>
  decidable_of_iff (w ≠ [] ∧ (w.all fun c => '!' ≤ c ∧ c ≤ '~' ∧ c ∉ ['"', '\'', '\\']) = true)
    (and_congr_right fun _ => List.all_iff_forall_prop)

/-- A line that fits in the buffer is split at its spaces. -/
def RiotShell.Splits : Prop :=
  ∀ argv : List Text, argv ≠ [] → (∀ w ∈ argv, Word w) → (joined argv).length < lineBufSize →
    R.argv lineBufSize (joined argv) = argv

/-- The variables have the values of the context. -/
structure Carries (K : Crypto) (ctx : Userctx) (sec : UserCtx) : Prop where
  algNum : sec.algNum = (parseI64 ctx.algNum).2
  commonIv : decodeHex (K.ivLength sec.algNum) ctx.commonIv =
    some (slice sec.commonIv 0 (K.ivLength sec.algNum))
  id : ∀ p, decodeHex (sec.peer p).idLen (ctx.id p) =
    some (slice (sec.peer p).id 0 (sec.peer p).idLen)
  key : ∀ p, decodeHex (K.keyLength sec.algNum) (ctx.key p) =
    some (slice (sec.peer p).key 0 (K.keyLength sec.algNum))

/-- The context is one for its algorithm. -/
structure Userctx.WellFormed (K : Crypto) (ctx : Userctx) : Prop where
  algNum : (parseI64 ctx.algNum).1 = true ∧ (parseI64 ctx.algNum).2 ≠ 0
  commonIv :
    (decodeHex (K.ivLength (parseI64 ctx.algNum).2) ctx.commonIv).isSome = true
  idLen : ∀ p, 0 < (ctx.id p).length / 2 ∧ (ctx.id p).length / 2 ≤ K.keyidMaxlen
  id : ∀ p, (decodeHex ((ctx.id p).length / 2) (ctx.id p)).isSome = true
  key : ∀ p,
    (decodeHex (K.keyLength (parseI64 ctx.algNum).2) (ctx.key p)).isSome = true

/-- The lines fit, and the libraries take what is in them. -/
structure Accepts (args : Args) (addr : Text) : Prop where
  userctx : args.userctx.WellFormed L.toCrypto
  words : ∀ argv ∈ configArgv args addr,
    (∀ w ∈ argv, Word w) ∧ (joined argv).length < lineBufSize
  inetPton : args.serverAddr.isSome = true → ∃ ip, ∀ old, L.inetPton addr old = (true, ip)
  uriSet : 0 ≤ L.uriSet (dnsUri addr)
  setSecctx : ∀ sec, Carries L.toCrypto args.userctx sec → 0 ≤ L.setSecctx sec

/-- The node asks the given server and has the given context. -/
structure Configured (args : Args) (addr : Text) (n : Node) : Prop where
  server : args.serverAddr.isSome = true →
    n.vars.dnsServer.family = .inet6 ∧ n.vars.dnsServer.port = SOCK_DNS_PORT ∧
      ∀ old, L.inetPton addr old = (true, n.vars.dnsServer.addr)
  uri : n.uri = some (dnsUri addr)
  secctx : ∃ sec, n.secctx = some sec ∧ Carries L.toCrypto args.userctx sec

/-- A command that the page sends. -/
def IsQuery : Sent → Prop
  | .user _ cmd => ∃ q ∈ [ShellCommand.switch, .doc, .dns],
      findCommand ((R.argv lineBufSize cmd).headD []) = some q
  | _ => False

variable {L R} {K : Crypto} {args : Args} {addr : Text} {argv : List Text} {n : Node}

lemma findCommand_uri : findCommand "uri".toList = some .uri := rfl

lemma findCommand_server : findCommand "server".toList = some .server := rfl

lemma findCommand_userctx : findCommand "userctx".toList = some .userctx := rfl

lemma call_command {cmd : ShellCommand} (h : findCommand (argv.headD []) = some cmd) :
    n.call L R argv = n.command L cmd argv := by
  unfold Node.call
  rw [h]

lemma call_userctx (rest : List Text) : n.call L R ("userctx".toList :: rest) =
    ⟨{ n.vars with userctx := (userctx L.toCrypto ("userctx".toList :: rest)
        (L.setSecctx n.vars.userctx) n.vars.userctx).ctx }, n.uri,
      secctxAfter L ("userctx".toList :: rest) n.vars.userctx n.secctx⟩ := by
  have hstate := (userctxCmd_yields L ("userctx".toList :: rest) n.vars).2
  have hcmd : findCommand (("userctx".toList :: rest).headD []) = _ := findCommand_userctx
  rw [call_command hcmd]
  unfold Node.command
  exact congrArg (Node.mk · n.uri _) hstate

lemma call_uri (hset : 0 ≤ L.uriSet (dnsUri addr)) :
    n.call L R ["uri".toList, dnsUri addr] = { n with uri := some (dnsUri addr) } := by
  have hstate : Logged.Ends (setUri L ["uri".toList, dnsUri addr]) (fun _ t => t = n.vars)
      n.vars := by
    rw [Logged.ends_iff, setUri]
    simp
  have hopt : dnsUri addr ≠ ['-', 'd'] := by
    intro heq
    have hhead := congrArg List.head? heq
    cases hhead
  have huri : uriAfter L ["uri".toList, dnsUri addr] n.uri = some (dnsUri addr) := by
    unfold uriAfter
    rw [if_neg fun h => hopt h.2, if_neg]
    · rfl
    · rintro (hlen | hneg)
      · cases hlen
      · exact absurd hneg (Int.not_lt.mpr hset)
  have hcmd : findCommand (["uri".toList, dnsUri addr].headD []) = _ := findCommand_uri
  rw [call_command hcmd]
  unfold Node.command
  dsimp only
  rw [huri]
  exact congrArg (Node.mk · _ n.secctx) hstate

lemma call_server {ip : Vector UInt8 16} (hpton : ∀ old, L.inetPton addr old = (true, ip)) :
    (n.call L R (serverArgv addr)).vars.dnsServer =
      { n.vars.dnsServer with family := .inet6, addr := ip, port := SOCK_DNS_PORT } := by
  have hstate : Logged.Ends (Client.dnsServer L (serverArgv addr)) (fun _ t => t.dnsServer =
      { n.vars.dnsServer with family := .inet6, addr := ip, port := SOCK_DNS_PORT }) n.vars := by
    rw [Logged.ends_iff, Client.dnsServer, refusesAddr]
    simp only [Logged.spec_bind, Logged.spec_or, Logged.spec_provided, Logged.spec_ite, spec_usage,
      spec_arg, Logged.spec_pure, Logged.spec_modify, Logged.spec_read, true_and]
    simp [serverArgv, hpton]
  have hcmd : findCommand ((serverArgv addr).headD []) = _ := findCommand_server
  rw [call_command hcmd]
  exact hstate

lemma initUserctx_ctx {alg iv : Text} {bytes : List UInt8} (halg : (parseI64 alg).1 = true)
    (hiv : decodeHex (K.ivLength (parseI64 alg).2) iv = some bytes) (u : UserCtx) :
    (initUserctx K alg iv u).ctx =
      { u with algNum := (parseI64 alg).2, commonIv := poke u.commonIv 0 bytes } := by
  obtain ⟨hres, hdata⟩ := parseHex_eq iv (K.ivLength (parseI64 alg).2) u.commonIv 0
  unfold initUserctx
  dsimp only
  rw [halg, if_neg Bool.noConfusion, hres, hiv, hdata bytes hiv]
  rfl

/-- What is asked of an ID and a key is what is stored of them. -/
structure Loaded (K : Crypto) (algNum : ℤ) (id key : Text) (m : KeyMaterial) : Prop where
  idLen : m.idLen = id.length / 2
  id : decodeHex m.idLen id = some (slice m.id 0 m.idLen)
  key : decodeHex (K.keyLength algNum) key = some (slice m.key 0 (K.keyLength algNum))

lemma addKey_loads {ctx : Userctx} (h : ctx.WellFormed K) (p : Peer) {u : UserCtx}
    (halg : u.algNum = (parseI64 ctx.algNum).2) :
    ∃ m, (addKey K p (ctx.id p) (ctx.key p) u).ctx = u.setPeer m p ∧
      Loaded K u.algNum (ctx.id p) (ctx.key p) m := by
  obtain ⟨idBytes, hid⟩ := Option.isSome_iff_exists.mp (h.id p)
  obtain ⟨keyBytes, hkey⟩ := Option.isSome_iff_exists.mp (h.key p)
  rw [← halg] at hkey
  obtain ⟨hidRes, hidData⟩ := parseHex_eq (ctx.id p) ((ctx.id p).length / 2) (u.peer p).id 0
  obtain ⟨hkeyRes, hkeyData⟩ := parseHex_eq (ctx.key p) (K.keyLength u.algNum) (u.peer p).key 0
  refine ⟨⟨poke (u.peer p).id 0 idBytes, (ctx.id p).length / 2, poke (u.peer p).key 0 keyBytes⟩,
    ?_, rfl, slice_poke_decoded hid _, slice_poke_decoded hkey _⟩
  unfold addKey parsePeer
  dsimp only
  rw [if_neg (Nat.not_lt.mpr (h.idLen p).2), hidRes, hid, hidData idBytes hid, hkeyRes, hkey,
    hkeyData keyBytes hkey]
  rfl

/-- The context after the three commands that set it. -/
lemma carries_userctx {ctx : Userctx} (h : ctx.WellFormed K) (u : UserCtx) :
    let u₁ := (initUserctx K ctx.algNum ctx.commonIv u).ctx
    let u₂ := (addKey K .sender (ctx.id .sender) (ctx.key .sender) u₁).ctx
    let u₃ := (addKey K .recipient (ctx.id .recipient) (ctx.key .recipient) u₂).ctx
    u₁.algNum ≠ 0 ∧ u₂.algNum ≠ 0 ∧ u₃.algNum ≠ 0 ∧ (∀ p, (u₃.peer p).idLen ≠ 0) ∧
      Carries K ctx u₃ := by
  obtain ⟨halg, hne⟩ := h.algNum
  obtain ⟨ivBytes, hiv⟩ := Option.isSome_iff_exists.mp h.commonIv
  rw [initUserctx_ctx halg hiv u]
  obtain ⟨m, hsender, hm⟩ := addKey_loads h .sender (u :=
    { u with algNum := (parseI64 ctx.algNum).2, commonIv := poke u.commonIv 0 ivBytes }) rfl
  dsimp only
  rw [hsender]
  obtain ⟨m', hrecipient, hm'⟩ := addKey_loads h .recipient (u := UserCtx.setPeer
    { u with algNum := (parseI64 ctx.algNum).2, commonIv := poke u.commonIv 0 ivBytes } m .sender)
    rfl
  rw [hrecipient]
  have hids : ∀ {p : Peer} {k : KeyMaterial}, k.idLen = (ctx.id p).length / 2 → k.idLen ≠ 0 :=
    fun {p} {k} hlen => hlen ▸ Nat.ne_of_gt (h.idLen p).1
  refine ⟨hne, hne, hne, fun p => ?_, rfl, slice_poke_decoded hiv _, fun p => ?_, fun p => ?_⟩
  · cases p with
    | sender => exact hids hm.idLen
    | recipient => exact hids hm'.idLen
  · cases p with
    | sender => exact hm.id
    | recipient => exact hm'.id
  · cases p with
    | sender => exact hm.key
    | recipient => exact hm'.key

section Userctx

variable (name id key : Text) (res : ℤ) {u : UserCtx}

lemma userctx_init :
    userctx K [name, ['-', 'i'], id, key] res u = initUserctx K id key u := by
  simp [userctx]

lemma userctx_sender (h : u.algNum ≠ 0) :
    userctx K [name, ['-', 's'], id, key] res u = addKey K .sender id key u := by
  simp [userctx, h]

lemma userctx_recipient (h : u.algNum ≠ 0) :
    userctx K [name, ['-', 'r'], id, key] res u = addKey K .recipient id key u := by
  simp [userctx, h]

lemma userctx_commit (h : u.algNum ≠ 0) :
    userctx K [name, ['-', 'c']] res u = commit res u := by
  simp [userctx, h]

end Userctx

lemma secctxAfter_commit {u : UserCtx} (halg : u.algNum ≠ 0) (hids : ∀ p, (u.peer p).idLen ≠ 0)
    (hres : 0 ≤ L.setSecctx u) (secctx : Option UserCtx) :
    secctxAfter L ["userctx".toList, ['-', 'c']] u secctx = some u := by
  have hneg : ¬ L.setSecctx u < 0 := Int.not_lt.mpr hres
  have hset : ¬ (u.sender.idLen = 0 ∨ u.recipient.idLen = 0) :=
    not_or.mpr ⟨hids .sender, hids .recipient⟩
  unfold secctxAfter
  rw [userctx_commit _ _ halg]
  unfold commit
  rw [if_neg hset, if_neg hneg]
  dsimp only
  rw [if_neg hneg]

/-- The commands for the URI and the context, from any state. -/
lemma configured_nodeArgv (h : Accepts L args addr) (n : Node) :
    let t := (nodeArgv args.userctx addr).foldl (Node.call L R) n
    t.vars.dnsServer = n.vars.dnsServer ∧ t.uri = some (dnsUri addr) ∧
      ∃ sec, t.secctx = some sec ∧ Carries L.toCrypto args.userctx sec := by
  obtain ⟨halg₁, halg₂, halg₃, hids, hcarries⟩ := carries_userctx h.userctx n.vars.userctx
  unfold nodeArgv
  rw [List.foldl_cons, List.foldl_cons, List.foldl_cons, List.foldl_cons, List.foldl_cons,
    List.foldl_nil, call_uri h.uriSet, call_userctx, call_userctx, call_userctx, call_userctx]
  dsimp only
  rw [userctx_init, userctx_sender _ _ _ _ halg₁, userctx_recipient _ _ _ _ halg₂,
    secctxAfter_commit halg₃ hids (h.setSecctx _ hcarries)]
  exact ⟨rfl, rfl, _, rfl, hcarries⟩

lemma configured_configArgv (h : Accepts L args addr) (n : Node) :
    Configured L args addr ((configArgv args addr).foldl (Node.call L R) n) := by
  unfold configArgv
  by_cases hgiven : args.serverAddr.isSome = true
  · obtain ⟨ip, hpton⟩ := h.inetPton hgiven
    rw [if_pos hgiven, List.foldl_cons]
    obtain ⟨hserver, huri, hsecctx⟩ :=
      configured_nodeArgv (R := R) h (n.call L R (serverArgv addr))
    rw [call_server hpton] at hserver
    refine ⟨fun _ => ?_, huri, hsecctx⟩
    rw [hserver]
    exact ⟨rfl, rfl, hpton⟩
  · rw [if_neg hgiven]
    obtain ⟨-, huri, hsecctx⟩ := configured_nodeArgv (R := R) h n
    exact ⟨fun hsome => absurd hsome hgiven, huri, hsecctx⟩

lemma configArgv_ne_nil (hargv : argv ∈ configArgv args addr) : argv ≠ [] := by
  unfold configArgv serverArgv nodeArgv at hargv
  split at hargv <;> simp at hargv <;> grind

/-- The lines of the commands, which the shell splits into their arguments. -/
lemma foldl_hear_config (hsplits : R.Splits) {argvs : List (List Text)} (c : ℕ)
    (h : ∀ argv ∈ argvs, argv ≠ [] ∧ (∀ w ∈ argv, Word w) ∧ (joined argv).length < lineBufSize)
    (n : Node) : ((argvs.map joined).map (Sent.config c)).foldl (Node.hear L R) n =
      argvs.foldl (Node.call L R) n := by
  induction argvs generalizing n with
  | nil => rfl
  | cons argv argvs ih =>
    obtain ⟨⟨hne, hwords, hlength⟩, hrest⟩ := List.forall_mem_cons.mp h
    have hline : n.hear L R (.config c (joined argv)) = n.call L R argv := by
      change n.call L R (R.argv lineBufSize (joined argv)) = _
      rw [hsplits argv hne hwords hlength]
    rw [List.map_cons, List.map_cons, List.foldl_cons, List.foldl_cons, hline, ih hrest]

lemma configured_configCmds (hsplits : R.Splits) (h : Accepts L args addr) (c : ℕ) (n : Node) :
    Configured L args addr
      (((configCmds args addr).map (Sent.config c)).foldl (Node.hear L R) n) := by
  rw [configCmds_eq, foldl_hear_config hsplits c]
  · exact configured_configArgv h n
  · exact fun argv hargv => ⟨configArgv_ne_nil hargv, h.words argv hargv⟩

lemma state_query : (query L argv n.vars).state = n.vars := by
  have hends : Logged.Ends (query L argv) (fun _ t => t = n.vars) n.vars := by
    rw [Logged.ends_iff, query, family]
    simp
  exact hends

lemma state_dns : (Client.dns L argv n.vars).state = n.vars := by
  have hends : Logged.Ends (Client.dns L argv) (fun _ t => t = n.vars) n.vars := by
    rw [Logged.ends_iff, Client.dns, family]
    simp
  exact hends

/-- The commands of the page leave the node as it is. -/
lemma hear_query {q : Sent} (hq : IsQuery R q) : n.hear L R q = n := by
  cases q with
  | reset => cases hq
  | config => cases hq
  | configured => cases hq
  | user c cmd =>
    obtain ⟨k, hk, hfind⟩ := hq
    have hcall : n.hear L R (.user c cmd) = n.command L k (R.argv lineBufSize cmd) :=
      call_command hfind
    rw [hcall]
    unfold Node.command
    simp only [List.mem_cons, List.not_mem_nil, or_false] at hk
    obtain rfl | rfl | rfl := hk
    · rfl
    · exact congrArg (Node.mk · n.uri n.secctx) state_query
    · exact congrArg (Node.mk · n.uri n.secctx) state_dns

lemma foldl_hear_queries {queries : List Sent} (h : ∀ q ∈ queries, IsQuery R q) :
    queries.foldl (Node.hear L R) n = n := by
  induction queries with
  | nil => rfl
  | cons q queries ih =>
    obtain ⟨hq, hrest⟩ := List.forall_mem_cons.mp h
    rw [List.foldl_cons, hear_query hq, ih hrest]

/-- An address as the node prints it. -/
def IsAddr (addr : Text) : Prop :=
  addr ≠ [] ∧ ∀ c ∈ addr, (hexValue c).isSome = true ∨ c = ':'

/-- The address of the server that is configured: the given one, or one that was discovered. -/
def Served (args : Args) (addr : Text) : Prop :=
  args.serverAddr = some addr ∨ args.serverAddr = none ∧ IsAddr addr

/-- Where `config_node` is done, its commands have just been sent, with nothing in between. -/
def Whole (args : Args) (log : List Sent) : Prop :=
  ∀ before c after, log = before ++ .configured c :: after → ∃ earlier addr,
    Served args addr ∧ before = earlier ++ (configCmds args addr).map (.config c)

variable {U : Unicode} {log sent : List Sent} {c : ℕ}

lemma whole_of_notMem (h : ∀ c, .configured c ∉ log) : Whole args log := by
  intro before c after hlog
  apply absurd _ (h c)
  rw [hlog]
  exact List.mem_append_right before List.mem_cons_self

lemma Whole.append (h : Whole args log) (hsent : Whole args sent) : Whole args (log ++ sent) := by
  intro before c after hsplit
  obtain ⟨more, hmore, hrest⟩ | ⟨more, hmore, hrest⟩ := List.append_eq_append_iff.mp hsplit
  · obtain ⟨earlier, addr, haddr, hearlier⟩ := hsent more c after hrest
    refine ⟨log ++ earlier, addr, haddr, ?_⟩
    rw [hmore, hearlier, List.append_assoc]
  · cases more with
    | nil =>
      obtain ⟨earlier, addr, haddr, hearlier⟩ := hsent [] c after hrest.symm
      refine ⟨log ++ earlier, addr, haddr, ?_⟩
      rw [List.append_assoc, ← hearlier, hmore, List.append_nil, List.append_nil]
    | cons s more =>
      obtain ⟨rfl, -⟩ := List.cons.inj hrest
      exact h before c more hmore

lemma sendAll_all {cmds : List Text} {answers rest : Answers}
    (h : (sendAll cmds answers).2 = some rest) : (sendAll cmds answers).1 = cmds := by
  induction cmds generalizing answers with
  | nil => rfl
  | cons cmd cmds ih =>
    unfold sendAll at h ⊢
    by_cases hok : answers.ok = true
    · rw [if_pos hok] at h ⊢
      exact congrArg (cmd :: ·) (ih h)
    · rw [if_neg hok] at h
      cases h

lemma dnsServer_isAddr {reply : Text} (h : dnsServer U reply = some addr) : IsAddr addr := by
  obtain ⟨text, -, hhere⟩ := List.exists_of_findSome?_eq_some h
  unfold dnsServerHere at hhere
  dsimp only at hhere
  split at hhere
  case isFalse => cases hhere
  case isTrue =>
    split at hhere
    case h_2 => cases hhere
    case h_1 =>
      obtain ⟨⟨hne, -⟩, hsome⟩ := Option.ite_none_right_eq_some.mp hhere
      obtain rfl := Option.some.inj hsome
      refine ⟨hne, fun c hc => ?_⟩
      have hpred := List.mem_takeWhile_imp hc
      simpa using hpred

/-- What a handler leaves of its client and what it sends. -/
structure Run.Brings (args : Args) (r : Run) : Prop where
  sent : Whole args r.sent
  serverAddr : ∀ addr, r.serverAddr = some addr → Served args addr

lemma Run.Brings.after {r : Run} (h : r.Brings args) (hsent : Whole args sent) :
    (r.after sent).Brings args := ⟨hsent.append h.sent, h.serverAddr⟩

lemma whole_config (c : ℕ) (cmds : List Text) : Whole args (cmds.map (.config c)) := by
  apply whole_of_notMem
  intro d hmem
  obtain ⟨cmd, -, heq⟩ := List.mem_map.mp hmem
  cases heq

lemma whole_singleton {a : Sent} (h : ∀ c, a ≠ .configured c) : Whole args [a] := by
  apply whole_of_notMem
  intro c hmem
  exact h c (List.mem_singleton.mp hmem).symm

lemma eq_of_configured {cmds : List Text} {before after : List Sent} {d : ℕ}
    (h : cmds.map (.config c) ++ [.configured c, .user c switchCmd] =
      before ++ .configured d :: after) : d = c ∧ before = cmds.map (.config c) := by
  induction cmds generalizing before with
  | nil =>
    cases before with
    | nil => exact ⟨(Sent.configured.inj (List.cons.inj h).1).symm, rfl⟩
    | cons s before =>
      have hmem : Sent.configured d ∈ [Sent.user c switchCmd] := by
        rw [(List.cons.inj h).2]
        exact List.mem_append_right before List.mem_cons_self
      cases List.mem_singleton.mp hmem
  | cons cmd cmds ih =>
    cases before with
    | nil => cases (List.cons.inj h).1
    | cons s before =>
      obtain ⟨rfl, hrest⟩ := List.cons.inj h
      obtain ⟨hd, hbefore⟩ := ih hrest
      exact ⟨hd, congrArg (Sent.config c cmd :: ·) hbefore⟩

lemma whole_done (haddr : Served args addr) : Whole args
    ((configCmds args addr).map (.config c) ++ [.configured c, .user c switchCmd]) := by
  intro before d after hsplit
  obtain ⟨rfl, hbefore⟩ := eq_of_configured hsplit
  exact ⟨[], addr, haddr, hbefore⟩

lemma finish_brings {again : ℕ} {kept : Option Text} {answers : Answers} {next : Answers → Run}
    (haddr : Served args addr) (hkept : ∀ addr, kept = some addr → Served args addr)
    (hnext : ∀ rest, (next rest).Brings args) :
    (finish c (configCmds args addr) again kept answers next).Brings args := by
  unfold finish
  dsimp only
  split
  case h_1 => exact ⟨whole_config c _, hkept⟩
  case h_2 rest hrest =>
    rw [sendAll_all hrest]
    split
    · exact (hnext rest.tail).after (whole_done haddr)
    · exact ⟨whole_done haddr, hkept⟩

lemma discoverThen_brings {again : ℕ} {kept : Option Text} {answers : Answers}
    {next : Answers → Run} (hkept : ∀ addr, kept = some addr → Served args addr)
    (hnext : ∀ rest, (next rest).Brings args) :
    (discoverThen U args c again kept answers next).Brings args := by
  unfold discoverThen
  split
  case h_1 given hgiven =>
    have hcmds : setServerCmd given :: nodeCmds args.userctx given = configCmds args given := by
      unfold configCmds
      rw [hgiven]
      rfl
    rw [hcmds]
    exact finish_brings (.inl hgiven) hkept hnext
  case h_2 hgiven =>
    split
    case h_1 found =>
      have hcmds : nodeCmds args.userctx found = configCmds args found := by
        unfold configCmds
        rw [hgiven]
        rfl
      rw [hcmds]
      exact finish_brings (hkept found rfl) hkept hnext
    case h_2 =>
      have hserver : Whole args [Sent.config c serverCmd] := whole_singleton nofun
      split
      · exact ⟨hserver, fun addr haddr => .inr ⟨hgiven, dnsServer_isAddr haddr⟩⟩
      · exact ⟨hserver, nofun⟩

lemma discover_brings {again : ℕ} {kept : Option Text}
    (hkept : ∀ addr, kept = some addr → Served args addr) (answers : Answers) :
    (discover U args c again kept answers).Brings args := by
  induction again generalizing answers with
  | zero => exact discoverThen_brings hkept fun _ => ⟨whole_of_notMem fun _ => nofun, hkept⟩
  | succ again ih =>
    exact discoverThen_brings hkept fun rest => (ih rest).after (whole_singleton nofun)

lemma configNode_brings {kept : Option Text} (hkept : ∀ addr, kept = some addr → Served args addr)
    (again : ℕ) (answers : Answers) : (configNode U args c again kept answers).Brings args :=
  (discover_brings hkept answers).after (whole_singleton nofun)

/-! ### Runs -/

/-- The log of a run, and the addresses that the clients know. -/
structure Terminal.Keeps (args : Args) (s : Terminal) : Prop where
  log : Whole args s.log
  serverAddr : ∀ cl ∈ s.clients, ∀ addr, cl.serverAddr = some addr → Served args addr

lemma keeps_init : Terminal.init.Keeps args := ⟨whole_of_notMem fun _ => nofun, nofun⟩

variable {s t : Terminal} {cl : Client}

lemma Terminal.Keeps.goOn (h : s.Keeps args) {r : Run} (hr : r.Brings args) :
    (s.goOn c cl r).Keeps args where
  log := h.log.append hr.sent
  serverAddr d hd := by
    obtain hd | rfl := List.mem_or_eq_of_mem_set hd
    · exact h.serverAddr d hd
    · exact hr.serverAddr

/-- A step that sends one command of a user, or nothing. -/
lemma Terminal.Keeps.idle (h : s.Keeps args) (hcl : cl ∈ s.clients) (phase : Phase)
    (hsent : sent = [] ∨ ∃ cmd, sent = [.user c cmd]) :
    (s.goOn c cl ⟨phase, cl.serverAddr, sent⟩).Keeps args := by
  refine h.goOn ⟨?_, h.serverAddr cl hcl⟩
  obtain rfl | ⟨cmd, rfl⟩ := hsent
  · exact whole_of_notMem fun _ => nofun
  · exact whole_singleton nofun

lemma Terminal.Keeps.resume (h : s.Keeps args) (hcl : cl ∈ s.clients) {answers : Answers}
    (hs : s.resume U args c cl answers = some t) : t.Keeps args := by
  have haddr := h.serverAddr cl hcl
  unfold Terminal.resume at hs
  split at hs
  case h_1 =>
    obtain rfl := Option.some.inj hs
    unfold Terminal.opened
    split
    · exact h.idle hcl _ (.inr ⟨_, rfl⟩)
    · have hgoOn : (s.goOn c cl (configNode U args c 0 cl.serverAddr answers)).Keeps args :=
        h.goOn (configNode_brings haddr 0 answers)
      exact ⟨hgoOn.log, hgoOn.serverAddr⟩
  case h_2 =>
    obtain rfl := Option.some.inj hs
    exact h.goOn (discover_brings haddr answers)
  case h_3 =>
    obtain rfl := Option.some.inj hs
    exact h.goOn (configNode_brings haddr _ answers)
  case h_4 => cases hs

lemma Terminal.Keeps.wrote (h : s.Keeps args) (hcl : cl ∈ s.clients) {ok : Bool}
    {answers : Answers} (hs : s.wrote U args c cl ok answers = some t) : t.Keeps args := by
  unfold Terminal.wrote at hs
  split at hs
  case h_1 =>
    split at hs
    · split at hs
      · obtain rfl := Option.some.inj hs
        exact h.goOn (configNode_brings (h.serverAddr cl hcl) 0 answers)
      · obtain rfl := Option.some.inj hs
        exact h.idle hcl _ (.inl rfl)
    · obtain rfl := Option.some.inj hs
      exact h.idle hcl _ (.inl rfl)
  case h_2 => cases hs

lemma Terminal.Keeps.message (h : s.Keeps args) (hcl : cl ∈ s.clients) (text : Text)
    (answers : Answers) : (s.message U args c cl text answers).Keeps args := by
  unfold Terminal.message
  dsimp only
  split
  · exact h.idle hcl _ (.inr ⟨text, rfl⟩)
  · apply h.goOn
    exact (configNode_brings (h.serverAddr cl hcl) _ _).after (whole_singleton nofun)

theorem Terminal.Keeps.step {e : Event} (h : s.Keeps args)
    (hs : (Terminal.system U args).step s e = some t) : t.Keeps args := by
  have hmem : ∀ {d : ℕ} {cl : Client}, s.client d = some cl → cl ∈ s.clients :=
    fun hcl => List.mem_of_getElem? hcl
  cases e with
  | connect =>
    obtain rfl := Option.some.inj hs
    refine ⟨h.log, fun cl hcl addr haddr => ?_⟩
    obtain hold | hnew := List.mem_append.mp hcl
    · exact h.serverAddr cl hold addr haddr
    · rw [List.mem_singleton.mp hnew] at haddr
      exact .inl haddr
  | resume d answers =>
    obtain ⟨cl, hcl, hs⟩ := Option.bind_eq_some_iff.mp hs
    exact h.resume (hmem hcl) hs
  | wrote d ok answers =>
    obtain ⟨cl, hcl, hs⟩ := Option.bind_eq_some_iff.mp hs
    exact h.wrote (hmem hcl) hs
  | message d text answers =>
    obtain ⟨cl, hcl, hs⟩ := Option.bind_eq_some_iff.mp hs
    obtain ⟨-, hs⟩ := Option.ite_none_right_eq_some.mp hs
    obtain rfl := Option.some.inj hs
    exact h.message (hmem hcl) text answers
  | close d =>
    obtain ⟨cl, hcl, rfl⟩ := Option.map_eq_some_iff.mp hs
    refine ⟨h.log, fun other hother => ?_⟩
    obtain hold | rfl := List.mem_or_eq_of_mem_set hother
    · exact h.serverAddr other hold
    · exact h.serverAddr cl (hmem hcl)

/-- Whoever is through with `config_node`, the commands after the discovery were sent in one piece.
Whatever the node was told before, from then on it has the URI of the server and exactly the given
context, as long as it is only sent what the page sends. -/
theorem configured_node (hsplits : R.Splits) {es : List Event}
    (hrun : (Terminal.system U args).run .init es = some s) {before after : List Sent}
    (hlog : s.log = before ++ .configured c :: after) :
    ∃ earlier addr, Served args addr ∧
      before = earlier ++ (configCmds args addr).map (Sent.config c) ∧
      (Accepts L args addr → ∀ n queries, (∀ q ∈ queries, IsQuery R q) →
        Configured L args addr (((configCmds args addr).map (Sent.config c) ++
          Sent.configured c :: queries).foldl (Node.hear L R) n)) := by
  have hkeeps : s.Keeps args := (TransitionSystem.reach_of_run (TransitionSystem.meets_true _ es)
    hrun).invariant keeps_init fun _ _ _ h _ hs => h.step hs
  obtain ⟨earlier, addr, haddr, hbefore⟩ := hkeeps.log before c after hlog
  refine ⟨earlier, addr, haddr, hbefore, fun haccepts n queries hqueries => ?_⟩
  rw [List.foldl_append, List.foldl_cons, foldl_hear_queries hqueries]
  exact configured_configCmds hsplits haccepts c n

/-- The context of `main`. -/
def mainUserctx : Userctx where
  algNum := "10".toList
  commonIv := "85694ff94440dc9bc07cd15ce3".toList
  senderId := "11".toList
  senderKey := "4b2e72cc1fbc599eae2d8598041ef84a".toList
  recipientId := "01".toList
  recipientKey := "e7bf5cfe6339302a7aae30caf46f6a38".toList

def fdServer : Text := "fd00::1".toList

def mainArgs : Args := ⟨mainUserctx, some fdServer⟩

/-- `fd00::1` -/
def fdAddr : Vector UInt8 16 :=
  Vector.ofFn fun i => if i.val = 0 then 0xfd else if i.val = 15 then 1 else 0

def mainLibs : Libs :=
  { acceptingLibs with
    inetPton := fun text old => if text = fdServer then (true, fdAddr) else (false, old) }

/-- A shell that splits at spaces and knows no quotes. -/
def plainShell : RiotShell where
  argv size text := if text.length < size then text.splitOn ' ' else []
  other _ n := n

lemma plainShell_splits : plainShell.Splits := by
  intro argv hne hwords hlength
  have hspace : ∀ w ∈ argv, ' ' ∉ w := by
    intro w hw hmem
    have hle := ((hwords w hw).2 ' ' hmem).1
    exact absurd hle (by decide)
  change (if (joined argv).length < lineBufSize then (joined argv).splitOn ' ' else []) = argv
  rw [if_pos hlength]
  exact List.splitOn_intercalate _ hspace hne

lemma accepts_mainArgs : Accepts mainLibs mainArgs fdServer where
  userctx :=
    { algNum := by decide
      commonIv := by decide
      idLen := fun p => by cases p <;> decide
      id := fun p => by cases p <;> decide
      key := fun p => by cases p <;> decide }
  words := by decide
  inetPton _ := by
    refine ⟨fdAddr, fun old => ?_⟩
    change (if fdServer = fdServer then (true, fdAddr) else (false, old)) = _
    rw [if_pos rfl]
  uriSet := Int.le_refl 0
  setSecctx _ _ := Int.le_refl 0

/-- What the first client sends before it is through with `config_node`. -/
def firstSent : List Sent :=
  Sent.reset 0 :: (configCmds mainArgs fdServer).map (Sent.config 0)

lemma isQuery_switch : IsQuery plainShell (.user 0 switchCmd) := by
  have hargv : plainShell.argv lineBufSize switchCmd = [switchCmd] := by
    have hsplit := plainShell_splits [switchCmd] (List.cons_ne_nil _ _)
    rw [List.forall_mem_singleton, joined_singleton] at hsplit
    exact hsplit (by decide) (by decide)
  refine ⟨.switch, List.mem_cons_self, ?_⟩
  rw [hargv]
  rfl

/-- The first client configures the node. -/
theorem configured_node_first : ∃ s,
    (Terminal.system ⟨fun _ => false, fun _ => none⟩ mainArgs).run .init
      [.connect, .resume 0 (List.replicate 7 (some []))] = some s ∧
    s.log = firstSent ++ .configured 0 :: [.user 0 switchCmd] ∧
    Configured mainLibs mainArgs fdServer
      (s.log.foldl (Node.hear mainLibs plainShell) .boot) := by
  have hsent : ((Terminal.system ⟨fun _ => false, fun _ => none⟩ mainArgs).run .init
      [.connect, .resume 0 (List.replicate 7 (some []))]).map Terminal.log =
        some (firstSent ++ .configured 0 :: [.user 0 switchCmd]) := by decide +kernel
  obtain ⟨s, hrun, hlog⟩ := Option.map_eq_some_iff.mp hsent
  obtain ⟨earlier, addr, haddr, -, hconfigured⟩ :=
    configured_node (L := mainLibs) plainShell_splits hrun hlog
  obtain rfl : fdServer = addr := by
    obtain hgiven | ⟨hnone, -⟩ := haddr
    · exact Option.some.inj hgiven
    · cases hnone
  refine ⟨s, hrun, hlog, ?_⟩
  rw [hlog]
  unfold firstSent
  rw [List.cons_append, List.foldl_cons]
  apply hconfigured accepts_mainArgs .boot [.user 0 switchCmd]
  intro q hq
  rw [List.mem_singleton.mp hq]
  exact isQuery_switch

end Webterminal

end RiotPlayground
