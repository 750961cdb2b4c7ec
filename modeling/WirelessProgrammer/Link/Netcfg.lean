import WirelessProgrammer.Core
import WirelessProgrammer.Lib.Prog
import Mathlib.Data.Multiset.AddSub

/-!
# Network settings for a Soft-AP

What `prepare_softap` and `release` of the radio do to the host's IPv4 settings: the sysctls of the interface and of
`all`, and the rules that `ip` edits.  The functions are programs over reads and writes of sysctls and runs of `ip`;
`Net.next` is what a successful one does to the host.
-/

namespace WirelessProgrammer

open Effect

namespace Netcfg

/-! ### Rules -/

def RT_TABLE_LOCAL : Nat := 255

/-- Routing table of the exception for a Soft-AP. -/
def SOFTAP_TABLE : Nat := 100

def SOFTAP_RULE_PREF : Nat := 0

/-- Where `lookup local` is parked. -/
def LOCAL_PARK_PREF : Nat := 1

/-- A rule of the IPv4 policy database; `rest` is what is printed of the selector after the addresses. -/
structure Rule where
  pref : Nat
  src : Option String
  dst : Option String
  rest : String
  table : Nat
  deriving DecidableEq, Repr

/-- The rules that are added and deleted. -/
inductive RuleArgs
  | exception (src host : String)
  | local (pref : Nat)
  deriving DecidableEq, Repr

namespace RuleArgs

def args : RuleArgs → List String
  | exception src host =>
    ["pref", toString SOFTAP_RULE_PREF, "from", src, "to", host, "lookup", toString SOFTAP_TABLE]
  | .local pref => ["pref", toString pref, "table", "local"]

/-- The rule that is added. -/
def rule : RuleArgs → Rule
  | exception src host => ⟨SOFTAP_RULE_PREF, some src, some host, "", SOFTAP_TABLE⟩
  | .local pref => ⟨pref, none, none, "", RT_TABLE_LOCAL⟩

/-- The rules that can be deleted; a selector that is not given is not compared. -/
def selects : RuleArgs → Rule → Bool
  | exception src host, r =>
    r.pref = SOFTAP_RULE_PREF && r.src = some src && r.dst = some host && r.table = SOFTAP_TABLE
  | .local pref, r => r.pref = pref && r.table = RT_TABLE_LOCAL

end RuleArgs

/-- A rule is added behind those of its preference. -/
def insertRule (r : Rule) : List Rule → List Rule
  | [] => [r]
  | x :: l => if x.pref ≤ r.pref then x :: insertRule r l else r :: x :: l

/-- The first rule that is selected is deleted. -/
def deleteRule (a : RuleArgs) (l : List Rule) : List Rule := l.eraseP a.selects

/-- The preferences of the `lookup local` rules. -/
def localPrefs (l : List Rule) : Multiset Nat := ((l.filter (·.table = RT_TABLE_LOCAL)).map (·.pref) : List Nat)

section LocalPrefs

variable {l : List Rule}

theorem mem_localPrefs {p : Nat} : p ∈ localPrefs l ↔ ∃ r ∈ l, r.table = RT_TABLE_LOCAL ∧ r.pref = p := by
  simp only [localPrefs, Multiset.mem_coe, List.mem_map, List.mem_filter, decide_eq_true_eq, and_assoc]

private theorem insertRule_perm (r : Rule) (l : List Rule) : (insertRule r l).Perm (r :: l) := by
  induction l with
  | nil => rfl
  | cons x l ih =>
    unfold insertRule
    split
    · exact (ih.cons x).trans (.swap ..)
    · rfl

private theorem localPrefs_insertRule (r : Rule) (l : List Rule) : localPrefs (insertRule r l) = localPrefs (r :: l) :=
  Multiset.coe_eq_coe.2 (((insertRule_perm r l).filter _).map _)

@[simp] theorem localPrefs_insert_exception (source host : String) (l : List Rule) :
    localPrefs (insertRule (RuleArgs.exception source host).rule l) = localPrefs l := localPrefs_insertRule _ l

@[simp] theorem localPrefs_insert_local (p : Nat) (l : List Rule) :
    localPrefs (insertRule (RuleArgs.local p).rule l) = p ::ₘ localPrefs l := localPrefs_insertRule _ l

private theorem localPrefs_cons (x : Rule) (l : List Rule) :
    localPrefs (x :: l) = if x.table = RT_TABLE_LOCAL then x.pref ::ₘ localPrefs l else localPrefs l := by
  unfold localPrefs
  by_cases hx : x.table = RT_TABLE_LOCAL
  · rw [if_pos hx, List.filter_cons_of_pos (by simpa using hx)]
    rfl
  · rw [if_neg hx, List.filter_cons_of_neg (by simpa using hx)]

@[simp] theorem localPrefs_delete_exception (source host : String) (l : List Rule) :
    localPrefs (deleteRule (.exception source host) l) = localPrefs l := by
  induction l with
  | nil => rfl
  | cons x l ih =>
    unfold deleteRule at ih ⊢
    by_cases hx : (RuleArgs.exception source host).selects x = true
    · have htable : x.table ≠ RT_TABLE_LOCAL := by
        simp only [RuleArgs.selects, Bool.and_eq_true, decide_eq_true_eq] at hx
        rw [hx.2]
        decide
      rw [List.eraseP_cons_of_pos hx, localPrefs_cons, if_neg htable]
    · rw [List.eraseP_cons_of_neg hx, localPrefs_cons, localPrefs_cons, ih]

@[simp] theorem localPrefs_delete_local (p : Nat) (l : List Rule) :
    localPrefs (deleteRule (.local p) l) = (localPrefs l).erase p := by
  induction l with
  | nil => rfl
  | cons x l ih =>
    unfold deleteRule at ih ⊢
    by_cases hx : (RuleArgs.local p).selects x = true
    · obtain ⟨hpref, htable⟩ : x.pref = p ∧ x.table = RT_TABLE_LOCAL := by
        simpa [RuleArgs.selects] using hx
      rw [List.eraseP_cons_of_pos hx, localPrefs_cons, if_pos htable, hpref, Multiset.erase_cons_head]
    · rw [List.eraseP_cons_of_neg hx, localPrefs_cons, localPrefs_cons, ih]
      split
      · rename_i htable
        have hpref : x.pref ≠ p := fun h => hx (by simp [RuleArgs.selects, h, htable])
        rw [Multiset.erase_cons_tail _ hpref]
      · rfl

end LocalPrefs

def tableName (table : Nat) : List Char :=
  if table = RT_TABLE_LOCAL then "local".toList else if table = 254 then "main".toList
  else if table = 253 then "default".toList else Nat.toDigits 10 table

def Rule.line (r : Rule) : List Char :=
  let dst : List Char := match r.dst with
    | some dst => " to ".toList ++ dst.toList
    | none => []
  Nat.toDigits 10 r.pref ++ ":\tfrom ".toList ++ (r.src.getD "all").toList ++ dst ++ r.rest.toList ++ " lookup ".toList ++
    tableName r.table ++ ['\n']

/-- The output of `ip -4 rule list`. -/
def ruleList (l : List Rule) : List Char := l.flatMap Rule.line

/-- Preference of the first IPv4 `lookup local` rule, if any. -/
def parseLocalPref (text : List Char) : Option Nat := do
  let contains (pat : String) (line : List Char) : Bool := (Text.windowPosition pat.toList line).isSome
  let line ← ((Text.splitBy (· == '\n') text).map Text.trim).find? fun line =>
    contains "lookup local" line || contains "lookup 255" line
  let pref ← (Text.splitBy (· == ':') line).head?
  (Text.parseUnsigned 10 32 (Text.trim pref)).toOption

/-! ### Operations on the host -/

/-- The runs of `ip`. -/
inductive Ip
  | routeReplace (dest device src : String)
  | ruleAdd (a : RuleArgs)
  | ruleDel (a : RuleArgs)
  | routeFlushTable
  | routeFlushCache
  | ruleList
  | routeGet (host src : String)
  deriving DecidableEq, Repr

def Ip.args : Ip → List String
  | routeReplace dest device src =>
    ["route", "replace", "table", toString SOFTAP_TABLE, dest, "dev", device, "scope", "link", "src", src]
  | ruleAdd a => ["-4", "rule", "add"] ++ a.args
  | ruleDel a => ["-4", "rule", "del"] ++ a.args
  | routeFlushTable => ["route", "flush", "table", toString SOFTAP_TABLE]
  | routeFlushCache => ["route", "flush", "cache"]
  | ruleList => ["-4", "rule", "list"]
  | routeGet host src => ["-4", "route", "get", host, "from", src]

/-- What a successful run does to the rules. -/
def Ip.edit : Ip → List Rule → List Rule
  | ruleAdd a, l => insertRule a.rule l
  | ruleDel a, l => deleteRule a l
  | _, l => l

/-- What a run of `ip` has returned. -/
structure Output where
  success : Bool
  stdout : List Char
  stderr : List Char
  deriving DecidableEq, Repr

inductive NetOp
  | readConf (dev key : String)
  | writeConf (dev key value : String)
  | ip (cmd : Ip)
  | isLocalAddress (addr : String)
  deriving DecidableEq, Repr

abbrev NetOp.Res : NetOp → Type
  | readConf .. => Option String
  | writeConf .. => Except String Unit
  | ip _ => Except String Output
  | isLocalAddress _ => Bool

abbrev NetM := Prog NetOp NetOp.Res

/-- The settings of the host: its sysctls, its rules, and the addresses that it owns. -/
structure Net where
  conf : String → String → Option String
  rules : List Rule
  owned : String → Bool

def setConf (conf : String → String → Option String) (dev key value : String) : String → String → Option String :=
  fun d k => if d = dev ∧ k = key then some value else conf d k

/-- A run of `ip` that has done what it was asked to. -/
def succeeded : Except String Output → Bool
  | .ok out => out.success
  | .error _ => false

def Net.next (net : Net) : (o : NetOp) → o.Res → Net
  | .writeConf dev key value, .ok _ => { net with conf := setConf net.conf dev key value }
  | .ip cmd, r => if succeeded r then { net with rules := cmd.edit net.rules } else net
  | _, _ => net

def Net.after (net : Net) (tr : List (Event NetOp NetOp.Res)) : Net := tr.foldl (fun net e => net.next e.1 e.2) net

@[simp] theorem Net.after_nil (net : Net) : net.after [] = net := rfl

@[simp] theorem Net.after_concat (net : Net) (tr : List (Event NetOp NetOp.Res)) (e : Event NetOp NetOp.Res) :
    net.after (tr ++ [e]) = (net.after tr).next e.1 e.2 := List.foldl_concat ..

/-! ### What the code calls -/

def readConf (dev key : String) : NetM (Option String) := Prog.perform (NetOp.readConf dev key)

def writeConf (dev key value : String) : NetM (Except String Unit) := Prog.perform (NetOp.writeConf dev key value)

def isLocalAddress (addr : String) : NetM Bool := Prog.perform (NetOp.isLocalAddress addr)

def runIp (cmd : Ip) : NetM (Except String Output) := Prog.perform (NetOp.ip cmd)

/-! ### Running `ip` -/

/-- The result of `ip`. -/
def Ip.result (cmd : Ip) : Except String Output → Except String Unit
  | .error e => .error e
  | .ok out =>
    let args := " ".intercalate cmd.args
    let detail := String.ofList (Text.trim out.stderr)
    if out.success then .ok () else .error s!"ip {args} failed: {detail}"

def ip (cmd : Ip) : NetM (Except String Unit) := do
  let out ← runIp cmd
  return cmd.result out

theorem result_ok {cmd : Ip} {r : Except String Output} : cmd.result r = .ok () ↔ succeeded r = true := by
  cases r with
  | error e => exact ⟨nofun, nofun⟩
  | ok out =>
    show (if out.success then _ else _) = _ ↔ out.success = true
    cases out.success with
    | true => exact ⟨fun _ => rfl, fun _ => rfl⟩
    | false => exact ⟨(nomatch ·), (nomatch ·)⟩

theorem follows_ip {β G : Type} {P : Protocol NetOp NetOp.Res G} {Q : β → G → Prop} {cmd : Ip}
    {f : Except String Unit → NetM β} {g : G} : (ip cmd >>= f).Follows P Q g ↔ P.allowed g (.ip cmd) ∧
      ∀ r, P.answers g (.ip cmd) r → (f (cmd.result r)).Follows P Q (P.next g (.ip cmd) r) := Iff.rfl

def ipStdout (cmd : Ip) : NetM (List Char) := do
  match ← runIp cmd with
  | .ok out => return Text.trim out.stdout
  | .error _ => return []

def isExists (e : String) : Bool :=
  ["exists", "File exists", "error -17"].any fun pat => (Text.windowPosition pat.toList e.toList).isSome

/-! ### Policy route -/

/-- Fib-rule exception installed by `install_policy_route`. -/
structure PolicyRoute where
  source : String
  host : String
  relocatedLocal : Bool
  deriving DecidableEq, Repr

/-- Add the exception; it may be there already. -/
def addException (source host : String) : NetM Bool := do
  match ← ip (.ruleAdd (.exception source host)) with
  | .ok () => return true
  | .error e => return isExists e

/-- Move `lookup local` behind the exception; its copy is added first, whether or not that succeeds. -/
def parkLocal : NetM Bool := do
  let _ ← ip (.ruleAdd (.local LOCAL_PARK_PREF))
  match ← ip (.ruleDel (.local SOFTAP_RULE_PREF)) with
  | .ok () => return true
  | .error _ =>
    let _ ← ip (.ruleDel (.local LOCAL_PARK_PREF))
    return false

/-- Park `lookup local` if it is in the way of the exception. -/
def relocateLocal (host : String) : NetM Bool := do
  if ← isLocalAddress host then
    let rules ← ipStdout .ruleList
    if parseLocalPref rules = some 0 then parkLocal else return false
  else return false

/-- Install a host `/32` so packets from `source` to `host` go via `device`. -/
def installPolicyRoute (source host device : String) : NetM PolicyRoute := do
  match ← ip (.routeReplace s!"{host}/32" device source) with
  | .error _ => return ⟨source, host, false⟩
  | .ok () =>
    if ← addException source host then
      let relocated ← relocateLocal host
      let _ ← ip .routeFlushCache
      let _ ← ipStdout .ruleList
      let _ ← ipStdout (.routeGet host source)
      return ⟨source, host, relocated⟩
    else
      let _ ← ip .routeFlushTable
      return ⟨source, host, false⟩

/-- Restore `lookup local` at its preference, then remove the parked copy. -/
def unparkLocal (route : PolicyRoute) : NetM Unit := do
  if route.relocatedLocal then
    let _ ← ip (.ruleAdd (.local SOFTAP_RULE_PREF))
    let _ ← ip (.ruleDel (.local LOCAL_PARK_PREF))

/-- Drop the exception installed by `install_policy_route`. -/
def removePolicyRoute (route : PolicyRoute) : NetM Unit := do
  let _ ← ip (.ruleDel (.exception route.source route.host))
  unparkLocal route
  let _ ← ip .routeFlushTable
  let _ ← ip .routeFlushCache

/-! ### Sysctls -/

def ACCEPT_LOCAL : String := "accept_local"

def RP_FILTER : String := "rp_filter"

/-- Previous sysctl values: device, key and value of each changed one. -/
abbrev SavedConf := List (String × String × String)

/-- Set one sysctl, recording its previous value when it actually changes. -/
def apply (saved : SavedConf) (dev key want : String) : NetM SavedConf := do
  match ← readConf dev key with
  | none => return saved
  | some current =>
    if current = want then return saved
    else
      match ← writeConf dev key want with
      | .ok () => return saved ++ [(dev, key, current)]
      | .error _ => return saved

/-- `netcfg::prepare_softap`. -/
def prepareConf (dev : String) : NetM SavedConf := do
  let saved ← apply [] dev ACCEPT_LOCAL "1"
  let saved ← apply saved "all" ACCEPT_LOCAL "1"
  let saved ← apply saved dev RP_FILTER "0"
  apply saved "all" RP_FILTER "0"

/-- Put back every sysctl that was changed. -/
def restore (saved : SavedConf) : NetM Unit :=
  saved.reverse.forM fun (dev, key, value) => do
    let _ ← writeConf dev key value

end Netcfg

open Netcfg

/-! ### The radio -/

/-- What `Nl80211Radio` keeps of the host's settings. -/
structure Nl80211Radio where
  savedConf : SavedConf
  policy : Option PolicyRoute

namespace Nl80211Radio

def new : Nl80211Radio := ⟨[], none⟩

def prepareSoftap (iface source host : String) : NetM Nl80211Radio := do
  let saved ← prepareConf iface
  let route ← installPolicyRoute source host iface
  return ⟨saved, some route⟩

def removePolicy (radio : Nl80211Radio) : NetM Unit :=
  match radio.policy with
  | some route => removePolicyRoute route
  | none => return ()

def release (radio : Nl80211Radio) : NetM Nl80211Radio := do
  restore radio.savedConf
  radio.removePolicy
  return .new

end Nl80211Radio

end WirelessProgrammer
