import WirelessProgrammer.Link.Netcfg

/-!
# Local delivery

While the exception for a Soft-AP is installed and removed again, `lookup local` moves from one preference to another: a copy
is added and then the other rule is deleted.  The deletion does not depend on the success of the addition.  `local_kept_iff`
says for which runs, with any commands failing, there is a `lookup local` rule at every point.
-/

namespace WirelessProgrammer.Netcfg

open Effect

variable {net : Net} {tr : List (Event NetOp NetOp.Res)}

def HasLocal (rules : List Rule) : Prop := ∃ r ∈ rules, r.table = RT_TABLE_LOCAL

private theorem hasLocal_iff {rules : List Rule} : HasLocal rules ↔ localPrefs rules ≠ 0 := by
  rw [Ne, Multiset.eq_zero_iff_forall_notMem]
  constructor
  · rintro ⟨r, hr, htable⟩ hnone
    exact hnone r.pref (mem_localPrefs.2 ⟨r, hr, htable, rfl⟩)
  · intro h
    by_contra hnone
    refine h fun p hp => ?_
    obtain ⟨r, hr, htable, -⟩ := mem_localPrefs.1 hp
    exact hnone ⟨r, hr, htable⟩

private theorem HasLocal.of_mem {rules : List Rule} {p : Nat} (h : p ∈ localPrefs rules) : HasLocal rules := by
  rw [hasLocal_iff]
  rintro hnone
  rw [hnone] at h
  exact Multiset.notMem_zero _ h

/-! ### Moving `lookup local` -/

/-- The copy of `lookup local` that is offered. -/
def offered : NetOp → Option Nat
  | .ip (.ruleAdd (.local p)) => some p
  | _ => none

/-- The host's settings, and the copy of `lookup local` that has just been offered. -/
abbrev Delivery := Net × Option Nat

/-- A `lookup local` rule is deleted only when a copy elsewhere has just been offered, or when there is another one. -/
def delivery : Protocol NetOp NetOp.Res Delivery where
  allowed g o := ∀ q, o = .ip (.ruleDel (.local q)) →
    (∃ p, g.2 = some p ∧ p ≠ q) ∨ ∃ p ∈ localPrefs g.1.rules, p ≠ q
  answers _ _ _ := True
  next g o r := (g.1.next o r, offered o)

private theorem delivery_after (o : Option Nat) : (delivery.after (net, o) tr).1 = net.after tr := by
  induction tr generalizing net o with
  | nil => rfl
  | cons e tr ih => exact ih _

/-- An offer is that of the last operation. -/
theorem offered_after {p : Nat} (h : (delivery.after (net, none) tr).2 = some p) :
    ∃ t r, tr = t ++ [⟨.ip (.ruleAdd (.local p)), r⟩] := by
  rcases List.eq_nil_or_concat tr with rfl | ⟨t, ⟨o, r⟩, rfl⟩
  · cases h
  rw [List.concat_eq_append, Protocol.after_concat] at h
  rw [List.concat_eq_append]
  cases o with
  | ip cmd =>
    cases cmd with
    | ruleAdd a =>
      cases a with
      | «local» p' =>
        cases h
        exact ⟨t, r, rfl⟩
      | exception => cases h
    | _ => cases h
  | _ => cases h

/-- The last `lookup local` rule is deleted although its copy has not been added. -/
def Cut (net : Net) (tr : List (Event NetOp NetOp.Res)) : Prop :=
  ∃ t₁ p q added deleted t₂,
    tr = t₁ ++ ⟨.ip (.ruleAdd (.local p)), added⟩ :: ⟨.ip (.ruleDel (.local q)), deleted⟩ :: t₂ ∧
      succeeded added = false ∧ succeeded deleted = true ∧ localPrefs (net.after t₁).rules = {q}

/-- A step keeps the `lookup local` rules, or is the successful deletion of one. -/
theorem localPrefs_next (net : Net) (e : Event NetOp NetOp.Res) :
    localPrefs net.rules ≤ localPrefs (net.next e.1 e.2).rules ∨
      ∃ q r, e = ⟨.ip (.ruleDel (.local q)), r⟩ ∧ succeeded r = true ∧
        localPrefs (net.next e.1 e.2).rules = (localPrefs net.rules).erase q := by
  obtain ⟨o, r⟩ := e
  cases o with
  | ip cmd =>
    by_cases hr : succeeded r = true
    · have hnext : net.next (.ip cmd) r = { net with rules := cmd.edit net.rules } := if_pos hr
      rw [hnext]
      rcases cmd with _ | (_ | p) | (_ | q) | _ | _ | _ | _
      · exact .inl le_rfl
      · exact .inl (localPrefs_insert_exception ..).ge
      · exact .inl ((Multiset.le_cons_self ..).trans (localPrefs_insert_local ..).ge)
      · exact .inl (localPrefs_delete_exception ..).ge
      · exact .inr ⟨q, r, rfl, hr, localPrefs_delete_local ..⟩
      all_goals exact .inl le_rfl
    · have hnext : net.next (.ip cmd) r = net := if_neg hr
      rw [hnext]
      exact .inl le_rfl
  | writeConf => cases r <;> exact .inl le_rfl
  | _ => exact .inl le_rfl

/-- What is left of several rules, or of one elsewhere, when one is deleted. -/
theorem erase_ne_zero {m : Multiset Nat} {q : Nat} (h0 : m ≠ 0) (hq : m ≠ {q}) : m.erase q ≠ 0 := by
  intro hnone
  by_cases hmem : q ∈ m
  · have hcons := Multiset.cons_erase hmem
    rw [hnone] at hcons
    exact hq hcons.symm
  · exact h0 (Multiset.erase_of_notMem hmem ▸ hnone)

/-- Along a run that follows the protocol, `lookup local` is there at every point unless it is cut. -/
theorem hasLocal_of_respected (hr : delivery.Respected (net, none) tr) (h0 : HasLocal net.rules) (hcut : ¬ Cut net tr)
    {t : List (Event NetOp NetOp.Res)} (ht : t <+: tr) : HasLocal (net.after t).rules := by
  induction t using List.reverseRecOn with
  | nil => exact h0
  | append_singleton t e ih =>
    have hhas := hasLocal_iff.1 (ih ((List.prefix_append ..).trans ht))
    obtain ⟨t', rfl⟩ := ht
    rw [Net.after_concat]
    rcases localPrefs_next (net.after t) e with hle | ⟨q, r, rfl, hdel, hnext⟩
    · exact hasLocal_iff.2 fun hnone => hhas (Multiset.le_zero.1 (hnone ▸ hle))
    have hother {p : Nat} (hp : p ∈ localPrefs (net.after t).rules) (hpq : p ≠ q) :
        HasLocal ((net.after t).next (.ip (.ruleDel (.local q))) r).rules := by
      refine HasLocal.of_mem ((?_ : p ∈ _))
      rw [hnext]
      exact (Multiset.mem_erase_of_ne hpq).2 hp
    have hallowed : delivery.allowed (delivery.after (net, none) t) (.ip (.ruleDel (.local q))) :=
      Protocol.Respected.allowed (show delivery.Respected _ (t ++ ⟨.ip (.ruleDel (.local q)), r⟩ :: t') by simpa using hr)
    rcases hallowed q rfl with ⟨p, hoffer, hpq⟩ | ⟨p, hp, hpq⟩
    · obtain ⟨t₁, added, rfl⟩ := offered_after hoffer
      by_cases hadd : succeeded added = true
      · refine hother ?_ hpq
        rw [Net.after_concat, show (net.after t₁).next (.ip (.ruleAdd (.local p))) added = _ from if_pos hadd]
        show p ∈ localPrefs (insertRule _ _)
        rw [localPrefs_insert_local]
        exact Multiset.mem_cons_self ..
      · have hsame : net.after (t₁ ++ [⟨.ip (.ruleAdd (.local p)), added⟩]) = net.after t₁ := by
          rw [Net.after_concat]
          exact if_neg hadd
        rw [hasLocal_iff, hnext]
        refine erase_ne_zero hhas fun hlast => hcut ?_
        rw [hsame] at hlast
        exact ⟨t₁, p, q, added, r, t', by simp, by simpa using hadd, hdel, hlast⟩
    · rw [delivery_after] at hp
      exact hother hp hpq

/-- A cut leaves no `lookup local` rule. -/
theorem Cut.not_hasLocal (h : Cut net tr) : ∃ t, t <+: tr ∧ ¬ HasLocal (net.after t).rules := by
  obtain ⟨t₁, p, q, added, deleted, t₂, rfl, hadd, hdel, hlast⟩ := h
  refine ⟨t₁ ++ [⟨.ip (.ruleAdd (.local p)), added⟩] ++ [⟨.ip (.ruleDel (.local q)), deleted⟩], ⟨t₂, by simp⟩, ?_⟩
  have hsame : (net.after t₁).next (.ip (.ruleAdd (.local p))) added = net.after t₁ := if_neg (by simp [hadd])
  have hnext : (net.after t₁).next (.ip (.ruleDel (.local q))) deleted =
      { net.after t₁ with rules := deleteRule (.local q) (net.after t₁).rules } := if_pos hdel
  rw [hasLocal_iff, not_not, Net.after_concat, Net.after_concat, hsame, hnext, localPrefs_delete_local, hlast]
  exact Multiset.erase_singleton q

/-! ### The policy route -/

/-- Anything but the deletion of a `lookup local` rule. -/
def Plain (o : NetOp) : Prop := ∀ q, o ≠ .ip (.ruleDel (.local q))

/-- `lookup local` is at the preference of the exception. -/
def AtFront (g : Delivery) : Prop := SOFTAP_RULE_PREF ∈ localPrefs g.1.rules

private theorem delivery_plain {o : NetOp} (ho : Plain o) (g : Delivery) (hg : AtFront g) :
    delivery.allowed g o ∧ ∀ r, AtFront (delivery.next g o r) := by
  refine ⟨fun q h => absurd h (ho q), fun r => ?_⟩
  rcases localPrefs_next g.1 ⟨o, r⟩ with hle | ⟨q, r', he, -, -⟩
  · exact Multiset.mem_of_le hle hg
  · cases he
    exact absurd rfl (ho q)

variable {α β : Type} {Q : β → Delivery → Prop} {g : Delivery}

/-- Code that leaves the `lookup local` rules alone. -/
theorem follows_plain {p : NetM α} {f : α → NetM β} (hp : p.All Plain) (hg : AtFront g)
    (hf : ∀ a g, AtFront g → (f a).Follows delivery Q g) : (p >>= f).Follows delivery Q g :=
  (hp.keeps (fun _ ho => delivery_plain ho) hg).bind hf

private theorem ip_plain {cmd : Ip} (h : ∀ q, cmd ≠ .ruleDel (.local q)) : (ip cmd).All Plain :=
  .bind (.perform fun q hq => h q (NetOp.ip.inj hq)) fun _ => .ret _

private theorem ipStdout_plain {cmd : Ip} (h : ∀ q, cmd ≠ .ruleDel (.local q)) : (ipStdout cmd).All Plain := by
  refine .bind (.perform fun q hq => h q (NetOp.ip.inj hq)) fun out => ?_
  cases out <;> exact .ret _

private theorem addException_plain (source host : String) : (addException source host).All Plain := by
  refine .bind (ip_plain nofun) fun added => ?_
  cases added <;> exact .ret _

/-- Follows the protocol, wherever it ends. -/
abbrev Delivers (p : NetM α) (g : Delivery) : Prop := p.Follows delivery (fun _ _ => True) g

private theorem delivers_plain {p : NetM α} (h : p.All Plain) : Delivers p g :=
  h.keeps (fun _ ho _ _ => ⟨fun q hq => absurd hq (ho q), fun _ => trivial⟩) trivial

private theorem Delivers.bind {p : NetM α} {f : α → NetM β} (hp : Delivers p g) (hf : ∀ a g', Delivers (f a) g') :
    Delivers (p >>= f) g := Prog.Follows.bind hp fun a g' _ => hf a g'

private theorem parkLocal_delivers (hg : AtFront g) : Delivers parkLocal g := by
  have hadd : Plain (.ip (.ruleAdd (.local LOCAL_PARK_PREF))) := nofun
  refine follows_ip.2 ⟨fun q h => absurd h (hadd q), fun added _ => ?_⟩
  have hadded : AtFront (delivery.next g (.ip (.ruleAdd (.local LOCAL_PARK_PREF))) added) :=
    (delivery_plain hadd g hg).2 added
  refine follows_ip.2 ⟨fun q h => .inl ⟨LOCAL_PARK_PREF, rfl, ?_⟩, fun deleted _ => ?_⟩
  · cases h
    decide
  cases hdel : (Ip.ruleDel (.local SOFTAP_RULE_PREF)).result deleted with
  | ok u => trivial
  | error e =>
    have hfailed : ¬ succeeded deleted = true := fun h => nomatch (result_ok.2 h).symm.trans hdel
    refine follows_ip.2 ⟨fun q h => .inr ⟨SOFTAP_RULE_PREF, ?_, ?_⟩, fun _ _ => trivial⟩
    · show SOFTAP_RULE_PREF ∈ localPrefs (Net.next _ (.ip (.ruleDel (.local SOFTAP_RULE_PREF))) deleted).rules
      rw [show Net.next _ (.ip (.ruleDel (.local SOFTAP_RULE_PREF))) deleted = _ from if_neg hfailed]
      exact hadded
    · cases h
      decide

private theorem relocateLocal_delivers (hg : AtFront g) (host : String) : Delivers (relocateLocal host) g := by
  refine follows_plain (.perform nofun) hg fun isLocal g' hg' => ?_
  split
  · refine follows_plain (ipStdout_plain nofun) hg' fun rules g'' hg'' => ?_
    split
    · exact parkLocal_delivers hg''
    · trivial
  · trivial

private theorem installPolicyRoute_delivers (hg : AtFront g) (source host device : String) :
    Delivers (installPolicyRoute source host device) g := by
  refine follows_plain (ip_plain nofun) hg fun replaced g' hg' => ?_
  cases replaced with
  | error e => trivial
  | ok u =>
    refine follows_plain (addException_plain source host) hg' fun added g'' hg'' => ?_
    split
    · refine Delivers.bind (relocateLocal_delivers hg'' host) fun _ _ => delivers_plain ?_
      refine .bind (ip_plain nofun) fun _ => .bind (ipStdout_plain nofun) fun _ => ?_
      exact .bind (ipStdout_plain nofun) fun _ => .ret _
    · exact delivers_plain (.bind (ip_plain nofun) fun _ => .ret _)

private theorem unparkLocal_delivers (route : PolicyRoute) : Delivers (unparkLocal route) g := by
  unfold unparkLocal
  split
  · refine follows_ip.2 ⟨nofun, fun added _ => follows_ip.2 ⟨fun q h => .inl ⟨SOFTAP_RULE_PREF, rfl, ?_⟩, fun _ _ => trivial⟩⟩
    cases h
    decide
  · trivial

private theorem removePolicyRoute_delivers (route : PolicyRoute) : Delivers (removePolicyRoute route) g := by
  refine Delivers.bind (delivers_plain (ip_plain nofun)) fun _ _ => ?_
  refine Delivers.bind (unparkLocal_delivers route) fun _ _ => ?_
  exact delivers_plain (.bind (ip_plain nofun) fun _ => .bind (ip_plain nofun) fun _ => .ret _)

/-- Whatever commands fail while the exception is installed and removed again, `lookup local` is there at every point if
and only if the last such rule is never deleted after its copy has failed to be added. -/
theorem local_kept_iff {source host device : String} {u : Unit}
    (h : Prog.Run (installPolicyRoute source host device >>= removePolicyRoute) tr u)
    (h0 : SOFTAP_RULE_PREF ∈ localPrefs net.rules) :
    (∀ t, t <+: tr → HasLocal (net.after t).rules) ↔ ¬ Cut net tr := by
  have hg : AtFront (net, none) := h0
  have hfollows : Delivers (installPolicyRoute source host device >>= removePolicyRoute) (net, none) :=
    Delivers.bind (installPolicyRoute_delivers hg source host device) fun route _ => removePolicyRoute_delivers route
  have hr := (hfollows.run h (Protocol.answered_of_forall (fun _ _ _ => trivial) _ _)).1
  constructor
  · rintro hkept hcut
    obtain ⟨t, ht, hnone⟩ := hcut.not_hasLocal
    exact hnone (hkept t ht)
  · exact fun hcut t ht => hasLocal_of_respected hr (.of_mem h0) hcut ht

/-! ### Runs on a host that owns the address of the device -/

def hostNet : Net := ⟨fun _ _ => none, [⟨0, none, none, "", RT_TABLE_LOCAL⟩, ⟨32766, none, none, "", 254⟩], fun _ => true⟩

private def exceptional : List Rule := insertRule (RuleArgs.exception "192.168.4.2" "192.168.4.1").rule hostNet.rules

private def done : Except String Output := .ok ⟨true, [], []⟩

/-- The exception is installed and removed again; the commands on the parked `lookup local` are answered as given. -/
def moving (parked removed : Except String Output) : List (Event NetOp NetOp.Res) :=
  [⟨.ip (.routeReplace "192.168.4.1/32" "wlan0" "192.168.4.2"), done⟩,
    ⟨.ip (.ruleAdd (.exception "192.168.4.2" "192.168.4.1")), done⟩, ⟨.isLocalAddress "192.168.4.1", true⟩,
    ⟨.ip .ruleList, .ok ⟨true, ruleList exceptional, []⟩⟩, ⟨.ip (.ruleAdd (.local 1)), parked⟩,
    ⟨.ip (.ruleDel (.local 0)), done⟩, ⟨.ip .routeFlushCache, done⟩, ⟨.ip .ruleList, done⟩,
    ⟨.ip (.routeGet "192.168.4.1" "192.168.4.2"), done⟩,
    ⟨.ip (.ruleDel (.exception "192.168.4.2" "192.168.4.1")), done⟩, ⟨.ip (.ruleAdd (.local 0)), done⟩,
    ⟨.ip (.ruleDel (.local 1)), removed⟩, ⟨.ip .routeFlushTable, done⟩, ⟨.ip .routeFlushCache, done⟩]

private theorem run_moving (parked removed : Except String Output) :
    Prog.Run (installPolicyRoute "192.168.4.2" "192.168.4.1" "wlan0" >>= removePolicyRoute) (moving parked removed) () := by
  have hfront : parseLocalPref (Text.trim (ruleList exceptional)) = some 0 := by decide
  refine .op (.op (.op (.op ?_)))
  show Prog.Run (((if parseLocalPref (Text.trim (ruleList exceptional)) = some 0 then parkLocal else .ret false) >>=
    fun _ => _) >>= removePolicyRoute) _ _
  rw [if_pos hfront]
  exact .op (.op (.op (.op (.op (.op (.op (.op (.op (.op (.ret _))))))))))

/-- With no command failing, `lookup local` is there at every point. -/
theorem local_kept : SOFTAP_RULE_PREF ∈ localPrefs hostNet.rules ∧
    ∀ t, t <+: moving done done → HasLocal (hostNet.after t).rules := by
  refine ⟨by decide, (local_kept_iff (run_moving done done) (by decide)).2 ?_⟩
  rintro ⟨t₁, p, q, added, deleted, t₂, htr, hadd, -⟩
  have hmem : ⟨.ip (.ruleAdd (.local p)), added⟩ ∈ moving done done := by
    rw [htr]
    exact List.mem_append_right _ (List.mem_cons_self ..)
  have hdone : added = done := by
    simp only [moving, List.mem_cons, List.not_mem_nil, or_false] at hmem
    rcases hmem with h | h | h | h | h | h | h | h | h | h | h | h | h | h <;> cases h <;> rfl
  rw [hdone] at hadd
  cases hadd

/-- The copy of `lookup local` cannot be added, and the rule is deleted all the same. -/
theorem local_lost : ∃ tr, Prog.Run (installPolicyRoute "192.168.4.2" "192.168.4.1" "wlan0" >>= removePolicyRoute) tr () ∧
    SOFTAP_RULE_PREF ∈ localPrefs hostNet.rules ∧ ∃ t, t <+: tr ∧ ¬ HasLocal (hostNet.after t).rules := by
  let tr := moving (.error "Resource temporarily unavailable (os error 11)")
    (.ok ⟨false, [], "RTNETLINK answers: No such file or directory".toList⟩)
  have hcut : Cut hostNet tr := ⟨tr.take 4, 1, 0, _, _, tr.drop 6, rfl, rfl, rfl, rfl⟩
  exact ⟨tr, run_moving _ _, by decide, hcut.not_hasLocal⟩

end WirelessProgrammer.Netcfg
