import WirelessProgrammer.Link.Netcfg
import WirelessProgrammer.Lib.UndoSlot
import Mathlib.Data.Set.BooleanAlgebra
import Mathlib.Order.CompletePartialOrder

/-!
# Settings that come back

The radio keeps one record of what `prepare_softap` has changed, and `release` undoes what is recorded.  When every write and
every command succeeds, the sysctls and the place of `lookup local` come back if and only if no `prepare_softap` that has
changed them is followed by another one (`settings_restored_iff`).
-/

namespace WirelessProgrammer.Netcfg

open Effect

/-! ### Sysctls -/

abbrev Conf := String → String → Option String

/-- The sysctls that are set, in order. -/
def softapKeys (dev : String) : List (String × String) :=
  [(dev, ACCEPT_LOCAL), ("all", ACCEPT_LOCAL), (dev, RP_FILTER), ("all", RP_FILTER)]

def wanted (key : String) : String := if key = ACCEPT_LOCAL then "1" else "0"

/-- What `apply` does to the sysctls and to the record. -/
def applied (x : Conf × SavedConf) (t : String × String) : Conf × SavedConf :=
  match x.1 t.1 t.2 with
  | none => x
  | some current =>
    if current = wanted t.2 then x else (setConf x.1 t.1 t.2 (wanted t.2), x.2 ++ [(t.1, t.2, current)])

/-- What `restore` does to the sysctls. -/
def restored (conf : Conf) (saved : SavedConf) : Conf := saved.foldr (fun t conf => setConf conf t.1 t.2.1 t.2.2) conf

def preparedConf (dev : String) (conf : Conf) : Conf × SavedConf := (softapKeys dev).foldl applied (conf, [])

private theorem restored_applied (x : Conf × SavedConf) (t : String × String) :
    restored (applied x t).1 (applied x t).2 = restored x.1 x.2 := by
  unfold applied
  split
  · rfl
  rename_i current hcurrent
  split
  · rfl
  have hback : setConf (setConf x.1 t.1 t.2 (wanted t.2)) t.1 t.2 current = x.1 := by
    funext dev key
    unfold setConf
    split
    · rename_i h
      rw [h.1, h.2, hcurrent]
    · rfl
  show List.foldr _ _ (x.2 ++ [_]) = _
  rw [List.foldr_append]
  exact congrArg (restored · x.2) hback

/-- The record is enough to put back what was changed. -/
theorem restored_foldl (l : List (String × String)) (x : Conf × SavedConf) :
    restored (l.foldl applied x).1 (l.foldl applied x).2 = restored x.1 x.2 := by
  induction l generalizing x with
  | nil => rfl
  | cons t l ih => exact (ih _).trans (restored_applied x t)

private theorem restored_preparedConf (dev : String) (conf : Conf) :
    restored (preparedConf dev conf).1 (preparedConf dev conf).2 = conf := restored_foldl _ _

/-- A sysctl is left as it is, or set to what is wanted. -/
theorem applied_get (x : Conf × SavedConf) (t : String × String) (dev key : String) :
    (applied x t).1 dev key = x.1 dev key ∨ (applied x t).1 dev key = some (wanted key) := by
  unfold applied
  split
  · exact .inl rfl
  split
  · exact .inl rfl
  show setConf x.1 t.1 t.2 (wanted t.2) dev key = _ ∨ setConf x.1 t.1 t.2 (wanted t.2) dev key = _
  unfold setConf
  split
  · rename_i h
    exact .inr (by rw [h.2])
  · exact .inl rfl

private theorem foldl_applied_get (l : List (String × String)) (x : Conf × SavedConf) (dev key : String) :
    (l.foldl applied x).1 dev key = x.1 dev key ∨ (l.foldl applied x).1 dev key = some (wanted key) := by
  induction l generalizing x with
  | nil => exact .inl rfl
  | cons t l ih =>
    rcases ih (applied x t) with heq | hset
    · rw [List.foldl_cons, heq]
      exact applied_get x t dev key
    · exact .inr hset

/-- A sysctl that is there is set. -/
theorem foldl_applied_of_mem {l : List (String × String)} {x : Conf × SavedConf} {t : String × String} (ht : t ∈ l)
    {value : String} (h : x.1 t.1 t.2 = some value) : (l.foldl applied x).1 t.1 t.2 = some (wanted t.2) := by
  induction l generalizing x value with
  | nil => exact absurd ht List.not_mem_nil
  | cons u l ih =>
    by_cases hu : t = u
    · subst hu
      have hset : (applied x t).1 t.1 t.2 = some (wanted t.2) := by
        unfold applied
        rw [h]
        show (if value = wanted t.2 then x else _).1 t.1 t.2 = _
        split
        · rw [h, ‹value = wanted t.2›]
        · exact if_pos ⟨rfl, rfl⟩
      rcases foldl_applied_get l (applied x t) t.1 t.2 with heq | hwant
      · exact heq.trans hset
      · exact hwant
    · have hmem : t ∈ l := (List.mem_cons.1 ht).resolve_left hu
      rcases applied_get x u t.1 t.2 with heq | hwant
      · exact ih hmem (heq.trans h)
      · exact ih hmem hwant

/-- Sysctls that have the wanted values, or are missing, are left alone. -/
theorem foldl_applied_eq {l : List (String × String)} {x : Conf × SavedConf}
    (h : ∀ t ∈ l, ∀ value, x.1 t.1 t.2 = some value → value = wanted t.2) : l.foldl applied x = x := by
  induction l with
  | nil => rfl
  | cons t l ih =>
    have hx : applied x t = x := by
      unfold applied
      split
      · rfl
      · rename_i current hcurrent
        exact if_pos (h t (List.mem_cons_self ..) current hcurrent)
    rw [List.foldl_cons, hx]
    exact ih fun u hu => h u (List.mem_cons_of_mem _ hu)

/-! ### Rules -/

/-- `lookup local` is in the way of the exception, and there to be moved. -/
def Parks (net : Net) (source host : String) : Prop :=
  net.owned host = true ∧ SOFTAP_RULE_PREF ∈ localPrefs net.rules ∧
    parseLocalPref (Text.trim (ruleList (insertRule (RuleArgs.exception source host).rule net.rules))) = some 0

instance (net : Net) (source host : String) : Decidable (Parks net source host) := inferInstanceAs (Decidable (_ ∧ _ ∧ _))

/-- The rules after `install_policy_route`. -/
def preparedRules (net : Net) (source host : String) : List Rule :=
  let rules := insertRule (RuleArgs.exception source host).rule net.rules
  if Parks net source host then
    deleteRule (.local SOFTAP_RULE_PREF) (insertRule (RuleArgs.local LOCAL_PARK_PREF).rule rules)
  else rules

/-- The rules after `remove_policy_route`. -/
def removedRules (route : PolicyRoute) (rules : List Rule) : List Rule :=
  let rules := deleteRule (.exception route.source route.host) rules
  if route.relocatedLocal then
    deleteRule (.local LOCAL_PARK_PREF) (insertRule (RuleArgs.local SOFTAP_RULE_PREF).rule rules)
  else rules

private theorem localPrefs_preparedRules (net : Net) (source host : String) :
    localPrefs (preparedRules net source host) = if Parks net source host
      then LOCAL_PARK_PREF ::ₘ (localPrefs net.rules).erase SOFTAP_RULE_PREF else localPrefs net.rules := by
  unfold preparedRules
  split
  · rw [localPrefs_delete_local, localPrefs_insert_local, localPrefs_insert_exception,
      Multiset.erase_cons_tail _ (by decide)]
  · rw [localPrefs_insert_exception]

private theorem localPrefs_removedRules (route : PolicyRoute) (rules : List Rule) :
    localPrefs (removedRules route rules) = if route.relocatedLocal
      then SOFTAP_RULE_PREF ::ₘ (localPrefs rules).erase LOCAL_PARK_PREF else localPrefs rules := by
  unfold removedRules
  split
  · rw [localPrefs_delete_local, localPrefs_insert_local, localPrefs_delete_exception,
      Multiset.erase_cons_tail _ (by decide)]
  · rw [localPrefs_delete_exception]

/-! ### The slot -/

/-- What is observed of the settings: the sysctls that are set, and the places of `lookup local`. -/
def observed (dev : String) (net : Net) : (String × String → Option String) × Multiset Nat :=
  (fun t => if t ∈ softapKeys dev then net.conf t.1 t.2 else none, localPrefs net.rules)

def prepared (dev : String) (a : String × String) (net : Net) : Net :=
  { net with conf := (preparedConf dev net.conf).1, rules := preparedRules net a.1 a.2 }

def recorded (dev : String) (a : String × String) (net : Net) : Nl80211Radio :=
  ⟨(preparedConf dev net.conf).2, some ⟨a.1, a.2, decide (Parks net a.1 a.2)⟩⟩

def released (radio : Nl80211Radio) (net : Net) : Net :=
  { net with
    conf := restored net.conf radio.savedConf
    rules := match radio.policy with
      | some route => removedRules route net.rules
      | none => net.rules }

private theorem localPrefs_released_prepared (dev : String) (a : String × String) (net : Net) :
    localPrefs (released (recorded dev a net) (prepared dev a net)).rules = localPrefs net.rules := by
  show localPrefs (removedRules _ (preparedRules ..)) = _
  rw [localPrefs_removedRules, localPrefs_preparedRules]
  by_cases hparks : Parks net a.1 a.2
  · simp only [hparks, decide_true, if_true]
    rw [Multiset.erase_cons_head, Multiset.cons_erase hparks.2.1]
  · simp only [hparks, decide_false, if_false, Bool.false_eq_true]

/-- The radio's record as a slot for undoing. -/
def softapSlot (dev : String) : Undoing Net (String × String) Nl80211Radio
    ((String × String → Option String) × Multiset Nat) where
  act := prepared dev
  record := recorded dev
  undo := released
  idle := .new
  obs := observed dev
  undo_act a net := by
    refine Prod.ext ?_ (localPrefs_released_prepared dev a net)
    funext t
    have hconf : (released (recorded dev a net) (prepared dev a net)).conf = net.conf := restored_preparedConf dev net.conf
    show (if _ then Net.conf _ t.1 t.2 else none) = _
    rw [hconf]
    rfl
  undo_idle net := rfl

/-- How far the settings have moved: the sysctls that have the wanted value, and how often `lookup local` is parked. -/
def moved (x : (String × String → Option String) × Multiset Nat) : Set (String × String) × Nat :=
  ({t | x.1 t = some (wanted t.2)}, x.2.count LOCAL_PARK_PREF)

private theorem observed_prepared (dev : String) (a : String × String) (net : Net) (t : String × String) :
    (observed dev (prepared dev a net)).1 t = (observed dev net).1 t ∨
      (observed dev (prepared dev a net)).1 t = some (wanted t.2) := by
  by_cases ht : t ∈ softapKeys dev
  · simp only [observed, if_pos ht]
    exact foldl_applied_get ..
  · simp only [observed, if_neg ht]
    exact .inl trivial

/-- `prepare_softap` changes nothing that is observed, or moves it further. -/
theorem moved_prepared (dev : String) (a : String × String) (net : Net) :
    observed dev (prepared dev a net) = observed dev net ∨
      moved (observed dev net) < moved (observed dev (prepared dev a net)) := by
  have hprefs : localPrefs (prepared dev a net).rules = _ := localPrefs_preparedRules net a.1 a.2
  have hcount : (localPrefs (prepared dev a net).rules).count LOCAL_PARK_PREF =
      (localPrefs net.rules).count LOCAL_PARK_PREF + if Parks net a.1 a.2 then 1 else 0 := by
    rw [hprefs]
    split
    · rw [Multiset.count_cons_self, Multiset.count_erase_of_ne (by decide)]
    · rfl
  have hle : moved (observed dev net) ≤ moved (observed dev (prepared dev a net)) := by
    refine ⟨fun t ht => ?_, ?_⟩
    · rcases observed_prepared dev a net t with heq | hset
      · exact heq.trans ht
      · exact hset
    · exact (Nat.le_add_right ..).trans hcount.ge
  by_cases hge : moved (observed dev (prepared dev a net)) ≤ moved (observed dev net)
  · refine .inl (Prod.ext ?_ ?_)
    · funext t
      rcases observed_prepared dev a net t with heq | hset
      · exact heq
      · exact hset.trans (hge.1 hset).symm
    · have hstay : (localPrefs (prepared dev a net).rules).count LOCAL_PARK_PREF ≤ _ := hge.2
      have hparks : ¬ Parks net a.1 a.2 := by
        intro hparks
        rw [hcount, if_pos hparks] at hstay
        exact absurd hstay (Nat.not_succ_le_self _)
      exact hprefs.trans (if_neg hparks)
  · exact .inr (lt_of_le_not_ge hle hge)

/-! ### Successful calls -/

/-- What `ip` can do only when there is a rule to delete. -/
def Fits (rules : List Rule) : Ip → Prop
  | .ruleDel a => ∃ r ∈ rules, a.selects r = true
  | _ => True

/-- Every write and every command succeeds, and what is read is what is there. -/
def Succeeds (net : Net) : (o : NetOp) → o.Res → Prop
  | .readConf dev key, r => r = net.conf dev key
  | .writeConf .., r => r = .ok ()
  | .isLocalAddress addr, r => r = net.owned addr
  | .ip cmd, r => succeeded r = true ∧ Fits net.rules cmd ∧
      (cmd = .ruleList → ∀ out, r = .ok out → out.stdout = ruleList net.rules)

def succeeding : Protocol NetOp NetOp.Res Net where
  allowed _ _ := True
  answers := Succeeds
  next := Net.next

section

variable {α β : Type} {Q : β → Net → Prop} {net : Net}

private theorem follows_succeeding_ip {cmd : Ip} {f : Except String Unit → NetM β}
    (h : Fits net.rules cmd → (f (.ok ())).Follows succeeding Q { net with rules := cmd.edit net.rules }) :
    (ip cmd >>= f).Follows succeeding Q net := by
  refine follows_ip.2 ⟨trivial, fun r hr => ?_⟩
  rw [result_ok.2 hr.1, show succeeding.next net (.ip cmd) r = _ from if_pos hr.1]
  exact h hr.2.1

private theorem follows_isLocalAddress {addr : String} {f : Bool → NetM β}
    (h : (f (net.owned addr)).Follows succeeding Q net) : (isLocalAddress addr >>= f).Follows succeeding Q net := by
  refine Prog.follows_perform.2 ⟨trivial, fun r hr => ?_⟩
  obtain rfl : r = net.owned addr := hr
  exact h

private theorem follows_ruleList {f : List Char → NetM β}
    (h : (f (Text.trim (ruleList net.rules))).Follows succeeding Q net) :
    (ipStdout .ruleList >>= f).Follows succeeding Q net := by
  refine Prog.follows_perform.2 ⟨trivial, fun r hr => ?_⟩
  cases r with
  | error e => exact nomatch hr.1
  | ok out =>
    have hout : out.stdout = ruleList net.rules := hr.2.2 rfl out rfl
    rw [show succeeding.next net (.ip .ruleList) (.ok out) = net from if_pos hr.1]
    show (f (Text.trim out.stdout)).Follows _ _ _
    rwa [hout]

private theorem apply_follows (saved : SavedConf) (dev key : String) (net : Net) :
    (apply saved dev key (wanted key)).Follows succeeding (fun saved' net' =>
      saved' = (applied (net.conf, saved) (dev, key)).2 ∧
        net' = { net with conf := (applied (net.conf, saved) (dev, key)).1 }) net := by
  refine Prog.follows_perform.2 ⟨trivial, fun current hcurrent => ?_⟩
  obtain rfl : current = net.conf dev key := hcurrent
  cases hconf : net.conf dev key with
  | none =>
    have happlied : applied (net.conf, saved) (dev, key) = (net.conf, saved) := by simp [applied, hconf]
    rw [happlied]
    exact ⟨rfl, rfl⟩
  | some current =>
    by_cases hwant : current = wanted key
    · have happlied : applied (net.conf, saved) (dev, key) = (net.conf, saved) := by simp [applied, hconf, hwant]
      rw [happlied]
      simp only [if_pos hwant]
      exact ⟨rfl, rfl⟩
    · have happlied : applied (net.conf, saved) (dev, key) =
          (setConf net.conf dev key (wanted key), saved ++ [(dev, key, current)]) := by simp [applied, hconf, hwant]
      rw [happlied]
      simp only [if_neg hwant]
      refine Prog.follows_perform.2 ⟨trivial, fun written hwritten => ?_⟩
      obtain rfl : written = .ok () := hwritten
      exact ⟨rfl, rfl⟩

private theorem prepareConf_follows (dev : String) (net : Net) :
    (prepareConf dev).Follows succeeding (fun saved net' =>
      saved = (preparedConf dev net.conf).2 ∧ net' = { net with conf := (preparedConf dev net.conf).1 }) net := by
  refine (apply_follows _ _ ACCEPT_LOCAL net).bind ?_
  rintro _ _ ⟨rfl, rfl⟩
  refine (apply_follows _ _ ACCEPT_LOCAL _).bind ?_
  rintro _ _ ⟨rfl, rfl⟩
  refine (apply_follows _ _ RP_FILTER _).bind ?_
  rintro _ _ ⟨rfl, rfl⟩
  exact apply_follows _ _ RP_FILTER _

private theorem writeAll_follows (l : SavedConf) (net : Net) :
    (l.forM fun (dev, key, value) => do let _ ← writeConf dev key value).Follows succeeding (fun _ net' =>
      net' = { net with conf := l.foldl (fun conf (dev, key, value) => setConf conf dev key value) net.conf }) net := by
  induction l generalizing net with
  | nil => rfl
  | cons t l ih =>
    refine Prog.follows_perform.2 ⟨trivial, fun written hwritten => ?_⟩
    obtain rfl : written = .ok () := hwritten
    exact ih { net with conf := setConf net.conf t.1 t.2.1 t.2.2 }

private theorem restore_follows (saved : SavedConf) (net : Net) :
    (restore saved).Follows succeeding (fun _ net' => net' = { net with conf := restored net.conf saved }) net := by
  refine (writeAll_follows saved.reverse net).mono fun _ net' hnet' => ?_
  rw [hnet', List.foldl_reverse]
  rfl

private theorem fits_local {rules : List Rule} {p : Nat} : Fits rules (.ruleDel (.local p)) ↔ p ∈ localPrefs rules := by
  rw [mem_localPrefs]
  refine exists_congr fun r => and_congr_right fun _ => ?_
  simp only [RuleArgs.selects, Bool.and_eq_true, decide_eq_true_eq, and_comm]

private theorem parkLocal_follows (net : Net) :
    parkLocal.Follows succeeding (fun relocated net' => relocated = true ∧ SOFTAP_RULE_PREF ∈ localPrefs net.rules ∧
      net' = { net with
        rules := deleteRule (.local SOFTAP_RULE_PREF) (insertRule (RuleArgs.local LOCAL_PARK_PREF).rule net.rules) }) net := by
  refine follows_succeeding_ip fun _ => follows_succeeding_ip fun hfits => ⟨rfl, ?_, rfl⟩
  have hmem : SOFTAP_RULE_PREF ∈ localPrefs (insertRule (RuleArgs.local LOCAL_PARK_PREF).rule net.rules) :=
    fits_local.1 hfits
  rw [localPrefs_insert_local] at hmem
  exact (Multiset.mem_cons.1 hmem).resolve_left (by decide)

private theorem relocateLocal_follows (source host : String) (net : Net) :
    (relocateLocal host).Follows succeeding (fun relocated net' => relocated = decide (Parks net source host) ∧
      net' = { net with rules := preparedRules net source host })
      { net with rules := insertRule (RuleArgs.exception source host).rule net.rules } := by
  -- without a reason to move `lookup local`, the rules stay as they are
  have hstays (h : ¬ Parks net source host) : false = decide (Parks net source host) ∧
      { net with rules := insertRule (RuleArgs.exception source host).rule net.rules } =
        { net with rules := preparedRules net source host } :=
    ⟨(decide_eq_false h).symm, by rw [preparedRules, if_neg h]⟩
  refine follows_isLocalAddress ?_
  by_cases howned : net.owned host = true
  · simp only [if_pos howned]
    refine follows_ruleList ?_
    by_cases hfront : parseLocalPref (Text.trim (ruleList
        (insertRule (RuleArgs.exception source host).rule net.rules))) = some 0
    · rw [if_pos hfront]
      refine (parkLocal_follows _).mono ?_
      rintro _ _ ⟨rfl, hmem, rfl⟩
      rw [localPrefs_insert_exception] at hmem
      have hparks : Parks net source host := ⟨howned, hmem, hfront⟩
      rw [preparedRules, if_pos hparks]
      exact ⟨(decide_eq_true hparks).symm, rfl⟩
    · rw [if_neg hfront]
      exact hstays fun h => hfront h.2.2
  · simp only [if_neg howned]
    exact hstays fun h => howned h.1

/-- Any other run of `ip` for its output. -/
theorem follows_routeGet {host src : String} {f : List Char → NetM β}
    (h : ∀ out, (f out).Follows succeeding Q net) : (ipStdout (.routeGet host src) >>= f).Follows succeeding Q net := by
  refine Prog.follows_perform.2 ⟨trivial, fun r hr => ?_⟩
  rw [show succeeding.next net (.ip (.routeGet host src)) r = net from if_pos hr.1]
  cases r with
  | error e => exact nomatch hr.1
  | ok out => exact h _

private theorem addException_follows (source host : String) (net : Net) :
    (addException source host).Follows succeeding (fun added net' => added = true ∧
      net' = { net with rules := insertRule (RuleArgs.exception source host).rule net.rules }) net :=
  follows_succeeding_ip fun _ => ⟨rfl, rfl⟩

private theorem installPolicyRoute_follows (source host dev : String) (net : Net) :
    (installPolicyRoute source host dev).Follows succeeding (fun route net' =>
      route = ⟨source, host, decide (Parks net source host)⟩ ∧
        net' = { net with rules := preparedRules net source host }) net := by
  refine follows_succeeding_ip fun _ => (addException_follows source host net).bind ?_
  rintro _ _ ⟨rfl, rfl⟩
  refine (relocateLocal_follows source host net).bind ?_
  rintro _ _ ⟨rfl, rfl⟩
  exact follows_succeeding_ip fun _ => follows_ruleList (follows_routeGet fun _ => ⟨rfl, rfl⟩)

private theorem prepareSoftap_follows (dev source host : String) (radio : Nl80211Radio) (net : Net) :
    (Nl80211Radio.prepareSoftap dev source host).Follows succeeding (fun radio' net' =>
      (net', radio') = (softapSlot dev).call (.act (source, host)) (net, radio)) net := by
  refine (prepareConf_follows dev net).bind ?_
  rintro _ _ ⟨rfl, rfl⟩
  refine (installPolicyRoute_follows source host dev _).bind ?_
  rintro _ _ ⟨rfl, rfl⟩
  rfl

private theorem unparkLocal_follows (route : PolicyRoute) (net : Net) :
    (unparkLocal route).Follows succeeding (fun _ net' => net' = { net with
      rules := if route.relocatedLocal then deleteRule (.local LOCAL_PARK_PREF)
        (insertRule (RuleArgs.local SOFTAP_RULE_PREF).rule net.rules) else net.rules }) net := by
  unfold unparkLocal
  split
  · exact follows_succeeding_ip fun _ => follows_succeeding_ip fun _ => rfl
  · rfl

private theorem removePolicyRoute_follows (route : PolicyRoute) (net : Net) :
    (removePolicyRoute route).Follows succeeding (fun _ net' =>
      net' = { net with rules := removedRules route net.rules }) net := by
  refine follows_succeeding_ip fun _ => (unparkLocal_follows route _).bind ?_
  rintro _ _ rfl
  exact follows_succeeding_ip fun _ => follows_succeeding_ip fun _ => rfl

private theorem release_follows (dev : String) (radio : Nl80211Radio) (net : Net) :
    radio.release.Follows succeeding (fun radio' net' =>
      (net', radio') = (softapSlot dev).call .release (net, radio)) net := by
  refine (restore_follows radio.savedConf net).bind ?_
  rintro _ _ rfl
  obtain ⟨saved, policy⟩ := radio
  cases policy with
  | none => rfl
  | some route =>
    refine (removePolicyRoute_follows route _).bind ?_
    rintro _ _ rfl
    rfl

end

/-! ### Sequences of calls -/

/-- Calls of `prepare_softap` with a source and a host, and of `release`. -/
abbrev SoftapCall := Undoing.Call (String × String)

def callRadio (dev : String) (radio : Nl80211Radio) : SoftapCall → NetM Nl80211Radio
  | .act (source, host) => Nl80211Radio.prepareSoftap dev source host
  | .release => radio.release

/-- Calls in which every write and every command succeeds. -/
inductive Calls (dev : String) : Net × Nl80211Radio → List SoftapCall → Net × Nl80211Radio → Prop
  | nil (x : Net × Nl80211Radio) : Calls dev x [] x
  | cons {net : Net} {radio radio' : Nl80211Radio} {c : SoftapCall} {tr : List (Event NetOp NetOp.Res)}
      {cs : List SoftapCall} {y : Net × Nl80211Radio} (h : Prog.Run (callRadio dev radio c) tr radio')
      (ha : succeeding.Answered net tr) (hs : Calls dev (net.after tr, radio') cs y) : Calls dev (net, radio) (c :: cs) y

section

variable {dev : String} {x y : Net × Nl80211Radio} {cs ds : List SoftapCall}

private theorem callRadio_follows (dev : String) (radio : Nl80211Radio) (c : SoftapCall) (net : Net) :
    (callRadio dev radio c).Follows succeeding (fun radio' net' =>
      (net', radio') = (softapSlot dev).call c (net, radio)) net := by
  rcases c with ⟨source, host⟩ | _
  · exact prepareSoftap_follows dev source host radio net
  · exact release_follows dev radio net

/-- Calls do to the settings what the slot says. -/
theorem Calls.run_eq (h : Calls dev x cs y) : y = (softapSlot dev).run cs x := by
  induction h with
  | nil x => rfl
  | @cons net radio radio' c tr cs y hrun ha _ ih =>
    have hcall : (net.after tr, radio') = _ := ((callRadio_follows dev radio c net).run hrun ha).2
    rw [ih, hcall, Undoing.run_cons]

private theorem Calls.of_append (h : Calls dev x (cs ++ ds) y) : ∃ z, Calls dev x cs z ∧ Calls dev z ds y := by
  induction cs generalizing x with
  | nil => exact ⟨x, .nil x, h⟩
  | cons c cs ih =>
    cases h with
    | cons hrun ha hs =>
      obtain ⟨z, hcs, hds⟩ := ih hs
      exact ⟨z, .cons hrun ha hcs, hds⟩

/-- `prepare_softap` has something to change: a sysctl, or the place of `lookup local`. -/
def Changes (dev : String) (net : Net) (source host : String) : Prop :=
  (∃ t ∈ softapKeys dev, ∃ value, net.conf t.1 t.2 = some value ∧ value ≠ wanted t.2) ∨ Parks net source host

/-- The sysctls and the places of `lookup local` are what they were. -/
def Restored (dev : String) (net net' : Net) : Prop :=
  (∀ t ∈ softapKeys dev, net'.conf t.1 t.2 = net.conf t.1 t.2) ∧ localPrefs net'.rules = localPrefs net.rules

private theorem restored_iff {net net' : Net} : Restored dev net net' ↔ observed dev net' = observed dev net := by
  rw [Prod.ext_iff, funext_iff]
  refine and_congr_left fun _ => forall_congr' fun t => ?_
  by_cases ht : t ∈ softapKeys dev
  · simp only [observed, ht, if_true, true_imp_iff]
  · simp only [observed, ht, if_false, false_imp_iff]

private theorem changes_iff {net : Net} {source host : String} :
    Changes dev net source host ↔ observed dev (prepared dev (source, host) net) ≠ observed dev net := by
  constructor
  · rintro (⟨t, ht, value, hvalue, hwant⟩ | hparks) hsame
    · have hconf : (observed dev (prepared dev (source, host) net)).1 t = (observed dev net).1 t := by rw [hsame]
      simp only [observed, ht, if_true, hvalue] at hconf
      have hset : (prepared dev (source, host) net).conf t.1 t.2 = some (wanted t.2) := foldl_applied_of_mem ht hvalue
      exact hwant (Option.some.inj (hconf.symm.trans hset))
    · have hprefs : localPrefs (preparedRules net source host) = localPrefs net.rules := congrArg Prod.snd hsame
      rw [localPrefs_preparedRules, if_pos hparks] at hprefs
      have hcount := congrArg (Multiset.count LOCAL_PARK_PREF) hprefs
      rw [Multiset.count_cons_self, Multiset.count_erase_of_ne (by decide)] at hcount
      exact absurd hcount (Nat.succ_ne_self _)
  · intro hchanged
    by_contra hnone
    rw [Changes, not_or] at hnone
    have hconf : (preparedConf dev net.conf).1 = net.conf := congrArg Prod.fst (foldl_applied_eq fun t ht value hvalue => by
      by_contra hwant
      exact hnone.1 ⟨t, ht, value, hvalue, hwant⟩)
    have hprefs : localPrefs (preparedRules net source host) = localPrefs net.rules := by
      rw [localPrefs_preparedRules, if_neg hnone.2]
    refine hchanged (Prod.ext ?_ hprefs)
    funext t
    simp only [observed, prepared, hconf]

/-- When every write and every command succeeds, a sequence of calls that ends with a release brings the settings back if and
only if no `prepare_softap` that finds something to change is followed by another one. -/
theorem settings_restored_iff {net : Net} {calls : List SoftapCall} (h : Calls dev (net, .new) (calls ++ [.release]) y) :
    Restored dev net y.1 ↔ ∀ cs₁ source host source' host' cs₂ x,
      calls = cs₁ ++ .act (source, host) :: .act (source', host') :: cs₂ → Calls dev (net, .new) cs₁ x →
        ¬ Changes dev x.1 source host := by
  have hiff := (softapSlot dev).released_iff (moved_prepared dev) net calls
  rw [restored_iff, h.run_eq]
  refine hiff.trans ⟨fun hkept cs₁ source host source' host' cs₂ x hcalls hx => ?_, fun hnone cs₁ a b cs₂ hcalls => ?_⟩
  · have hsame := hkept cs₁ (source, host) (source', host') cs₂ hcalls
    rw [changes_iff, not_not, hx.run_eq]
    exact hsame
  · rw [hcalls, List.append_assoc] at h
    obtain ⟨x, hx, -⟩ := h.of_append
    have hsame := hnone cs₁ a.1 a.2 b.1 b.2 cs₂ x hcalls hx
    rw [changes_iff, not_not, hx.run_eq] at hsame
    exact hsame

end

/-! ### Sequences on one host -/

/-- The answers of a host on which everything succeeds. -/
def obliging (net : Net) : (o : NetOp) → o.Res
  | .readConf dev key => net.conf dev key
  | .writeConf .. => .ok ()
  | .isLocalAddress addr => net.owned addr
  | .ip cmd => .ok ⟨true, if cmd = .ruleList then ruleList net.rules else [], []⟩

/-- There is a rule to delete. -/
def fitting (net : Net) : NetOp → Bool
  | .ip (.ruleDel a) => net.rules.any a.selects
  | _ => true

private theorem succeeds_of_fitting (net : Net) (o : NetOp) (h : fitting net o = true) :
    Succeeds net o (obliging net o) := by
  cases o with
  | ip cmd =>
    refine ⟨rfl, ?_, ?_⟩
    · cases cmd with
      | ruleDel a => exact List.any_eq_true.1 h
      | _ => trivial
    · rintro rfl out hout
      cases hout
      rfl
  | _ => rfl

/-- A call that finds the rules which it deletes. -/
theorem Calls.step {dev : String} {net : Net} {radio : Nl80211Radio} {c : SoftapCall} {cs : List SoftapCall}
    {y : Net × Nl80211Radio} (h : (callRadio dev radio c).passes succeeding obliging fitting net = true)
    (hs : Calls dev ((softapSlot dev).call c (net, radio)) cs y) : Calls dev (net, radio) (c :: cs) y := by
  obtain ⟨tr, radio', hrun, ha⟩ := Prog.exists_run_of_passes succeeds_of_fitting h
  have hcall : (net.after tr, radio') = _ := ((callRadio_follows dev radio c net).run hrun ha).2
  rw [← hcall] at hs
  exact .cons hrun ha hs

/-- A host with strict sysctls that owns the address of a device. -/
def strictNet : Net where
  conf _ key := some (if key = ACCEPT_LOCAL then "0" else "1")
  rules := [⟨0, none, none, "", RT_TABLE_LOCAL⟩, ⟨32766, none, none, "", 254⟩]
  owned addr := addr = "192.168.4.1"

private theorem calls_once : Calls "wlan0" (strictNet, .new) ([.act ("192.168.4.2", "192.168.4.1")] ++ [.release])
    ((softapSlot "wlan0").run [.act ("192.168.4.2", "192.168.4.1"), .release] (strictNet, .new)) :=
  .step (by decide +kernel) (.step (by decide +kernel) (.nil _))

/-- One call and its release bring the settings back. -/
theorem settings_restored_once : ∃ y, Calls "wlan0" (strictNet, .new) ([.act ("192.168.4.2", "192.168.4.1")] ++ [.release]) y ∧
    Restored "wlan0" strictNet y.1 := by
  refine ⟨_, calls_once, (settings_restored_iff calls_once).2 ?_⟩
  rintro (_ | ⟨c, _ | ⟨c', cs₁⟩⟩) source host source' host' cs₂ x hcalls
  · cases hcalls
  · cases hcalls
  · cases hcalls

/-- Two calls without a release between them: the second one records nothing of what the first one has changed. -/
theorem settings_lost : ∃ y, Calls "wlan0" (strictNet, .new)
    ([.act ("192.168.4.2", "192.168.4.1"), .act ("192.168.5.2", "192.168.5.1")] ++ [.release]) y ∧
    y.1.conf "wlan0" RP_FILTER = some "0" ∧ localPrefs y.1.rules = {LOCAL_PARK_PREF} ∧ ¬ Restored "wlan0" strictNet y.1 := by
  refine ⟨_, .step (by decide +kernel) (.step (by decide +kernel) (.step (by decide +kernel) (.nil _))), by decide +kernel,
    by decide +kernel, fun h => ?_⟩
  have hconf := h.1 ("wlan0", RP_FILTER) (by decide)
  exact absurd hconf (by decide +kernel)

end WirelessProgrammer.Netcfg
