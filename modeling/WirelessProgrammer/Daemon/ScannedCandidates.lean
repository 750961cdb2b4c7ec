import WirelessProgrammer.Daemon.RadioExclusion

/-!
# Associations and scans

One cache holds what all scans have found and what requests have named.  Its entries of mode `ap` come from scans of the
radio, so an operation that associates to such an entry associates to an SSID that a scan has returned.  None of the
operations looks at the mode.
-/

namespace WirelessProgrammer

open Effect

/-- A scan of the radio has returned the SSID, as a candidate with this driver and key. -/
def Scanned (tr : List (Label Op Op.Res Tag)) (key : String × String) (ssid : String) : Prop :=
  ∃ m max results s d, .act m ⟨.radio (.scan max), .ok results⟩ ∈ tr ∧ s ∈ results ∧ s.ssid = some ssid ∧
    identifyObservation ⟨s.ssid, s.bssid, s.rssi⟩ = some d ∧ (d.driver, d.key) = key

/-- The step associates, if it does, to the non-empty SSID that a scan has returned for the driver and the key that the
operation has looked up. -/
def JoinsScanned (tr : List (Label Op Op.Res Tag)) : Label Op Op.Res Tag → Prop
  | .act n e => ∀ ssid, e.1.ssid? = some ssid → ssid ≠ "" ∧
      ∃ key c, (useOf n tr).entry = some (key, c) ∧ c.ssid = ssid ∧ Scanned tr key ssid
  | _ => True

/-- The step associates, if it does, to an entry of mode `ap`. -/
def JoinsApEntry (tr : List (Label Op Op.Res Tag)) : Label Op Op.Res Tag → Prop
  | .act n e => e.1.ssid?.isSome = true → ∀ key c, (useOf n tr).entry = some (key, c) → c.mode = .ap
  | _ => True

/-- A scan of the radio has returned this result. -/
def Returned (tr : List (Label Op Op.Res Tag)) (s : ScanResult) : Prop :=
  ∃ m max results, .act m ⟨.radio (.scan max), .ok results⟩ ∈ tr ∧ s ∈ results

variable {tr : List (Label Op Op.Res Tag)} {l : Label Op Op.Res Tag} {key : String × String} {ssid : String}

private theorem Scanned.mono (h : Scanned tr key ssid) : Scanned (tr ++ [l]) key ssid := by
  obtain ⟨m, max, results, s, d, hmem, hrest⟩ := h
  exact ⟨m, max, results, s, d, List.mem_append_left _ hmem, hrest⟩

private theorem Returned.mono {s : ScanResult} (h : Returned tr s) : Returned (tr ++ [l]) s := by
  obtain ⟨m, max, results, hmem, hs⟩ := h
  exact ⟨m, max, results, List.mem_append_left _ hmem, hs⟩

private theorem Returned.scanned {s : ScanResult} {c : CachedCandidate} (h : Returned tr s)
    (hc : claimScanned s = some c) : Scanned tr (c.driver, c.key) c.ssid := by
  obtain ⟨m, max, results, hmem, hs⟩ := h
  obtain ⟨hssid, -, d, hd, hdriver, hkey⟩ := claimScanned_eq_some hc
  exact ⟨m, max, results, s, d, hmem, hs, hssid, hd, by rw [hdriver, hkey]⟩

private theorem Scanned.nonempty (h : Scanned tr key ssid) : ssid ≠ "" := by
  obtain ⟨m, max, results, s, d, -, -, hssid, hd, -⟩ := h
  obtain ⟨hlabel, hne⟩ := identifyObservation_label hd
  have : ssid = d.label := Option.some.inj (hssid.symm.trans hlabel)
  rwa [this]

/-- Entries of mode `ap`, in the cache or looked up by an operation, are scanned. -/
structure CacheInv (tr : List (Label Op Op.Res Tag)) (s : Shared) : Prop where
  cache {key : String × String} {c : CachedCandidate} (h : c ∈ s.cache.lookup key) (hm : c.mode = .ap) :
    Scanned tr key c.ssid
  entry {n : Nat} {key : String × String} {c : CachedCandidate} (h : (useOf n tr).entry = some (key, c))
    (hm : c.mode = .ap) : Scanned tr key c.ssid
  scanned {n : Nat} {s : ScanResult} (h : s ∈ (useOf n tr).scanned) : Returned tr s
  joins : Along JoinsScanned tr

namespace CacheInv

variable {s s' : Shared} {n : Nat}

private theorem init (now : Nat) : CacheInv [] (.init now) where
  cache h := by simp [Shared.init] at h
  entry := nofun
  scanned h := by simp [useOf, RadioUse.idle] at h
  joins := along_nil _

/-- A step after which every entry and every scan result is an old one, or is accounted for. -/
theorem frame (h : CacheInv tr s)
    (hcache : ∀ key c, c ∈ s'.cache.lookup key → c.mode = .ap → c ∈ s.cache.lookup key ∨ Scanned (tr ++ [l]) key c.ssid)
    (hentry : ∀ n key c, (useOf n (tr ++ [l])).entry = some (key, c) → c.mode = .ap →
      (useOf n tr).entry = some (key, c) ∨ Scanned (tr ++ [l]) key c.ssid)
    (hscanned : ∀ n r, r ∈ (useOf n (tr ++ [l])).scanned → r ∈ (useOf n tr).scanned ∨ Returned (tr ++ [l]) r)
    (hl : JoinsScanned tr l) : CacheInv (tr ++ [l]) s' where
  cache hc hm := (hcache _ _ hc hm).elim (fun hc => (h.cache hc hm).mono) id
  entry he hm := (hentry _ _ _ he hm).elim (fun he => (h.entry he hm).mono) id
  scanned hr := (hscanned _ _ hr).elim (fun hr => (h.scanned hr).mono) id
  joins := along_concat.2 ⟨h.joins, hl⟩

/-- A step that leaves the cache alone, and what operations have looked up and scanned. -/
theorem same (h : CacheInv tr s) (hcache : s'.cache = s.cache)
    (huse : ∀ n, (useOf n (tr ++ [l])).entry = (useOf n tr).entry ∧ (useOf n (tr ++ [l])).scanned = (useOf n tr).scanned)
    (hl : JoinsScanned tr l) : CacheInv (tr ++ [l]) s' :=
  h.frame (fun _ _ hc _ => .inl (hcache ▸ hc)) (fun n _ _ he _ => .inl ((huse n).1 ▸ he))
    (fun n _ hr => .inl ((huse n).2 ▸ hr)) hl

/-- What the operations have looked up and scanned changes with the operation that acts only. -/
theorem use_act {e : Event Op Op.Res} {P : RadioUse → RadioUse → Prop} (hrefl : ∀ g, P g g)
    (hn : P (useOf n tr) (radioProtocol.next (useOf n tr) e.1 e.2)) (m : Nat) :
    P (useOf m tr) (useOf m (tr ++ [.act n e])) := by
  by_cases hm : n = m
  · subst hm
    rwa [useOf_act_self]
  · rw [useOf_act_of_ne hm]
    exact hrefl _

/-- A write stores candidates that the writer's own scan has returned, or targets that no radio has found. -/
theorem store (h : CacheInv tr s) {w : CacheWrite} (ho : radioProtocol.allowed (useOf n tr) (.store w)) :
    CacheInv (tr ++ [.act n ⟨.store w, ()⟩]) { s with cache := w.apply s.cache } := by
  have huse : ∀ m, useOf m (tr ++ [.act n ⟨.store w, ()⟩]) = useOf m tr :=
    use_act (e := ⟨.store w, ()⟩) (P := fun g g' => g' = g) (fun _ => rfl) rfl
  refine h.frame (fun key c hc hm => ?_) (fun m _ _ he _ => .inl (huse m ▸ he)) (fun m _ hr => .inl (huse m ▸ hr)) nofun
  rcases CacheWrite.mem_lookup_apply hc with hc | ⟨hstored, rfl⟩
  · exact .inl hc
  · cases w with
    | scanned mode found =>
      obtain ⟨r, hr, hclaim⟩ := List.mem_filterMap.1 (ho c hstored hm)
      exact .inr ((h.scanned hr).scanned hclaim).mono
    | manual c' =>
      obtain rfl := List.mem_singleton.1 hstored
      exact absurd hm ho

/-- A look-up finds an entry of the cache. -/
theorem cached (h : CacheInv tr s) (driver key : String) :
    CacheInv (tr ++ [.act n ⟨.cached driver key, s.cache.lookup (driver, key)⟩]) s := by
  refine h.frame (fun _ _ hc _ => .inl hc) (fun m k c he hm => ?_) (fun m _ hr => ?_) nofun
  · by_cases hne : n = m
    · subst hne
      rw [useOf_act_self] at he
      obtain ⟨c', hc', heq⟩ := Option.map_eq_some_iff.1 he
      cases heq
      exact .inr (h.cache hc' hm).mono
    · rw [useOf_act_of_ne hne] at he
      exact .inl he
  · have hscanned : (useOf m (tr ++ [.act n ⟨.cached driver key, s.cache.lookup (driver, key)⟩])).scanned =
        (useOf m tr).scanned := use_act (P := fun g g' => g'.scanned = g.scanned) (fun _ => rfl) rfl m
    exact .inl (hscanned ▸ hr)

/-- A scan of the radio returns results. -/
theorem scan (h : CacheInv tr s) (max : Nat) (results : List ScanResult) :
    CacheInv (tr ++ [.act n ⟨.radio (.scan max), .ok results⟩]) s := by
  have hentry (m : Nat) : (useOf m (tr ++ [.act n ⟨.radio (.scan max), .ok results⟩])).entry = (useOf m tr).entry :=
    use_act (P := fun g g' => g'.entry = g.entry) (fun _ => rfl) rfl m
  refine h.frame (fun _ _ hc _ => .inl hc) (fun m _ _ he _ => .inl (hentry m ▸ he)) (fun m r hr => ?_) nofun
  by_cases hne : n = m
  · subst hne
    rw [useOf_act_self] at hr
    exact .inr ⟨n, max, results, by simp, hr⟩
  · rw [useOf_act_of_ne hne] at hr
    exact .inl hr

/-- An operation associates to the entry it has looked up, which is of mode `ap`. -/
theorem join (h : CacheInv tr s) {o : RadioOp} {r : o.Res} (ho : radioProtocol.allowed (useOf n tr) (.radio o))
    (hC : JoinsApEntry tr (.act n ⟨.radio o, r⟩)) : JoinsScanned tr (.act n ⟨.radio o, r⟩) := by
  intro ssid hssid
  obtain ⟨key, c, he, rfl⟩ := ho.2 ssid hssid
  have hscanned := h.entry he (hC (Option.isSome_iff_exists.2 ⟨_, hssid⟩) key c he)
  exact ⟨hscanned.nonempty, key, c, he, rfl, hscanned⟩

private theorem act (h : CacheInv tr s) {o : Op} {r : o.Res} (ho : radioProtocol.allowed (useOf n tr) o)
    (hC : JoinsApEntry tr (.act n ⟨o, r⟩)) (hsem : Sem n s o r s') : CacheInv (tr ++ [.act n ⟨o, r⟩]) s' := by
  have hsame : ∀ {o : Op} {r : o.Res}, (∀ g, (radioProtocol.next g o r).entry = g.entry ∧
      (radioProtocol.next g o r).scanned = g.scanned) → s'.cache = s.cache → JoinsScanned tr (.act n ⟨o, r⟩) →
      CacheInv (tr ++ [.act n ⟨o, r⟩]) s' := fun hnext hcache hl =>
    h.same hcache (use_act (P := fun g g' => g'.entry = g.entry ∧ g'.scanned = g.scanned) (fun _ => ⟨rfl, rfl⟩)
      (hnext _)) hl
  cases o with
  | store w => exact hsem ▸ h.store ho
  | cached driver key =>
    obtain ⟨rfl, rfl⟩ := hsem
    exact h.cached driver key
  | radio o =>
    have hjoin := h.join ho hC
    cases o with
    | scan max =>
      cases r with
      | error e => exact hsame (fun _ => ⟨rfl, rfl⟩) (hsem ▸ rfl) hjoin
      | ok results => exact hsem ▸ h.scan max results
    | connectOpen | connectPsk | release => exact hsame (fun _ => ⟨rfl, rfl⟩) (hsem ▸ rfl) hjoin
    | connected | setAddress | linkUp | prepareSoftap =>
      cases r <;> exact hsame (fun _ => ⟨rfl, rfl⟩) (hsem ▸ rfl) hjoin
  | jobs => exact hsame (fun _ => ⟨rfl, rfl⟩) (hsem.2.2 ▸ rfl) nofun
  | send =>
    cases r with
    | ok => exact hsame (fun _ => ⟨rfl, rfl⟩) (hsem.2 ▸ rfl) nofun
    | error => exact hsame (fun _ => ⟨rfl, rfl⟩) (hsem ▸ rfl) nofun
  | radioHeld | lock | unlock => exact hsame (fun _ => ⟨rfl, rfl⟩) (hsem.2 ▸ rfl) nofun
  | recv | setHeld | world => exact hsame (fun _ => ⟨rfl, rfl⟩) (hsem ▸ rfl) nofun

end CacheInv

variable {cfg : Config} {now : Nat} {c : Effect.Config Op Op.Res Shared}

/-- In every run in which the operations associate to entries of mode `ap` only, every association is to the non-empty SSID
of a candidate that a scan of the radio has returned for that driver and key. -/
theorem joins_scanned (h : Steps (daemon cfg) JoinsApEntry (.init (.init now)) tr c) : Along JoinsScanned tr := by
  refine (Steps.invariant_after radioProtocol .idle CacheInv ?_ ?_ ?_ (.init now) h).joins
  · intro tr s n t p s' hI _ hsp
    cases t with
    | request req =>
      obtain ⟨rfl, rfl⟩ := hsp
      exact ⟨hI.same rfl (by simp) trivial, serve_radio cfg req⟩
    | job id =>
      obtain ⟨-, rfl, queue, -, rfl⟩ := hsp
      exact ⟨hI.same rfl (by simp) trivial, (workerRound_away cfg ⟨rfl, rfl⟩).mono fun _ _ _ => trivial⟩
  · intro tr s n o r s' hI ho hC hsem
    exact ⟨trivial, hI.act ho hC hsem⟩
  · rintro tr s s' hI ⟨_, _, -, -, rfl⟩
    exact hI.same rfl (by simp) trivial

/-! ### Probes of a device that has been seen, and of one that has not -/

private def probeSeen : Request := ⟨.probe, some (.probe ⟨"wifred", "wiFred-config12"⟩)⟩

/-- The device is found, and a probe looks it up. -/
private def beforeJoin : List (Label Op Op.Res Tag) :=
  [.spawn 0 (.request apScan), .act 0 ⟨.radioHeld, false⟩, .act 0 ⟨.lock, ()⟩, .act 0 ⟨.radio (.scan 64), .ok seen⟩,
    .act 0 ⟨.unlock, ()⟩, .act 0 ⟨.store (.scanned .ap (seen.filterMap claimScanned)), ()⟩,
    .spawn 1 (.request probeSeen), .act 1 ⟨.radioHeld, false⟩, .act 1 ⟨.cached "wifred" "wiFred-config12", some seenEntry⟩,
    .act 1 ⟨.setHeld true, ()⟩, .act 1 ⟨.lock, ()⟩]

theorem probe_joins_scanned : ∃ c, Runs (daemon .plain) (.init (.init 0))
    (beforeJoin ++ [.act 1 ⟨.radio (.connectOpen "wiFred-config12" none), ()⟩]) c ∧
    Along JoinsScanned (beforeJoin ++ [.act 1 ⟨.radio (.connectOpen "wiFred-config12" none), ()⟩]) := by
  have hrun : Runs (daemon .plain) (.init (.init 0))
      (beforeJoin ++ [.act 1 ⟨.radio (.connectOpen "wiFred-config12" none), ()⟩]) _ :=
    .cons (.spawn rfl ⟨rfl, rfl⟩) <| .cons (.act rfl ⟨rfl, rfl⟩) <| .cons (.act rfl ⟨rfl, rfl⟩) <|
      .cons (.act rfl rfl) <| .cons (.act rfl ⟨rfl, rfl⟩) <| .cons (.act rfl rfl) <| .cons (.spawn rfl ⟨rfl, rfl⟩) <|
      .cons (.act rfl ⟨rfl, rfl⟩) <| .cons (.act rfl ⟨rfl, rfl⟩) <| .cons (.act rfl rfl) <|
      .cons (.act rfl ⟨rfl, rfl⟩) <| .cons (.act rfl rfl) .refl
  have hbefore : Along JoinsApEntry beforeJoin := by
    intro t₁ l t₂ htr
    have hl : l ∈ beforeJoin := by simp [htr]
    simp only [beforeJoin, List.mem_cons, List.not_mem_nil, or_false] at hl
    rcases hl with rfl | rfl | rfl | rfl | rfl | rfl | rfl | rfl | rfl | rfl | rfl <;> first | trivial | exact nofun
  have hjoin : JoinsApEntry beforeJoin (.act 1 ⟨.radio (.connectOpen "wiFred-config12" none), ()⟩) := by
    intro _ key c hentry
    have hseen : (useOf 1 beforeJoin).entry = some (("wifred", "wiFred-config12"), seenEntry) := rfl
    cases hseen.symm.trans hentry
    rfl
  exact ⟨_, hrun, joins_scanned (hrun.of_along (along_concat.2 ⟨hbefore, hjoin⟩))⟩

private def lanRequest : Request :=
  ⟨.updateFirmware, some (.updateFirmware ⟨.lan, none, "longfred.app.bin", some "10.0.0.9", none, none⟩)⟩

private def probeLan : Request := ⟨.probe, some (.probe ⟨"longfred", "10.0.0.9"⟩)⟩

/-- A host that a firmware request has named is probed over the radio, with the empty SSID. -/
theorem probe_joins_lan_host : ∃ tr c, Runs (daemon .plain) (.init (.init 0)) tr c ∧ ¬ Along JoinsScanned tr := by
  refine ⟨[.spawn 0 (.request lanRequest),
      .act 0 ⟨.store (.manual (wiredCandidate .longFred .lan true "10.0.0.9" "10.0.0.9")), ()⟩,
      .spawn 1 (.request probeLan), .act 1 ⟨.radioHeld, false⟩,
      .act 1 ⟨.cached "longfred" "10.0.0.9", some (wiredCandidate .longFred .lan true "10.0.0.9" "10.0.0.9")⟩,
      .act 1 ⟨.setHeld true, ()⟩, .act 1 ⟨.lock, ()⟩, .act 1 ⟨.radio (.connectOpen "" none), ()⟩], _,
    .cons (.spawn rfl ⟨rfl, rfl⟩) <| .cons (.act rfl rfl) <| .cons (.spawn rfl ⟨rfl, rfl⟩) <|
      .cons (.act rfl ⟨rfl, rfl⟩) <| .cons (.act rfl ⟨rfl, rfl⟩) <| .cons (.act rfl rfl) <|
      .cons (.act rfl ⟨rfl, rfl⟩) <| .cons (.act rfl rfl) .refl, fun h => ?_⟩
  exact (h [_, _, _, _, _, _, _] _ [] rfl "" rfl).1 rfl

end WirelessProgrammer
