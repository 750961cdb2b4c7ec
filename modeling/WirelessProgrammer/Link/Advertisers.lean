import WirelessProgrammer.Link.Mdns

/-!
# Which hosts advertise the service

A packet is seen as the list of its resource records, and a packet announces an address with the port of the last SRV
record before the A record.  The hosts that discovery returns all come from packets that name the service if and only if
every packet that is the first one to announce some address and port does (`discovered_advertise_iff`).
-/

namespace WirelessProgrammer.Mdns

open Effect

/-! ### The records of a packet -/

section Packet

variable (pkt : List UInt8)

def recordsFrom : Nat → Nat → List ResourceRecord
  | 0, _ => []
  | n + 1, off =>
    match readRecord pkt off with
    | none => []
    | some (r, off) => r :: recordsFrom n off

/-- The resource records of a packet. -/
def records : List ResourceRecord :=
  match recordsStart pkt with
  | none => []
  | some off => recordsFrom pkt (recordCount pkt) off

/-- The port of an SRV record. -/
def srvPort (r : ResourceRecord) : Option UInt16 :=
  if r.typ = TYPE_SRV ∧ 6 ≤ r.rdlen then be16 pkt (r.rdata + 4) else none

/-- The address of an A record. -/
def address (r : ResourceRecord) : Option Ipv4Addr :=
  if r.typ = TYPE_A ∧ r.rdlen = 4 then ipv4At pkt r.rdata else none

/-- The port of the last SRV record. -/
def portAfter (rs : List ResourceRecord) : UInt16 := ((rs.filterMap (srvPort pkt)).getLast?).getD 80

/-- A packet announces the address of an A record, with the port of the last SRV record before it. -/
def Announces (e : SocketAddrV4) : Prop :=
  ∃ rs₁ r rs₂, records pkt = rs₁ ++ r :: rs₂ ∧ address pkt r = some e.ip ∧ portAfter pkt rs₁ = e.port

/-- A PTR or SRV record whose name ends in the service. -/
def Advertises (service : List Char) : Prop :=
  ∃ r ∈ records pkt, (r.typ = TYPE_PTR ∨ r.typ = TYPE_SRV) ∧ service <:+ r.name

private theorem parseFrom_eq (n off : Nat) (s : Parsed) :
    parseFrom pkt n off s = (recordsFrom pkt n off).foldl (Parsed.visit pkt) s := by
  induction n generalizing off s with
  | zero => rfl
  | succ n ih =>
    unfold parseFrom recordsFrom
    cases readRecord pkt off with
    | none => rfl
    | some next => exact ih _ _

theorem parseOtaHosts_eq : parseOtaHosts pkt = ((records pkt).foldl (Parsed.visit pkt) .init).out := by
  unfold parseOtaHosts records
  cases recordsStart pkt with
  | none => rfl
  | some off => exact congrArg Parsed.out (parseFrom_eq pkt ..)

variable {pkt}

private theorem visit_port (s : Parsed) (r : ResourceRecord) : (s.visit pkt r).port = (srvPort pkt r).getD s.port := by
  unfold Parsed.visit srvPort
  by_cases hsrv : r.typ = TYPE_SRV ∧ 6 ≤ r.rdlen
  · have ha : ¬ (r.typ = TYPE_A ∧ r.rdlen = 4) := fun h => absurd (hsrv.1.symm.trans h.1) (by decide)
    rw [if_pos hsrv, if_pos hsrv, if_neg ha]
  · rw [if_neg hsrv, if_neg hsrv]
    split
    · split <;> rfl
    · rfl

variable (pkt) in
/-- A record adds the host of its address, if it has one. -/
theorem visit_out (s : Parsed) (r : ResourceRecord) :
    ∃ hostname, (s.visit pkt r).out = s.out ++ (address pkt r).toList.map fun ip => ⟨hostname, ip, s.port⟩ := by
  unfold Parsed.visit address
  by_cases ha : r.typ = TYPE_A ∧ r.rdlen = 4
  · have hsrv : ¬ (r.typ = TYPE_SRV ∧ 6 ≤ r.rdlen) := fun h => absurd (h.1.symm.trans ha.1) (by decide)
    rw [if_neg hsrv, if_pos ha, if_pos ha]
    cases ipv4At pkt r.rdata with
    | none => exact ⟨[], by simp⟩
    | some ip => exact ⟨_, rfl⟩
  · rw [if_neg ha, if_neg ha]
    refine ⟨[], ?_⟩
    split <;> simp

private theorem foldl_visit_port (rs : List ResourceRecord) :
    (rs.foldl (Parsed.visit pkt) .init).port = portAfter pkt rs := by
  induction rs using List.reverseRecOn with
  | nil => rfl
  | append_singleton rs r ih =>
    rw [List.foldl_append, List.foldl_cons, List.foldl_nil, visit_port, ih]
    unfold portAfter
    rw [List.filterMap_append]
    cases hport : srvPort pkt r with
    | none => simp [hport]
    | some port => simp [hport]

/-- The hosts that the parser finds are what the packet announces. -/
theorem announces_iff {e : SocketAddrV4} : Announces pkt e ↔ ∃ h ∈ parseOtaHosts pkt, h.endpoint = e := by
  rw [parseOtaHosts_eq, Announces]
  induction records pkt using List.reverseRecOn with
  | nil => simp [Parsed.init]
  | append_singleton rs r ih =>
    obtain ⟨hostname, hout⟩ := visit_out pkt (rs.foldl (Parsed.visit pkt) .init) r
    rw [List.foldl_append, List.foldl_cons, List.foldl_nil, hout, foldl_visit_port]
    constructor
    · rintro ⟨rs₁, r', rs₂, heq, haddr, hport⟩
      rcases concat_eq_append_cons.1 heq with ⟨rfl, rfl, rfl⟩ | ⟨rs₃, rfl, rfl⟩
      · refine ⟨⟨hostname, e.ip, portAfter pkt rs⟩, List.mem_append_right _ ?_, ?_⟩
        · simp [haddr]
        · show (⟨e.ip, portAfter pkt rs⟩ : SocketAddrV4) = e
          rw [hport]
      · obtain ⟨h, hh, he⟩ := ih.1 ⟨rs₁, r', rs₃, rfl, haddr, hport⟩
        exact ⟨h, List.mem_append_left _ hh, he⟩
    · rintro ⟨h, hh, he⟩
      rcases List.mem_append.1 hh with hh | hh
      · obtain ⟨rs₁, r', rs₂, heq, haddr, hport⟩ := ih.2 ⟨h, hh, he⟩
        exact ⟨rs₁, r', rs₂ ++ [r], by rw [heq]; simp, haddr, hport⟩
      · obtain ⟨ip, hip, rfl⟩ := List.mem_map.1 hh
        rw [← he]
        exact ⟨rs, r, [], rfl, Option.mem_toList.1 hip, rfl⟩

end Packet

/-! ### Keeping the first host of an endpoint -/

private theorem mem_keep {found : List OtaHost} {h h' : OtaHost} :
    h' ∈ keep found h ↔ h' ∈ found ∨ h' = h ∧ ∀ e ∈ found, e.endpoint ≠ h.endpoint := by
  have hknown : (found.any fun e => e.ipv4 = h.ipv4 ∧ e.port = h.port) = true ↔
      ∃ e ∈ found, e.endpoint = h.endpoint := by
    simp [OtaHost.endpoint]
  unfold keep
  split
  · rename_i hany
    obtain ⟨e, he, heq⟩ := hknown.1 hany
    exact ⟨.inl, fun hor => hor.resolve_right fun hnew => hnew.2 e he heq⟩
  · rename_i hany
    have hnew : ∀ e ∈ found, e.endpoint ≠ h.endpoint := fun e he heq => hany (hknown.2 ⟨e, he, heq⟩)
    simp only [List.mem_append, List.mem_singleton]
    exact ⟨fun hor => hor.imp_right fun heq => ⟨heq, hnew⟩, fun hor => hor.imp_right And.left⟩

private theorem endpoint_keep (found : List OtaHost) (h : OtaHost) : ∃ h' ∈ keep found h, h'.endpoint = h.endpoint := by
  by_cases hknown : ∃ e ∈ found, e.endpoint = h.endpoint
  · obtain ⟨e, he, heq⟩ := hknown
    exact ⟨e, mem_keep.2 (.inl he), heq⟩
  · exact ⟨h, mem_keep.2 (.inr ⟨rfl, fun e he heq => hknown ⟨e, he, heq⟩⟩), rfl⟩

private theorem mem_foldl_keep_of_mem {hs found : List OtaHost} {h : OtaHost} (hh : h ∈ found) :
    h ∈ hs.foldl keep found := by
  induction hs generalizing found with
  | nil => exact hh
  | cons h' hs ih => exact ih (mem_keep.2 (.inl hh))

/-- A host that is kept was known, or is one of the new ones and no host with its endpoint was known. -/
theorem mem_of_mem_foldl_keep {hs found : List OtaHost} {h : OtaHost} (hh : h ∈ hs.foldl keep found) :
    h ∈ found ∨ h ∈ hs ∧ ∀ e ∈ found, e.endpoint ≠ h.endpoint := by
  induction hs generalizing found with
  | nil => exact .inl hh
  | cons h' hs ih =>
    rcases ih hh with hkept | ⟨hmem, hnew⟩
    · rcases mem_keep.1 hkept with hfound | ⟨rfl, hnew⟩
      · exact .inl hfound
      · exact .inr ⟨List.mem_cons_self .., hnew⟩
    · exact .inr ⟨List.mem_cons_of_mem _ hmem, fun e he => hnew e (mem_keep.2 (.inl he))⟩

private theorem endpoint_foldl_keep {hs found : List OtaHost} {h : OtaHost} (hh : h ∈ hs) :
    ∃ h' ∈ hs.foldl keep found, h'.endpoint = h.endpoint := by
  induction hs generalizing found with
  | nil => exact absurd hh List.not_mem_nil
  | cons h' hs ih =>
    rcases List.mem_cons.1 hh with rfl | hmem
    · obtain ⟨e, he, heq⟩ := endpoint_keep found h
      show ∃ h' ∈ hs.foldl keep (keep found h), h'.endpoint = h.endpoint
      exact ⟨e, mem_foldl_keep_of_mem he, heq⟩
    · exact ih hmem

/-! ### Over the packets of a discovery -/

/-- `h` comes from `p`, the first packet with a host of its address and port. -/
def Origin (packets : List (List UInt8)) (h : OtaHost) (p : List UInt8) : Prop :=
  ∃ before after, packets = before ++ p :: after ∧ h ∈ parseOtaHosts p ∧
    ∀ q ∈ before, ∀ h' ∈ parseOtaHosts q, h'.endpoint ≠ h.endpoint

/-- What the loop has found in the packets. -/
def foundIn (packets : List (List UInt8)) : List OtaHost :=
  packets.foldl (fun found p => (parseOtaHosts p).foldl keep found) []

/-- What is found comes from some packet, and every endpoint in a packet is found. -/
theorem foundIn_spec (packets : List (List UInt8)) :
    (∀ h ∈ foundIn packets, ∃ p, Origin packets h p) ∧
      ∀ p ∈ packets, ∀ h ∈ parseOtaHosts p, ∃ h' ∈ foundIn packets, h'.endpoint = h.endpoint := by
  induction packets using List.reverseRecOn with
  | nil => exact ⟨nofun, nofun⟩
  | append_singleton packets p ih =>
    obtain ⟨horigin, hall⟩ := ih
    have hfound : foundIn (packets ++ [p]) = (parseOtaHosts p).foldl keep (foundIn packets) := List.foldl_append
    rw [hfound]
    constructor
    · intro h hh
      rcases mem_of_mem_foldl_keep hh with hh | ⟨hh, hnew⟩
      · obtain ⟨p', before, after, rfl, hp', hbefore⟩ := horigin h hh
        exact ⟨p', before, after ++ [p], by simp, hp', hbefore⟩
      · refine ⟨p, packets, [], rfl, hh, fun q hq h' hh' heq => ?_⟩
        obtain ⟨e, he, hsame⟩ := hall q hq h' hh'
        exact hnew e he (hsame.trans heq)
    · intro q hq h hh
      rcases List.mem_append.1 hq with hq | hq
      · obtain ⟨h', hh', heq⟩ := hall q hq h hh
        exact ⟨h', mem_foldl_keep_of_mem hh', heq⟩
      · obtain rfl : q = p := List.mem_singleton.1 hq
        exact endpoint_foldl_keep hh

/-- The packets among what was received. -/
def packets (tr : List (UdpEvent SocketAddrV4)) : List (List UInt8) :=
  (arrivals tr).filterMap fun
    | .ok d => some d.bytes
    | .error _ => none

private theorem foldlM_collect {rs : List (Except IoError (Datagram SocketAddrV4))} {start found : List OtaHost}
    (h : rs.foldlM collect start = .ok found) :
    found = (rs.filterMap fun
      | .ok d => some d.bytes
      | .error _ => none).foldl (fun found p => (parseOtaHosts p).foldl keep found) start := by
  induction rs generalizing start with
  | nil =>
    cases h
    rfl
  | cons r rs ih =>
    cases r with
    | ok d => exact ih h
    | error e =>
      change ((if e.kind = .wouldBlock ∨ e.kind = .timedOut then .ok start else .error e) >>=
        fun s => rs.foldlM collect s) = _ at h
      split at h
      · exact ih h
      · cases h

/-- A discovery that succeeds has found what is in the packets it has received. -/
theorem run_discoverMdnsHosts {passes wait : Nat} {service : List Char} {tr : List (UdpEvent SocketAddrV4)}
    {found : List OtaHost} (h : Prog.Run (discoverMdnsHosts passes service wait) tr (some (.ok found))) :
    found = foundIn (packets tr) := by
  obtain ⟨bound, t₁, rfl, h₁⟩ := Prog.run_op.1 h
  cases bound with
  | error e => cases h₁
  | ok _ =>
    obtain ⟨sent, t₂, rfl, h₂⟩ := Prog.run_op.1 h₁
    obtain ⟨start, t₃, rfl, h₃⟩ := Prog.run_op.1 h₂
    have hfold := foldlM_collect (run_pollUntil_ok h₃)
    exact hfold

/-- A discovery that has used up its passes has never seen the clock at its deadline. -/
theorem run_discoverMdnsHosts_none {passes wait : Nat} {service : List Char} {tr : List (UdpEvent SocketAddrV4)}
    (h : Prog.Run (discoverMdnsHosts passes service wait) tr none) :
    ∃ start ticks, clock tr = start :: ticks ∧ ticks.length = passes ∧ ∀ t ∈ ticks, t < start + wait := by
  obtain ⟨bound, t₁, rfl, h₁⟩ := Prog.run_op.1 h
  cases bound with
  | error e => cases h₁
  | ok _ =>
    obtain ⟨sent, t₂, rfl, h₂⟩ := Prog.run_op.1 h₁
    obtain ⟨start, t₃, rfl, h₃⟩ := Prog.run_op.1 h₂
    obtain ⟨hlen, hlt⟩ := run_pollUntil_none h₃
    exact ⟨start, clock t₃, rfl, hlen, hlt⟩

/-- The first packet with a host of an endpoint is at one place. -/
theorem Origin.unique {ps : List (List UInt8)} {h : OtaHost} {p : List UInt8} {before after : List (List UInt8)}
    {q : List UInt8} (ho : Origin ps h p) (hps : ps = before ++ q :: after) (hq : Announces q h.endpoint)
    (hbefore : ∀ r ∈ before, ¬ Announces r h.endpoint) : p = q := by
  obtain ⟨before', after', hps', hp, hbefore'⟩ := ho
  have hannounce : Announces p h.endpoint := announces_iff.2 ⟨h, hp, rfl⟩
  have hnone : ∀ r ∈ before', ¬ Announces r h.endpoint := by
    rintro r hr hr'
    obtain ⟨h', hh', heq⟩ := announces_iff.1 hr'
    exact hbefore' r hr h' hh' heq
  rcases List.append_eq_append_iff.1 (hps'.symm.trans hps) with ⟨as, has, hrest⟩ | ⟨as, has, hrest⟩
  · cases as with
    | nil =>
      cases hrest
      rfl
    | cons r as =>
      cases hrest
      exact absurd hannounce (hbefore p (by rw [has]; simp))
  · cases as with
    | nil =>
      cases hrest
      rfl
    | cons r as =>
      cases hrest
      exact absurd hq (hnone q (by rw [has]; simp))

/-- Every host that a discovery returns comes from a packet that names the service, if and only if every packet that is
the first one to announce an address and port names the service. -/
theorem discovered_advertise_iff {passes wait : Nat} {service : List Char} {tr : List (UdpEvent SocketAddrV4)}
    {found : List OtaHost} (h : Prog.Run (discoverMdnsHosts passes service wait) tr (some (.ok found))) :
    (∀ host ∈ found, ∃ p, Origin (packets tr) host p ∧ Advertises p service) ↔
      ∀ before p after e, packets tr = before ++ p :: after → Announces p e → (∀ q ∈ before, ¬ Announces q e) →
        Advertises p service := by
  obtain rfl := run_discoverMdnsHosts h
  obtain ⟨horigin, hall⟩ := foundIn_spec (packets tr)
  constructor
  · rintro hadv before p after e hsplit hp hbefore
    obtain ⟨host, hhost, rfl⟩ := announces_iff.1 hp
    obtain ⟨host', hhost', heq⟩ := hall p (by rw [hsplit]; simp) host hhost
    obtain ⟨p', ho, hp'⟩ := hadv host' hhost'
    rw [← heq] at hp hbefore
    rwa [ho.unique hsplit hp hbefore] at hp'
  · rintro hfirst host hhost
    obtain ⟨p, ho⟩ := horigin host hhost
    obtain ⟨before, after, hsplit, hp, hbefore⟩ := ho
    refine ⟨p, ⟨before, after, hsplit, hp, hbefore⟩, hfirst before p after host.endpoint hsplit ?_ fun q hq hq' => ?_⟩
    · exact announces_iff.2 ⟨host, hp, rfl⟩
    · obtain ⟨h', hh', heq⟩ := announces_iff.1 hq'
      exact hbefore q hq h' hh' heq

/-! ### One packet -/

/-- One datagram, and the deadline. -/
private def heard (service : List Char) (pkt : List UInt8) : List (UdpEvent SocketAddrV4) :=
  [⟨.listen, .ok ()⟩, ⟨.sendTo (ptrQuery service) ⟨MDNS_GROUP, MDNS_PORT⟩, 0⟩, ⟨.now, 0⟩, ⟨.now, 1⟩,
    ⟨.recvFrom, .ok ⟨⟨⟨192, 168, 1, 9⟩, MDNS_PORT⟩, pkt, 1⟩⟩, ⟨.now, 1500⟩]

private theorem run_heard (service : List Char) (pkt : List UInt8) :
    Prog.Run (discoverMdnsHosts 2 service 1500) (heard service pkt) (some (.ok (foundIn [pkt]))) :=
  .op (.op (.op (.op (.op (.op (.ret _))))))

/-- An SRV record of the service and an A record. -/
private def station : List UInt8 :=
  [0, 0, 0x84, 0, 0, 0, 0, 2, 0, 0, 0, 0,
    4, 95, 122, 50, 49, 4, 95, 117, 100, 112, 5, 108, 111, 99, 97, 108, 0, 0, 33, 0, 1, 0, 0, 0, 120, 0, 6,
    0, 0, 0, 0, 0x52, 0x71,
    0, 0, 1, 0, 1, 0, 0, 0, 120, 0, 4, 192, 168, 1, 9]

private theorem readName_station : readName station 12 = some (Z21_UDP_SERVICE, 29) := by
  have hz21 : station[12]? = some 4 := rfl
  have hudp : station[12 + 1 + (4 : UInt8).toNat]? = some 4 := rfl
  have hlocal : station[12 + 1 + (4 : UInt8).toNat + 1 + (4 : UInt8).toNat]? = some 5 := rfl
  unfold readName
  rw [readNameFrom_label hz21 (by decide) (by decide) (by decide),
    readNameFrom_label hudp (by decide) (by decide) (by decide),
    readNameFrom_label hlocal (by decide) (by decide) (by decide), readNameFrom_root rfl]
  rfl

/-- A Z21 that announces itself is found. -/
theorem station_advertises : ∃ tr found, Prog.Run (discoverMdnsHosts 2 Z21_UDP_SERVICE 1500) tr (some (.ok found)) ∧
    ∀ host ∈ found, ∃ p, Origin (packets tr) host p ∧ Advertises p Z21_UDP_SERVICE := by
  have hrec : readRecord station 12 = some (⟨Z21_UDP_SERVICE, TYPE_SRV, 6, 39⟩, 45) := by
    rw [readRecord, readName_station]
    rfl
  have hmem : ⟨Z21_UDP_SERVICE, TYPE_SRV, 6, 39⟩ ∈ records station := by
    show _ ∈ recordsFrom station 2 12
    rw [recordsFrom, hrec]
    exact List.mem_cons_self ..
  have hadv : Advertises station Z21_UDP_SERVICE := ⟨_, hmem, .inr rfl, List.suffix_rfl⟩
  refine ⟨_, _, run_heard Z21_UDP_SERVICE station, (discovered_advertise_iff (run_heard _ _)).2 ?_⟩
  rintro before p after e hsplit hp hbefore
  change [station] = before ++ p :: after at hsplit
  rcases before with _ | ⟨q, before⟩
  · cases hsplit
    exact hadv
  · cases before <;> cases hsplit

/-- The address of some other device. -/
private def printer : List UInt8 :=
  [0, 0, 0x84, 0, 0, 0, 0, 1, 0, 0, 0, 0, 0, 0, 1, 0, 1, 0, 0, 0, 120, 0, 4, 192, 168, 1, 9]

private theorem records_printer : records printer = [⟨[], TYPE_A, 4, 23⟩] := by
  have hname : readName printer 12 = some ([], 13) := readNameFrom_root rfl
  have hrec : readRecord printer 12 = some (⟨[], TYPE_A, 4, 23⟩, 27) := by
    rw [readRecord, hname]
    rfl
  show recordsFrom printer 1 12 = _
  rw [recordsFrom, hrec]
  rfl

/-- A packet with an A record and nothing else makes a host. -/
theorem stranger_found : ∃ tr found, Prog.Run (discoverMdnsHosts 2 OTA_HTTP_SERVICE 1500) tr (some (.ok found)) ∧
    ¬ ∀ host ∈ found, ∃ p, Origin (packets tr) host p ∧ Advertises p OTA_HTTP_SERVICE := by
  refine ⟨_, _, run_heard OTA_HTTP_SERVICE printer, fun h => ?_⟩
  have hannounce : Announces printer ⟨⟨192, 168, 1, 9⟩, 80⟩ := ⟨[], _, [], records_printer, rfl, rfl⟩
  obtain ⟨host, hhost, -⟩ := announces_iff.1 hannounce
  obtain ⟨host', hhost', -⟩ := (foundIn_spec [printer]).2 printer (List.mem_singleton_self _) host hhost
  obtain ⟨p, ⟨before, after, hsplit, -⟩, r, hr, htyp, -⟩ := h host' hhost'
  change [printer] = before ++ p :: after at hsplit
  have hp : p ∈ [printer] := by rw [hsplit]; simp
  rw [List.mem_singleton.1 hp, records_printer, List.mem_singleton] at hr
  subst hr
  exact absurd htyp (by decide)

end WirelessProgrammer.Mdns
