import WirelessProgrammer.Lib.KeyedMerge
import WirelessProgrammer.Link.Advertisers
import WirelessProgrammer.Link.MdnsAnnounce

/-!
# The list of Z21 command stations

`discover_z21` puts the hosts of an mDNS discovery and the replies to a serial number broadcast into one list, with one
entry for each address and port.  What the list should hold is `Listing`: the stations that were sighted, at the port
that they announce, with the first name and the first serial number that is known.  `lists_sighted` says for which
packets it is so.
-/

namespace WirelessProgrammer

/-- The sender of a datagram. -/
inductive SocketAddr
  | v4 (a : SocketAddrV4)
  | v6 (octets : List UInt8) (port : UInt16)
  deriving DecidableEq, Repr

namespace Z21

open Effect KeyedMerge

open Mdns (OtaHost parseOtaHosts)

def Z21_UDP_PORT : UInt16 := 21105

def Z21_UDP_PORT_ALT : UInt16 := 21106

def BROADCAST : Ipv4Addr := ⟨255, 255, 255, 255⟩

/-- A command station found on the network. -/
structure Z21Host where
  hostname : List Char
  ipv4 : Ipv4Addr
  port : UInt16
  serial : Option UInt32
  deriving DecidableEq, Repr

namespace Z21Host

def endpoint (h : Z21Host) : SocketAddrV4 := ⟨h.ipv4, h.port⟩

/-- An entry keeps what it knows. -/
def update (existing host : Z21Host) : Z21Host :=
  { existing with
    hostname := if existing.hostname = [] then host.hostname else existing.hostname
    serial := if existing.serial = none then host.serial else existing.serial }

end Z21Host

def pushHost : List Z21Host → Z21Host → List Z21Host
  | [], host => [host]
  | e :: found, host =>
    if e.ipv4 = host.ipv4 ∧ e.port = host.port then e.update host :: found else e :: pushHost found host

def parseSerial : List UInt8 → Option UInt32
  | a :: b :: c :: d :: _ => some (a.toUInt32 ||| b.toUInt32 <<< 8 ||| c.toUInt32 <<< 16 ||| d.toUInt32 <<< 24)
  | _ => none

/-! ### The serial number broadcast -/

/-- A record of a datagram from `source`. -/
def serialRecord (source : SocketAddrV4) (found : List Z21Host) (rec : Record) : List Z21Host :=
  if rec.header ≠ HEADER_GET_SERIAL_NUMBER then found
  else pushHost found ⟨[], source.ip, source.port, parseSerial rec.data⟩

/-- A pass of the loop of `probe_serial_broadcast`. -/
def serialPass (found : List Z21Host) : Except IoError (Datagram SocketAddr) → Except IoError (List Z21Host)
  | .ok d =>
    match d.source with
    | .v4 source => .ok ((parseRecords d.bytes).foldl (serialRecord source) found)
    | .v6 .. => .ok found
  | .error e => if isQuiet e then .ok found else .error e

/-- Ask the two ports for the serial number; `listen` binds the socket and allows broadcasts. -/
def probeSerialBroadcast (passes wait : Nat) : UdpM SocketAddr (Option (Except IoError (List Z21Host))) := do
  match ← UdpM.listen with
  | .error e => return some (.error e)
  | .ok () =>
    match ← UdpM.setReadTimeout 200 with
    | .error e => return some (.error e)
    | .ok () =>
      let _ ← UdpM.sendTo serialNumberRequest (.v4 ⟨BROADCAST, Z21_UDP_PORT⟩)
      let _ ← UdpM.sendTo serialNumberRequest (.v4 ⟨BROADCAST, Z21_UDP_PORT_ALT⟩)
      let start ← UdpM.now
      pollUntil (start + wait) serialPass passes []

/-! ### The list -/

/-- A host of the mDNS discovery. -/
def ofMdns (h : OtaHost) : Z21Host := ⟨h.hostname, h.ipv4, if h.port = 0 then Z21_UDP_PORT else h.port, none⟩

/-- What `discover_z21` returns; an error of either part is only logged. -/
def listed (mdns : Except IoError (List OtaHost)) (probe : Except IoError (List Z21Host)) : List Z21Host :=
  let found :=
    match mdns with
    | .ok hosts => hosts.foldl (fun found h => pushHost found (ofMdns h)) []
    | .error _ => []
  match probe with
  | .ok hosts => hosts.foldl pushHost found
  | .error _ => found

/-- A run of `discover_z21`: the mDNS discovery, and then the broadcast. -/
structure Discovery where
  passes : Nat
  wait : Nat
  mdnsTrace : List (UdpEvent SocketAddrV4)
  mdns : Except IoError (List OtaHost)
  runMdns : Prog.Run (Mdns.discoverMdnsHosts passes Mdns.Z21_UDP_SERVICE wait) mdnsTrace (some mdns)
  probeTrace : List (UdpEvent SocketAddr)
  probe : Except IoError (List Z21Host)
  runProbe : Prog.Run (probeSerialBroadcast passes wait) probeTrace (some probe)

def Discovery.found (run : Discovery) : List Z21Host := listed run.mdns run.probe

/-! ### Sightings -/

/-- The packet carries no SRV record. -/
def NoSrv (packet : List UInt8) : Prop := ∀ r ∈ Mdns.records packet, r.typ ≠ Mdns.TYPE_SRV

instance (packet : List UInt8) : Decidable (NoSrv packet) := List.decidableBAll _ _

/-- A host of a packet, at the port that it stands for: 21105 without an SRV record, or with port 0 in it. -/
def sighting (packet : List UInt8) (h : OtaHost) : Z21Host :=
  if NoSrv packet then ⟨h.hostname, h.ipv4, Z21_UDP_PORT, none⟩ else ofMdns h

def sightings (packet : List UInt8) : List Z21Host := (parseOtaHosts packet).map (sighting packet)

/-- The serial numbers in a datagram. -/
def replies (d : Datagram SocketAddr) : List Z21Host :=
  match d.source with
  | .v4 source => ((parseRecords d.bytes).filter fun rec => rec.header = HEADER_GET_SERIAL_NUMBER).map fun rec =>
      ⟨[], source.ip, source.port, parseSerial rec.data⟩
  | .v6 .. => []

/-- The datagrams among what was received. -/
def datagrams (tr : List (UdpEvent SocketAddr)) : List (Datagram SocketAddr) :=
  (arrivals tr).filterMap fun
    | .ok d => some d
    | .error _ => none

def succeeded {α : Type} : Except IoError α → Bool
  | .ok _ => true
  | .error _ => false

/-- What was sighted by the parts of a discovery that succeeded, in order. -/
def Discovery.sighted (run : Discovery) : List Z21Host :=
  (if succeeded run.mdns then (Mdns.packets run.mdnsTrace).flatMap sightings else []) ++
    if succeeded run.probe then (datagrams run.probeTrace).flatMap replies else []

/-- The first name that is not empty. -/
def firstName (l : List Z21Host) : List Char := ((l.map (·.hostname)).find? (· ≠ [])).getD []

/-- The first serial number that is known. -/
def firstSerial (l : List Z21Host) : Option UInt32 := (l.filterMap (·.serial)).head?

/-- The sightings at an address and port. -/
def sightedAt (e : SocketAddrV4) (l : List Z21Host) : List Z21Host := l.filter fun h => h.endpoint = e

/-- One entry for each address and port that was sighted, with the first name and the first serial number. -/
structure Listing (seen found : List Z21Host) : Prop where
  distinct : (found.map Z21Host.endpoint).Nodup
  endpoints : ∀ e, e ∈ found.map Z21Host.endpoint ↔ e ∈ seen.map Z21Host.endpoint
  hostname : ∀ h ∈ found, h.hostname = firstName (sightedAt h.endpoint seen)
  serial : ∀ h ∈ found, h.serial = firstSerial (sightedAt h.endpoint seen)

/-! ### Lists of hosts -/

/-- The entries of the list. -/
def hostMerge : Merge Z21Host SocketAddrV4 := ⟨Z21Host.endpoint, Z21Host.update, fun _ _ => rfl⟩

private theorem pushHost_eq (found : List Z21Host) (h : Z21Host) : pushHost found h = hostMerge.push found h := by
  induction found with
  | nil => rfl
  | cons e found ih =>
    have hiff : (e.ipv4 = h.ipv4 ∧ e.port = h.port) ↔ hostMerge.key e = hostMerge.key h := by
      show _ ↔ (⟨e.ipv4, e.port⟩ : SocketAddrV4) = ⟨h.ipv4, h.port⟩
      rw [SocketAddrV4.mk.injEq]
    rw [pushHost, Merge.push, if_congr hiff rfl rfl, ih]
    rfl

private theorem foldl_pushHost (l found : List Z21Host) : l.foldl pushHost found = l.foldl hostMerge.push found := by
  have hfun : pushHost = hostMerge.push := by
    funext found h
    exact pushHost_eq found h
  rw [hfun]

private theorem firstName_append (l m : List Z21Host) :
    firstName (l ++ m) = if firstName l = [] then firstName m else firstName l := by
  unfold firstName
  rw [List.map_append, List.find?_append]
  cases h : (l.map (·.hostname)).find? (· ≠ []) with
  | none => rfl
  | some name =>
    have hne : name ≠ [] := by simpa using List.find?_some h
    simp [hne]

private theorem firstSerial_append (l m : List Z21Host) :
    firstSerial (l ++ m) = if firstSerial l = none then firstSerial m else firstSerial l := by
  unfold firstSerial
  rw [List.filterMap_append]
  cases l.filterMap (·.serial) <;> simp

private theorem firstName_singleton (h : Z21Host) : firstName [h] = h.hostname := by
  by_cases hne : h.hostname = []
  · simp [firstName, hne]
  · simp [firstName, hne]

private theorem firstSerial_singleton (h : Z21Host) : firstSerial [h] = h.serial := by
  cases hs : h.serial <;> simp [firstSerial, hs]

/-- Merged entries have the first name and the first serial number. -/
theorem combine_spec (l : List Z21Host) :
    (hostMerge.combine l).elim [] Z21Host.hostname = firstName l ∧
      (hostMerge.combine l).bind Z21Host.serial = firstSerial l := by
  induction l using List.reverseRecOn with
  | nil => exact ⟨rfl, rfl⟩
  | append_singleton l a ih =>
    obtain ⟨hname, hserial⟩ := ih
    rw [Merge.combine_concat, firstName_append, firstSerial_append, firstName_singleton, firstSerial_singleton, ← hname,
      ← hserial]
    cases hostMerge.combine l with
    | none => exact ⟨rfl, rfl⟩
    | some e => exact ⟨rfl, rfl⟩

private theorem listing_pushAll (l : List Z21Host) : Listing l (hostMerge.pushAll l) where
  distinct := hostMerge.nodup_pushAll l
  endpoints := fun _ => hostMerge.mem_keys_pushAll
  hostname := by
    intro h hh
    have hcombine : hostMerge.combine (sightedAt h.endpoint l) = some h := hostMerge.combine_of_mem hh
    rw [← (combine_spec _).1, hcombine]
    rfl
  serial := by
    intro h hh
    have hcombine : hostMerge.combine (sightedAt h.endpoint l) = some h := hostMerge.combine_of_mem hh
    rw [← (combine_spec _).2, hcombine]
    rfl

/-- Two lists of sightings that the same list of hosts stands for. -/
structure Same (l m : List Z21Host) : Prop where
  endpoints : ∀ e, e ∈ l.map Z21Host.endpoint ↔ e ∈ m.map Z21Host.endpoint
  name : ∀ e, firstName (sightedAt e l) = firstName (sightedAt e m)
  serial : ∀ e, firstSerial (sightedAt e l) = firstSerial (sightedAt e m)

private theorem Same.refl (l : List Z21Host) : Same l l := ⟨fun _ => Iff.rfl, fun _ => rfl, fun _ => rfl⟩

private theorem sightedAt_append (e : SocketAddrV4) (l m : List Z21Host) :
    sightedAt e (l ++ m) = sightedAt e l ++ sightedAt e m := List.filter_append l m

private theorem Same.append {l l' m m' : List Z21Host} (hl : Same l l') (hm : Same m m') :
    Same (l ++ m) (l' ++ m') where
  endpoints := by
    intro e
    rw [List.map_append, List.map_append, List.mem_append, List.mem_append, hl.endpoints, hm.endpoints]
  name := by
    intro e
    rw [sightedAt_append, sightedAt_append, firstName_append, firstName_append, hl.name, hm.name]
  serial := by
    intro e
    rw [sightedAt_append, sightedAt_append, firstSerial_append, firstSerial_append, hl.serial, hm.serial]

private theorem Listing.congr {l m found : List Z21Host} (h : Same l m) (hfound : Listing m found) :
    Listing l found where
  distinct := hfound.distinct
  endpoints := fun e => (hfound.endpoints e).trans (h.endpoints e).symm
  hostname := by
    intro x hx
    rw [h.name]
    exact hfound.hostname x hx
  serial := by
    intro x hx
    rw [h.serial]
    exact hfound.serial x hx

/-- Entries that were merged before stand for what they were merged from. -/
theorem same_pushAll (l : List Z21Host) : Same l (hostMerge.pushAll l) where
  endpoints := fun _ => hostMerge.mem_keys_pushAll.symm
  name := by
    intro e
    have hat : sightedAt e (hostMerge.pushAll l) = (hostMerge.combine (sightedAt e l)).toList :=
      hostMerge.ofKey_pushAll l e
    rw [hat, ← (combine_spec _).1]
    cases hostMerge.combine (sightedAt e l) with
    | none => rfl
    | some h => exact (firstName_singleton h).symm
  serial := by
    intro e
    have hat : sightedAt e (hostMerge.pushAll l) = (hostMerge.combine (sightedAt e l)).toList :=
      hostMerge.ofKey_pushAll l e
    rw [hat, ← (combine_spec _).2]
    cases hostMerge.combine (sightedAt e l) with
    | none => rfl
    | some h => exact (firstSerial_singleton h).symm

/-! ### What a discovery enters in the list -/

private theorem foldl_serialRecord (source : SocketAddrV4) (recs : List Record) (found : List Z21Host) :
    recs.foldl (serialRecord source) found =
      ((recs.filter fun rec => rec.header = HEADER_GET_SERIAL_NUMBER).map fun rec =>
        (⟨[], source.ip, source.port, parseSerial rec.data⟩ : Z21Host)).foldl pushHost found := by
  induction recs generalizing found with
  | nil => rfl
  | cons rec recs ih =>
    rw [List.foldl_cons, ih]
    by_cases h : rec.header = HEADER_GET_SERIAL_NUMBER
    · simp [serialRecord, h]
    · simp [serialRecord, h]

private theorem serialPass_ok {found found' : List Z21Host} {d : Datagram SocketAddr}
    (h : serialPass found (.ok d) = .ok found') : found' = (replies d).foldl pushHost found := by
  obtain ⟨source, bytes, sent⟩ := d
  cases source with
  | v4 source =>
    have h : Except.ok ((parseRecords bytes).foldl (serialRecord source) found) = (.ok found' : Except IoError _) := h
    rw [foldl_serialRecord] at h
    exact (Except.ok.inj h).symm
  | v6 octets port => exact (Except.ok.inj h).symm

private theorem foldlM_serialPass {rs : List (Except IoError (Datagram SocketAddr))} {start found : List Z21Host}
    (h : rs.foldlM serialPass start = .ok found) :
    found = ((rs.filterMap fun
      | .ok d => some d
      | .error _ => none).flatMap replies).foldl pushHost start := by
  induction rs generalizing start with
  | nil => exact (Except.ok.inj h).symm
  | cons r rs ih =>
    rw [List.foldlM_cons] at h
    cases hpass : serialPass start r with
    | error e =>
      rw [hpass] at h
      cases h
    | ok next =>
      rw [hpass] at h
      have ih := ih h
      cases r with
      | ok d =>
        rw [ih, serialPass_ok hpass, ← List.foldl_append]
        rfl
      | error e =>
        have hquiet : (if isQuiet e then .ok start else .error e) = (.ok next : Except IoError _) := hpass
        split at hquiet
        · rw [ih, Except.ok.inj hquiet]
          rfl
        · cases hquiet

/-- A broadcast that succeeds has merged the replies that it received. -/
theorem run_probeSerialBroadcast {passes wait : Nat} {tr : List (UdpEvent SocketAddr)} {found : List Z21Host}
    (h : Prog.Run (probeSerialBroadcast passes wait) tr (some (.ok found))) :
    found = hostMerge.pushAll ((datagrams tr).flatMap replies) := by
  obtain ⟨bound, t₁, rfl, h₁⟩ := Prog.run_op.1 h
  cases bound with
  | error e => cases h₁
  | ok _ =>
    obtain ⟨timeout, t₂, rfl, h₂⟩ := Prog.run_op.1 h₁
    cases timeout with
    | error e => cases h₂
    | ok _ =>
      obtain ⟨sent, t₃, rfl, h₃⟩ := Prog.run_op.1 h₂
      obtain ⟨sentAlt, t₄, rfl, h₄⟩ := Prog.run_op.1 h₃
      obtain ⟨start, t₅, rfl, h₅⟩ := Prog.run_op.1 h₄
      have hfold := foldlM_serialPass (run_pollUntil_ok h₅)
      rw [foldl_pushHost] at hfold
      exact hfold

/-- The hosts of a part that succeeded. -/
def entries {α : Type} : Except IoError (List α) → List α
  | .ok l => l
  | .error _ => []

namespace Discovery

variable (run : Discovery)

/-- The hosts that the two parts hand over. -/
def handedOver : List Z21Host := (entries run.mdns).map ofMdns ++ entries run.probe

private theorem found_eq : run.found = hostMerge.pushAll run.handedOver := by
  have hmdns : ∀ hosts : List OtaHost, hosts.foldl (fun found h => pushHost found (ofMdns h)) [] =
      (hosts.map ofMdns).foldl pushHost [] := by
    intro hosts
    rw [List.foldl_map]
  unfold found listed handedOver Merge.pushAll
  rw [← foldl_pushHost, List.foldl_append]
  cases run.mdns with
  | ok hosts =>
    cases run.probe with
    | ok replies =>
      dsimp only
      rw [hmdns]
      rfl
    | error e => exact hmdns hosts
  | error e => cases run.probe <;> rfl

/-- The replies stand for the hosts that the broadcast has made of them. -/
theorem same_probe : Same (if succeeded run.probe then (datagrams run.probeTrace).flatMap replies else [])
    (entries run.probe) := by
  have hrun := run.runProbe
  cases hprobe : run.probe with
  | error e => exact Same.refl []
  | ok hosts =>
    rw [hprobe] at hrun
    rw [run_probeSerialBroadcast hrun]
    exact same_pushAll _

end Discovery

/-! ### What the mDNS part keeps -/

/-- A known host is not changed. -/
def keepMerge : Merge OtaHost SocketAddrV4 := ⟨OtaHost.endpoint, fun e _ => e, fun _ _ => rfl⟩

private theorem keepMerge_push (found : List OtaHost) (h : OtaHost) :
    keepMerge.push found h = if ∃ e ∈ found, e.endpoint = h.endpoint then found else found ++ [h] := by
  induction found with
  | nil => simp [Merge.push]
  | cons e found ih =>
    rw [Merge.push, ih]
    by_cases he : e.endpoint = h.endpoint
    · have hex : ∃ x ∈ e :: found, x.endpoint = h.endpoint := ⟨e, List.mem_cons_self, he⟩
      rw [if_pos hex]
      exact if_pos he
    · have hiff : (∃ x ∈ e :: found, x.endpoint = h.endpoint) ↔ ∃ x ∈ found, x.endpoint = h.endpoint := by
        simp [he]
      rw [if_congr hiff rfl rfl]
      refine (if_neg he).trans ?_
      split <;> rfl

private theorem keep_eq (found : List OtaHost) (h : OtaHost) : Mdns.keep found h = keepMerge.push found h := by
  have hknown : (found.any fun e => e.ipv4 = h.ipv4 ∧ e.port = h.port) = true ↔
      ∃ e ∈ found, e.endpoint = h.endpoint := by
    simp [OtaHost.endpoint]
  rw [keepMerge_push, Mdns.keep, if_congr hknown rfl rfl]

private theorem foundIn_eq (packets : List (List UInt8)) :
    Mdns.foundIn packets = keepMerge.pushAll (packets.flatMap parseOtaHosts) := by
  have hfun : Mdns.keep = keepMerge.push := by
    funext found h
    exact keep_eq found h
  rw [Mdns.foundIn, Merge.pushAll, List.foldl_flatMap, hfun]

/-- The first host at an address and port has a name if one of them has. -/
def NamedFirst (hosts : List OtaHost) : Prop :=
  ∀ before g after, hosts = before ++ g :: after → (∀ e ∈ before, e.endpoint ≠ g.endpoint) → g.hostname = [] →
    ∀ h ∈ hosts, h.endpoint = g.endpoint → h.hostname = []

private theorem NamedFirst.of_append {l m : List OtaHost} (h : NamedFirst (l ++ m)) : NamedFirst l := by
  intro before g after hsplit hfirst hg x hx
  have hwhole : l ++ m = before ++ g :: (after ++ m) := by
    rw [hsplit, List.append_assoc, List.cons_append]
  exact h before g (after ++ m) hwhole hfirst hg x (List.mem_append_left m hx)

private theorem exists_first {l : List OtaHost} {e : SocketAddrV4} (h : ∃ x ∈ l, x.endpoint = e) :
    ∃ before g after, l = before ++ g :: after ∧ g.endpoint = e ∧ ∀ x ∈ before, x.endpoint ≠ e := by
  induction l with
  | nil =>
    obtain ⟨x, hx, -⟩ := h
    exact absurd hx List.not_mem_nil
  | cons y l ih =>
    by_cases hy : y.endpoint = e
    · exact ⟨[], y, l, rfl, hy, fun x hx => absurd hx List.not_mem_nil⟩
    · have hrest : ∃ x ∈ l, x.endpoint = e := by simpa [hy] using h
      obtain ⟨before, g, after, rfl, hg, hbefore⟩ := ih hrest
      exact ⟨y :: before, g, after, rfl, hg, List.forall_mem_cons.2 ⟨hy, hbefore⟩⟩

private theorem firstName_eq_nil {l : List Z21Host} : firstName l = [] ↔ ∀ h ∈ l, h.hostname = [] := by
  induction l with
  | nil => exact iff_of_true rfl fun h hh => absurd hh List.not_mem_nil
  | cons x l ih =>
    have happ := firstName_append [x] l
    rw [firstName_singleton] at happ
    rw [List.forall_mem_cons, ← ih]
    change firstName (x :: l) = _ at happ
    rw [happ]
    split
    · rename_i hx
      exact (and_iff_right hx).symm
    · rename_i hx
      exact iff_of_false hx fun h => hx h.1

private theorem mem_sightedAt {e : SocketAddrV4} {l : List Z21Host} {h : Z21Host} :
    h ∈ sightedAt e l ↔ h ∈ l ∧ h.endpoint = e :=
  hostMerge.mem_ofKey

/-- A sighting at a known endpoint that brings no first name and no serial number. -/
theorem same_concat {l : List Z21Host} {x : Z21Host} (hkey : x.endpoint ∈ l.map Z21Host.endpoint)
    (hname : firstName (sightedAt x.endpoint l) = [] → x.hostname = []) (hserial : x.serial = none) :
    Same (l ++ [x]) l := by
  have hat : ∀ e, sightedAt e [x] = if x.endpoint = e then [x] else [] := by
    intro e
    by_cases he : x.endpoint = e <;> simp [sightedAt, he]
  constructor
  · intro e
    rw [List.map_append, List.mem_append]
    constructor
    · rintro (h | h)
      · exact h
      · rw [List.map_cons, List.map_nil, List.mem_singleton] at h
        rwa [h]
    · exact Or.inl
  · intro e
    rw [sightedAt_append, firstName_append, hat]
    by_cases hnil : firstName (sightedAt e l) = []
    · rw [if_pos hnil, hnil]
      by_cases he : x.endpoint = e
      · rw [if_pos he, firstName_singleton]
        apply hname
        rw [he]
        exact hnil
      · rw [if_neg he]
        rfl
    · rw [if_neg hnil]
  · intro e
    rw [sightedAt_append, firstSerial_append, hat]
    by_cases hnone : firstSerial (sightedAt e l) = none
    · rw [if_pos hnone, hnone]
      by_cases he : x.endpoint = e
      · rw [if_pos he, firstSerial_singleton, hserial]
      · rw [if_neg he]
        rfl
    · rw [if_neg hnone]

private theorem Same.trans {l m n : List Z21Host} (h : Same l m) (h' : Same m n) : Same l n where
  endpoints := fun e => (h.endpoints e).trans (h'.endpoints e)
  name := fun e => (h.name e).trans (h'.name e)
  serial := fun e => (h.serial e).trans (h'.serial e)

private theorem endpoint_ofMdns {g h : OtaHost} (he : g.endpoint = h.endpoint) :
    (ofMdns g).endpoint = (ofMdns h).endpoint := by
  obtain ⟨hip, hport⟩ := SocketAddrV4.mk.inj he
  simp only [ofMdns, Z21Host.endpoint, hip, hport]

/-- The hosts that are kept stand for all of them. -/
theorem same_kept (hosts : List OtaHost) (h : NamedFirst hosts) :
    Same (hosts.map ofMdns) ((keepMerge.pushAll hosts).map ofMdns) := by
  induction hosts using List.reverseRecOn with
  | nil => exact Same.refl []
  | append_singleton l x ih =>
    have ih := ih h.of_append
    rw [Merge.pushAll_concat, keepMerge_push, List.map_append]
    by_cases hknown : ∃ e ∈ keepMerge.pushAll l, e.endpoint = x.endpoint
    · -- the new host is dropped; the first host at its endpoint has a name if it has one
      have hmem : ∃ y ∈ l, y.endpoint = x.endpoint := by
        have hkeys : x.endpoint ∈ (keepMerge.pushAll l).map keepMerge.key := List.mem_map.2 hknown
        exact List.mem_map.1 (keepMerge.mem_keys_pushAll.1 hkeys)
      obtain ⟨before, g, after, hsplit, hg, hbefore⟩ := exists_first hmem
      have hgl : g ∈ l := by
        rw [hsplit]
        exact List.mem_append_right before List.mem_cons_self
      have hgx := endpoint_ofMdns hg
      rw [if_pos hknown]
      refine Same.trans (same_concat ?_ ?_ rfl) ih
      · rw [List.map_map]
        exact List.mem_map.2 ⟨g, hgl, hgx⟩
      · intro hnil
        have hgname : g.hostname = [] := by
          apply firstName_eq_nil.1 hnil (ofMdns g)
          exact mem_sightedAt.2 ⟨List.mem_map_of_mem hgl, hgx⟩
        have hwhole : l ++ [x] = before ++ g :: (after ++ [x]) := by
          rw [hsplit, List.append_assoc, List.cons_append]
        have hfirst : ∀ e ∈ before, e.endpoint ≠ g.endpoint := by
          intro e he
          rw [hg]
          exact hbefore e he
        exact h before g _ hwhole hfirst hgname x (List.mem_append_right l (List.mem_singleton_self x)) hg.symm
    · rw [if_neg hknown, List.map_append]
      exact ih.append (Same.refl _)

/-! ### Runs -/

/-- A loop with the clock at 0 that receives `rs`, and the clock at 1. -/
def receiving {Addr : Type} (rs : List (Except IoError (Datagram Addr))) : List (UdpEvent Addr) :=
  rs.flatMap (fun r => [⟨.now, (0 : Nat)⟩, ⟨.recvFrom, r⟩]) ++ [⟨.now, (1 : Nat)⟩]

private theorem arrivals_receiving {Addr : Type} (rs : List (Except IoError (Datagram Addr))) :
    arrivals (receiving rs) = rs := by
  induction rs with
  | nil => rfl
  | cons r rs ih => exact congrArg (r :: ·) ih

private theorem run_receiving {Addr S R : Type} {pass : S → Except IoError (Datagram Addr) → Except R S}
    {rs : List (Except IoError (Datagram Addr))} {n : Nat} {s s' : S} (hn : rs.length < n)
    (h : rs.foldlM pass s = .ok s') : Prog.Run (pollUntil (0 + 1) pass n s) (receiving rs) (some (.ok s')) := by
  induction rs generalizing n s with
  | nil =>
    obtain ⟨n, rfl⟩ := Nat.exists_eq_succ_of_ne_zero (Nat.pos_iff_ne_zero.1 hn)
    cases Except.ok.inj h
    exact run_pollUntil_done (Nat.le_refl 1)
  | cons r rs ih =>
    obtain ⟨n, rfl⟩ := Nat.exists_eq_succ_of_ne_zero (Nat.ne_zero_of_lt hn)
    rw [List.foldlM_cons] at h
    cases hpass : pass s r with
    | error e =>
      rw [hpass] at h
      cases h
    | ok next =>
      rw [hpass] at h
      exact run_pollUntil_step Nat.one_pos hpass (ih (Nat.lt_of_succ_lt_succ hn) h)

private theorem foldlM_collect_ok (ps : List (List UInt8)) (source : SocketAddrV4) (found : List OtaHost) :
    (ps.map fun p => (Except.ok ⟨source, p, 0⟩ : Except IoError (Datagram SocketAddrV4))).foldlM Mdns.collect found =
      .ok (ps.foldl (fun found p => (parseOtaHosts p).foldl Mdns.keep found) found) := by
  induction ps generalizing found with
  | nil => rfl
  | cons p ps ih => exact ih _

private theorem foldlM_serialPass_ok (ds : List (Datagram SocketAddr)) (found : List Z21Host) :
    (ds.map Except.ok).foldlM serialPass found = .ok ((ds.flatMap replies).foldl pushHost found) := by
  induction ds generalizing found with
  | nil => rfl
  | cons d ds ih =>
    obtain ⟨next, hnext⟩ : ∃ next, serialPass found (.ok d) = .ok next := by
      obtain ⟨source, bytes, sent⟩ := d
      cases source <;> exact ⟨_, rfl⟩
    rw [List.map_cons, List.foldlM_cons, hnext, List.flatMap_cons, List.foldl_append, ← serialPass_ok hnext]
    exact ih next

/-- The discovery that receives some packets and some datagrams. -/
theorem exists_discovery (ps : List (List UInt8)) (ds : List (Datagram SocketAddr)) :
    ∃ run : Discovery, Mdns.packets run.mdnsTrace = ps ∧ run.mdns = .ok (Mdns.foundIn ps) ∧
      datagrams run.probeTrace = ds ∧ run.probe = .ok (hostMerge.pushAll (ds.flatMap replies)) := by
  let source : SocketAddrV4 := ⟨Mdns.MDNS_GROUP, Mdns.MDNS_PORT⟩
  let heard : List (Except IoError (Datagram SocketAddrV4)) := ps.map fun p => .ok ⟨source, p, 0⟩
  let answered : List (Except IoError (Datagram SocketAddr)) := ds.map .ok
  let mdnsTrace : List (UdpEvent SocketAddrV4) :=
    ⟨.listen, (.ok () : Except IoError Unit)⟩ :: ⟨.sendTo (Mdns.ptrQuery Mdns.Z21_UDP_SERVICE) source, (0 : Nat)⟩ ::
      ⟨.now, (0 : Nat)⟩ :: receiving heard
  let probeTrace : List (UdpEvent SocketAddr) :=
    ⟨.listen, (.ok () : Except IoError Unit)⟩ :: ⟨.setReadTimeout 200, (.ok () : Except IoError Unit)⟩ ::
      ⟨.sendTo serialNumberRequest (.v4 ⟨BROADCAST, Z21_UDP_PORT⟩), (0 : Nat)⟩ ::
      ⟨.sendTo serialNumberRequest (.v4 ⟨BROADCAST, Z21_UDP_PORT_ALT⟩), (0 : Nat)⟩ :: ⟨.now, (0 : Nat)⟩ ::
      receiving answered
  let n := ps.length + ds.length + 1
  have hm : Prog.Run (pollUntil (0 + 1) Mdns.collect n []) (receiving heard) (some (.ok (Mdns.foundIn ps))) := by
    apply run_receiving
    · rw [List.length_map]
      omega
    · exact foldlM_collect_ok ps source []
  have hp : Prog.Run (pollUntil (0 + 1) serialPass n []) (receiving answered)
      (some (.ok (hostMerge.pushAll (ds.flatMap replies)))) := by
    apply run_receiving
    · rw [List.length_map]
      omega
    · rw [foldlM_serialPass_ok, foldl_pushHost]
      rfl
  have hmdns : Prog.Run (Mdns.discoverMdnsHosts n Mdns.Z21_UDP_SERVICE 1) mdnsTrace
      (some (.ok (Mdns.foundIn ps))) := .op (.op (.op hm))
  have hprobe : Prog.Run (probeSerialBroadcast n 1) probeTrace
      (some (.ok (hostMerge.pushAll (ds.flatMap replies)))) := .op (.op (.op (.op (.op hp))))
  refine ⟨⟨n, 1, mdnsTrace, _, hmdns, probeTrace, _, hprobe⟩, ?_, rfl, ?_, rfl⟩
  · have harrivals : arrivals mdnsTrace = heard := arrivals_receiving heard
    unfold Mdns.packets
    rw [harrivals, List.filterMap_map]
    exact List.filterMap_some
  · have harrivals : arrivals probeTrace = answered := arrivals_receiving answered
    unfold datagrams
    rw [harrivals, List.filterMap_map]
    exact List.filterMap_some

/-! ### Which packets are listed right -/

section Listed

variable (D : List UInt8 → Prop)

/-- A packet without an SRV record announces no address. -/
def WithSrv : Prop := ∀ p, D p → NoSrv p → ∀ e, ¬ Mdns.Announces p e

/-- If the host that a packet finds first at some address and port has no name, no packet has a name for it. -/
def NamesFirst : Prop :=
  ∀ p, D p → ∀ before g after, parseOtaHosts p = before ++ g :: after → (∀ e ∈ before, e.endpoint ≠ g.endpoint) →
    g.hostname = [] → ∀ q, D q → ∀ h ∈ parseOtaHosts q, h.endpoint = g.endpoint → h.hostname = []

/-- Every discovery that receives packets of this kind lists what it has sighted, whatever replies the broadcast gets. -/
def ListsSighted : Prop := ∀ run : Discovery, (∀ p ∈ Mdns.packets run.mdnsTrace, D p) → Listing run.sighted run.found

variable {D}

private theorem parseOtaHosts_eq_nil (h : WithSrv D) {p : List UInt8} (hp : D p) (hsrv : NoSrv p) :
    parseOtaHosts p = [] := by
  rw [List.eq_nil_iff_forall_not_mem]
  intro host hhost
  exact h p hp hsrv host.endpoint (Mdns.announces_iff.2 ⟨host, hhost, rfl⟩)

private theorem sightings_eq (h : WithSrv D) {p : List UInt8} (hp : D p) :
    sightings p = (parseOtaHosts p).map ofMdns := by
  by_cases hsrv : NoSrv p
  · rw [sightings, parseOtaHosts_eq_nil h hp hsrv]
    rfl
  · apply List.map_congr_left
    intro host _
    exact if_neg hsrv

private theorem flatMap_sightings (h : WithSrv D) {ps : List (List UInt8)} (hps : ∀ p ∈ ps, D p) :
    ps.flatMap sightings = (ps.flatMap parseOtaHosts).map ofMdns := by
  induction ps with
  | nil => rfl
  | cons p ps ih =>
    obtain ⟨hp, hps⟩ := List.forall_mem_cons.1 hps
    rw [List.flatMap_cons, List.flatMap_cons, List.map_append, sightings_eq h hp, ih hps]

/-- Where the first host of an endpoint is, in a list of packets. -/
theorem namedFirst_flatMap (h : NamesFirst D) {ps : List (List UInt8)} (hps : ∀ p ∈ ps, D p) :
    NamedFirst (ps.flatMap parseOtaHosts) := by
  intro before g after hsplit hfirst hg
  -- the packet of the first host
  have hpacket : ∃ p ∈ ps, ∃ before' after', parseOtaHosts p = before' ++ g :: after' ∧
      ∀ e ∈ before', e.endpoint ≠ g.endpoint := by
    clear h
    induction ps generalizing before with
    | nil => cases before <;> cases hsplit
    | cons p ps ih =>
      rw [List.flatMap_cons] at hsplit
      rcases List.append_eq_append_iff.1 hsplit with ⟨l, hbefore, hrest⟩ | ⟨l, hp, hrest⟩
      · subst hbefore
        have hfirst' : ∀ e ∈ l, e.endpoint ≠ g.endpoint := fun e he => hfirst e (List.mem_append_right _ he)
        obtain ⟨q, hq, hfound⟩ := ih (List.forall_mem_cons.1 hps).2 l hrest hfirst'
        exact ⟨q, List.mem_cons_of_mem p hq, hfound⟩
      · cases l with
        | nil =>
          have hrest : [] ++ g :: after = ps.flatMap parseOtaHosts := hrest
          obtain ⟨q, hq, hfound⟩ := ih (List.forall_mem_cons.1 hps).2 [] hrest.symm fun e he => absurd he List.not_mem_nil
          exact ⟨q, List.mem_cons_of_mem p hq, hfound⟩
        | cons x l =>
          obtain ⟨rfl, -⟩ := List.cons.inj hrest
          exact ⟨p, List.mem_cons_self, before, l, hp, hfirst⟩
  obtain ⟨p, hp, before', after', hsplit', hfirst'⟩ := hpacket
  intro x hx hxe
  obtain ⟨q, hq, hxq⟩ := List.mem_flatMap.1 hx
  exact h p (hps p hp) before' g after' hsplit' hfirst' hg q (hps q hq) x hxq hxe

/-- Packets that announce nothing without an SRV record, and names that come first, are enough. -/
theorem listsSighted_of (hsrv : WithSrv D) (hnames : NamesFirst D) : ListsSighted D := by
  intro run hpackets
  rw [run.found_eq]
  refine Listing.congr ?_ (listing_pushAll run.handedOver)
  refine Same.append ?_ run.same_probe
  have hrun := run.runMdns
  cases hmdns : run.mdns with
  | error e => exact Same.refl []
  | ok hosts =>
    rw [hmdns] at hrun
    have hfound := Mdns.run_discoverMdnsHosts hrun
    show Same ((Mdns.packets run.mdnsTrace).flatMap sightings) (hosts.map ofMdns)
    rw [flatMap_sightings hsrv hpackets, hfound, foundIn_eq]
    exact same_kept _ (namedFirst_flatMap hnames hpackets)

/-- What the list is when only packets come. -/
theorem ListsSighted.packets (h : ListsSighted D) {ps : List (List UInt8)} (hps : ∀ p ∈ ps, D p) :
    Listing (ps.flatMap sightings) (hostMerge.pushAll ((Mdns.foundIn ps).map ofMdns)) := by
  obtain ⟨run, hpackets, hmdns, hdatagrams, hprobe⟩ := exists_discovery ps []
  have hlisting := h run (by rwa [hpackets])
  have hsighted : run.sighted = ps.flatMap sightings := by
    rw [Discovery.sighted, hmdns, hprobe, hpackets, hdatagrams]
    exact List.append_nil _
  have hhanded : run.handedOver = (Mdns.foundIn ps).map ofMdns := by
    rw [Discovery.handedOver, hmdns, hprobe]
    exact List.append_nil _
  rwa [run.found_eq, hsighted, hhanded] at hlisting

private theorem portAfter_of_noSrv {p : List UInt8} (h : NoSrv p) {rs : List Mdns.ResourceRecord}
    (hrs : rs ⊆ Mdns.records p) : Mdns.portAfter p rs = 80 := by
  have hnil : rs.filterMap (Mdns.srvPort p) = [] := by
    rw [List.filterMap_eq_nil_iff]
    intro r hr
    exact if_neg fun hsrv => h r (hrs hr) hsrv.1
  rw [Mdns.portAfter, hnil]
  rfl

/-- Without an SRV record an address is announced at port 80. -/
theorem port_of_noSrv {p : List UInt8} {e : SocketAddrV4} (hsrv : NoSrv p) (h : Mdns.Announces p e) : e.port = 80 := by
  obtain ⟨rs₁, r, rs₂, hsplit, -, hport⟩ := h
  rw [← hport]
  apply portAfter_of_noSrv hsrv
  rw [hsplit]
  exact List.subset_append_left rs₁ _

/-- A packet that announces an address without an SRV record is listed at port 80. -/
theorem ListsSighted.withSrv (h : ListsSighted D) : WithSrv D := by
  intro p hp hsrv e hannounce
  have hport := port_of_noSrv hsrv hannounce
  obtain ⟨host, hhost, rfl⟩ := Mdns.announces_iff.1 hannounce
  obtain ⟨kept, hkept, hendpoint⟩ := (Mdns.foundIn_spec [p]).2 p (List.mem_singleton_self p) host hhost
  have hpackets : ∀ q ∈ [p], D q := by simpa using hp
  have hlisting := h.packets hpackets
  have hlisted : (ofMdns kept).endpoint ∈ (hostMerge.pushAll ((Mdns.foundIn [p]).map ofMdns)).map Z21Host.endpoint :=
    hostMerge.mem_keys_pushAll.2 (List.mem_map_of_mem (List.mem_map_of_mem hkept))
  obtain ⟨seen, hseen, hsame⟩ := List.mem_map.1 ((hlisting.endpoints _).1 hlisted)
  have hseen : seen ∈ sightings p := by simpa using hseen
  obtain ⟨x, -, rfl⟩ := List.mem_map.1 hseen
  rw [sighting, if_pos hsrv, endpoint_ofMdns hendpoint] at hsame
  have hport : host.port = 80 := hport
  have hsame : (Z21_UDP_PORT : UInt16) = if host.port = 0 then Z21_UDP_PORT else host.port :=
    congrArg SocketAddrV4.port hsame
  rw [hport] at hsame
  exact absurd hsame (by decide)

private theorem combine_keep (g : OtaHost) (after : List OtaHost) : keepMerge.combine (g :: after) = some g := by
  have hfold : ∀ l : List OtaHost, l.foldl keepMerge.merge g = g := by
    intro l
    induction l with
    | nil => rfl
    | cons x l ih => exact ih
  exact congrArg some (hfold after)

/-- Of the hosts at an address and port, the first one is kept. -/
theorem eq_of_mem_kept {before after : List OtaHost} {g k : OtaHost} (hfirst : ∀ e ∈ before, e.endpoint ≠ g.endpoint)
    (hk : k ∈ keepMerge.pushAll (before ++ g :: after)) (he : k.endpoint = g.endpoint) : k = g := by
  have hcombine : keepMerge.combine (keepMerge.ofKey k.endpoint (before ++ g :: after)) = some k :=
    keepMerge.combine_of_mem hk
  have hnil : keepMerge.ofKey k.endpoint before = [] := by
    rw [List.eq_nil_iff_forall_not_mem]
    intro x hx
    obtain ⟨hx, hkey⟩ := keepMerge.mem_ofKey.1 hx
    exact hfirst x hx (hkey.trans he)
  have hcons : keepMerge.ofKey k.endpoint (g :: after) = g :: keepMerge.ofKey k.endpoint after :=
    List.filter_cons_of_pos (decide_eq_true he.symm)
  rw [Merge.ofKey_append, hnil, List.nil_append, hcons, combine_keep] at hcombine
  exact (Option.some.inj hcombine).symm

private theorem endpoint_eq_of_port {h : OtaHost} (hport : h.port ≠ 0) : (ofMdns h).endpoint = h.endpoint := by
  show (⟨h.ipv4, if h.port = 0 then Z21_UDP_PORT else h.port⟩ : SocketAddrV4) = ⟨h.ipv4, h.port⟩
  rw [if_neg hport]

/-- A name behind a host without one is lost. -/
theorem namedFirst_of_listing {hosts : List OtaHost} (hport : ∀ x ∈ hosts, x.port ≠ 0)
    (h : Listing (hosts.map ofMdns) (hostMerge.pushAll ((keepMerge.pushAll hosts).map ofMdns))) : NamedFirst hosts := by
  intro before g after hsplit hfirst hg x hx hendpoint
  have hgmem : g ∈ hosts := by
    rw [hsplit]
    exact List.mem_append_right before List.mem_cons_self
  have hkeptPort : ∀ k ∈ keepMerge.pushAll hosts, k.port ≠ 0 := by
    intro k hk
    have hkey : k.endpoint ∈ hosts.map keepMerge.key := keepMerge.mem_keys_pushAll.1 (List.mem_map_of_mem hk)
    obtain ⟨y, hy, hyk⟩ := List.mem_map.1 hkey
    have hsame : y.port = k.port := congrArg SocketAddrV4.port hyk
    rw [← hsame]
    exact hport y hy
  -- only the first host is kept, so that the entry has no name
  have hkept : firstName (sightedAt g.endpoint ((keepMerge.pushAll hosts).map ofMdns)) = [] := by
    rw [firstName_eq_nil]
    intro y hy
    obtain ⟨hy, hye⟩ := mem_sightedAt.1 hy
    obtain ⟨k, hk, rfl⟩ := List.mem_map.1 hy
    rw [endpoint_eq_of_port (hkeptPort k hk)] at hye
    rw [hsplit] at hk
    rw [eq_of_mem_kept hfirst hk hye]
    exact hg
  obtain ⟨entry, hentry, hat⟩ : ∃ entry ∈ hostMerge.pushAll ((keepMerge.pushAll hosts).map ofMdns),
      entry.endpoint = g.endpoint := by
    apply List.mem_map.1
    apply (h.endpoints _).2
    rw [← endpoint_eq_of_port (hport g hgmem)]
    exact List.mem_map_of_mem (List.mem_map_of_mem hgmem)
  have hname := (listing_pushAll _).hostname entry hentry
  rw [h.hostname entry hentry, hat, hkept, firstName_eq_nil] at hname
  apply hname (ofMdns x)
  rw [mem_sightedAt, endpoint_eq_of_port (hport x hx)]
  exact ⟨List.mem_map_of_mem hx, hendpoint⟩

private theorem ListsSighted.namesFirst (h : ListsSighted D)
    (hport : ∀ p, D p → ∀ host ∈ parseOtaHosts p, host.port ≠ 0) : NamesFirst D := by
  intro p hp before g after hsplit hfirst hg q hq host hhost hendpoint
  have hps : ∀ x ∈ [p, q], D x := by simp [hp, hq]
  have hlisting := h.packets hps
  rw [flatMap_sightings h.withSrv hps, foundIn_eq] at hlisting
  have hnamed : NamedFirst ([p, q].flatMap parseOtaHosts) := by
    apply namedFirst_of_listing _ hlisting
    intro x hx
    obtain ⟨y, hy, hxy⟩ := List.mem_flatMap.1 hx
    exact hport y (hps y hy) x hxy
  have hall : [p, q].flatMap parseOtaHosts = before ++ g :: (after ++ parseOtaHosts q) := by
    simp [hsplit]
  have hhmem : host ∈ [p, q].flatMap parseOtaHosts := List.mem_flatMap.2 ⟨q, by simp, hhost⟩
  exact hnamed before g _ hall hfirst hg host hhmem hendpoint

variable (D) in
/-- Discoveries with packets of some kind list what they sight if no such packet announces an address without an SRV
record and the first name comes with the first host; the first is necessary, and the second one is for packets in which
no SRV record has port 0. -/
theorem lists_sighted : (WithSrv D ∧ NamesFirst D → ListsSighted D) ∧ (ListsSighted D → WithSrv D ∧
    ((∀ p, D p → ∀ host ∈ parseOtaHosts p, host.port ≠ 0) → NamesFirst D)) := by
  constructor
  · intro h
    exact listsSighted_of h.1 h.2
  · intro h
    exact ⟨h.withSrv, h.namesFirst⟩

end Listed

/-! ### Packets of a station -/

section Station

open Mdns (Resource Message RData)

private def z21Label : DnsName.Label := ⟨Mdns.utf8 "z21".toList, by decide⟩

private def stationIp : Ipv4Addr := ⟨192, 168, 0, 111⟩

/-- A host name with its port and its address. -/
private def served : Message :=
  ⟨[], [⟨[z21Label, Mdns.localLabel], 0, .srv Z21_UDP_PORT [z21Label, Mdns.localLabel]⟩,
    ⟨[z21Label, Mdns.localLabel], 0, .a stationIp⟩]⟩

private theorem messageAt_served : Mdns.MessageAt served.encode served := by
  apply Mdns.messageAt_encode
  constructor
  · intro q hq
    exact absurd hq List.not_mem_nil
  · decide
  · decide
  · decide
  · decide

private theorem parseOtaHosts_served : parseOtaHosts served.encode = [⟨"z21".toList, stationIp, Z21_UDP_PORT⟩] := by
  have hread : ∀ q ∈ served.questions, Mdns.Readable q.jumps := fun q hq => absurd hq List.not_mem_nil
  rw [Mdns.parseOtaHosts_at messageAt_served (by decide), if_pos hread]
  decide

/-- A station that announces its port and its name is listed right, whoever else answers. -/
theorem lists_sighted_served : WithSrv (· = served.encode) ∧ NamesFirst (· = served.encode) ∧
    ListsSighted (· = served.encode) := by
  have hsrv : WithSrv (· = served.encode) := by
    rintro p rfl hsrv e hannounce
    have hport := port_of_noSrv hsrv hannounce
    obtain ⟨host, hhost, rfl⟩ := Mdns.announces_iff.1 hannounce
    rw [parseOtaHosts_served] at hhost
    rw [List.mem_singleton.1 hhost] at hport
    exact absurd hport (by decide)
  have hnames : NamesFirst (· = served.encode) := by
    rintro p rfl before g after hsplit - hg
    rw [parseOtaHosts_served] at hsplit
    have hmem : g ∈ [(⟨"z21".toList, stationIp, Z21_UDP_PORT⟩ : OtaHost)] := by
      rw [hsplit]
      simp
    rw [List.mem_singleton.1 hmem] at hg
    exact absurd hg (by decide)
  exact ⟨hsrv, hnames, (lists_sighted _).1 ⟨hsrv, hnames⟩⟩


/-- The records that are read have the types of the ones that are laid out. -/
theorem typ_of_mem_recordsFrom {pkt : List UInt8} {off : Nat} {rs : List Resource} (h : Mdns.ResourcesAt pkt off rs) :
    ∀ r ∈ Mdns.recordsFrom pkt rs.length off, ∃ x ∈ rs, r.typ = x.data.typ := by
  induction h with
  | nil =>
    intro r hr
    exact absurd hr List.not_mem_nil
  | @cons off next x rs hx hrest ih =>
    obtain ⟨raw, hread, htyp, -⟩ := Mdns.readRecord_at hx
    intro r hr
    rw [List.length_cons, Mdns.recordsFrom, hread] at hr
    by_cases hok : Mdns.Readable x.jumps
    · rw [if_pos hok] at hr
      rcases List.mem_cons.1 hr with rfl | hr
      · exact ⟨x, List.mem_cons_self, htyp⟩
      · obtain ⟨y, hy, hty⟩ := ih r hr
        exact ⟨y, List.mem_cons_of_mem x hy, hty⟩
    · rw [if_neg hok] at hr
      exact absurd hr List.not_mem_nil

/-- A message without an SRV record. -/
theorem noSrv_of_messageAt {pkt : List UInt8} {m : Message} (h : Mdns.MessageAt pkt m)
    (hcount : m.resources.length ≤ 65535) (hread : ∀ q ∈ m.questions, Mdns.Readable q.jumps)
    (hsrv : ∀ r ∈ m.resources, r.data.typ ≠ Mdns.TYPE_SRV) : NoSrv pkt := by
  obtain ⟨off, hquestions, hresources⟩ := h.layout
  have hstart : Mdns.recordsStart pkt = some off := by
    have hquestionCount : ((Mdns.be16 pkt 4).getD 0).toNat = m.questions.length := h.questionCount
    rw [Mdns.recordsStart, if_neg (Nat.not_lt.2 h.header), hquestionCount, Mdns.skipQuestions_at hquestions, if_pos hread]
  have hrecords : Mdns.recordCount pkt = m.resources.length := by
    rw [Mdns.recordCount_eq, h.resourceCount, Nat.min_eq_left hcount]
  intro r hr
  rw [Mdns.records, hstart, hrecords] at hr
  obtain ⟨x, hx, htyp⟩ := typ_of_mem_recordsFrom hresources r hr
  rw [htyp]
  exact hsrv x hx

/-- A host name and an address. -/
private def bare : Message := ⟨[], [⟨[z21Label, Mdns.localLabel], 0, .a stationIp⟩]⟩

private theorem messageAt_bare : Mdns.MessageAt bare.encode bare := by
  apply Mdns.messageAt_encode
  constructor
  · intro q hq
    exact absurd hq List.not_mem_nil
  · intro r hr
    rw [List.mem_singleton.1 hr]
  · intro r hr
    rw [List.mem_singleton.1 hr]
    decide
  · decide
  · decide

private theorem noSrv_bare : NoSrv bare.encode := by
  apply noSrv_of_messageAt messageAt_bare (by decide)
  · intro q hq
    exact absurd hq List.not_mem_nil
  · intro r hr
    rw [List.mem_singleton.1 hr]
    decide

private theorem parseOtaHosts_bare : parseOtaHosts bare.encode = [⟨"z21".toList, stationIp, 80⟩] := by
  have hread : ∀ q ∈ bare.questions, Mdns.Readable q.jumps := fun q hq => absurd hq List.not_mem_nil
  rw [Mdns.parseOtaHosts_at messageAt_bare (by decide), if_pos hread]
  decide

/-- The serial number, from the usual port. -/
private def serialReply : Datagram SocketAddr :=
  ⟨.v4 ⟨stationIp, Z21_UDP_PORT⟩, encode HEADER_GET_SERIAL_NUMBER [0x2a, 0, 0, 0], 0⟩

private theorem replies_serialReply : replies serialReply = [⟨[], stationIp, Z21_UDP_PORT, some 42⟩] := by
  have hparse : parseRecords (encode HEADER_GET_SERIAL_NUMBER [0x2a, 0, 0, 0]) =
      [⟨HEADER_GET_SERIAL_NUMBER, [0x2a, 0, 0, 0]⟩] := parseRecords_encode_single _ _ (by decide)
  show ((parseRecords (encode HEADER_GET_SERIAL_NUMBER [0x2a, 0, 0, 0])).filter fun rec =>
    rec.header = HEADER_GET_SERIAL_NUMBER).map _ = _
  rw [hparse]
  rfl

/-- A station that announces its address without an SRV record is listed twice. -/
theorem listed_twice : ∃ run : Discovery, (∀ p ∈ Mdns.packets run.mdnsTrace, NoSrv p) ∧
    run.found = [⟨"z21".toList, stationIp, 80, none⟩, ⟨[], stationIp, Z21_UDP_PORT, some 42⟩] ∧
    ¬ Listing run.sighted run.found := by
  obtain ⟨run, hpackets, hmdns, hdatagrams, hprobe⟩ := exists_discovery [bare.encode] [serialReply]
  have hfoundIn : Mdns.foundIn [bare.encode] = [⟨"z21".toList, stationIp, 80⟩] := by
    rw [foundIn_eq, List.flatMap_cons, parseOtaHosts_bare]
    rfl
  have hreplies : [serialReply].flatMap replies = [⟨[], stationIp, Z21_UDP_PORT, some 42⟩] := by
    rw [List.flatMap_cons, replies_serialReply]
    rfl
  have hfound : run.found = [⟨"z21".toList, stationIp, 80, none⟩, ⟨[], stationIp, Z21_UDP_PORT, some 42⟩] := by
    rw [run.found_eq, Discovery.handedOver, hmdns, hprobe, hfoundIn, hreplies]
    decide
  have hsighted : run.sighted =
      [⟨"z21".toList, stationIp, Z21_UDP_PORT, none⟩, ⟨[], stationIp, Z21_UDP_PORT, some 42⟩] := by
    have hsightings : sightings bare.encode = [⟨"z21".toList, stationIp, Z21_UDP_PORT, none⟩] := by
      rw [sightings, parseOtaHosts_bare, List.map_cons, sighting, if_pos noSrv_bare]
      rfl
    rw [Discovery.sighted, hmdns, hprobe, hpackets, hdatagrams, hreplies, List.flatMap_cons, hsightings]
    rfl
  refine ⟨run, ?_, hfound, ?_⟩
  · intro p hp
    rw [hpackets] at hp
    rw [List.mem_singleton.1 hp]
    exact noSrv_bare
  · intro h
    have hport := (h.endpoints ⟨stationIp, 80⟩).1
    rw [hfound, hsighted] at hport
    exact absurd (hport (by decide)) (by decide)

end Station

end Z21

end WirelessProgrammer
