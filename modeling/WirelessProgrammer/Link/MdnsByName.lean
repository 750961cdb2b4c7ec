import WirelessProgrammer.Link.MdnsAnnounce

/-!
# Which port goes with which address

The SRV record of a service names the host that it is on, and the A record of that host has its address.  The parser
does not compare these names: an address goes with the last SRV record before it.  `ports_by_name_iff` says for which
packets this is the SRV record of its host.
-/

namespace WirelessProgrammer.Mdns

open DnsName (Label)

namespace Resource

/-- The target and the port of an SRV record. -/
def service (r : Resource) : Option (List Label × UInt16) :=
  match r.data with
  | .srv port target => some (target, port)
  | _ => none

/-- The owner and the address of an A record. -/
def host (r : Resource) : Option (List Label × Ipv4Addr) :=
  match r.data with
  | .a ip => some (r.owner, ip)
  | _ => none

end Resource

def services (rs : List Resource) : List (List Label × UInt16) := rs.filterMap Resource.service

def hosts (rs : List Resource) : List (List Label × Ipv4Addr) := rs.filterMap Resource.host

/-- Every service instance has an SRV record with a target of its own, and the target has one A record. -/
structure Instances (rs : List Resource) : Prop where
  distinct : ((services rs).map fun s => DnsName.fold s.1).Nodup
  matched : List.Perm ((hosts rs).map fun a => DnsName.fold a.1) ((services rs).map fun s => DnsName.fold s.1)

/-- The port of the SRV record whose target is `owner`. -/
def portOf (rs : List Resource) (owner : List Label) : Option UInt16 :=
  ((services rs).find? fun s => DnsName.fold s.1 = DnsName.fold owner).map (·.2)

/-- One host for each A record, in order, with its address and the port of the SRV record whose target is its owner. -/
def ByName (rs : List Resource) (found : List OtaHost) : Prop :=
  List.Forall₂ (fun h a => h.ipv4 = a.2 ∧ portOf rs a.1 = some h.port) found (hosts rs)

/-- The port of the last SRV record. -/
def lastPort (port : UInt16) (rs : List Resource) : UInt16 := ((services rs).getLast?.map (·.2)).getD port

/-- Each A record is reached, and the last SRV record before it has the port that `f` gives to its owner. -/
def Ordered (f : List Label → Option UInt16) (port : UInt16) (rs : List Resource) : Prop :=
  ∀ before r after ip, rs = before ++ r :: after → r.data = .a ip →
    (∀ p ∈ before, Readable p.jumps) ∧ Readable r.jumps ∧ f r.owner = some (lastPort port before)

private theorem lastPort_cons (port : UInt16) (r : Resource) (rs : List Resource) :
    lastPort port (r :: rs) = lastPort (lastPort port [r]) rs := by
  unfold lastPort services
  cases h : r.service with
  | none => simp [h]
  | some s =>
    simp only [List.filterMap_cons, h, List.filterMap_nil, List.getLast?_cons, List.getLast?_nil, Option.getD_none,
      Option.map_some, Option.getD_some]
    cases (rs.filterMap Resource.service).getLast? <;> rfl

section Ordered

variable {f : List Label → Option UInt16} {port : UInt16} {r : Resource} {rs : List Resource}

private theorem host_eq_some {ip : Ipv4Addr} (h : r.data = .a ip) : r.host = some (r.owner, ip) := by
  rw [Resource.host, h]

private theorem exists_of_host {a : List Label × Ipv4Addr} (h : r.host = some a) : ∃ ip, r.data = .a ip := by
  obtain ⟨owner, jumps, data⟩ := r
  cases data with
  | a ip => exact ⟨ip, rfl⟩
  | _ => cases h

private theorem hosts_ne_nil {before after : List Resource} {ip : Ipv4Addr} (h : r.data = .a ip) :
    hosts (before ++ r :: after) ≠ [] := by
  rw [hosts, List.filterMap_append, List.filterMap_cons_some (host_eq_some h)]
  simp

private theorem exists_split_of_hosts (h : hosts rs ≠ []) : ∃ before r after ip, rs = before ++ r ::
    after ∧ r.data = .a ip := by
  obtain ⟨a, ha⟩ := List.exists_mem_of_ne_nil _ h
  obtain ⟨r, hr, ha⟩ := List.mem_filterMap.1 ha
  obtain ⟨before, after, hsplit⟩ := List.append_of_mem hr
  obtain ⟨ip, hip⟩ := exists_of_host ha
  exact ⟨before, r, after, ip, hsplit, hip⟩

/-- The first record, and the ones behind it. -/
theorem ordered_cons :
    Ordered f port (r :: rs) ↔ (∀ ip, r.data = .a ip → Readable r.jumps ∧ f r.owner = some port) ∧
      (hosts rs ≠ [] → Readable r.jumps) ∧ Ordered f (lastPort port [r]) rs := by
  constructor
  · intro h
    refine ⟨?_, ?_, ?_⟩
    · intro ip hip
      exact (h [] r rs ip rfl hip).2
    · intro hne
      obtain ⟨before, x, after, ip, rfl, hip⟩ := exists_split_of_hosts hne
      exact (h (r :: before) x after ip rfl hip).1 r List.mem_cons_self
    · intro before x after ip hsplit hip
      obtain ⟨hbefore, hx, hf⟩ := h (r :: before) x after ip (by rw [hsplit]; rfl) hip
      rw [lastPort_cons] at hf
      exact ⟨fun p hp => hbefore p (List.mem_cons_of_mem r hp), hx, hf⟩
  · rintro ⟨hhead, hread, hrest⟩ before x after ip hsplit hip
    cases before with
    | nil =>
      obtain ⟨rfl, -⟩ := List.cons.inj hsplit
      exact ⟨fun p hp => absurd hp List.not_mem_nil, hhead ip hip⟩
    | cons p before =>
      obtain ⟨rfl, htail⟩ := List.cons.inj hsplit
      obtain ⟨hbefore, hx, hf⟩ := hrest before x after ip htail hip
      have hr : Readable r.jumps := by
        apply hread
        rw [htail]
        exact hosts_ne_nil hip
      refine ⟨List.forall_mem_cons.2 ⟨hr, hbefore⟩, hx, ?_⟩
      rw [lastPort_cons]
      exact hf

private theorem ordered_nil : Ordered f port [] := by
  intro before r after ip hsplit
  cases before <;> cases hsplit

/-- With a record that cannot be read, no A record is reached. -/
theorem ordered_unreadable (h : ¬ Readable r.jumps) : Ordered f port (r :: rs) ↔ hosts (r :: rs) = [] := by
  constructor
  · intro hord
    by_contra hne
    obtain ⟨before, x, after, ip, hsplit, hip⟩ := exists_split_of_hosts hne
    obtain ⟨hbefore, hx, -⟩ := hord before x after ip hsplit hip
    cases before with
    | nil =>
      obtain ⟨rfl, -⟩ := List.cons.inj hsplit
      exact h hx
    | cons p before =>
      obtain ⟨rfl, -⟩ := List.cons.inj hsplit
      exact h (hbefore r List.mem_cons_self)
  · intro hnil before x after ip hsplit hip
    rw [hsplit] at hnil
    exact absurd hnil (hosts_ne_nil hip)

end Ordered

/-- What the parser finds in the records from some state on. -/
theorem foldl_resource (f : List Label → Option UInt16) (rs : List Resource) (s : Parsed) :
    ∃ found, ((readables rs).foldl Parsed.resource s).out = s.out ++ found ∧
      (List.Forall₂ (fun h a => h.ipv4 = a.2 ∧ f a.1 = some h.port) found (hosts rs) ↔ Ordered f s.port rs) := by
  induction rs generalizing s with
  | nil => exact ⟨[], (List.append_nil _).symm, iff_of_true List.Forall₂.nil ordered_nil⟩
  | cons r rs ih =>
    by_cases hr : Readable r.jumps
    · have hcons : readables (r :: rs) = r :: readables rs := List.takeWhile_cons_of_pos (decide_eq_true hr)
      obtain ⟨found, hout, hiff⟩ := ih (s.resource r)
      rw [hcons, List.foldl_cons, ordered_cons]
      obtain ⟨owner, jumps, data⟩ := r
      cases data with
      | srv port target =>
        refine ⟨found, hout, hiff.trans ?_⟩
        constructor
        · intro h
          exact ⟨fun ip hip => (by cases hip), fun _ => hr, h⟩
        · intro h
          exact h.2.2
      | other typ data hne =>
        refine ⟨found, hout, hiff.trans ?_⟩
        constructor
        · intro h
          exact ⟨fun ip hip => (by cases hip), fun _ => hr, h⟩
        · intro h
          exact h.2.2
      | a ip =>
        -- the A record comes first in the hosts, with the port of the state
        refine ⟨⟨if s.hostname = [] then firstLabel (nameText owner) else s.hostname, ip, s.port⟩ :: found, ?_, ?_⟩
        · rw [hout]
          show s.out ++ [_] ++ found = _
          rw [List.append_assoc]
          rfl
        · show List.Forall₂ _ (_ :: found) ((owner, ip) :: hosts rs) ↔ _
          rw [List.forall₂_cons, hiff]
          constructor
          · rintro ⟨⟨-, hport⟩, hrest⟩
            exact ⟨fun _ _ => ⟨hr, hport⟩, fun _ => hr, hrest⟩
          · rintro ⟨hhead, -, hrest⟩
            exact ⟨⟨rfl, (hhead ip rfl).2⟩, hrest⟩
    · have hnil : readables (r :: rs) = [] := List.takeWhile_cons_of_neg (by simpa using hr)
      refine ⟨[], by rw [hnil]; exact (List.append_nil _).symm, ?_⟩
      rw [ordered_unreadable hr]
      constructor
      · intro h
        cases hlist : hosts (r :: rs) with
        | nil => rfl
        | cons a l =>
          rw [hlist] at h
          cases h
      · intro h
        rw [h]
        exact List.Forall₂.nil

/-! ### The packet -/

section Length

variable {pkt : List UInt8} {off stop : Nat}

private theorem lt_length_of_be16 {n : UInt16} (h : be16 pkt off = some n) : off + 1 < pkt.length := by
  unfold be16 at h
  cases ha : pkt[off]? with
  | none => simp [ha] at h
  | some a =>
    cases hb : pkt[off + 1]? with
    | none => simp [ha, hb] at h
    | some b => exact (List.getElem?_eq_some_iff.1 hb).1

private theorem QuestionsAt.stop_le {qs : List Question} (h : QuestionsAt pkt off qs stop) (hoff : off ≤ pkt.length) :
    stop ≤ pkt.length := by
  induction h with
  | nil => exact hoff
  | @cons off nend stop q qs _ _ hcls _ ih =>
    have hlt := lt_length_of_be16 hcls
    apply ih
    omega

/-- Every record takes some of the packet. -/
theorem ResourcesAt.length_le {rs : List Resource} (h : ResourcesAt pkt off rs) (hoff : off ≤ pkt.length) :
    off + rs.length ≤ pkt.length := by
  induction h with
  | nil => exact hoff
  | @cons off next r rs hr _ ih =>
    cases hr with
    | mk howner _ _ hstop _ =>
      have hlt := howner.lt_stop
      have ih := ih hstop
      rw [List.length_cons]
      omega

private theorem MessageAt.length_le {m : Message} (h : MessageAt pkt m) : m.resources.length ≤ pkt.length := by
  obtain ⟨off, hquestions, hresources⟩ := h.layout
  have hle := hresources.length_le (hquestions.stop_le h.header)
  omega

end Length

/-- In a datagram with a message, each A record makes one host with the port of the SRV record of its owner, if and only
if the parser can read the names up to the A record and the last SRV record before it is the one of its owner, or has the
same port. -/
theorem ports_by_name_iff {pkt : List UInt8} {m : Message} (h : MessageAt pkt m) (hlen : pkt.length ≤ 65535) :
    ByName m.resources (parseOtaHosts pkt) ↔
      (hosts m.resources ≠ [] → ∀ q ∈ m.questions, Readable q.jumps) ∧ Ordered (portOf m.resources) 80 m.resources := by
  have hcount : m.resources.length ≤ 65535 := h.length_le.trans hlen
  obtain ⟨found, hout, hiff⟩ := foldl_resource (portOf m.resources) m.resources .init
  have hout : ((readables m.resources).foldl Parsed.resource .init).out = found := hout
  rw [parseOtaHosts_at h hcount]
  by_cases hq : ∀ q ∈ m.questions, Readable q.jumps
  · rw [if_pos hq, hout, ByName, hiff]
    constructor
    · intro hord
      exact ⟨fun _ => hq, hord⟩
    · intro hboth
      exact hboth.2
  · rw [if_neg hq, ByName]
    constructor
    · intro hnone
      have hnil : hosts m.resources = [] := by
        cases hlist : hosts m.resources with
        | nil => rfl
        | cons a l =>
          rw [hlist] at hnone
          cases hnone
      refine ⟨fun hne => absurd hnil hne, ?_⟩
      intro before r after ip hsplit hip
      rw [hsplit] at hnil
      exact absurd hnil (hosts_ne_nil hip)
    · rintro ⟨hread, -⟩
      have hnil : hosts m.resources = [] := by
        by_contra hne
        exact hq (hread hne)
      rw [hnil]
      exact List.Forall₂.nil

/-! ### Two hosts -/

private def leftHost : Label := ⟨utf8 "left".toList, by decide⟩

private def rightHost : Label := ⟨utf8 "right".toList, by decide⟩

private def srvOf (host : Label) (port : UInt16) : Resource := ⟨host :: serviceName, 0, .srv port (targetName host)⟩

private def aOf (host : Label) (d : UInt8) : Resource := ⟨targetName host, 0, .a ⟨10, 0, 0, d⟩⟩

/-- Each SRV record, and the address of its target. -/
private def paired : Message := ⟨[], [srvOf leftHost 8080, aOf leftHost 1, srvOf rightHost 80, aOf rightHost 2]⟩

/-- The SRV records first. -/
private def grouped : Message := ⟨[], [srvOf leftHost 8080, srvOf rightHost 80, aOf leftHost 1, aOf rightHost 2]⟩

private theorem plain_of {rs : List Resource} (hjumps : ∀ r ∈ rs, r.jumps = 0)
    (hdata : ∀ r ∈ rs, r.data.encode.length < 65536) (hcount : rs.length < 65536) : Message.Plain ⟨[], rs⟩ where
  questions := fun _ hq => absurd hq List.not_mem_nil
  owners := hjumps
  data := hdata
  questionCount := Nat.zero_lt_succ 65535
  resourceCount := hcount

private theorem messageAt_paired : MessageAt paired.encode paired :=
  messageAt_encode (plain_of (by simp [srvOf, aOf]) (by decide) (by decide))

private theorem messageAt_grouped : MessageAt grouped.encode grouped :=
  messageAt_encode (plain_of (by simp [srvOf, aOf]) (by decide) (by decide))

theorem ports_by_name_paired : ByName paired.resources (parseOtaHosts paired.encode) := by
  apply (ports_by_name_iff messageAt_paired (by decide +kernel)).2
  constructor
  · intro _ q hq
    exact absurd hq List.not_mem_nil
  · refine ordered_cons.2 ⟨fun ip hip => (by cases hip), fun _ => (by decide), ?_⟩
    refine ordered_cons.2 ⟨fun ip hip => (by decide), fun _ => (by decide), ?_⟩
    refine ordered_cons.2 ⟨fun ip hip => (by cases hip), fun _ => (by decide), ?_⟩
    exact ordered_cons.2 ⟨fun ip hip => (by decide), fun _ => (by decide), ordered_nil⟩

/-- With the SRV records first, the port of the last one goes with both addresses. -/
theorem ports_by_position : ∃ pkt m, MessageAt pkt m ∧ pkt.length ≤ 65535 ∧ Instances m.resources ∧
    ¬ ByName m.resources (parseOtaHosts pkt) := by
  refine ⟨grouped.encode, grouped, messageAt_grouped, by decide +kernel, ⟨by decide, List.Perm.refl _⟩, ?_⟩
  intro h
  have hread : ∀ q ∈ grouped.questions, Readable q.jumps := fun q hq => absurd hq List.not_mem_nil
  rw [parseOtaHosts_at messageAt_grouped (by decide), if_pos hread] at h
  obtain ⟨-, hport⟩ := (List.forall₂_cons.1 h).1
  have hleft : portOf grouped.resources (targetName leftHost) = some 8080 := by decide
  exact absurd (hleft.symm.trans hport) (by decide)

end WirelessProgrammer.Mdns
