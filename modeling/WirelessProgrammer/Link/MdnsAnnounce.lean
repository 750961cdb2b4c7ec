import Mathlib.Algebra.GroupWithZero.Nat
import WirelessProgrammer.Link.MdnsMessage

/-!
# The announcement of a LongFred

`encode_ota_announce` writes a PTR, an SRV and an A record.  Whatever questions without pointers are put in front of
them, the parser finds the host, its address and its port (`announcement_read`).
-/

namespace WirelessProgrammer.Mdns

open DnsName (Label)

def utf8 (label : List Char) : List UInt8 := label.flatMap String.utf8EncodeChar

def nameLen (labels : List (List Char)) : Nat := (labels.map fun l => 1 + (utf8 l).length).sum + 1

def putName (labels : List (List Char)) : List UInt8 :=
  labels.flatMap (fun l => (if (utf8 l).length < 256 then UInt8.ofNat (utf8 l).length else 0) :: utf8 l) ++ [0]

/-- The length of the data of a record, 0 if it does not fit. -/
def lenBytes (n : Nat) : List UInt8 := toBeBytes (if n < 65536 then UInt16.ofNat n else 0)

def serviceLabels : List (List Char) := ["_longfred-ota".toList, "_tcp".toList, "local".toList]

/-- An unsolicited announcement: no questions, PTR, SRV and A. -/
def encodeOtaAnnounce (hostname : List Char) (ipv4 : Ipv4Addr) (port : UInt16) : List UInt8 :=
  let instanceLabels := hostname :: serviceLabels
  let target := [hostname, "local".toList]
  [0, 0, 0x84, 0, 0, 0, 0, 3, 0, 0, 0, 0] ++
    (putName serviceLabels ++ [0, 12, 0, 1, 0, 0, 0, 120] ++ lenBytes (nameLen instanceLabels) ++
      putName instanceLabels) ++
    (putName instanceLabels ++ [0, 33, 0, 1, 0, 0, 0, 120] ++ lenBytes (6 + nameLen target) ++ [0, 0, 0, 0] ++
      toBeBytes port ++ putName target) ++
    (putName target ++ [0, 1, 0, 1, 0, 0, 0, 120, 0, 4] ++ [ipv4.a, ipv4.b, ipv4.c, ipv4.d])

/-- The packet with questions in front of the answers. -/
def withQuestions (qs : List Question) (packet : List UInt8) : List UInt8 :=
  packet.take 4 ++ toBeBytes (.ofNat qs.length) ++ (packet.drop 6).take 6 ++ qs.flatMap Question.encode ++ packet.drop 12

/-! ### The announcement as a message -/

private theorem putName_eq {labels : List (List Char)} {name : List Label} (h : labels.map utf8 = name.map (·.1)) :
    putName labels = DnsName.encode name := by
  induction labels generalizing name with
  | nil =>
    cases name with
    | nil => rfl
    | cons l name => cases h
  | cons label labels ih =>
    cases name with
    | nil => cases h
    | cons l name =>
      obtain ⟨hl, hrest⟩ := List.cons.inj h
      have hshort : l.1.length < 256 := by
        have := l.2.2
        omega
      have ih := ih hrest
      unfold putName at ih ⊢
      rw [List.flatMap_cons, List.append_assoc, ih, DnsName.encode_cons, hl, if_pos hshort]
      rfl

private theorem nameLen_eq {labels : List (List Char)} {name : List Label} (h : labels.map utf8 = name.map (·.1)) :
    nameLen labels = (DnsName.encode name).length := by
  induction labels generalizing name with
  | nil =>
    cases name with
    | nil => rfl
    | cons l name => cases h
  | cons label labels ih =>
    cases name with
    | nil => cases h
    | cons l name =>
      obtain ⟨hl, hrest⟩ := List.cons.inj h
      have hl : utf8 label = l.1 := hl
      have ih := ih hrest
      unfold nameLen at ih ⊢
      rw [DnsName.encode_cons, List.length_append, DnsName.length_labelBytes, List.map_cons, List.sum_cons, hl]
      omega

def localLabel : Label := ⟨utf8 "local".toList, by decide⟩

def serviceName : List Label :=
  [⟨utf8 "_longfred-ota".toList, by decide⟩, ⟨utf8 "_tcp".toList, by decide⟩, localLabel]

def targetName (host : Label) : List Label := [host, localLabel]

private theorem ptr_ne : TYPE_PTR ≠ TYPE_SRV ∧ TYPE_PTR ≠ TYPE_A := by decide

/-- The announcement of a host, behind questions. -/
def announcement (qs : List Question) (host : Label) (ipv4 : Ipv4Addr) (port : UInt16) : Message where
  questions := qs
  resources := [⟨serviceName, 0, .other TYPE_PTR (DnsName.encode (host :: serviceName)) ptr_ne⟩,
    ⟨host :: serviceName, 0, .srv port (targetName host)⟩, ⟨targetName host, 0, .a ipv4⟩]

private theorem map_utf8_instance {hostname : List Char} {host : Label} (h : utf8 hostname = host.1) :
    (hostname :: serviceLabels).map utf8 = (host :: serviceName).map (·.1) := by
  rw [List.map_cons, List.map_cons, h]
  rfl

private theorem map_utf8_target {hostname : List Char} {host : Label} (h : utf8 hostname = host.1) :
    [hostname, "local".toList].map utf8 = (targetName host).map (·.1) := by
  rw [List.map_cons, h]
  rfl

private theorem lenBytes_eq {n : Nat} (h : n < 65536) : lenBytes n = toBeBytes (.ofNat n) := by rw [lenBytes, if_pos h]

/-- The names of an announcement are short. -/
theorem length_encode_le (host : Label) :
    (DnsName.encode (host :: serviceName)).length ≤ 100 ∧ (DnsName.encode (targetName host)).length ≤ 100 := by
  have h := host.2.2
  have hservice : (DnsName.encode serviceName).length = 26 := by decide
  have hlocal : (DnsName.encode [localLabel]).length = 7 := by decide
  rw [targetName, DnsName.encode_cons, DnsName.encode_cons, List.length_append, List.length_append, hservice, hlocal,
    DnsName.length_labelBytes]
  omega

private theorem encodeOtaAnnounce_eq {hostname : List Char} {host : Label} (h : utf8 hostname = host.1)
    (ipv4 : Ipv4Addr) (port : UInt16) :
    encodeOtaAnnounce hostname ipv4 port = [0, 0, 0x84, 0] ++ [0, 0] ++ [0, 3, 0, 0, 0, 0] ++
      (announcement [] host ipv4 port).resources.flatMap Resource.encode := by
  obtain ⟨hinst, htarget⟩ := length_encode_le host
  have hinstLen := nameLen_eq (map_utf8_instance h)
  have htargetLen := nameLen_eq (map_utf8_target h)
  have hservice : putName serviceLabels = DnsName.encode serviceName := putName_eq rfl
  have hptr : toBeBytes TYPE_PTR = [0, 12] := rfl
  have hsrv : toBeBytes TYPE_SRV = [0, 33] := rfl
  have ha : toBeBytes TYPE_A = [0, 1] := rfl
  have hfour : toBeBytes (.ofNat (RData.encode (.a ipv4)).length) = [0, 4] := by
    show toBeBytes 4 = [0, 4]
    rfl
  have hdata : (RData.encode (.srv port (targetName host))).length = 6 + (DnsName.encode (targetName host)).length := by
    simp only [RData.encode, List.length_append, length_toBeBytes, List.length_cons, List.length_nil]
  unfold encodeOtaAnnounce
  dsimp only
  rw [hinstLen, htargetLen, lenBytes_eq (by omega), lenBytes_eq (by omega), putName_eq (map_utf8_instance h),
    putName_eq (map_utf8_target h), hservice]
  unfold announcement
  simp only [List.flatMap_cons, List.flatMap_nil, Resource.encode, hdata, hfour]
  simp only [RData.encode, RData.typ, hptr, hsrv, ha, List.append_assoc, List.cons_append, List.nil_append, List.append_nil]

private theorem withQuestions_eq {hostname : List Char} {host : Label} (h : utf8 hostname = host.1) (qs : List Question)
    (ipv4 : Ipv4Addr) (port : UInt16) :
    withQuestions qs (encodeOtaAnnounce hostname ipv4 port) = (announcement qs host ipv4 port).encode := by
  have hthree : toBeBytes (.ofNat (announcement qs host ipv4 port).resources.length) = [0, 3] := by
    show toBeBytes 3 = [0, 3]
    rfl
  rw [encodeOtaAnnounce_eq h, Message.encode, hthree]
  unfold withQuestions
  simp only [List.append_assoc, List.cons_append, List.nil_append, List.take_succ_cons, List.take_zero,
    List.drop_succ_cons, List.drop_zero]
  rfl

private theorem plain_announcement {qs : List Question} (hplain : ∀ q ∈ qs, q.jumps = 0) (hlen : qs.length ≤ 65535)
    (host : Label) (ipv4 : Ipv4Addr) (port : UInt16) : (announcement qs host ipv4 port).Plain where
  questions := hplain
  owners := by
    intro r hr
    simp only [announcement, List.mem_cons, List.not_mem_nil, or_false] at hr
    rcases hr with rfl | rfl | rfl <;> rfl
  data := by
    obtain ⟨hinst, htarget⟩ := length_encode_le host
    intro r hr
    simp only [announcement, List.mem_cons, List.not_mem_nil, or_false] at hr
    rcases hr with rfl | rfl | rfl
    · simp only [RData.encode]
      omega
    · simp only [RData.encode, List.length_append, length_toBeBytes, List.length_cons, List.length_nil]
      omega
    · simp only [RData.encode, List.length_cons, List.length_nil]
      omega
  questionCount := Nat.lt_succ_of_le hlen
  resourceCount := by
    show 3 < 65536
    omega

/-! ### The host of an announcement -/

/-- The first label of a name whose first label has no dot. -/
theorem firstLabel_nameText {label : List Char} {l : Label} {name : List Label} (h : utf8 label = l.1)
    (hdot : '.' ∉ label) : firstLabel (nameText (l :: name)) = label := by
  have hnot : ∀ c ∈ label, decide (c = '.') = false := by
    intro c hc
    rw [decide_eq_false_iff_not]
    rintro rfl
    exact hdot hc
  have htext : Text.fromUtf8Lossy l.1 = label := by
    have hroundTrip := Text.fromUtf8Lossy_utf8Bytes (String.ofList label)
    rw [Text.utf8Bytes, String.toList_ofList] at hroundTrip
    rw [← h]
    exact hroundTrip
  cases name with
  | nil =>
    have hname : nameText [l] = label := by
      simp [nameText, htext]
    rw [hname, firstLabel, labelsOf, Text.splitBy_eq_singleton hnot]
    rfl
  | cons m name =>
    have hname : nameText (l :: m :: name) = label ++ '.' :: nameText (m :: name) := by
      simp [nameText, htext]
    rw [hname, firstLabel, labelsOf, Text.splitBy_append_cons hnot rfl]
    rfl

/-- Behind any questions without pointers, an announcement is read as one host, with its name, address and port. -/
theorem announcement_read (hostname : List Char) (ipv4 : Ipv4Addr) (port : UInt16) (qs : List Question)
    (hname : 1 ≤ (utf8 hostname).length ∧ (utf8 hostname).length ≤ 63) (hdot : '.' ∉ hostname)
    (hplain : ∀ q ∈ qs, q.jumps = 0) (hlen : qs.length ≤ 65535) :
    parseOtaHosts (withQuestions qs (encodeOtaAnnounce hostname ipv4 port)) = [⟨hostname, ipv4, port⟩] := by
  have hhost : utf8 hostname = (⟨utf8 hostname, hname⟩ : Label).1 := rfl
  generalize (⟨utf8 hostname, hname⟩ : Label) = host at hhost
  have hread : ∀ q ∈ (announcement qs host ipv4 port).questions, Readable q.jumps := by
    intro q hq
    rw [hplain q hq]
    exact Nat.zero_le 16
  have hne : hostname ≠ [] := by
    rintro rfl
    exact absurd hname.1 (by decide)
  have hthree : (announcement qs host ipv4 port).resources.length ≤ 65535 := by
    show 3 ≤ 65535
    omega
  have hall : readables (announcement qs host ipv4 port).resources = (announcement qs host ipv4 port).resources := rfl
  rw [withQuestions_eq hhost, parseOtaHosts_at (messageAt_encode (plain_announcement hplain hlen host ipv4 port))
    hthree, if_pos hread, hall]
  show [OtaHost.mk (if firstLabel (nameText (host :: serviceName)) = [] then _
    else firstLabel (nameText (host :: serviceName))) ipv4 port] = _
  rw [firstLabel_nameText hhost hdot, if_neg hne]

/-- A LongFred behind the question for its service. -/
theorem announcement_read_pilot :
    parseOtaHosts (withQuestions [⟨serviceName, 0, TYPE_PTR, 1⟩]
      (encodeOtaAnnounce "pilot1".toList ⟨10, 0, 0, 9⟩ 80)) = [⟨"pilot1".toList, ⟨10, 0, 0, 9⟩, 80⟩] :=
  announcement_read "pilot1".toList ⟨10, 0, 0, 9⟩ 80 [⟨serviceName, 0, TYPE_PTR, 1⟩] (by decide) (by decide) (by simp)
    (by decide)

end WirelessProgrammer.Mdns
