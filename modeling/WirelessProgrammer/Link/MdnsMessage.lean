import WirelessProgrammer.Link.MdnsNames
import WirelessProgrammer.Link.Z21

/-!
# Well-formed mDNS packets

`MessageAt` says which questions and resource records are laid out in a packet, with compressed names or without.  The
parser goes through the records of such a packet one by one, up to the first name that more than sixteen pointers lead
through (`parseOtaHosts_at`), and a message that is written out is laid out in its packet (`messageAt_encode`).
-/

namespace WirelessProgrammer.Mdns

open DnsName (Label)

/-! ### Layout -/

/-- The data of a record. -/
inductive RData
  | srv (port : UInt16) (target : List Label)
  | a (ip : Ipv4Addr)
  | other (typ : UInt16) (data : List UInt8) (h : typ ≠ TYPE_SRV ∧ typ ≠ TYPE_A)

namespace RData

def typ : RData → UInt16
  | srv .. => TYPE_SRV
  | a _ => TYPE_A
  | other typ .. => typ

/-- The data are the `len` bytes at `rdata`. -/
def At (pkt : List UInt8) (rdata len : Nat) : RData → Prop
  | srv port target => be16 pkt (rdata + 4) = some port ∧ ∃ jumps, DnsName.At pkt (rdata + 6) target (rdata + len) jumps
  | a ip => len = 4 ∧ ipv4At pkt rdata = some ip
  | other _ data _ => (pkt.drop rdata).take len = data

end RData

/-- A question; `jumps` pointers lead through its name. -/
structure Question where
  name : List Label
  jumps : Nat
  typ : UInt16
  cls : UInt16

/-- A resource record; `jumps` pointers lead through the name of its owner. -/
structure Resource where
  owner : List Label
  jumps : Nat
  data : RData

structure Message where
  questions : List Question
  resources : List Resource

inductive QuestionsAt (pkt : List UInt8) : Nat → List Question → Nat → Prop
  | nil {off : Nat} : QuestionsAt pkt off [] off
  | cons {off nend stop : Nat} {q : Question} {qs : List Question} (hname : DnsName.At pkt off q.name nend q.jumps)
    (htyp : be16 pkt nend = some q.typ) (hcls : be16 pkt (nend + 2) = some q.cls)
    (hrest : QuestionsAt pkt (nend + 4) qs stop) : QuestionsAt pkt off (q :: qs) stop

inductive ResourceAt (pkt : List UInt8) : Nat → Resource → Nat → Prop
  | mk {off nend : Nat} {r : Resource} {rdlen : UInt16} (howner : DnsName.At pkt off r.owner nend r.jumps)
    (htyp : be16 pkt nend = some r.data.typ) (hlen : be16 pkt (nend + 8) = some rdlen)
    (hstop : nend + 10 + rdlen.toNat ≤ pkt.length) (hdata : r.data.At pkt (nend + 10) rdlen.toNat) :
    ResourceAt pkt off r (nend + 10 + rdlen.toNat)

inductive ResourcesAt (pkt : List UInt8) : Nat → List Resource → Prop
  | nil {off : Nat} : ResourcesAt pkt off []
  | cons {off next : Nat} {r : Resource} {rs : List Resource} (hr : ResourceAt pkt off r next)
    (hrest : ResourcesAt pkt next rs) : ResourcesAt pkt off (r :: rs)

/-- A count of the header, 0 if the header is cut off. -/
def headerCount (pkt : List UInt8) (off : Nat) : Nat := ((be16 pkt off).getD 0).toNat

/-- The message in a packet. -/
structure MessageAt (pkt : List UInt8) (m : Message) : Prop where
  header : 12 ≤ pkt.length
  questionCount : headerCount pkt 4 = m.questions.length
  resourceCount : headerCount pkt 6 + headerCount pkt 8 + headerCount pkt 10 = m.resources.length
  layout : ∃ off, QuestionsAt pkt 12 m.questions off ∧ ResourcesAt pkt off m.resources

/-! ### The parser on a laid out message -/

/-- What the parser makes of a resource record. -/
def Parsed.resource (s : Parsed) (r : Resource) : Parsed :=
  match r.data with
  | .srv port _ => { s with port := port, hostname := firstLabel (nameText r.owner) }
  | .a ip =>
    { s with out := s.out ++ [⟨if s.hostname = [] then firstLabel (nameText r.owner) else s.hostname, ip, s.port⟩] }
  | .other .. => s

section Parser

variable {pkt : List UInt8}

theorem skipQuestions_at {off stop : Nat} {qs : List Question} (h : QuestionsAt pkt off qs stop) :
    skipQuestions pkt qs.length off = if ∀ q ∈ qs, Readable q.jumps then some stop else none := by
  induction h with
  | nil =>
    rw [if_pos fun q hq => absurd hq List.not_mem_nil]
    rfl
  | @cons off nend stop q qs hname htyp hcls hrest ih =>
    rw [List.length_cons, skipQuestions, readName_at hname]
    by_cases hq : Readable q.jumps
    · have hiff : (∀ p ∈ q :: qs, Readable p.jumps) ↔ ∀ p ∈ qs, Readable p.jumps := by
        rw [List.forall_mem_cons]
        exact and_iff_right hq
      rw [if_pos hq, if_congr hiff rfl rfl, ← ih]
      rfl
    · have hnot : ¬ ∀ p ∈ q :: qs, Readable p.jumps := fun hall => hq (hall q List.mem_cons_self)
      rw [if_neg hq, if_neg hnot]
      rfl

/-- The record that the parser reads, which it treats like the one that is laid out. -/
theorem readRecord_at {off stop : Nat} {r : Resource} (h : ResourceAt pkt off r stop) :
    ∃ raw : ResourceRecord, readRecord pkt off = (if Readable r.jumps then some (raw, stop) else none) ∧
      raw.typ = r.data.typ ∧ ∀ s : Parsed, s.visit pkt raw = s.resource r := by
  cases h with
  | @mk nend _ rdlen howner htyp hlen hstop hdata =>
    refine ⟨⟨nameText r.owner, r.data.typ, rdlen, nend + 10⟩, ?_, rfl, ?_⟩
    · rw [readRecord, readName_at howner]
      by_cases hr : Readable r.jumps
      · rw [if_pos hr, if_pos hr]
        simp only [Option.bind_eq_bind, Option.bind_some, htyp, hlen]
        rfl
      · rw [if_neg hr, if_neg hr]
        rfl
    · intro s
      obtain ⟨owner, jumps, data⟩ := r
      unfold Parsed.visit Parsed.resource
      dsimp only
      cases data with
      | srv port target =>
        obtain ⟨hport, j, htarget⟩ := hdata
        have hlt := htarget.lt_stop
        have hsix : 6 ≤ rdlen := by
          rw [UInt16.le_iff_toNat_le]
          show 6 ≤ rdlen.toNat
          omega
        have hnot : ¬ (RData.typ (.srv port target) = TYPE_A ∧ rdlen = 4) :=
          fun h => absurd h.1 (show TYPE_SRV ≠ TYPE_A by decide)
        have hport : be16 pkt (nend + 10 + 4) = some port := hport
        have hyes : RData.typ (.srv port target) = TYPE_SRV ∧ 6 ≤ rdlen := ⟨rfl, hsix⟩
        rw [if_pos hyes, if_neg hnot, hport]
        rfl
      | a ip =>
        obtain ⟨hfour, hip⟩ := hdata
        have hrdlen : rdlen = 4 := UInt16.toNat_inj.1 hfour
        have hnot : ¬ (RData.typ (.a ip) = TYPE_SRV ∧ 6 ≤ rdlen) :=
          fun h => absurd h.1 (show TYPE_A ≠ TYPE_SRV by decide)
        rw [if_neg hnot, if_pos ⟨rfl, hrdlen⟩, hip]
      | other typ data h =>
        have hsrv : ¬ (RData.typ (.other typ data h) = TYPE_SRV ∧ 6 ≤ rdlen) := fun hsrv => h.1 hsrv.1
        have ha : ¬ (RData.typ (.other typ data h) = TYPE_A ∧ rdlen = 4) := fun ha => h.2 ha.1
        rw [if_neg hsrv, if_neg ha]

/-- The records up to the first one that cannot be read. -/
def readables (rs : List Resource) : List Resource := rs.takeWhile fun r => Readable r.jumps

private theorem parseFrom_at {off : Nat} {rs : List Resource} (h : ResourcesAt pkt off rs) (s : Parsed) :
    parseFrom pkt rs.length off s = (readables rs).foldl Parsed.resource s := by
  induction h generalizing s with
  | nil => rfl
  | @cons off next r rs hr hrest ih =>
    obtain ⟨raw, hread, -, hvisit⟩ := readRecord_at hr
    rw [List.length_cons, parseFrom, hread]
    by_cases hok : Readable r.jumps
    · have hcons : readables (r :: rs) = r :: readables rs := List.takeWhile_cons_of_pos (decide_eq_true hok)
      rw [if_pos hok, hcons, List.foldl_cons, ← hvisit]
      exact ih _
    · have hnil : readables (r :: rs) = [] := List.takeWhile_cons_of_neg (by simpa using hok)
      rw [if_neg hok, hnil]
      rfl

/-- The counts of records are added up with saturation. -/
theorem recordCount_eq (pkt : List UInt8) :
    recordCount pkt = min (headerCount pkt 6 + headerCount pkt 8 + headerCount pkt 10) 65535 := by
  unfold recordCount headerCount
  dsimp only
  omega

/-- The hosts of a packet with a message. -/
theorem parseOtaHosts_at {m : Message} (h : MessageAt pkt m) (hcount : m.resources.length ≤ 65535) :
    parseOtaHosts pkt = if ∀ q ∈ m.questions, Readable q.jumps then
      ((readables m.resources).foldl Parsed.resource .init).out else [] := by
  obtain ⟨off, hquestions, hresources⟩ := h.layout
  have hlong : ¬ pkt.length < 12 := Nat.not_lt.2 h.header
  have hquestionCount : ((be16 pkt 4).getD 0).toNat = m.questions.length := h.questionCount
  rw [parseOtaHosts, recordsStart, if_neg hlong, hquestionCount, skipQuestions_at hquestions, recordCount_eq,
    h.resourceCount, Nat.min_eq_left hcount]
  by_cases hq : ∀ q ∈ m.questions, Readable q.jumps
  · rw [if_pos hq, if_pos hq]
    dsimp only
    rw [parseFrom_at hresources]
  · rw [if_neg hq, if_neg hq]

end Parser

/-! ### Messages that are written out -/

def toBeBytes (n : UInt16) : List UInt8 := [(n >>> 8).toUInt8, n.toUInt8]

@[simp] theorem length_toBeBytes (n : UInt16) : (toBeBytes n).length = 2 := rfl

private theorem be16_append {pkt l m : List UInt8} {n : UInt16} {off : Nat} (h : pkt = l ++ toBeBytes n ++ m)
    (hoff : l.length = off) : be16 pkt off = some n := by
  subst h hoff
  have hn := Z21.le16_toLeBytes n
  rw [Z21.le16, UInt16.or_comm] at hn
  have hhigh : (l ++ toBeBytes n ++ m)[l.length]? = some (n >>> 8).toUInt8 := by simp [toBeBytes]
  have hlow : (l ++ toBeBytes n ++ m)[l.length + 1]? = some n.toUInt8 := by simp [toBeBytes]
  rw [be16, hhigh, hlow]
  exact congrArg some hn

def Question.encode (q : Question) : List UInt8 := DnsName.encode q.name ++ toBeBytes q.typ ++ toBeBytes q.cls

def RData.encode : RData → List UInt8
  | srv port target => [0, 0, 0, 0] ++ toBeBytes port ++ DnsName.encode target
  | a ip => [ip.a, ip.b, ip.c, ip.d]
  | other _ data _ => data

/-- Class IN, and two minutes to live. -/
def Resource.encode (r : Resource) : List UInt8 :=
  DnsName.encode r.owner ++ toBeBytes r.data.typ ++ [0, 1, 0, 0, 0, 120] ++ toBeBytes (.ofNat r.data.encode.length) ++
    r.data.encode

/-- A response with all its records in the answer section. -/
def Message.encode (m : Message) : List UInt8 :=
  [0, 0, 0x84, 0] ++ toBeBytes (.ofNat m.questions.length) ++ toBeBytes (.ofNat m.resources.length) ++ [0, 0, 0, 0] ++
    m.questions.flatMap Question.encode ++ m.resources.flatMap Resource.encode

/-- No pointers, and counts and lengths that fit. -/
structure Message.Plain (m : Message) : Prop where
  questions : ∀ q ∈ m.questions, q.jumps = 0
  owners : ∀ r ∈ m.resources, r.jumps = 0
  data : ∀ r ∈ m.resources, r.data.encode.length < 65536
  questionCount : m.questions.length < 65536
  resourceCount : m.resources.length < 65536

private theorem toNat_ofNat {n : Nat} (h : n < 65536) : (UInt16.ofNat n).toNat = n := UInt16.toNat_ofNat_of_lt' h

private theorem questionsAt_encode (pre rest : List UInt8) (qs : List Question) (h : ∀ q ∈ qs, q.jumps = 0) :
    QuestionsAt (pre ++ qs.flatMap Question.encode ++ rest) pre.length qs
      (pre.length + (qs.flatMap Question.encode).length) := by
  induction qs generalizing pre with
  | nil => exact QuestionsAt.nil
  | cons q qs ih =>
    obtain ⟨hq, hqs⟩ := List.forall_mem_cons.1 h
    generalize hpkt : pre ++ (q :: qs).flatMap Question.encode ++ rest = pkt
    have hsplit : pkt = (pre ++ q.encode) ++ qs.flatMap Question.encode ++ rest := by
      rw [← hpkt, List.flatMap_cons]
      simp only [List.append_assoc]
    have hlen : q.encode.length = (DnsName.encode q.name).length + 4 := by
      simp [Question.encode]
    have hnext : (pre ++ q.encode).length = pre.length + (DnsName.encode q.name).length + 4 := by
      rw [List.length_append, hlen]
      omega
    have hstop : pre.length + ((q :: qs).flatMap Question.encode).length =
        (pre ++ q.encode).length + (qs.flatMap Question.encode).length := by
      rw [List.flatMap_cons, List.length_append, List.length_append]
      omega
    have hname : DnsName.At pkt pre.length q.name (pre.length + (DnsName.encode q.name).length) q.jumps := by
      rw [hq, hsplit, Question.encode]
      simpa only [List.append_assoc] using DnsName.at_encode pre _ q.name
    have htyp : be16 pkt (pre.length + (DnsName.encode q.name).length) = some q.typ := by
      apply be16_append (l := pre ++ DnsName.encode q.name)
        (m := toBeBytes q.cls ++ (qs.flatMap Question.encode ++ rest))
      · rw [hsplit, Question.encode]
        simp only [List.append_assoc]
      · exact List.length_append
    have hcls : be16 pkt (pre.length + (DnsName.encode q.name).length + 2) = some q.cls := by
      apply be16_append (l := pre ++ DnsName.encode q.name ++ toBeBytes q.typ) (m := qs.flatMap Question.encode ++ rest)
      · rw [hsplit, Question.encode]
        simp only [List.append_assoc]
      · simp [Nat.add_assoc]
    have hrest := ih (pre ++ q.encode) hqs
    rw [← hsplit, ← hstop, hnext] at hrest
    exact QuestionsAt.cons hname htyp hcls hrest

/-- The data stand where they are written. -/
theorem rdataAt_encode (pre rest : List UInt8) (d : RData) :
    d.At (pre ++ d.encode ++ rest) pre.length d.encode.length := by
  cases d with
  | srv port target =>
    have hport : be16 (pre ++ RData.encode (.srv port target) ++ rest) (pre.length + 4) = some port := by
      apply be16_append (l := pre ++ [0, 0, 0, 0]) (m := DnsName.encode target ++ rest)
      · simp only [RData.encode, List.append_assoc]
      · simp
    have htarget := DnsName.at_encode (pre ++ [0, 0, 0, 0] ++ toBeBytes port) rest target
    have hpkt : pre ++ [0, 0, 0, 0] ++ toBeBytes port ++ DnsName.encode target ++ rest =
        pre ++ RData.encode (.srv port target) ++ rest := by
      simp only [RData.encode, List.append_assoc]
    have hpos : (pre ++ [0, 0, 0, 0] ++ toBeBytes port).length = pre.length + 6 := by simp
    have hlen : (RData.encode (.srv port target)).length = 6 + (DnsName.encode target).length := by
      simp only [RData.encode, List.length_append, length_toBeBytes, List.length_cons, List.length_nil]
    rw [hpkt, hpos, Nat.add_assoc, ← hlen] at htarget
    exact ⟨hport, 0, htarget⟩
  | a ip =>
    have hip : ipv4At (pre ++ RData.encode (.a ip) ++ rest) pre.length = some ip := by
      simp [ipv4At, RData.encode]
    exact ⟨rfl, hip⟩
  | other typ data h =>
    show ((pre ++ data ++ rest).drop pre.length).take data.length = data
    simp

private theorem resourceAt_encode (pre rest : List UInt8) (r : Resource) (hjumps : r.jumps = 0)
    (hdata : r.data.encode.length < 65536) :
    ResourceAt (pre ++ r.encode ++ rest) pre.length r (pre.length + r.encode.length) := by
  generalize hpkt : pre ++ r.encode ++ rest = pkt
  generalize hn : pre.length + (DnsName.encode r.owner).length = nend
  have hlen : r.encode.length = (DnsName.encode r.owner).length + 10 + r.data.encode.length := by
    simp only [Resource.encode, List.length_append, length_toBeBytes, List.length_cons, List.length_nil]
  have hrdlen := toNat_ofNat hdata
  have howner : DnsName.At pkt pre.length r.owner nend r.jumps := by
    rw [hjumps, ← hpkt, ← hn, Resource.encode]
    simpa only [List.append_assoc] using DnsName.at_encode pre _ r.owner
  have htyp : be16 pkt nend = some r.data.typ := by
    apply be16_append (l := pre ++ DnsName.encode r.owner)
      (m := [0, 1, 0, 0, 0, 120] ++ (toBeBytes (.ofNat r.data.encode.length) ++ (r.data.encode ++ rest)))
    · rw [← hpkt, Resource.encode]
      simp only [List.append_assoc]
    · rw [List.length_append]
      exact hn
  have hrd : be16 pkt (nend + 8) = some (.ofNat r.data.encode.length) := by
    apply be16_append (l := pre ++ DnsName.encode r.owner ++ toBeBytes r.data.typ ++ [0, 1, 0, 0, 0, 120])
      (m := r.data.encode ++ rest)
    · rw [← hpkt, Resource.encode]
      simp only [List.append_assoc]
    · simp only [List.length_append, length_toBeBytes, List.length_cons, List.length_nil]
      omega
  have hat : r.data.At pkt (nend + 10) r.data.encode.length := by
    have hat := rdataAt_encode (pre ++ DnsName.encode r.owner ++ toBeBytes r.data.typ ++ [0, 1, 0, 0, 0, 120] ++
      toBeBytes (.ofNat r.data.encode.length)) rest r.data
    have hpos : (pre ++ DnsName.encode r.owner ++ toBeBytes r.data.typ ++ [0, 1, 0, 0, 0, 120] ++
        toBeBytes (.ofNat r.data.encode.length)).length = nend + 10 := by
      simp only [List.length_append, length_toBeBytes, List.length_cons, List.length_nil]
      omega
    rw [hpos] at hat
    rw [← hpkt, Resource.encode]
    simpa only [List.append_assoc] using hat
  have hstop : nend + 10 + r.data.encode.length ≤ pkt.length := by
    rw [← hpkt, List.length_append, List.length_append]
    omega
  have hend : pre.length + r.encode.length = nend + 10 + (UInt16.ofNat r.data.encode.length).toNat := by omega
  rw [hend]
  apply ResourceAt.mk howner htyp hrd
  · rw [hrdlen]
    exact hstop
  · rw [hrdlen]
    exact hat

private theorem resourcesAt_encode (pre : List UInt8) (rs : List Resource) (hjumps : ∀ r ∈ rs, r.jumps = 0)
    (hdata : ∀ r ∈ rs, r.data.encode.length < 65536) :
    ResourcesAt (pre ++ rs.flatMap Resource.encode) pre.length rs := by
  induction rs generalizing pre with
  | nil => exact ResourcesAt.nil
  | cons r rs ih =>
    obtain ⟨hr, hrs⟩ := List.forall_mem_cons.1 hjumps
    obtain ⟨hd, hds⟩ := List.forall_mem_cons.1 hdata
    have hfirst := resourceAt_encode pre (rs.flatMap Resource.encode) r hr hd
    have hrest := ih (pre ++ r.encode) hrs hds
    rw [List.length_append] at hrest
    rw [List.flatMap_cons, ← List.append_assoc]
    exact ResourcesAt.cons hfirst hrest

/-- A message without pointers is laid out in the packet that it is written to. -/
theorem messageAt_encode {m : Message} (h : m.Plain) : MessageAt m.encode m := by
  have hqs : be16 m.encode 4 = some (.ofNat m.questions.length) := by
    apply be16_append (l := [0, 0, 0x84, 0]) (m := toBeBytes (.ofNat m.resources.length) ++ ([0, 0, 0, 0] ++
      (m.questions.flatMap Question.encode ++ m.resources.flatMap Resource.encode)))
    · simp only [Message.encode, List.append_assoc]
    · rfl
  have hrs : be16 m.encode 6 = some (.ofNat m.resources.length) := by
    apply be16_append (l := [0, 0, 0x84, 0] ++ toBeBytes (.ofNat m.questions.length)) (m := [0, 0, 0, 0] ++
      (m.questions.flatMap Question.encode ++ m.resources.flatMap Resource.encode))
    · simp only [Message.encode, List.append_assoc]
    · rfl
  have hzero : ∀ off, off = 8 ∨ off = 10 → be16 m.encode off = some 0 := by
    rintro off (rfl | rfl) <;> rfl
  constructor
  · simp only [Message.encode, List.length_append, length_toBeBytes, List.length_cons, List.length_nil]
    omega
  · rw [headerCount, hqs, Option.getD_some, toNat_ofNat h.questionCount]
  · unfold headerCount
    rw [hrs, hzero 8 (Or.inl rfl), hzero 10 (Or.inr rfl), Option.getD_some, toNat_ofNat h.resourceCount]
    rfl
  · generalize hhead : [0, 0, 0x84, 0] ++ toBeBytes (.ofNat m.questions.length) ++
      toBeBytes (.ofNat m.resources.length) ++ [0, 0, 0, 0] = head
    have hlen : head.length = 12 := by rw [← hhead]; rfl
    have henc : m.encode = head ++ m.questions.flatMap Question.encode ++ m.resources.flatMap Resource.encode := by
      rw [← hhead]
      rfl
    have hquestions := questionsAt_encode head (m.resources.flatMap Resource.encode) m.questions h.questions
    have hresources := resourcesAt_encode (head ++ m.questions.flatMap Question.encode) m.resources h.owners h.data
    rw [List.length_append, ← henc] at hresources
    rw [← henc] at hquestions
    rw [hlen] at hquestions hresources
    exact ⟨_, hquestions, hresources⟩

end WirelessProgrammer.Mdns
