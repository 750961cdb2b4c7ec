import WirelessProgrammer.Http.Client

/-!
# Retries

`HttpClient::request` of the bounded client repeats a failed attempt whatever part of the request it had already sent.
`bodyBytesSent` of every attempt that was made is the log of a request, and `SentOnce` says that the body went out on one
connection at most.
-/

namespace WirelessProgrammer

/-- At most one attempt has handed bytes of the body to the network. -/
def SentOnce (log : List Nat) : Prop := log.Pairwise fun a b => 0 < a → b = 0

namespace BoundedHttpClient

variable (c : BoundedHttpClient)

/-- The attempts from number `i` on, `n` at most, with the bytes of the body sent by each. -/
def requestFrom (r : HttpRequest) (net : Nat → Attempt) : Nat → Nat → IoError → Io (List UInt8) × List Nat
  | 0, _, last => (.err last, [])
  | n + 1, i, _ =>
    let sent := c.bodyBytesSent r (net i)
    match c.requestOnce r (net i) with
    | .ok body => (.ok body, [sent])
    | .err e =>
      if e.kind = .interrupted then (.err e, [sent])
      else
        let rest := requestFrom r net n (i + 1) e
        (rest.1, sent :: rest.2)
    | .panic => (.panic, [sent])
    | .running => (.running, [sent])

/-- `HttpClient::request`; `net` gives what the network does on each attempt. -/
def request (r : HttpRequest) (net : Nat → Attempt) : Io (List UInt8) × List Nat :=
  if c.retries + 1 < 2 ^ 32 then c.requestFrom r net (c.retries + 1) 0 ⟨.other, "no attempt made"⟩ else (.panic, [])

/-- The attempt fails with an error that is retried. -/
def Retried (r : HttpRequest) (a : Attempt) : Prop := ∃ e, c.requestOnce r a = .err e ∧ e.kind ≠ .interrupted

/-- The attempts that `requestFrom` makes from number `i` on, `n` at most. -/
def Reaches (r : HttpRequest) (net : Nat → Attempt) (i n k : Nat) : Prop :=
  i ≤ k ∧ k < i + n ∧ ∀ m, i ≤ m → m < k → c.Retried r (net m)

variable {r : HttpRequest} {net : Nat → Attempt} {i n k : Nat}

theorem requestFrom_retried {e : IoError} (h : c.requestOnce r (net i) = .err e) (he : e.kind ≠ .interrupted)
    (last : IoError) : c.requestFrom r net (n + 1) i last =
      ((c.requestFrom r net n (i + 1) e).1, c.bodyBytesSent r (net i) :: (c.requestFrom r net n (i + 1) e).2) := by
  simp [requestFrom, h, he]

/-- An attempt that is not retried is the last one. -/
theorem requestFrom_last (h : ¬ c.Retried r (net i)) (last : IoError) :
    c.requestFrom r net (n + 1) i last = (c.requestOnce r (net i), [c.bodyBytesSent r (net i)]) := by
  rw [requestFrom]
  cases ho : c.requestOnce r (net i) with
  | err e =>
    have he : e.kind = .interrupted := by
      by_contra he
      exact h ⟨e, ho, he⟩
    simp [he]
  | _ => rfl

private theorem reaches_succ_iff (hk : i < k) : c.Reaches r net i (n + 1) k ↔
    c.Retried r (net i) ∧ c.Reaches r net (i + 1) n k := by
  constructor
  · rintro ⟨-, hlt, h⟩
    exact ⟨h i le_rfl hk, hk, by omega, fun m hm => h m (by omega)⟩
  · rintro ⟨hi, -, hlt, h⟩
    refine ⟨by omega, by omega, fun m hm hmk => ?_⟩
    by_cases hmi : m = i
    · exact hmi ▸ hi
    · exact h m (by omega) hmk

/-- The body goes out on some attempt from number `i` on. -/
theorem exists_sent_requestFrom (last : IoError) :
    (∃ b ∈ (c.requestFrom r net n i last).2, 0 < b) ↔ ∃ k, c.Reaches r net i n k ∧ 0 < c.bodyBytesSent r (net k) := by
  induction n generalizing i last with
  | zero =>
    simp only [requestFrom, List.not_mem_nil, false_and, exists_false, false_iff, not_exists]
    rintro k ⟨⟨hik, hlt, -⟩, -⟩
    omega
  | succ n ih =>
    have hsplit : (∃ k, c.Reaches r net i (n + 1) k ∧ 0 < c.bodyBytesSent r (net k)) ↔
        0 < c.bodyBytesSent r (net i) ∨ c.Retried r (net i) ∧
          ∃ k, c.Reaches r net (i + 1) n k ∧ 0 < c.bodyBytesSent r (net k) := by
      constructor
      · rintro ⟨k, hk, hs⟩
        by_cases hik : k = i
        · exact .inl (hik ▸ hs)
        · have := (c.reaches_succ_iff (by have := hk.1; omega)).1 hk
          exact .inr ⟨this.1, k, this.2, hs⟩
      · rintro (hs | ⟨hret, k, hk, hs⟩)
        · exact ⟨i, ⟨le_rfl, by omega, fun m hm hmi => absurd hmi (by omega)⟩, hs⟩
        · exact ⟨k, (c.reaches_succ_iff (by have := hk.1; omega)).2 ⟨hret, hk⟩, hs⟩
    rw [hsplit]
    by_cases hret : c.Retried r (net i)
    · obtain ⟨e, he, hkind⟩ := hret
      rw [c.requestFrom_retried he hkind, List.exists_mem_cons_iff, ih]
      simp [show c.Retried r (net i) from ⟨e, he, hkind⟩]
    · rw [c.requestFrom_last hret]
      simp [hret]

/-- No two attempts that are both made get bytes of the body out. -/
theorem sentOnce_requestFrom (last : IoError) :
    SentOnce (c.requestFrom r net n i last).2 ↔
      ∀ j k, i ≤ j → j < k → c.Reaches r net i n k → 0 < c.bodyBytesSent r (net j) → ¬ 0 < c.bodyBytesSent r (net k) := by
  induction n generalizing i last with
  | zero =>
    simp only [requestFrom, SentOnce, List.Pairwise.nil, true_iff]
    rintro j k - - ⟨hik, hlt, -⟩
    omega
  | succ n ih =>
    by_cases hret : c.Retried r (net i)
    · obtain ⟨e, he, hkind⟩ := hret
      have hrest : (∃ b ∈ (c.requestFrom r net n (i + 1) e).2, 0 < b) ↔
          ∃ k, c.Reaches r net (i + 1) n k ∧ 0 < c.bodyBytesSent r (net k) := c.exists_sent_requestFrom e
      rw [c.requestFrom_retried he hkind, SentOnce, List.pairwise_cons, ← SentOnce, ih]
      constructor
      · rintro ⟨hhead, htail⟩ j k hij hjk hk hj hsk
        have hk' := ((c.reaches_succ_iff (by omega)).1 hk).2
        by_cases hji : j = i
        · obtain ⟨b, hb, hpos⟩ := hrest.2 ⟨k, hk', hsk⟩
          exact absurd (hhead b hb (hji ▸ hj)) (by omega)
        · exact htail j k (by omega) hjk hk' hj hsk
      · intro h
        refine ⟨fun b hb hpos => ?_, fun j k hij hjk hk => ?_⟩
        · by_contra hb0
          obtain ⟨k, hk, hsk⟩ := hrest.1 ⟨b, hb, by omega⟩
          have hik : i < k := by have := hk.1; omega
          exact h i k le_rfl hik ((c.reaches_succ_iff hik).2 ⟨⟨e, he, hkind⟩, hk⟩) hpos hsk
        · exact h j k (by omega) hjk ((c.reaches_succ_iff (by omega)).2 ⟨⟨e, he, hkind⟩, hk⟩)
    · rw [c.requestFrom_last hret]
      refine iff_of_true (List.pairwise_singleton ..) fun j k hij hjk hk => ?_
      exact absurd ((c.reaches_succ_iff (by omega)).1 hk).1 hret

/-- No two attempts of a request that are both made get bytes of the body out. -/
theorem sentOnce_request_iff (hretries : c.retries + 1 < 2 ^ 32) :
    SentOnce (c.request r net).2 ↔ ∀ j k, j < k → k ≤ c.retries → (∀ m < k, c.Retried r (net m)) →
      0 < c.bodyBytesSent r (net j) → ¬ 0 < c.bodyBytesSent r (net k) := by
  rw [request, if_pos hretries, sentOnce_requestFrom]
  constructor
  · intro h j k hjk hk hret
    exact h j k j.zero_le hjk ⟨k.zero_le, by omega, fun m _ => hret m⟩
  · rintro h j k - hjk ⟨-, hk, hret⟩
    exact h j k hjk (by omega) fun m => hret m m.zero_le

end BoundedHttpClient

end WirelessProgrammer
