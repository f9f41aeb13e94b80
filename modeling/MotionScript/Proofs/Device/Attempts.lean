import Mathlib.Data.Nat.Find
import MotionScript.Device.Delivery

/-!
# Attempts to deliver a command

A command is posted again as long as the last exchange may pass and retries are left. Whether it may
pass is decided twice: an answer is a fault of the server if its status is among 500 to 599, and a
fault is transient if its status is 500 or more. Between the two, an answer with a status from 600
on is a reply if its body can be read, and transient if it cannot.

* `Exchange.Fails`, `Exchange.Strays`: the exchanges without an answer below 500, and those among
  them that count as a reply all the same.
* `Endpoint.deliverWith_eq`: the attempts and the result, once it is known which exchange is the
  last.
* `Settled`: what becomes of a command, where some exchanges count as transient.
* **`Endpoint.deliver_settled`**: the transient exchanges are those that fail and do not stray. That
  they are all that fail is right for a delivery if and only if none of its exchanges strays.
* `strayReply_not_settled`: a reply of status 600 ends a delivery.

Nothing depends on how the body of a reply is read: `decode?` is any function that reads some
bodies.
-/

namespace MotionScript

variable (decode? : String → Option Reply)

namespace Exchange

/-- There is no answer, or its status is 500 or more. -/
def Fails : Exchange → Prop
  | refused | closed | silent => True
  | answered status _ => 500 ≤ status

/-- The status is past those of the faults of a server, and the body is a reply. -/
def Strays : Exchange → Prop
  | refused | closed | silent => False
  | answered status body => 600 ≤ status ∧ (decode? body).isSome

/-- Another attempt is made after the exchange, if a retry is left. -/
def Passes (x : Exchange) : Prop := x.Fails ∧ ¬ x.Strays decode?

/-- The faults that an exchange which fails is reported as. -/
inductive ReportedAs : Exchange → FaultKind → Prop
  | refused (text : String) : ReportedAs .refused (.connection text)
  | closed (text : String) : ReportedAs .closed (.connection text)
  | silent : ReportedAs .silent .timeout
  | answered (status : Nat) (body : String) : ReportedAs (.answered status body) (.status status)

variable {decode?} {x : Exchange}

theorem Strays.fails (h : x.Strays decode?) : x.Fails := by
  cases x with
  | refused | closed | silent => trivial
  | answered status body => exact Nat.le_trans (by omega : 500 ≤ 600) h.1

theorem ReportedAs.isTransient {kind : FaultKind} (h : x.ReportedAs kind) (hx : x.Fails)
    (device : String) : Fault.isTransient ⟨device, kind⟩ := by
  cases h with
  | refused | closed | silent => rfl
  | answered status body => exact decide_eq_true hx

end Exchange

/-! ## The result of one attempt -/

section ResultsIn

variable (Transient : Exchange → Prop) (e : Endpoint)

/-- The result of a delivery that ends with an exchange after `n` of at most `m` retries. -/
inductive ResultsIn (n m : Nat) : Exchange → Except Fault Reply → Prop
  /-- A reply is taken whatever it says, and with the number of retries. -/
  | replied {status : Nat} {body : String} {r : Reply} (hc : ¬ Transient (.answered status body))
    (hr : decode? body = some r) :
    ResultsIn n m (.answered status body) (.ok { r with retries := n })
  | refused {status : Nat} {body : String} (hc : ¬ Transient (.answered status body))
    (hr : decode? body = none) (hs : Exchange.isSuccess status = false) :
    ResultsIn n m (.answered status body) (.error ⟨e.name, .status status⟩)
  | garbled {status : Nat} {body : String} (hc : ¬ Transient (.answered status body))
    (hr : decode? body = none) (hs : Exchange.isSuccess status = true) (text : String) :
    ResultsIn n m (.answered status body) (.error ⟨e.name, .invalidResponse text⟩)
  /-- What is transient is only reported when no retry is left. -/
  | exhausted {x : Exchange} {kind : FaultKind} (hc : Transient x) (hn : n = m)
    (hk : x.ReportedAs kind) : ResultsIn n m x (.error ⟨e.name, kind⟩)

variable {decode? Transient e} {n m : Nat} {x : Exchange} {result : Except Fault Reply}

theorem ResultsIn.congr {Transient' : Exchange → Prop} {m' : Nat}
    (h : ResultsIn decode? Transient e n m x result) (hiff : Transient' x ↔ Transient x)
    (hm : Transient x → n = m') : ResultsIn decode? Transient' e n m' x result := by
  cases h with
  | replied hc hr => exact .replied (mt hiff.1 hc) hr
  | refused hc hr hs => exact .refused (mt hiff.1 hc) hr hs
  | garbled hc hr hs text => exact .garbled (mt hiff.1 hc) hr hs text
  | exhausted hc hn hk => exact .exhausted (hiff.2 hc) (hm hc) hk

variable (decode? e) in
theorem resultsIn_outcome (n : Nat) (x : Exchange) :
    ResultsIn decode? (Exchange.Passes decode?) e n n x (e.outcome decode? n x) := by
  cases x with
  | refused => exact .exhausted ⟨trivial, id⟩ rfl (.refused _)
  | closed => exact .exhausted ⟨trivial, id⟩ rfl (.closed _)
  | silent => exact .exhausted ⟨trivial, id⟩ rfl .silent
  | answered status body =>
    by_cases hserver : Exchange.isServerFault status
    · have hrange : 500 ≤ status ∧ status ≤ 599 := by simpa [Exchange.isServerFault] using hserver
      simp only [Endpoint.outcome, Exchange.outcome, hserver, if_true]
      exact .exhausted ⟨hrange.1, fun h => absurd h.1 (by omega)⟩ rfl (.answered status body)
    · have hrange : 500 ≤ status → 600 ≤ status := by
        have : ¬ (500 ≤ status ∧ status ≤ 599) := by simpa [Exchange.isServerFault] using hserver
        omega
      simp only [Endpoint.outcome, Exchange.outcome, hserver]
      cases hr : decode? body with
      | some r => exact .replied (fun h => h.2 ⟨hrange h.1, by simp [hr]⟩) hr
      | none =>
        have hstrays : ¬ (Exchange.answered status body).Strays decode? := by
          simp [Exchange.Strays, hr]
        by_cases hs : Exchange.isSuccess status
        · have hbelow : status ≤ 299 := (by simpa [Exchange.isSuccess] using hs : _ ∧ _).2
          simp only [hs, if_true]
          exact .garbled (fun h => absurd h.1 (show ¬ 500 ≤ status by omega)) hr hs _
        · simp only [hs]
          by_cases hfails : 500 ≤ status
          · exact .exhausted ⟨hfails, hstrays⟩ rfl (.answered status body)
          · exact .refused (fun h => hfails h.1) hr (by simpa using hs)

theorem ResultsIn.of_ok {r : Reply} (h : ResultsIn decode? Transient e n m x (.ok r)) :
    ¬ Transient x ∧ r.retries = n := by
  cases h with
  | replied hc hr => exact ⟨hc, rfl⟩

theorem ResultsIn.not_strays {m' : Nat}
    (h : ResultsIn decode? (Exchange.Passes decode?) e n m x result)
    (h' : ResultsIn decode? Exchange.Fails e n m' x result) : ¬ x.Strays decode? := by
  intro hstrays
  cases h with
  | replied hc hr => exact h'.of_ok.1 hstrays.fails
  | refused hc hr hs | garbled hc hr hs text => simp [Exchange.Strays, hr] at hstrays
  | exhausted hc hn hk => exact hc.2 hstrays

theorem ResultsIn.mayPass_iff (h : ResultsIn decode? (Exchange.Passes decode?) e n m x result) :
    mayPass result = true ↔ x.Passes decode? := by
  cases h with
  | replied hc hr => exact iff_of_false nofun hc
  | refused hc hr hs =>
    refine iff_of_false (fun h => hc ⟨of_decide_eq_true (p := 500 ≤ _) h, ?_⟩) hc
    simp [Exchange.Strays, hr]
  | garbled hc hr hs text => exact iff_of_false nofun hc
  | exhausted hc hn hk => exact iff_of_true (hk.isTransient hc.1 e.name) hc

end ResultsIn

/-! ## The last attempt -/

theorem exists_end (P : Nat → Prop) (m : Nat) :
    ∃ k ≤ m, (∀ n < k, P n) ∧ (k < m → ¬ P k) := by
  classical
  have hm : m < m → ¬ P m := fun h => absurd h (Nat.lt_irrefl m)
  have hex : ∃ k, k < m → ¬ P k := ⟨m, hm⟩
  refine ⟨Nat.find hex, Nat.find_min' hex hm, fun n hn => ?_, Nat.find_spec hex⟩
  by_contra hP
  exact Nat.find_min hex hn fun _ => hP

namespace Endpoint

variable {decode?} (e : Endpoint) (command : String) (world : Nat → Exchange) {k m : Nat}

theorem deliverFrom_eq (retries : Nat) (hk : k ≤ m)
    (hpass : ∀ n < k, (world (retries + n)).Passes decode?)
    (hend : k < m → ¬ (world (retries + k)).Passes decode?) :
    e.deliverFrom decode? command world retries m =
      ⟨(List.range (k + 1)).map fun n => ⟨e.request command, world (retries + n)⟩,
        e.outcome decode? (retries + k) (world (retries + k))⟩ := by
  induction k generalizing retries m with
  | zero =>
    cases m with
    | zero => rfl
    | succ m =>
      have hlast : ¬ mayPass (e.outcome decode? retries (world retries)) = true :=
        mt (resultsIn_outcome decode? e retries _).mayPass_iff.1 (hend m.succ_pos)
      rw [deliverFrom, if_neg hlast]
      rfl
  | succ k ih =>
    obtain ⟨m, rfl⟩ : ∃ l, m = l + 1 := ⟨m - 1, by omega⟩
    have hshift (n : Nat) : retries + 1 + n = retries + (n + 1) := by omega
    have hfirst : mayPass (e.outcome decode? retries (world retries)) = true :=
      (resultsIn_outcome decode? e retries _).mayPass_iff.2 (hpass 0 k.succ_pos)
    have hrest := ih (retries + 1) (Nat.le_of_succ_le_succ hk)
      (fun n hn => hshift n ▸ hpass (n + 1) (Nat.succ_lt_succ hn))
      (fun hlt => hshift k ▸ hend (Nat.succ_lt_succ hlt))
    rw [deliverFrom, if_pos hfirst, hrest, List.range_succ_eq_map (n := k + 1)]
    simp [hshift, Function.comp_def]

theorem deliverWith_eq (hk : k ≤ m) (hpass : ∀ n < k, (world n).Passes decode?)
    (hend : k < m → ¬ (world k).Passes decode?) : e.deliverWith decode? command m world =
      ⟨(List.range (k + 1)).map fun n => ⟨e.request command, world n⟩,
        e.outcome decode? k (world k)⟩ := by
  have h := deliverFrom_eq e command world 0 hk (by simpa using hpass) (by simpa using hend)
  simpa [deliverWith] using h

end Endpoint

/-! ## What is delivered -/

/-- What becomes of a command with at most `m` retries, when some exchanges count as transient. -/
structure Settled (Transient : Exchange → Prop) (e : Endpoint) (command : String) (m : Nat)
    (world : Nat → Exchange) (d : Delivery) : Prop where
  /-- Every attempt posts the command to the endpoint. -/
  requests : d.postings = (List.range d.postings.length).map fun n => ⟨e.request command, world n⟩
  /-- The attempts end with the first exchange that is not transient. -/
  stops : ∀ k, (∀ n < k, Transient (world n)) → ¬ Transient (world k) →
    d.postings.length = min k m + 1
  endless : (∀ n, Transient (world n)) → d.postings.length = m + 1
  /-- The result is that of the last exchange. -/
  resultsIn : ∃ n ≤ m, d.postings.length = n + 1 ∧
    ResultsIn decode? Transient e n m (world n) d.result
  retries_eq : ∀ r, d.result = .ok r → r.retries + 1 = d.postings.length ∧ r.retries ≤ m
  exhausted : ∀ f, d.result = .error f → f.isTransient → d.postings.length = m + 1

namespace Endpoint

variable (e : Endpoint) (command : String) (m : Nat) (world : Nat → Exchange)

theorem settled_of_iff {Transient : Exchange → Prop} {k : Nat} (hk : k ≤ m)
    (hpass : ∀ n < k, (world n).Passes decode?) (hend : k < m → ¬ (world k).Passes decode?)
    (hiff : ∀ n ≤ k, Transient (world n) ↔ (world n).Passes decode?) :
    Settled decode? Transient e command m world (e.deliverWith decode? command m world) := by
  have hlast : (world k).Passes decode? → k = m := fun h => by
    by_contra hne
    exact hend (by omega) h
  rw [deliverWith_eq e command world hk hpass hend]
  constructor
  case requests => simp
  case stops =>
    intro j hj hstop
    have hle : j ≤ k → j = k := fun hle => by
      by_contra hne
      exact hstop ((hiff j hle).2 (hpass j (by omega)))
    have hge : k < j → k = m := fun hlt => hlast ((hiff k le_rfl).1 (hj k hlt))
    simp only [List.length_map, List.length_range]
    omega
  case endless =>
    intro h
    simp [hlast ((hiff k le_rfl).1 (h k))]
  case resultsIn =>
    exact ⟨k, hk, by simp, (resultsIn_outcome decode? e k _).congr (hiff k le_rfl) hlast⟩
  case retries_eq =>
    intro r (hr : e.outcome decode? k (world k) = .ok r)
    have hresult := resultsIn_outcome decode? e k (world k)
    rw [hr] at hresult
    simp [hresult.of_ok.2, hk]
  case exhausted =>
    intro f (hf : e.outcome decode? k (world k) = .error f) htransient
    have hresult := resultsIn_outcome decode? e k (world k)
    rw [hf] at hresult
    simp [hlast (hresult.mayPass_iff.1 htransient)]

/-- **Which exchanges are transient.** They are those that fail and do not stray. All that fail
count as transient if and only if no exchange of the delivery strays. -/
theorem deliver_settled :
    Settled decode? (Exchange.Passes decode?) e command m world
        (e.deliverWith decode? command m world) ∧
      (Settled decode? Exchange.Fails e command m world (e.deliverWith decode? command m world) ↔
        ∀ p ∈ (e.deliverWith decode? command m world).postings, ¬ p.exchange.Strays decode?) := by
  obtain ⟨k, hk, hpass, hend⟩ := exists_end (fun n => (world n).Passes decode?) m
  have heq := deliverWith_eq e command world hk hpass hend
  refine ⟨settled_of_iff decode? e command m world hk hpass hend fun _ _ => Iff.rfl,
    fun h p hp hstrays => ?_,
    fun h => settled_of_iff decode? e command m world hk hpass hend fun n hn => ?_⟩
  · obtain ⟨j, hj, rfl⟩ : ∃ j < k + 1, (⟨e.request command, world j⟩ : Posting) = p := by
      simpa [heq] using hp
    obtain rfl : j = k := by
      by_contra hne
      exact (hpass j (by omega)).2 hstrays
    -- The last exchange is a reply, but one that fails is reported as a fault.
    obtain ⟨n, -, hlength, hresult⟩ := h.resultsIn
    obtain rfl : n = j := by simpa [heq] using hlength.symm
    rw [heq] at hresult
    exact (resultsIn_outcome decode? e n _).not_strays hresult hstrays
  · have hmem : (⟨e.request command, world n⟩ : Posting) ∈
        (e.deliverWith decode? command m world).postings := by
      rw [heq]
      exact List.mem_map.2 ⟨n, List.mem_range.2 (by omega), rfl⟩
    exact ⟨fun hfails => ⟨hfails, h _ hmem⟩, And.left⟩

end Endpoint

/-! ## A reply that strays -/

/-- An endpoint on the same machine. -/
def localEndpoint : Endpoint := ⟨⟨"http".toList, [], some (.domain "localhost".toList), none,
  some Endpoint.commandPath⟩⟩

/-- A reply of status 600, then one of status 200. -/
def strayReply : Nat → Exchange
  | 0 => .answered 600 "\x7b\"success\":true\x7d"
  | _ + 1 => .answered 200 "\x7b\"success\":true\x7d"

/-- The reply of status 600 is taken, though its status is 500 or more and a retry is left. -/
theorem strayReply_not_settled : ¬ Settled Reply.decode? Exchange.Fails localEndpoint "A" 1
    strayReply (localEndpoint.deliver "A" 1 strayReply) := by
  intro h
  have hfails : ∀ n < 1, (strayReply n).Fails := by
    intro n hn
    obtain rfl : n = 0 := by omega
    exact (by decide : 500 ≤ 600)
  have hends : ¬ (strayReply 1).Fails := (by decide : ¬ 500 ≤ 200)
  have htwo : (localEndpoint.deliver "A" 1 strayReply).postings.length = 2 := h.stops 1 hfails hends
  have hone : (localEndpoint.deliver "A" 1 strayReply).postings.length = 1 := by decide +kernel
  omega

end MotionScript
