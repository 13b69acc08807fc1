import BidAdapter.Proofs.Accounting
import BidAdapter.Service.LogRecord

/-!
# The log of an answer

The record of an answer looks at texts only, and some of them come from the exchange.

* `Problem.isUndecodable` : a body that cannot be decoded, by its cause; `readsUndecodable_eq` : no other problem reads
  like it, whatever texts are in it;
* `isUndecodable_ofResponse` : what is wrong with the bids of a response is something else;
* `status_eq_failure_iff` : which answers are logged as failures;
* `answer_logged_truly` : exactly those of bodies that cannot be decoded are.
-/

namespace BidAdapter

set_option autoImplicit false

open Json (ReadError ShapeError)
open OpenRtb (Bid BidResponse)

variable {id : String}

/-! ## Texts -/

/-- The problem of a body that cannot be decoded. -/
def Problem.isUndecodable : Problem → Bool
  | .undecodable _ => true
  | _ => false

/-- Two letters tell the texts apart. -/
theorem startsWith_eq_false {s : String} (h : ¬['F', 'a'] <+: s.toList) : s.startsWith "Failed to decode" = false := by
  rw [Bool.eq_false_iff, Ne, String.startsWith_string_iff]
  have hletters : ['F', 'a'] <+: "Failed to decode".toList := ⟨"iled to decode".toList, rfl⟩
  exact fun hs => h (hletters.trans hs)

/-- One text begins with the same letter and goes on with another, all others begin with another one. -/
theorem startsWith_shapeError (e : ShapeError) : e.message.startsWith "Failed to decode" = false := by
  apply startsWith_eq_false
  unfold ShapeError.message
  split
  all_goals simp

theorem startsWith_readError (e : ReadError) : e.message.startsWith "Failed to decode" = false := by
  cases e with
  | shape e => exact startsWith_shapeError e
  | flaw f =>
    apply startsWith_eq_false
    cases f with
    | truncated => decide
    | malformed => decide

/-- **No other problem reads like a body that cannot be decoded**: what comes from requests and exchanges stands behind
words of the adapter. -/
theorem readsUndecodable_eq (p : Problem) : p.readsUndecodable = p.isUndecodable := by
  unfold Problem.readsUndecodable
  cases p with
  | undecodable e =>
    rw [Problem.isUndecodable, String.startsWith_string_iff]
    unfold Problem.message
    simp
  | impExt e => exact startsWith_readError e
  | bidExt e => exact startsWith_readError e
  | _ =>
    apply startsWith_eq_false
    unfold Problem.message
    simp

/-! ## Records -/

theorem isUndecodable_of_bidProblem {p : Problem} (h : BidProblem p) : p.isUndecodable = false := by
  cases h <;> rfl

/-- What is wrong with the bids of a response is something else. -/
theorem isUndecodable_ofResponse {r : BidResponse} :
    ∀ p ∈ (Answer.ofResponse r).problems, p.isUndecodable = false := by
  intro p hp
  obtain ⟨x, hx, hpx⟩ := List.mem_flatMap.mp hp
  obtain ⟨b, -, hresult⟩ := exists_of_mem_right (forall₂_bidResult r.bids) hx
  exact isUndecodable_of_bidProblem (bidProblem_of_bidResult hresult p hpx)

/-- An answer is logged as a failure when it offers nothing and a body could not be decoded. -/
theorem status_eq_failure_iff {a : Answer} :
    (LogRecord.ofAnswer id a).status = "failure" ↔ a.offers = [] ∧ ∃ p ∈ a.problems, p.isUndecodable = true := by
  have hread : Problem.readsUndecodable = Problem.isUndecodable := funext readsUndecodable_eq
  simp [LogRecord.status, LogRecord.ofAnswer, hread]

/-- **What is wrong with single bids is no failure**, and neither are the texts in it. -/
theorem status_ofResponse (r : BidResponse) : (LogRecord.ofAnswer id (.ofResponse r)).status = "success" := by
  have hnot : ¬(LogRecord.ofAnswer id (.ofResponse r)).status = "failure" := by
    rw [status_eq_failure_iff]
    rintro ⟨-, p, hp, hundecodable⟩
    rw [isUndecodable_ofResponse p hp] at hundecodable
    cases hundecodable
  unfold LogRecord.status at hnot ⊢
  split_ifs at hnot ⊢
  · rfl
  · exact absurd rfl hnot

/-- **The log of an answer tells the truth.** It is one of failure for exactly the bodies that cannot be decoded, and
has no offers then, no configurations and this one problem. Any other body is logged as a success, and so is any
response, with whatever problems of its bids and whatever texts in them. -/
theorem answer_logged_truly (id body : String) :
    ((LogRecord.ofAnswer id (.ofBody body)).status = "failure" ↔ ∃ e, decodeBody body = .error e) ∧
    (∀ e, decodeBody body = .error e →
      (LogRecord.ofAnswer id (.ofBody body)).bidCount = 0 ∧
      (LogRecord.ofAnswer id (.ofBody body)).hasConfigs = false ∧
      (LogRecord.ofAnswer id (.ofBody body)).problems = [.undecodable e]) ∧
    (∀ r, decodeBody body = .ok r → (LogRecord.ofAnswer id (.ofBody body)).status = "success") ∧
    ∀ r : BidResponse, (LogRecord.ofAnswer id (.ofResponse r)).status = "success" := by
  have hok : ∀ r, decodeBody body = .ok r → (LogRecord.ofAnswer id (.ofBody body)).status = "success" := by
    intro r hr
    unfold Answer.ofBody
    rw [hr]
    cases r with
    | none => rfl
    | some r => exact status_ofResponse r
  have hfailed : ∀ e, decodeBody body = .error e → Answer.ofBody body = .failed (.undecodable e) := by
    intro e he
    unfold Answer.ofBody
    rw [he]
  refine ⟨⟨?_, ?_⟩, ?_, hok, status_ofResponse⟩
  · intro hfailure
    cases hbody : decodeBody body with
    | error e => exact ⟨e, rfl⟩
    | ok r =>
      rw [hok r hbody] at hfailure
      exact absurd hfailure (by decide)
  · rintro ⟨e, he⟩
    rw [hfailed e he, status_eq_failure_iff]
    exact ⟨rfl, _, List.mem_singleton.mpr rfl, rfl⟩
  · intro e he
    rw [hfailed e he]
    exact ⟨rfl, rfl, rfl⟩

end BidAdapter
