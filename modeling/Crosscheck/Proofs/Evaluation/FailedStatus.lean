import Crosscheck.Evaluation.Service
import Crosscheck.Evaluation.Verdict
import Mathlib.Data.List.Basic

/-!
# Answers with a failed status

When a status reports failure, the only outcome that a reply should hold is the report of the
service that it refused the expression; any other body means that the service is not well. This is
so unless the body can be read and has a result but no error: then the status is not looked at, and
the result counts as it does when the status reports success.
-/

namespace Crosscheck

/-- Whether an answer has a result although it reports no error. -/
def ServiceAnswer.IsUnmarked (a : ServiceAnswer) : Prop := a.error = none ∧ a.result ≠ none

/-- Whether a reply is one that a body should have when the status reports failure: the report that
the body holds or, if it holds none, a failure of the evaluator. -/
def IsRefusal (body : List Char) : Reply → Prop
  | .ok outcome => ∃ answer report, ServiceAnswer.ofText? body = some answer ∧
      answer.error = some report ∧ outcome = .error report
  | .error _ => ∀ answer, ServiceAnswer.ofText? body = some answer → answer.error = none

namespace ServiceAnswer

variable {a : ServiceAnswer}

/-- An error is reported whatever the result is. -/
theorem reply_of_error {report : String} (h : a.error = some report) (body : List Char) :
    a.reply body = .ok (.error report) := by
  unfold reply
  simp only [h]

/-- An answer without an error and without a result is malformed. -/
theorem reply_of_neither (herror : a.error = none) (hresult : a.result = none)
    (body : List Char) : a.reply body = .error (.malformedReply (String.ofList body)) := by
  unfold reply
  simp only [herror, hresult]

/-- A result without an error is an outcome. -/
theorem IsUnmarked.exists_outcome (h : a.IsUnmarked) (body : List Char) :
    ∃ outcome, a.reply body = .ok outcome := by
  obtain ⟨herror, hresult⟩ := h
  obtain ⟨value, hvalue⟩ := Option.ne_none_iff_exists'.mp hresult
  unfold reply
  rw [herror, hvalue]
  cases value with
  | string text => exact ⟨_, rfl⟩
  | _ =>
    dsimp only
    split
    · exact ⟨_, rfl⟩
    · exact ⟨_, rfl⟩

end ServiceAnswer

/-- A body that can be read is answered for in the same way whatever the status is. -/
theorem interpretResponse_of_ofText? {body : List Char} {answer : ServiceAnswer}
    (h : ServiceAnswer.ofText? body = some answer) (success : Bool) (status : Nat)
    (unreadable : String) :
    interpretResponse success status body unreadable = answer.reply body := by
  simp only [interpretResponse, h]

/-- A failed status is answered for by a refusal unless the body has a result and no error. -/
theorem isRefusal_interpretResponse_iff (status : Nat) (body : List Char) (unreadable : String) :
    IsRefusal body (interpretResponse false status body unreadable) ↔
      ¬∃ answer, ServiceAnswer.ofText? body = some answer ∧ answer.IsUnmarked := by
  cases hbody : ServiceAnswer.ofText? body with
  | none =>
    simp [interpretResponse, hbody, IsRefusal]
  | some answer =>
    rw [interpretResponse_of_ofText? hbody]
    cases herror : answer.error with
    | some report =>
      simp [ServiceAnswer.reply_of_error herror, IsRefusal, hbody, herror, ServiceAnswer.IsUnmarked]
    | none =>
      cases hresult : answer.result with
      | none =>
        simp [ServiceAnswer.reply_of_neither herror hresult, IsRefusal, hbody, herror, hresult,
          ServiceAnswer.IsUnmarked]
      | some value =>
        have hunmarked : answer.IsUnmarked := ⟨herror, by simp [hresult]⟩
        obtain ⟨outcome, houtcome⟩ := hunmarked.exists_outcome body
        simp [houtcome, IsRefusal, hbody, herror, hunmarked]

/-- With a refusal no round is an agreement, and it is a divergence only when the service reported
an error for an expression that the candidate has a number for. -/
theorem IsRefusal.verdict {body : List Char} {reply : Reply} (h : IsRefusal body reply)
    (t : Tolerance) (candidate : Reply) :
    Verdict.of t reply candidate ≠ .agree ∧
      (Verdict.of t reply candidate = .divergence →
        ∃ report x, reply = .ok (.error report) ∧ candidate = .ok (.value x)) := by
  match reply, candidate with
  | .error failure, _ => exact ⟨nofun, nofun⟩
  | .ok outcome, candidate =>
    obtain ⟨answer, report, -, -, rfl⟩ := h
    match candidate with
    | .error failure => exact ⟨nofun, nofun⟩
    | .ok (.error other) => exact ⟨nofun, nofun⟩
    | .ok (.value x) => exact ⟨nofun, fun _ => ⟨report, x, rfl, rfl⟩⟩

/-- **A failed status yields no number unless the body has an unmarked result.** When the status is
not one of success, the reply is the report that the body holds or a failure, exactly if the body
cannot be read as an answer with a result and no error. It is a failure for every body that cannot
be read; every other body is answered for as if its status were any other one. With a report or a
failure, no round agrees or diverges on a number of the service. -/
theorem ServiceExchange.reply_of_failed_status {status : Nat}
    (hstatus : status < 200 ∨ 299 < status) (body : List Char) (unreadable : String) :
    let reply := (answered status body).reply unreadable
    (IsRefusal body reply ↔
      ¬∃ answer, ServiceAnswer.ofText? body = some answer ∧ answer.IsUnmarked) ∧
    (ServiceAnswer.ofText? body = none → ∃ failure, reply = .error failure) ∧
    (∀ answer, ServiceAnswer.ofText? body = some answer →
      ∀ other, reply = (answered other body).reply unreadable) ∧
    (IsRefusal body reply → ∀ t candidate,
      Verdict.of t reply candidate ≠ .agree ∧
        (Verdict.of t reply candidate = .divergence →
          ∃ report x, reply = .ok (.error report) ∧ candidate = .ok (.value x))) := by
  intro reply
  have hfailed : isSuccessStatus status = false := by
    simp only [isSuccessStatus, Bool.and_eq_false_iff, decide_eq_false_iff_not]
    omega
  have hreply : reply = interpretResponse false status body unreadable := by
    change interpretResponse (isSuccessStatus status) status body unreadable = _
    rw [hfailed]
  refine ⟨?refusal, ?unread, ?read, fun h => h.verdict⟩
  case refusal =>
    rw [hreply]
    exact isRefusal_interpretResponse_iff status body unreadable
  case unread =>
    intro hbody
    rw [hreply]
    exact ⟨_, by simp only [interpretResponse, hbody]; rfl⟩
  case read =>
    intro answer hbody other
    rw [hreply, interpretResponse_of_ofText? hbody]
    exact (interpretResponse_of_ofText? hbody _ _ _).symm

/-- A report is kept even if a result stands beside it, and a body without either is a failure. -/
theorem ServiceExchange.reply_of_failed_status_report :
    let rejected := "\x7b\"result\": 7, \"error\": \"Undefined symbol x\"\x7d".toList
    let empty := "\x7b\"result\": null\x7d".toList
    (answered 400 rejected).reply "" = .ok (.error "Undefined symbol x") ∧
      IsRefusal rejected ((answered 400 rejected).reply "") ∧
      IsRefusal empty ((answered 300 empty).reply "") ∧
      Verdict.of {} ((answered 300 empty).reply "") (.ok (.value ⟨0x4008000000000000⟩)) ≠
        .agree := by
  intro rejected empty
  have hrejected : (ServiceAnswer.ofText? rejected).map (·.error.isNone) = some false := by
    decide +kernel
  have hempty : (ServiceAnswer.ofText? empty).map (·.result.isNone) = some true := by decide +kernel
  have hreply : (answered 400 rejected).reply "" = .ok (.error "Undefined symbol x") := by
    decide +kernel
  -- From here on only what has been read of the two bodies counts.
  clear_value rejected empty
  obtain ⟨hreport, -, -, -⟩ := reply_of_failed_status (.inr (by decide : 299 < 400)) rejected ""
  obtain ⟨hfailure, -, -, hverdict⟩ :=
    reply_of_failed_status (.inr (by decide : 299 < 300)) empty ""
  have hrefusal : IsRefusal empty ((answered 300 empty).reply "") := by
    refine hfailure.mpr ?_
    rintro ⟨answer, hbody, -, hresult⟩
    rw [hbody, Option.map_some, Option.some.injEq, Option.isNone_iff_eq_none] at hempty
    exact hresult hempty
  refine ⟨hreply, hreport.mpr ?_, hrefusal, (hverdict hrefusal _ _).1⟩
  rintro ⟨answer, hbody, herror, -⟩
  rw [hbody, Option.map_some, herror] at hrejected
  cases hrejected

/-- A service that is out of order, whose answer has a result all the same: the result is read, and
the round counts as an agreement. -/
theorem ServiceExchange.reply_of_failed_status_unmarked :
    let body := "\x7b\"result\": \"3\", \"error\": null\x7d".toList
    isSuccessStatus 500 = false ∧
      (answered 500 body).reply "" = .ok (.value ⟨0x4008000000000000⟩) ∧
      ¬IsRefusal body ((answered 500 body).reply "") ∧
      Verdict.of {} ((answered 500 body).reply "") (.ok (.value ⟨0x4008000000000000⟩)) =
        .agree := by
  intro body
  have hreply : (answered 500 body).reply "" = .ok (.value ⟨0x4008000000000000⟩) := by
    decide +kernel
  refine ⟨by decide, hreply, ?_, ?_⟩
  · rw [hreply]
    rintro ⟨answer, report, -, -, houtcome⟩
    cases houtcome
  · rw [hreply]
    decide +kernel

end Crosscheck
