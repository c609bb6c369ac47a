/-
# What an answer tells of the inside

A failure of the table, of a file or of an inner part of the service carries a text that is
not meant for those who ask over HTTP. The public message of such a failure hides it. A
failure to resolve a query carries its cause, and the cause may be such a failure: the public
message is then the message of the whole chain, and the text stands at its end.

So two failures that differ in this text only have answers that differ exactly if the text is
inside a failure to resolve. Their status and their code are the same in either case.

## Main definitions

* `Failure.detail?` — the inner text that a failure carries, however deep
* `Failure.withDetail` — the same failure with another inner text
* `Failure.disclosed?` — the inner text that the answer ends with

## Main results

* `message_withDetail` — the message of a failure is made of a part that does not depend on
  the inner text, and of that text
* `ofFailure_withDetail_iff` — the answer stays the same exactly if no text is disclosed, or
  the same text
-/

import Federation.Api.Basic

namespace Federation.Failure

/-! ## The inner text -/

/-- The text that a failure of the table, of a file or of an inner part carries, be it the
cause of a failure to resolve. -/
def detail? : Failure → Option String
  | resolutionFailed _ cause => cause.detail?
  | database text | io text | internal text => some text
  | _ => none

/-- A failure with another inner text, where it carries one. -/
def withDetail (text : String) : Failure → Failure
  | resolutionFailed query cause => resolutionFailed query (cause.withDetail text)
  | database _ => database text
  | io _ => io text
  | internal _ => internal text
  | failure => failure

/-- The inner text that is told to those who ask: the one inside a failure to resolve. -/
def disclosed? : Failure → Option String
  | resolutionFailed _ cause => cause.detail?
  | _ => none

variable (failure : Failure) (text : String)

@[simp] theorem status_withDetail : (failure.withDetail text).status = failure.status := by
  cases failure <;> rfl

@[simp] theorem code_withDetail : (failure.withDetail text).code = failure.code := by
  cases failure <;> rfl

theorem withDetail_of_detail_eq_none {failure : Failure} (bare : failure.detail? = none) :
    failure.withDetail text = failure := by
  induction failure with
  | resolutionFailed query cause ih => exact congrArg (resolutionFailed query) (ih bare)
  | database | io | internal => simp [detail?] at bare
  | _ => rfl

theorem withDetail_of_detail_eq_some {failure : Failure} {text : String}
    (inside : failure.detail? = some text) : failure.withDetail text = failure := by
  induction failure with
  | resolutionFailed query cause ih => exact congrArg (resolutionFailed query) (ih inside)
  | database | io | internal => simpa [detail?, withDetail] using inside.symm
  | _ => rfl

/-! ## Messages -/

theorem message_resolutionFailed (query : String) (cause : Failure) :
    (resolutionFailed query cause).message =
      "Resolution failed for " ++ query ++ ": " ++ cause.message := rfl

/-- The inner text stands at the end of the message, after a part that is the same for every
text. -/
theorem message_withDetail {failure : Failure} (inside : failure.detail? ≠ none) :
    ∃ before, ∀ text, (failure.withDetail text).message = before ++ text := by
  induction failure with
  | resolutionFailed query cause ih =>
    obtain ⟨before, told⟩ := ih inside
    refine ⟨"Resolution failed for " ++ query ++ ": " ++ before, fun text => ?_⟩
    simp [withDetail, message_resolutionFailed, told, String.append_assoc]
  | database => exact ⟨"Database error: ", fun _ => rfl⟩
  | io => exact ⟨"IO error: ", fun _ => rfl⟩
  | internal => exact ⟨"Internal error: ", fun _ => rfl⟩
  | _ => exact absurd rfl inside

theorem message_withDetail_inj {failure : Failure} (inside : failure.detail? ≠ none)
    {one other : String} :
    (failure.withDetail one).message = (failure.withDetail other).message ↔ one = other := by
  obtain ⟨before, told⟩ := message_withDetail inside
  simp [told]

/-- At the top of a chain the text is hidden. -/
theorem publicMessage_withDetail_of_disclosed_eq_none {failure : Failure}
    (hidden : failure.disclosed? = none) :
    (failure.withDetail text).publicMessage = failure.publicMessage := by
  cases failure with
  | resolutionFailed query cause =>
    rw [withDetail, withDetail_of_detail_eq_none text hidden]
  | _ => rfl

/-- Inside a failure to resolve it is not. -/
theorem publicMessage_withDetail_iff {failure : Failure} {told : String}
    (inside : failure.disclosed? = some told) :
    (failure.withDetail text).publicMessage = failure.publicMessage ↔ told = text := by
  cases failure with
  | resolutionFailed query cause =>
    have carried : (resolutionFailed query cause).detail? = some told := inside
    have apart : ((resolutionFailed query cause).withDetail text).message =
        ((resolutionFailed query cause).withDetail told).message ↔ text = told :=
      message_withDetail_inj (by simp [carried])
    -- The text that is told is the one inside, so putting it there changes nothing.
    rw [withDetail_of_detail_eq_some carried] at apart
    exact apart.trans eq_comm
  | _ => simp [disclosed?] at inside

end Federation.Failure

namespace Federation.Api.Response

open Failure

theorem ofFailure_eq_iff {one other : Failure} :
    ofFailure one = ofFailure other ↔
      one.status = other.status ∧ one.code = other.code ∧
        one.publicMessage = other.publicMessage := by
  simp [ofFailure, object]

/-- Whatever stands in the place of the inner text of a failure, the status of the answer and
its code are the same. The answer as a whole is the same exactly if the failure is no failure
to resolve that discloses another text. -/
theorem ofFailure_withDetail_iff (failure : Failure) (text : String) :
    (failure.withDetail text).status = failure.status ∧
      (failure.withDetail text).code = failure.code ∧
      (ofFailure (failure.withDetail text) = ofFailure failure ↔
        ∀ told, failure.disclosed? = some told → told = text) := by
  refine ⟨status_withDetail failure text, code_withDetail failure text, ?_⟩
  rw [ofFailure_eq_iff]
  simp only [status_withDetail, code_withDetail, true_and]
  cases disclosed : failure.disclosed? with
  | none => simp [publicMessage_withDetail_of_disclosed_eq_none text disclosed]
  | some told => simpa using publicMessage_withDetail_iff text disclosed

/-- What an origin reports of a host that only it can reach is told to those who ask for the
entity. -/
theorem ofFailure_tells_detail :
    ofFailure (Failure.withDetail "timeout"
        (.resolutionFailed "{entityID=https://idp.example.org}"
          (.internal "connection to db-7 refused"))) ≠
      ofFailure (.resolutionFailed "{entityID=https://idp.example.org}"
        (.internal "connection to db-7 refused")) := by
  rw [ne_eq, ofFailure_eq_iff]
  decide

end Federation.Api.Response
