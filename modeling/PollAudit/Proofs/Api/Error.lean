import PollAudit.Api.Error
import PollAudit.Exit

namespace PollAudit

/-- A call that failed on its way and in time, without a connection or without a status. -/
structure ApiError.IsUnanswered (error : ApiError) : Prop where
  transport : ∃ fault, error = .transport fault
  inTime : error.isTimeout = false
  silent : error.isConnect = true ∨ error.status? = none

namespace Exit

/-- What a failed call ends the program with. A fault on the way counts as a timeout first, and as
an answer of the server only if a server was reached and gave a status. -/
inductive Follows : ApiError → Exit → Prop
  | timeout {fault : Http.Fault} (htime : fault.timedOut = true) :
    Follows (.transport fault) (.timeout (fault.url.getD Failure.unknownUrl))
  | unanswered {fault : Http.Fault} (htime : fault.timedOut = false)
    (hsilent : fault.unreachable = true ∨ fault.status = none) :
    Follows (.transport fault)
      (.unreachable (fault.url.getD Failure.unknownUrl) fault.message)
  | answered {fault : Http.Fault} {status : Nat} (htime : fault.timedOut = false)
    (hreached : fault.unreachable = false) (hstatus : fault.status = some status) :
    Follows (.transport fault)
      (.rejected status (fault.url.getD Failure.unknownUrl) fault.message)
  | unusable {url : String} : Follows (.unusableBase url)
    (.invalid "HOST:PORT" ("Base URL cannot be used for API requests: " ++ url))
  | rejected {status : Nat} {url body : String} :
    Follows (.rejected status url body) (.rejected status url body)
  | malformed {message body : String} : Follows (.malformed message body) (.malformed message)

private theorem follows_ofFault (fault : Http.Fault) :
    Follows (.transport fault) (ofFailure (.ofFault fault)) := by
  rw [Failure.ofFault]
  cases htime : fault.timedOut with
  | true => exact .timeout htime
  | false =>
    cases hstatus : fault.status with
    | none => exact .unanswered htime (.inr hstatus)
    | some status =>
      cases hreached : fault.unreachable with
      | true => exact .unanswered htime (.inl hreached)
      | false => exact .answered htime hreached hstatus

private theorem follows_ofApi (error : ApiError) : Follows error (ofFailure (.ofApi error)) := by
  cases error with
  | transport fault => exact follows_ofFault fault
  | unusableBase url => exact .unusable
  | rejected status url body => exact .rejected
  | malformed message body => exact .malformed

private theorem status_cases (exit : Exit) :
    exit.status = 8 ∨ exit.status = 7 ∨ exit.status = 2 ∨ exit.status = 1 := by
  cases exit <;> simp [status]

namespace Follows

variable {error : ApiError} {exit : Exit}

private theorem status_eq_eight_iff (h : Follows error exit) :
    exit.status = 8 ↔ error.isTimeout = true := by
  cases h <;> simp [status, ApiError.isTimeout, *]

private theorem status_eq_seven_iff (h : Follows error exit) :
    exit.status = 7 ↔ error.IsUnanswered := by
  constructor
  · intro hstatus
    cases h with
    | unanswered htime hsilent => exact ⟨⟨_, rfl⟩, htime, hsilent⟩
    | _ => cases hstatus
  · rintro ⟨⟨fault, rfl⟩, htime', hsilent'⟩
    cases h with
    | timeout htime => exact absurd (htime.symm.trans htime') nofun
    | unanswered => rfl
    | answered _ hreached hstatus =>
      obtain hunreachable | hnone := hsilent'
      · exact absurd (hreached.symm.trans hunreachable) nofun
      · exact absurd (hstatus.symm.trans hnone) nofun

private theorem status_eq_two_iff (h : Follows error exit) :
    exit.status = 2 ↔ ∃ url, error = .unusableBase url := by
  cases h <;> simp [status]

/-- The status that a server gave is what the program ends with. -/
theorem exists_eq_rejected (h : Follows error exit) (hexit : exit.status = 1) {status : Nat}
    (hstatus : error.status? = some status) : ∃ url body, exit = .rejected status url body := by
  cases h with
  | answered _ _ hanswered =>
    obtain rfl := Option.some.inj (hanswered.symm.trans hstatus)
    exact ⟨_, _, rfl⟩
  | rejected =>
    obtain rfl := Option.some.inj hstatus
    exact ⟨_, _, rfl⟩
  | malformed => cases hstatus
  | _ => cases hexit

end Follows

/-- How the program ends after a failed call. A timeout is one whatever else is known of it, a call
without an answer is a missing connection, a base that takes no paths is a wrong address, and all
else is a failure like any other. In that last case the status that a server gave is passed on, and
an answer that was rejected keeps its URL and its body, of which the message shows the body behind
the status. -/
theorem status_ofApi (error : ApiError) :
    let exit := ofFailure (.ofApi error)
    (exit.status = 8 ↔ error.isTimeout = true) ∧
      (exit.status = 7 ↔ error.IsUnanswered) ∧
      (exit.status = 2 ↔ ∃ url, error = .unusableBase url) ∧
      (exit.status = 1 ↔ ¬ (error.isTimeout = true ∨ error.IsUnanswered ∨
        ∃ url, error = .unusableBase url)) ∧
      exit.status ≠ 0 ∧
      (∀ status, exit.status = 1 → error.status? = some status →
        ∃ url body, exit = .rejected status url body) ∧
      ∀ status url body, error = .rejected status url body →
        exit = .rejected status url body ∧
          exit.message =
            "Request failed with status code: " ++ toString status ++ " " ++ body := by
  intro exit
  have hfollows : Follows error exit := follows_ofApi error
  have hcases := exit.status_cases
  refine ⟨hfollows.status_eq_eight_iff, hfollows.status_eq_seven_iff,
    hfollows.status_eq_two_iff, ?_, ?_,
    fun status hexit hstatus => hfollows.exists_eq_rejected hexit hstatus, ?_⟩
  · rw [← hfollows.status_eq_eight_iff, ← hfollows.status_eq_seven_iff,
      ← hfollows.status_eq_two_iff]
    omega
  · omega
  · rintro status url body rfl
    cases hfollows
    exact ⟨rfl, rfl⟩

/-- A fault with a status on a connection that was made passes the status on. The same fault in a
request that timed out is a timeout, although no connection was made either. -/
theorem status_ofApi_of_gateway :
    let fault : Http.Fault :=
      { reason := "error decoding response body", url := some "http://h/", status := some 502 }
    (ofFailure (.ofApi (.transport fault))).status = 1 ∧
      ApiError.status? (.transport fault) = some 502 ∧
      (∃ url body, ofFailure (.ofApi (.transport fault)) = .rejected 502 url body) ∧
      (ofFailure (.ofApi (.transport
        { fault with timedOut := true, unreachable := true }))).status = 8 ∧
      (ofFailure (.ofApi (.rejected 502 "http://h/" "bad"))).message =
        "Request failed with status code: 502 bad" := by
  intro fault
  obtain ⟨_, _, _, _, _, hrejected, _⟩ := status_ofApi (.transport fault)
  obtain ⟨htimeout, _⟩ :=
    status_ofApi (.transport { fault with timedOut := true, unreachable := true })
  obtain ⟨_, _, _, _, _, _, hshown⟩ := status_ofApi (.rejected 502 "http://h/" "bad")
  refine ⟨rfl, rfl, hrejected 502 rfl rfl, htimeout.mpr rfl, ?_⟩
  exact (hshown 502 "http://h/" "bad" rfl).2.trans (by decide)

end Exit

end PollAudit
