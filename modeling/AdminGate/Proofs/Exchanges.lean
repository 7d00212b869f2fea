import AdminGate.Client.Answer
import AdminGate.Proofs.CallSteps
import AdminGate.Proofs.RequestFields
import AdminGate.Scenario.Server

/-!
# Exchanges that go well

A request for a valid address with ASCII names in its fields can be put together
unless its body is not finite or the cookies for it are not ASCII.  An answer
that sets no cookies leaves the jar as it is and, when it sends nowhere else, is
read as it was meant.
-/

namespace AdminGate

/-- What comes back before the time of a request is up: an answer or a failure of
the transport. -/
def Reply.within (window : Nat) :
    Reply → Option (Except Http.TransportFailure Http.Response)
  | answer response delay => if delay < window then some (.ok response) else none
  | failure cause delay => if delay < window then some (.error cause) else none
  | silence => none

theorem Answer.Rejects.location?_eq_none {response : Http.Response}
    (rejects : Answer.Rejects response) : response.location? = none := by
  unfold Http.Response.location?
  split
  · rfl
  · rw [rejects.status]
    rfl

namespace Http

namespace Request

/-- The address can be read and spoken to. -/
structure ValidTarget (base : Url) (target : String) (url : Url) : Prop where
  resolved : resolve? base target = .ok url
  site : ∃ site, site? url [] = .ok site
  host : checkHost url [] = .ok ()

theorem site?_of_site? {url : Url} {first second : Headers}
    (known : ∃ site, site? url first = .ok site) :
    ∃ site, site? url second = .ok site := by
  obtain ⟨site, known⟩ := known
  unfold site? Site.ofUrl? at known ⊢
  split at known
  · cases known
  · rename_i named
    rw [if_neg named]
    cases parts : splitAddress url.text with
    | error fault =>
        rw [parts] at known
        cases known
    | ok parts => exact ⟨_, rfl⟩

theorem checkHost_of_checkHost {url : Url} (named : checkHost url [] = .ok ())
    (headers : Headers) : checkHost url headers = .ok () := by
  unfold checkHost at named ⊢
  cases headers.has "host" with
  | true => rfl
  | false => exact named

/-- The cookies for a site cannot stand in a field. -/
def ForeignCookies (jar : CookieJar) (failure : Failure) : Prop :=
  ∃ site cookies run, jar.headerFor? site = some cookies ∧
    Text.nonAscii? cookies.toList = some run ∧ failure = .notAscii run

theorem withCookies?_cases (jar : CookieJar) {url : Url} (headers : Headers)
    (known : ∃ site, site? url [] = .ok site) :
    (∃ cookied, withCookies? jar url headers = .ok cookied) ∨
      ∃ failure, withCookies? jar url headers = .error failure ∧
        ForeignCookies jar failure := by
  have reached : ∃ site, site? url headers = .ok site := site?_of_site? known
  obtain ⟨site, reached⟩ := reached
  unfold withCookies?
  split
  · exact .inl ⟨_, rfl⟩
  · rw [reached]
    cases offered : jar.headerFor? site with
    | none =>
        exact .inl ⟨headers, by
          simp [bind, Except.bind, offered, pure, Except.pure]⟩
    | some cookies =>
        simp only [bind, Except.bind, offered]
        split
        · exact .inl ⟨_, rfl⟩
        · split
          · split
            · rename_i run foreign
              exact .inr ⟨_, rfl, site, cookies, run, offered, foreign, rfl⟩
            · exact .inl ⟨_, rfl⟩
          · exact .inl ⟨_, rfl⟩

theorem withBodyType?_cases (body : Option Fields) (headers : Headers) :
    (∃ typed, withBodyType? body headers = .ok typed) ∨
      (withBodyType? body headers = .error .notFinite ∧
        ∃ fields, body = some fields ∧
          (Json.object fields).isFinite = false) := by
  cases body with
  | none => exact .inl ⟨_, rfl⟩
  | some fields =>
      cases finite : (Json.object fields).isFinite with
      | true =>
          left
          simp only [withBodyType?, finite, Bool.not_true, Bool.false_eq_true,
            if_false]
          split <;> exact ⟨_, rfl⟩
      | false => exact .inr ⟨by simp [withBodyType?, finite], fields, rfl, finite⟩

/-- Nothing but its cookies and its body keeps a request for a valid address
from being put together. -/
theorem compose?_cases {base url : Url} (jar : CookieJar) {inquiry : Inquiry}
    (target : ValidTarget base inquiry.target url)
    (names : ∀ header ∈ inquiry.headers, Headers.IsAsciiName header.name) :
    (∃ request, compose? base jar inquiry = .ok request) ∨
      ∃ failure, compose? base jar inquiry = .error failure ∧
        (ForeignCookies jar failure ∨
          failure = .notFinite ∧ ∃ fields, inquiry.body = some fields ∧
            (Json.object fields).isFinite = false) := by
  obtain ⟨merged, mergedOk⟩ := Headers.merge_of_ascii standardHeaders names
  unfold compose?
  rw [target.resolved, mapError_eq_ok_iff.mpr mergedOk]
  simp only [bind, Except.bind]
  rcases withCookies?_cases jar merged target.site with
    ⟨cookied, cookiedOk⟩ | ⟨failure, refused, foreign⟩
  · simp only [cookiedOk]
    rcases withBodyType?_cases inquiry.body cookied with
      ⟨typed, typedOk⟩ | ⟨refused, infinite⟩
    · simp only [typedOk, checkHost_of_checkHost target.host typed]
      exact .inl ⟨_, rfl⟩
    · simp only [refused]
      exact .inr ⟨_, rfl, .inr ⟨rfl, infinite⟩⟩
  · simp only [refused]
    exact .inr ⟨_, rfl, .inl foreign⟩

theorem decoded_values {response plain : Response}
    (decoded : response.decoded? = some plain) (key : String) :
    plain.values key = response.values key := by
  obtain ⟨body, _, rfl⟩ := Option.map_eq_some_iff.mp decoded
  rfl

theorem jar_receive_nil (jar : CookieJar) (site : Site) (year : Nat)
    (second : Int) (words : List String) :
    jar.receive site year second [] words = (jar, true) :=
  rfl

variable {request : Request} {year : Nat} {second : Int} {jar : CookieJar}
  {response plain : Response}

theorem receive_jar (noCookies : response.values "set-cookie" = []) :
    (request.receive year second jar response).jar = jar := by
  unfold receive
  split
  · rfl
  · rfl
  · rename_i plain site decoded known
    rw [decoded_values decoded, noCookies, jar_receive_nil]

/-- An answer that sets no cookies and sends nowhere else is read as it is. -/
theorem receive_result
    (known : ∃ site, site? request.url request.headers = .ok site)
    (noCookies : response.values "set-cookie" = [])
    (decoded : response.decoded? = some plain)
    (stays : plain.location? = none) :
    (request.receive year second jar response).result = .ok plain := by
  obtain ⟨site, known⟩ := known
  unfold receive
  simp only [decoded, known]
  rw [decoded_values decoded "set-cookie", noCookies, jar_receive_nil]
  simp [checkRedirect, stays, Except.map, pure, Except.pure]

theorem site?_foreign {url : Url} {headers : Headers} {failure : Failure}
    (refused : site? url headers = .error failure) :
    failure.IsForeign := by
  unfold site? at refused
  split at refused
  · cases refused
    exact .unknownScheme _
  · cases located : Site.ofUrl? url (", ".intercalate (headers.values "host")) with
    | error cause =>
        rw [located] at refused
        cases refused
        exact .unsplittable cause
    | ok site =>
        rw [located] at refused
        cases refused

theorem location?_of_isSuccess (success : plain.isSuccess = true) :
    plain.location? = none := by
  unfold Response.location?
  split
  · rfl
  · rw [if_neg]
    simp only [Response.isSuccess, Bool.and_eq_true, decide_eq_true_eq] at success
    simp only [Response.redirectStatuses, List.contains_cons, List.contains_nil,
      Bool.or_false, Bool.or_eq_true, beq_iff_eq]
    omega

/-- Reading an answer that tells of success fails only in ways that no caller
expects. -/
theorem receive_spoiled {failure : Failure}
    (read : (request.receive year second jar response).result = .error failure)
    (plain : Response) (decoded : response.decoded? = some plain)
    (success : plain.isSuccess = true) : failure.IsForeign := by
  unfold receive at read
  rw [decoded] at read
  cases known : site? request.url request.headers with
  | error refused =>
      rw [known] at read
      cases read
      exact site?_foreign known
  | ok site =>
      simp only [known] at read
      split at read
      · cases read
        exact .notLocated
      · simp [checkRedirect, location?_of_isSuccess success, Except.map, pure,
          Except.pure] at read

theorem decoded_of_receive
    (read : (request.receive year second jar response).result = .ok plain) :
    response.decoded? = some plain := by
  unfold receive at read
  split at read
  · cases read
  · cases read
  · rename_i other site decoded known
    split at read
    · cases read
    · cases checked : checkRedirect request _ other with
      | error failure =>
          rw [checked] at read
          cases read
      | ok _ =>
          rw [checked] at read
          cases read
          exact decoded

end Request

end Http

end AdminGate
