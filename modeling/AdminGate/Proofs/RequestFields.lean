import AdminGate.Http.Redirect
import AdminGate.Proofs.HeaderFields

/-!
# What a request carries

A request that can be put together carries the method, the address and the body
that were asked for.  Cookies, the type of the body and credentials touch one
field each; about every other name the request says what it was given.
-/

namespace AdminGate.Http

/-- No name and no password stand in the address. -/
def Url.IsAnonymous (url : Url) : Prop :=
  url.credentials.1 = [] ∧ url.credentials.2 = []

namespace Request

/-- The parts from which a request has been put together. -/
structure Composed (base : Url) (jar : CookieJar) (inquiry : Inquiry)
    (request : Request) : Prop where
  method : request.method = Text.uppercased inquiry.method
  url : resolve? base inquiry.target = .ok request.url
  body : request.body = inquiry.body
  headers : ∃ merged cookied typed,
    standardHeaders.merge inquiry.headers = .ok merged ∧
      withCookies? jar request.url merged = .ok cookied ∧
      withBodyType? inquiry.body cookied = .ok typed ∧
      request.headers = withCredentials request.url typed

theorem compose?_composed {base : Url} {jar : CookieJar} {inquiry : Inquiry}
    {request : Request} (composed : compose? base jar inquiry = .ok request) :
    Composed base jar inquiry request := by
  unfold compose? at composed
  obtain ⟨url, resolved, composed⟩ := bind_eq_ok_iff.mp composed
  obtain ⟨merged, mergedOk, composed⟩ := bind_eq_ok_iff.mp composed
  obtain ⟨cookied, cookiedOk, composed⟩ := bind_eq_ok_iff.mp composed
  obtain ⟨typed, typedOk, composed⟩ := bind_eq_ok_iff.mp composed
  obtain ⟨_, _, composed⟩ := bind_eq_ok_iff.mp composed
  cases composed
  exact ⟨rfl, resolved, rfl, merged, cookied, typed,
    mapError_eq_ok_iff.mp mergedOk, cookiedOk, typedOk, rfl⟩

theorem withCookies?_eq {jar : CookieJar} {url : Url} {headers cookied : Headers}
    (done : withCookies? jar url headers = .ok cookied) :
    cookied = headers ∨
      headers.values "cookie" = [] ∧
        ∃ cookies, cookied = headers.set "Cookie" cookies := by
  unfold withCookies? at done
  split at done
  · cases done
    exact .inl rfl
  obtain ⟨site, _, done⟩ := bind_eq_ok_iff.mp done
  split at done
  · cases done
    exact .inl rfl
  rename_i cookies _
  split at done
  · cases done
    exact .inl rfl
  rename_i missing
  have none : headers.values "cookie" = [] :=
    Headers.values_eq_nil_of_not_has missing
  split at done
  · split at done
    · cases done
    · cases done
      exact .inr ⟨none, cookies, rfl⟩
  · cases done
    exact .inr ⟨none, cookies, rfl⟩

theorem withBodyType?_eq {body : Option Fields} {headers typed : Headers}
    (done : withBodyType? body headers = .ok typed) :
    typed =
      if body.isSome && !headers.has "content-type" then
        headers.set "Content-Type" "application/json"
      else headers := by
  unfold withBodyType? at done
  split at done
  · cases done
    rfl
  · split at done
    · cases done
    · split at done <;> rename_i present <;> cases done <;> simp [present]

theorem withCookies?_values {jar : CookieJar} {url : Url}
    {headers cookied : Headers} {key : String}
    (done : withCookies? jar url headers = .ok cookied)
    (settled : key = "cookie" → headers.values "cookie" ≠ []) :
    cookied.values key = headers.values key := by
  rcases withCookies?_eq done with rfl | ⟨missing, cookies, rfl⟩
  · rfl
  · apply Headers.values_set_other
    intro same
    exact settled same missing

theorem withBodyType?_values {body : Option Fields} {headers typed : Headers}
    {key : String} (done : withBodyType? body headers = .ok typed)
    (settled : key = "content-type" → headers.values "content-type" ≠ []) :
    typed.values key = headers.values key := by
  rw [withBodyType?_eq done]
  split
  · rename_i absent
    simp only [Bool.and_eq_true, Bool.not_eq_true'] at absent
    apply Headers.values_set_other
    intro same
    have present := Headers.has_iff_values_ne_nil.mpr (settled same)
    rw [absent.2] at present
    cases present
  · rfl

theorem withCredentials_values {url : Url} {headers : Headers} {key : String}
    (free : key = "authorization" → url.IsAnonymous) :
    (withCredentials url headers).values key = headers.values key := by
  simp only [withCredentials]
  split
  · rfl
  · rename_i named
    apply Headers.values_set_other
    intro same
    obtain ⟨noName, noPassword⟩ := free same
    exact named (by simp [noName, noPassword])

/-- The standard fields that stay beside those that are given. -/
def standardBeside (given : Headers) : Headers :=
  if given.values "accept" = [] then standardHeaders else []

theorem merge_standard_eq {given merged : Headers}
    (done : standardHeaders.merge given = .ok merged) :
    merged = standardBeside given ++ given := by
  have replaced : (given.map fun other => Text.lowercased other.key).contains
      "accept" = given.has "accept" := by
    rw [Bool.eq_iff_iff]
    have plain : ("accept".toList.all fun character =>
        !Text.isForeignTrace character && character.toLower == character) =
          true := by
      decide
    simp [Headers.has, Headers.lowercased_key_eq_iff plain]
  have acceptKey : Text.basicLowercased "Accept" = "accept" := by decide
  rw [Headers.merge_eq done]
  congr 1
  simp only [standardBeside, standardHeaders, List.filter_cons, List.filter_nil,
    Headers.key_mk, acceptKey, replaced]
  cases present : given.has "accept" with
  | true =>
      rw [if_neg (Headers.has_iff_values_ne_nil.mp present)]
      rfl
  | false =>
      rw [if_pos (Headers.values_eq_nil_of_not_has (by simp [present]))]
      rfl

theorem merge_standard_values {given merged : Headers} {key : String}
    (done : standardHeaders.merge given = .ok merged) :
    merged.values key =
      (if key = "accept" ∧ given.values "accept" = [] then ["application/json"]
        else []) ++ given.values key := by
  have acceptKey : Text.basicLowercased "Accept" = "accept" := by decide
  rw [merge_standard_eq done, Headers.values_append]
  congr 1
  by_cases missing : given.values "accept" = []
  · by_cases same : key = "accept"
    · simp [standardBeside, standardHeaders, acceptKey, missing, same,
        Headers.values_cons]
    · simp [standardBeside, standardHeaders, acceptKey, missing, same,
        Ne.symm same, Headers.values_cons]
  · simp [standardBeside, missing]

/-- What the caller says under a name is what the request says under it, unless
the credentials of the address take its place. -/
theorem Composed.values_of_given {base : Url} {jar : CookieJar}
    {inquiry : Inquiry} {request : Request} {key : String}
    (composed : Composed base jar inquiry request)
    (given : inquiry.headers.values key ≠ [])
    (free : key = "authorization" → request.url.IsAnonymous) :
    request.headers.values key = inquiry.headers.values key := by
  obtain ⟨merged, cookied, typed, mergedOk, cookiedOk, typedOk, headersEq⟩ :=
    composed.headers
  have mergedValues : merged.values key = inquiry.headers.values key := by
    rw [merge_standard_values mergedOk, if_neg]
    · rfl
    · rintro ⟨rfl, missing⟩
      exact given missing
  have cookiedValues : cookied.values key = merged.values key := by
    apply withCookies?_values cookiedOk
    rintro rfl
    rwa [mergedValues]
  have typedValues : typed.values key = cookied.values key := by
    apply withBodyType?_values typedOk
    rintro rfl
    rwa [cookiedValues, mergedValues]
  rw [headersEq, withCredentials_values free, typedValues, cookiedValues,
    mergedValues]

/-- The fields that a request has beside those that are given: cookies and the
type of a body, neither of them where it is given. -/
structure Added (given : Headers) (body : Option Fields) (added : Headers) :
    Prop where
  names : (added.map Header.name).Sublist ["Cookie", "Content-Type"]
  missing : ∀ header ∈ added, given.values header.key = []
  type : ∀ header ∈ added, header.name = "Content-Type" →
    body ≠ none ∧ header.value = "application/json"

theorem Added.of_parts {given cookies types : Headers} {body : Option Fields}
    (cookiesAdded : cookies = [] ∨ given.values "cookie" = [] ∧
      ∃ value, cookies = [⟨"Cookie", value⟩])
    (typesAdded : types = [] ∨ given.values "content-type" = [] ∧ body ≠ none ∧
      types = [⟨"Content-Type", "application/json"⟩]) :
    Added given body (cookies ++ types) := by
  have cookieKey : Text.basicLowercased "Cookie" = "cookie" := by decide
  have typeKey : Text.basicLowercased "Content-Type" = "content-type" := by
    decide
  constructor
  · rcases cookiesAdded with rfl | ⟨_, value, rfl⟩ <;>
      rcases typesAdded with rfl | ⟨_, _, rfl⟩ <;> simp
  · intro header member
    rcases List.mem_append.mp member with cookie | type
    · rcases cookiesAdded with rfl | ⟨missing, value, rfl⟩
      · cases cookie
      · cases List.mem_singleton.mp cookie
        rwa [Headers.key_mk, cookieKey]
    · rcases typesAdded with rfl | ⟨missing, _, rfl⟩
      · cases type
      · cases List.mem_singleton.mp type
        rwa [Headers.key_mk, typeKey]
  · intro header member named
    rcases List.mem_append.mp member with cookie | type
    · rcases cookiesAdded with rfl | ⟨_, value, rfl⟩
      · cases cookie
      · cases List.mem_singleton.mp cookie
        simp at named
    · rcases typesAdded with rfl | ⟨_, hasBody, rfl⟩
      · cases type
      · cases List.mem_singleton.mp type
        exact ⟨hasBody, rfl⟩

theorem Added.of_none {given added : Headers} (isAdded : Added given none added) :
    added = [] ∨ ∃ value, added = [⟨"Cookie", value⟩] := by
  have untyped : ∀ header ∈ added, header.name ≠ "Content-Type" :=
    fun header member named => (isAdded.type header member named).1 rfl
  match added, isAdded.names with
  | [], _ => exact .inl rfl
  | [⟨name, value⟩], names =>
      have known : name = "Cookie" ∨ name = "Content-Type" := by
        simpa using names.subset (List.mem_singleton_self name)
      have other : name ≠ "Content-Type" := untyped _ (List.mem_singleton_self _)
      rw [known.resolve_right other]
      exact .inr ⟨value, rfl⟩
  | first :: second :: rest, names =>
      have whole := names.eq_of_length_le (by simp)
      have typed : second.name = "Content-Type" := by
        simp at whole
        exact whole.2.1
      exact absurd typed (untyped second (by simp))

theorem withCookies?_added {jar : CookieJar} {url : Url}
    {given cookied : Headers}
    (done : withCookies? jar url given = .ok cookied) :
    ∃ added, cookied = given ++ added ∧
      (added = [] ∨ given.values "cookie" = [] ∧
        ∃ cookies, added = [⟨"Cookie", cookies⟩]) := by
  have name : Text.basicLowercased "Cookie" = "cookie" := by decide
  rcases withCookies?_eq done with rfl | ⟨missing, cookies, rfl⟩
  · exact ⟨[], (List.append_nil _).symm, .inl rfl⟩
  · rw [← name] at missing
    exact ⟨_, Headers.set_of_missing missing cookies, .inr ⟨missing, cookies,
      rfl⟩⟩

theorem withBodyType?_added {body : Option Fields} {given typed : Headers}
    (done : withBodyType? body given = .ok typed) :
    ∃ added, typed = given ++ added ∧
      (added = [] ∨ given.values "content-type" = [] ∧ body ≠ none ∧
        added = [⟨"Content-Type", "application/json"⟩]) := by
  have name : Text.basicLowercased "Content-Type" = "content-type" := by decide
  rw [withBodyType?_eq done]
  split
  · rename_i absent
    simp only [Bool.and_eq_true, Bool.not_eq_true'] at absent
    have missing : given.values "content-type" = [] :=
      Headers.values_eq_nil_of_not_has (by simp [absent.2])
    refine ⟨_, Headers.set_of_missing (name ▸ missing) _, .inr ⟨missing, ?_,
      rfl⟩⟩
    exact Option.isSome_iff_ne_none.mp absent.1
  · exact ⟨[], (List.append_nil _).symm, .inl rfl⟩

/-- A request for an anonymous address has the standard fields, those that are
given, and those that are added, in this order. -/
theorem Composed.headers_eq {base : Url} {jar : CookieJar} {inquiry : Inquiry}
    {request : Request} (composed : Composed base jar inquiry request)
    (anonymous : request.url.IsAnonymous) :
    ∃ added, Added inquiry.headers inquiry.body added ∧
      request.headers =
        standardBeside inquiry.headers ++ inquiry.headers ++ added := by
  obtain ⟨merged, cookied, typed, mergedOk, cookiedOk, typedOk, headersEq⟩ :=
    composed.headers
  obtain ⟨noName, noPassword⟩ := anonymous
  have plain : request.headers = typed := by
    rw [headersEq]
    simp [withCredentials, noName, noPassword]
  have kept : ∀ {key}, merged.values key = [] →
      inquiry.headers.values key = [] := by
    intro key missing
    rw [merge_standard_eq mergedOk, Headers.values_append] at missing
    exact (List.append_eq_nil_iff.mp missing).2
  obtain ⟨cookies, rfl, cookiesAdded⟩ := withCookies?_added cookiedOk
  obtain ⟨types, rfl, typesAdded⟩ := withBodyType?_added typedOk
  refine ⟨cookies ++ types, ?_, ?_⟩
  · apply Added.of_parts
    · rcases cookiesAdded with none | ⟨missing, added⟩
      · exact .inl none
      · exact .inr ⟨kept missing, added⟩
    · rcases typesAdded with none | ⟨missing, added⟩
      · exact .inl none
      · rw [Headers.values_append] at missing
        exact .inr ⟨kept (List.append_eq_nil_iff.mp missing).1, added⟩
  · rw [plain, merge_standard_eq mergedOk]
    simp

/-- The fields that are written into a request when nobody gives them; the last
five of them only as it goes out. -/
def ownNames : List String :=
  ["accept", "cookie", "content-type", "host", "user-agent", "accept-encoding",
    "connection", "content-length"]

/-- What a request says under a name is not up to those who send it: the field is
that of the credentials of its address, or one that is written because it has not
been given. -/
def Fills (request : Request) (given : Headers) (key : String) : Prop :=
  (key = "authorization" ∧ ¬request.url.IsAnonymous) ∨
    (given.values key = [] ∧ key ∈ ownNames)

/-- About every name that is up to the sender, a request says what it was given,
be it nothing. -/
theorem Composed.values_eq {base : Url} {jar : CookieJar} {inquiry : Inquiry}
    {request : Request} {key : String}
    (composed : Composed base jar inquiry request)
    (free : ¬request.Fills inquiry.headers key) :
    request.headers.values key = inquiry.headers.values key := by
  have anonymous : key = "authorization" → request.url.IsAnonymous := by
    intro named
    apply Classical.byContradiction
    intro known
    exact free (.inl ⟨named, known⟩)
  by_cases given : inquiry.headers.values key = []
  · have other : ∀ name ∈ ownNames, key ≠ name := by
      rintro name member rfl
      exact free (.inr ⟨given, member⟩)
    obtain ⟨merged, cookied, typed, mergedOk, cookiedOk, typedOk, headersEq⟩ :=
      composed.headers
    have notAccept : key ≠ "accept" := other _ (by decide)
    have notCookie : key ≠ "cookie" := other _ (by decide)
    have notType : key ≠ "content-type" := other _ (by decide)
    rw [headersEq, withCredentials_values anonymous,
      withBodyType?_values typedOk (absurd · notType),
      withCookies?_values cookiedOk (absurd · notCookie),
      merge_standard_values mergedOk, if_neg (fun named => notAccept named.1),
      List.nil_append]
  · exact composed.values_of_given given anonymous

/-- Two lists of fields say the same about every name but one and the cookies. -/
def AgreeBeside (exempt : String) (first second : Headers) : Prop :=
  ∀ key, key ≠ exempt → key ≠ "cookie" → first.values key = second.values key

theorem AgreeBeside.merge {exempt : String}
    {first second firstMerged secondMerged : Headers}
    (agree : AgreeBeside exempt first second)
    (firstDone : standardHeaders.merge first = .ok firstMerged)
    (secondDone : standardHeaders.merge second = .ok secondMerged) :
    AgreeBeside exempt firstMerged secondMerged := by
  intro key notExempt notCookie
  have same := agree key notExempt notCookie
  rw [merge_standard_values firstDone, merge_standard_values secondDone, same]
  congr 1
  by_cases accept : key = "accept"
  · rw [← accept, same]
  · simp [accept]

theorem AgreeBeside.withCookies {exempt : String} {firstJar secondJar : CookieJar}
    {url : Url} {first second firstCookied secondCookied : Headers}
    (agree : AgreeBeside exempt first second)
    (firstDone : withCookies? firstJar url first = .ok firstCookied)
    (secondDone : withCookies? secondJar url second = .ok secondCookied) :
    AgreeBeside exempt firstCookied secondCookied := by
  intro key notExempt notCookie
  have untouched : ∀ {headers : Headers}, key = "cookie" →
      headers.values "cookie" ≠ [] := fun same => absurd same notCookie
  rw [withCookies?_values firstDone untouched,
    withCookies?_values secondDone untouched, agree key notExempt notCookie]

theorem AgreeBeside.withBodyType {exempt : String} {body : Option Fields}
    {first second firstTyped secondTyped : Headers}
    (agree : AgreeBeside exempt first second)
    (firstDone : withBodyType? body first = .ok firstTyped)
    (secondDone : withBodyType? body second = .ok secondTyped) :
    AgreeBeside exempt firstTyped secondTyped := by
  intro key notExempt notCookie
  have same := agree key notExempt notCookie
  by_cases typeKey : key = "content-type"
  · subst typeKey
    rw [withBodyType?_eq firstDone, withBodyType?_eq secondDone,
      Headers.has_congr same]
    have typeName : Text.basicLowercased "Content-Type" = "content-type" := by
      decide
    split
    · rw [← typeName, Headers.values_set_same, Headers.values_set_same]
    · exact same
  · rw [withBodyType?_values firstDone (absurd · typeKey),
      withBodyType?_values secondDone (absurd · typeKey), same]

theorem AgreeBeside.withCredentials {exempt : String} (url : Url)
    {first second : Headers} (agree : AgreeBeside exempt first second) :
    AgreeBeside exempt (withCredentials url first)
      (withCredentials url second) := by
  intro key notExempt notCookie
  have same := agree key notExempt notCookie
  simp only [Request.withCredentials]
  split
  · exact same
  · have name : Text.basicLowercased "Authorization" = "authorization" := by
      decide
    by_cases credentialKey : key = "authorization"
    · rw [credentialKey, ← name, Headers.values_set_same,
        Headers.values_set_same]
    · rw [← name] at credentialKey
      rw [Headers.values_set_other credentialKey,
        Headers.values_set_other credentialKey, same]

/-- Requests for one address and one body say the same about every name about
which their callers do, whatever the cookies are. -/
theorem Composed.agreeBeside {base : Url} {firstJar secondJar : CookieJar}
    {firstInquiry secondInquiry : Inquiry} {first second : Request}
    {exempt : String}
    (firstComposed : Composed base firstJar firstInquiry first)
    (secondComposed : Composed base secondJar secondInquiry second)
    (target : firstInquiry.target = secondInquiry.target)
    (body : firstInquiry.body = secondInquiry.body)
    (agree : AgreeBeside exempt firstInquiry.headers secondInquiry.headers) :
    first.url = second.url ∧ first.body = second.body ∧
      AgreeBeside exempt first.headers second.headers := by
  obtain ⟨_, _, _, firstMerge, firstCookies, firstType, firstHeaders⟩ :=
    firstComposed.headers
  obtain ⟨_, _, _, secondMerge, secondCookies, secondType, secondHeaders⟩ :=
    secondComposed.headers
  have url : first.url = second.url := by
    have same := firstComposed.url
    rw [target, secondComposed.url] at same
    exact (Except.ok.inj same).symm
  refine ⟨url, ?_, ?_⟩
  · rw [firstComposed.body, secondComposed.body, body]
  · rw [firstHeaders, secondHeaders, url]
    rw [url] at firstCookies
    rw [body] at firstType
    have merged := agree.merge firstMerge secondMerge
    have cookied := merged.withCookies firstCookies secondCookies
    have typed := cookied.withBodyType firstType secondType
    exact typed.withCredentials second.url

end Request

end AdminGate.Http
