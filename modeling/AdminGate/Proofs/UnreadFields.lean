import AdminGate.Proofs.RequestFields

/-!
# Fields that nobody reads

Some fields are only handed on: nothing looks at the values under their name but
for whether they are ASCII.  Masking such a name commutes with everything that is
done to a request, so requests that are put together from fields that differ
there alone differ there alone, and their answers are taken alike.
-/

namespace AdminGate.Http

/-- The field, without its value when it has this name. -/
def Header.masked (key : String) (header : Header) : Header :=
  if header.key = key then ⟨header.name, ""⟩ else header

namespace Headers

/-- The fields, without the values under a name. -/
def masked (key : String) (headers : Headers) : Headers :=
  headers.map (Header.masked key)

variable {key : String} {headers : Headers}

@[simp] theorem masked_name (header : Header) :
    (header.masked key).name = header.name := by
  unfold Header.masked
  split <;> rfl

@[simp] theorem masked_key (header : Header) :
    (header.masked key).key = header.key := by
  simp [Header.key]

theorem masked_of_key_ne {header : Header} (other : header.key ≠ key) :
    header.masked key = header := by
  simp [Header.masked, other]

theorem masked_eq_self (other : ∀ header ∈ headers, header.key ≠ key) :
    headers.masked key = headers :=
  (List.map_congr_left fun header member =>
    masked_of_key_ne (other header member)).trans (List.map_id' headers)

@[simp] theorem masked_nil : masked key [] = [] :=
  rfl

@[simp] theorem masked_cons (header : Header) (rest : Headers) :
    masked key (header :: rest) = header.masked key :: rest.masked key :=
  rfl

@[simp] theorem has_masked (name : String) :
    (headers.masked key).has name = headers.has name := by
  simp [has, masked, List.any_map, Function.comp_def]

theorem values_masked {name : String} (other : name ≠ key) :
    (headers.masked key).values name = headers.values name := by
  induction headers with
  | nil => rfl
  | cons header rest ih =>
      rw [masked_cons, values_cons, values_cons, masked_key, ih]
      by_cases named : header.key = name
      · rw [masked_of_key_ne fun masks => other (named.symm.trans masks)]
      · simp [named]

/-- Masking keeps the places of the fields that a test on names selects. -/
theorem filter_masked (key : String) (headers : Headers)
    (select : String → Bool) :
    (headers.masked key).filter (fun header => select header.key) =
      masked key (headers.filter fun header => select header.key) := by
  simp [masked, List.filter_map, Function.comp_def]

theorem filter_masked_ne :
    ((headers.masked key).filter fun header => header.key != key) =
      headers.filter fun header => header.key != key := by
  rw [filter_masked key headers (· != key)]
  apply masked_eq_self
  intro header member
  simpa using (List.mem_filter.mp member).2

theorem masked_set_other {name value : String}
    (other : Text.basicLowercased name ≠ key) :
    (headers.set name value).masked key =
      (headers.masked key).set name value := by
  have kept : Header.masked key ⟨name, value⟩ = ⟨name, value⟩ :=
    masked_of_key_ne other
  induction headers with
  | nil => simp [set, kept]
  | cons header rest ih =>
      simp only [set, masked_cons, masked_key]
      split
      · rw [masked_cons, kept, filter_masked _ _ (· != Text.basicLowercased name)]
      · rw [masked_cons, ih]

theorem masked_set_same (name first second : String) :
    (headers.set name first).masked (Text.basicLowercased name) =
      (headers.set name second).masked (Text.basicLowercased name) := by
  induction headers with
  | nil => simp [set, Header.masked]
  | cons header rest ih =>
      simp only [set]
      split
      · simp [Header.masked]
      · simp [ih]

theorem isAscii_masked
    (ascii : ∀ value ∈ headers.values key, IsAsciiName value) :
    isAscii (headers.masked key) = headers.isAscii := by
  induction headers with
  | nil => rfl
  | cons header rest ih =>
      rw [values_cons] at ascii
      have tail : isAscii (masked key rest) = isAscii rest := by
        apply ih
        intro value member
        apply ascii
        split
        · exact List.mem_cons_of_mem _ member
        · exact member
      have value : (header.masked key).value.toList.all Text.isAscii =
          header.value.toList.all Text.isAscii := by
        unfold Header.masked
        split
        · rename_i named
          rw [if_pos named] at ascii
          refine (List.all_eq_true.mpr ?_).symm
          intro character member
          simpa [Text.isAscii] using
            ascii header.value List.mem_cons_self character member
        · rfl
      simp only [isAscii, masked_cons, List.all_cons] at tail ⊢
      rw [tail, masked_name, value]

theorem merge_masked {defaults : Headers}
    (other : ∀ header ∈ defaults, header.key ≠ key) :
    defaults.merge (headers.masked key) =
      (defaults.merge headers).map (masked key) := by
  have plain : ∀ select : String → Bool,
      masked key (defaults.filter fun header => select header.key) =
        defaults.filter fun header => select header.key := by
    intro select
    apply masked_eq_self
    intro header member
    exact other header (List.mem_filter.mp member).1
  unfold merge
  rw [masked, List.mapM_map]
  simp only [Function.comp_def, masked_key]
  cases read : headers.mapM fun header => do
      let key := Text.lowercased header.key
      Text.checkAscii key.toList
      return key with
  | error run => rfl
  | ok keys =>
      simp only [bind, Except.bind, pure, Except.pure, Except.map]
      congr 1
      rw [masked, List.map_append]
      congr 1
      exact (plain fun name => !keys.contains name).symm

end Headers

namespace Request

/-- Nothing that is done to a request looks at the values under this name. -/
def IsUnread (key : String) : Prop :=
  key ∉ "authorization" :: ownNames

instance (key : String) : Decidable (IsUnread key) :=
  inferInstanceAs (Decidable (¬_))

/-- The request, without the values under a name. -/
def masked (key : String) (request : Request) : Request :=
  { request with headers := request.headers.masked key }

variable {key : String} {url base : Url} {headers : Headers} {jar : CookieJar}

theorem IsUnread.ne {name : String} (unread : IsUnread key)
    (looked : name ∈ "authorization" :: ownNames) : name ≠ key := by
  rintro rfl
  exact unread looked

theorem site?_masked (unread : IsUnread key) :
    site? url (headers.masked key) = site? url headers := by
  unfold site?
  rw [Headers.values_masked (unread.ne (by decide))]

theorem withCookies?_masked (unread : IsUnread key)
    (ascii : ∀ value ∈ headers.values key, Headers.IsAsciiName value) :
    withCookies? jar url (headers.masked key) =
      (withCookies? jar url headers).map (Headers.masked key) := by
  have set : ∀ cookies, Headers.set (headers.masked key) "Cookie" cookies =
      (headers.set "Cookie" cookies).masked key := fun cookies =>
    (Headers.masked_set_other (unread.ne (by decide))).symm
  unfold withCookies?
  rw [site?_masked unread, Headers.isAscii_masked ascii]
  simp only [Headers.has_masked, set]
  split
  · rfl
  · cases site? url headers with
    | error failure => rfl
    | ok site =>
        simp only [bind, Except.bind]
        split
        · rfl
        · split
          · rfl
          · split
            · split <;> rfl
            · rfl

theorem withBodyType?_masked (unread : IsUnread key) (body : Option Fields) :
    withBodyType? body (headers.masked key) =
      (withBodyType? body headers).map (Headers.masked key) := by
  have set : Headers.set (headers.masked key) "Content-Type" "application/json" =
      (headers.set "Content-Type" "application/json").masked key :=
    (Headers.masked_set_other (unread.ne (by decide))).symm
  unfold withBodyType?
  simp only [Headers.has_masked, set]
  cases body with
  | none => rfl
  | some fields =>
      dsimp only
      split
      · rfl
      · split <;> rfl

theorem checkHost_masked :
    checkHost url (headers.masked key) = checkHost url headers := by
  unfold checkHost
  rw [Headers.has_masked]

theorem withCredentials_masked (unread : IsUnread key) :
    withCredentials url (headers.masked key) =
      (withCredentials url headers).masked key := by
  simp only [withCredentials]
  split
  · rfl
  · rw [Headers.masked_set_other (unread.ne (by decide))]

/-- A request that is put together from masked fields is the request, masked. -/
theorem compose?_masked {inquiry : Inquiry} (unread : IsUnread key)
    (ascii : ∀ value ∈ inquiry.headers.values key, Headers.IsAsciiName value) :
    compose? base jar { inquiry with headers := inquiry.headers.masked key } =
      (compose? base jar inquiry).map (masked key) := by
  have standard : ∀ header ∈ standardHeaders, header.key ≠ key := by
    intro header member
    cases List.mem_singleton.mp member
    exact unread.ne (by decide)
  unfold compose?
  simp only [Headers.merge_masked standard]
  cases resolve? base inquiry.target with
  | error failure => rfl
  | ok url =>
      cases merge : standardHeaders.merge inquiry.headers with
      | error run => rfl
      | ok merged =>
          have mergedAscii : ∀ value ∈ merged.values key,
              Headers.IsAsciiName value := by
            rw [merge_standard_values merge, if_neg, List.nil_append]
            · exact ascii
            · rintro ⟨rfl, _⟩
              exact unread (by decide)
          simp only [Except.map, mapError_ok, bind, Except.bind,
            withCookies?_masked unread mergedAscii]
          cases withCookies? jar url merged with
          | error failure => rfl
          | ok cookied =>
              simp only [Except.map, withBodyType?_masked unread]
              cases withBodyType? inquiry.body cookied with
              | error failure => rfl
              | ok typed =>
                  simp only [checkHost_masked, withCredentials_masked unread]
                  cases checkHost url typed <;> rfl

variable {request : Request}

theorem headersFor?_masked (unread : IsUnread key) :
    (request.masked key).headersFor? url =
      (request.headersFor? url).map (Headers.masked key) := by
  have filtered := Headers.filter_masked key request.headers (· != "cookie")
  have set : ∀ host, Headers.set (Headers.masked key (request.headers.filter
        fun header => header.key != "cookie")) "Host" host =
      (Headers.set (request.headers.filter
        fun header => header.key != "cookie") "Host" host).masked key :=
    fun host => (Headers.masked_set_other (unread.ne (by decide))).symm
  unfold headersFor?
  simp only [masked, filtered, set]
  cases url.isSameOrigin? request.url with
  | error failure => rfl
  | ok same =>
      cases same with
      | true => rfl
      | false =>
          cases request.url.hostText? with
          | error failure => rfl
          | ok _ =>
              cases url.hostText? with
              | error failure => rfl
              | ok _ => cases Text.checkAscii url.netloc <;> rfl

/-- The request that would be sent to another place says the same under every name
that is handed on. -/
theorem headersFor?_values {elsewhere : Headers} (unread : IsUnread key)
    (named : request.headersFor? url = .ok elsewhere) :
    elsewhere.values key = request.headers.values key := by
  have filtered : Headers.values (request.headers.filter
      fun header => header.key != "cookie") key = request.headers.values key :=
    Headers.values_filter_ne (unread.ne (by decide)).symm
  unfold headersFor? at named
  obtain ⟨same, _, named⟩ := bind_eq_ok_iff.mp named
  cases same with
  | true =>
      cases named
      exact filtered
  | false =>
      obtain ⟨_, _, named⟩ := bind_eq_ok_iff.mp named
      obtain ⟨_, _, named⟩ := bind_eq_ok_iff.mp named
      obtain ⟨_, _, named⟩ := bind_eq_ok_iff.mp named
      cases named
      rw [← filtered]
      exact Headers.values_set_other (unread.ne (by decide)).symm

theorem checkRedirect_masked {response : Response} (unread : IsUnread key)
    (ascii : ∀ value ∈ request.headers.values key, Headers.IsAsciiName value) :
    (request.masked key).checkRedirect jar response =
      request.checkRedirect jar response := by
  unfold checkRedirect
  simp only [headersFor?_masked unread]
  cases response.location? with
  | none => rfl
  | some location =>
      have follow : (request.masked key).follow? location =
          request.follow? location := rfl
      simp only [follow]
      cases request.follow? location with
      | error failure => rfl
      | ok url =>
          cases named : request.headersFor? url with
          | error failure =>
              simp only [bind, Except.bind, named]
              rfl
          | ok elsewhere =>
              have values := headersFor?_values unread named
              have kept : withCookies? jar url (elsewhere.masked key) =
                  (withCookies? jar url elsewhere).map (Headers.masked key) :=
                withCookies?_masked unread (by rwa [values])
              simp only [bind, Except.bind, named, Except.map, kept]
              cases withCookies? jar url elsewhere <;> rfl

theorem receive_masked {year : Nat} {second : Int} {response : Response}
    (unread : IsUnread key)
    (ascii : ∀ value ∈ request.headers.values key, Headers.IsAsciiName value) :
    (request.masked key).receive year second jar response =
      request.receive year second jar response := by
  have site : site? (request.masked key).url (request.masked key).headers =
      site? request.url request.headers := site?_masked unread
  unfold receive
  simp only [site, checkRedirect_masked unread ascii]

end Request

end AdminGate.Http
