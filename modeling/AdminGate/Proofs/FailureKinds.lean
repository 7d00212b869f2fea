import AdminGate.Client.Call

/-!
# Kinds of failures

A failure tells that something took too long, that the network or the address was
of no use, or something else.  The three kinds are given failure by failure, apart
from the classes that handlers name.  A call handles failures at two places, while
it asks for a token and while it waits for its answer; what becomes of a failure at
each of them depends on its kind alone.
-/

namespace AdminGate

namespace Http

/-- The transport, or a clock, has waited too long. -/
inductive TransportFailure.IsTimeout : TransportFailure → Prop where
  | connect : IsTimeout .connectTimeout
  | read : IsTimeout .readTimeout
  | write : IsTimeout .writeTimeout
  | pool : IsTimeout .poolTimeout
  | clock : IsTimeout .clock

/-- The transport could not carry out the exchange. -/
inductive TransportFailure.IsNetwork : TransportFailure → Prop where
  | connect : IsNetwork .connect
  | read : IsNetwork .read
  | write : IsNetwork .write
  | close : IsNetwork .close
  | remoteProtocol : IsNetwork .remoteProtocol
  | localProtocol : IsNetwork .localProtocol
  | proxy : IsNetwork .proxy
  | unsupportedProtocol : IsNetwork .unsupportedProtocol
  | decoding : IsNetwork .decoding
  | tooManyRedirects : IsNetwork .tooManyRedirects
  | invalidUrl : IsNetwork .invalidUrl

/-- The transport fails in a way that says nothing about the exchange. -/
inductive TransportFailure.IsForeign : TransportFailure → Prop where
  | cookieConflict : IsForeign .cookieConflict
  | runtime : IsForeign .runtime
  | value : IsForeign .value
  | system : IsForeign .system

namespace Failure

inductive IsTimeout : Failure → Prop where
  | transport {cause : TransportFailure} (late : cause.IsTimeout) :
      IsTimeout (.transport cause)

inductive IsNetwork : Failure → Prop where
  | transport {cause : TransportFailure} (network : cause.IsNetwork) :
      IsNetwork (.transport cause)
  | address (cause : UrlError) : IsNetwork (.address cause)
  | redirect : IsNetwork .redirect
  | undecodable : IsNetwork .undecodable

/-- The request could not be put together, or its answer could not be read, in a way
that no caller expects. -/
inductive IsForeign : Failure → Prop where
  | transport {cause : TransportFailure} (foreign : cause.IsForeign) :
      IsForeign (.transport cause)
  | notAscii (run : Text.NonAscii) : IsForeign (.notAscii run)
  | unknownScheme (url : List Char) : IsForeign (.unknownScheme url)
  | unsplittable (cause : SplitError) : IsForeign (.unsplittable cause)
  | hostName (cause : HostNameFault) : IsForeign (.hostName cause)
  | notLocated : IsForeign .notLocated
  | notFinite : IsForeign .notFinite
  | tooDeep (nesting : Json.Nesting) : IsForeign (.tooDeep nesting)

variable {failure : Failure}

theorem kind_cases (failure : Failure) :
    failure.IsTimeout ∨ failure.IsNetwork ∨ failure.IsForeign := by
  cases failure with
  | transport cause =>
      cases cause with
      | connectTimeout => exact .inl (.transport .connect)
      | readTimeout => exact .inl (.transport .read)
      | writeTimeout => exact .inl (.transport .write)
      | poolTimeout => exact .inl (.transport .pool)
      | clock => exact .inl (.transport .clock)
      | connect => exact .inr (.inl (.transport .connect))
      | read => exact .inr (.inl (.transport .read))
      | write => exact .inr (.inl (.transport .write))
      | close => exact .inr (.inl (.transport .close))
      | remoteProtocol => exact .inr (.inl (.transport .remoteProtocol))
      | localProtocol => exact .inr (.inl (.transport .localProtocol))
      | proxy => exact .inr (.inl (.transport .proxy))
      | unsupportedProtocol =>
          exact .inr (.inl (.transport .unsupportedProtocol))
      | decoding => exact .inr (.inl (.transport .decoding))
      | tooManyRedirects => exact .inr (.inl (.transport .tooManyRedirects))
      | invalidUrl => exact .inr (.inl (.transport .invalidUrl))
      | cookieConflict => exact .inr (.inr (.transport .cookieConflict))
      | runtime => exact .inr (.inr (.transport .runtime))
      | value => exact .inr (.inr (.transport .value))
      | system => exact .inr (.inr (.transport .system))
  | address cause => exact .inr (.inl (.address cause))
  | redirect => exact .inr (.inl .redirect)
  | undecodable => exact .inr (.inl .undecodable)
  | notAscii run => exact .inr (.inr (.notAscii run))
  | unknownScheme url => exact .inr (.inr (.unknownScheme url))
  | unsplittable cause => exact .inr (.inr (.unsplittable cause))
  | hostName cause => exact .inr (.inr (.hostName cause))
  | notLocated => exact .inr (.inr .notLocated)
  | notFinite => exact .inr (.inr .notFinite)
  | tooDeep nesting => exact .inr (.inr (.tooDeep nesting))

theorem IsTimeout.not_isNetwork (late : failure.IsTimeout) :
    ¬failure.IsNetwork := by
  intro network
  cases late with
  | transport late =>
      cases network with
      | transport network => cases late <;> cases network

theorem IsTimeout.not_isForeign (late : failure.IsTimeout) :
    ¬failure.IsForeign := by
  intro foreign
  cases late with
  | transport late =>
      cases foreign with
      | transport foreign => cases late <;> cases foreign

theorem IsNetwork.not_isForeign (network : failure.IsNetwork) :
    ¬failure.IsForeign := by
  intro foreign
  cases network with
  | transport network =>
      cases foreign with
      | transport foreign => cases network <;> cases foreign
  | address | redirect | undecodable => cases foreign

/-! ## Classes -/

/-- A timeout is of a class that is handled as one, whether or not it is also of
class `exchange`. -/
theorem IsTimeout.isAny (late : failure.IsTimeout) :
    failure.isAny [.clock, .transportTimeout] = true := by
  obtain ⟨late⟩ := late
  cases late <;> rfl

theorem IsNetwork.isAny (network : failure.IsNetwork) :
    failure.isAny [.exchange, .address] = true ∧
      failure.isAny [.transportTimeout] = false ∧
      failure.isAny [.clock, .transportTimeout] = false := by
  cases network with
  | transport network => cases network <;> exact ⟨rfl, rfl, rfl⟩
  | address | redirect | undecodable => exact ⟨rfl, rfl, rfl⟩

theorem IsForeign.isAny (foreign : failure.IsForeign) (named : List ErrorClass) :
    failure.isAny named = false := by
  have unclassed : failure.classes = [] := by
    cases foreign with
    | transport foreign => cases foreign <;> rfl
    | _ => rfl
  simp [Failure.isAny, unclassed]

end Failure

end Http

/-! ## The two places -/

namespace Call

variable {call : Call} {settings : Settings} {jar : Http.CookieJar}
  {cell : TokenCell} {attempt : Attempt} {headers : Http.Headers}
  {failure : Http.Failure}

/-- A timeout of the transport is raised again and then handled; that of a clock is
not even noticed before. -/
theorem missToken_of_isTimeout (late : failure.IsTimeout) :
    missToken failure = .error failure := by
  obtain ⟨late⟩ := late
  cases late <;> rfl

theorem missToken_of_isNetwork (network : failure.IsNetwork) :
    missToken failure = .ok () := by
  obtain ⟨lost, untimely, -⟩ := network.isAny
  simp [missToken, lost, untimely]

theorem missToken_of_isForeign (foreign : failure.IsForeign) :
    missToken failure = .error failure := by
  simp [missToken, foreign.isAny]

theorem afterToken_of_isTimeout (late : failure.IsTimeout) :
    call.afterToken settings cell attempt (.failed failure) =
      call.tokenTooLate settings cell := by
  simp [afterToken, missToken_of_isTimeout late, late.isAny]

theorem afterToken_of_isNetwork (network : failure.IsNetwork) :
    call.afterToken settings cell attempt (.failed failure) =
      call.withoutToken settings cell attempt
        (.tokenFetchFailed settings.tokenEndpoint) := by
  simp [afterToken, missToken_of_isNetwork network]

theorem afterToken_of_isForeign (foreign : failure.IsForeign) :
    call.afterToken settings cell attempt (.failed failure) =
      ⟨cell, [], .done (.error failure)⟩ := by
  simp [afterToken, missToken_of_isForeign foreign, foreign.isAny]

theorem afterAnswer_of_isTimeout (late : failure.IsTimeout) :
    call.afterAnswer settings jar cell attempt headers (.failed failure) =
      call.answerTooLate settings cell := by
  simp [afterAnswer, late.isAny]

theorem afterAnswer_of_isNetwork (network : failure.IsNetwork) :
    call.afterAnswer settings jar cell attempt headers (.failed failure) =
      ⟨cell, [Event.requestFailed.inCall call.context],
        giveUp settings .networkFailed .network⟩ := by
  obtain ⟨lost, -, untimely⟩ := network.isAny
  simp [afterAnswer, lost, untimely]

theorem afterAnswer_of_isForeign (foreign : failure.IsForeign) :
    call.afterAnswer settings jar cell attempt headers (.failed failure) =
      ⟨cell, [], .done (.error failure)⟩ := by
  simp [afterAnswer, foreign.isAny]

end Call

end AdminGate
