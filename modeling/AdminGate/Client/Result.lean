import AdminGate.Json.Value

/-!
# Results

What a call returns: success or an error text with its kind, the fields of the answer that
are not part of the envelope, and the status.
-/

namespace AdminGate

/-- The kinds of failure that a call reports. -/
inductive FailureKind where
  | network
  | timeout
  | tokenRejected
  | server
deriving DecidableEq, Repr

namespace FailureKind

def all : List FailureKind := [network, timeout, tokenRejected, server]

def name : FailureKind → String
  | network => "network"
  | timeout => "timeout"
  | tokenRejected => "token_rejected"
  | server => "server"

def ofName? (name : String) : Option FailureKind :=
  all.find? (·.name == name)

end FailureKind

structure ApiResult where
  success : Bool
  error : Option String
  payload : Fields
  status : Option Int
  failure : Option FailureKind
deriving Repr, Inhabited

namespace ApiResult

def envelopeNames : List String := ["success", "error"]

/-- The fields of an answer that are not part of the envelope. -/
def business (answer : Fields) : Fields :=
  answer.without envelopeNames

def failed (error : String) (failure : FailureKind) (status : Option Int) (payload : Fields) :
    ApiResult :=
  ⟨false, some error, payload, status, some failure⟩

def succeeded (payload : Fields) (status : Int) : ApiResult :=
  ⟨true, none, payload, some status, none⟩

/-- The result as an answer with its envelope. -/
def toFields (result : ApiResult) : Fields :=
  let fields := result.payload.insert "success" (.bool result.success)
  match result.error with
  | some error => fields.insert "error" (.text error)
  | none => fields

end ApiResult

end AdminGate
