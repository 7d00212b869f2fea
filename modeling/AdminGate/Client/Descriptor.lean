import AdminGate.Json.Display
import AdminGate.Text.Case

/-!
# Descriptors

What a caller wants sent: a method in capital letters, an address, and possibly a body and header
fields.  Neither method nor address may be blank.
-/

namespace AdminGate

structure Descriptor where
  method : String
  url : String
  body : Option Fields
  headers : Option (Assoc String)
deriving Repr

inductive DescriptorError where
  | methodMissing
  | urlMissing
deriving DecidableEq, Repr

def DescriptorError.message : DescriptorError → String
  | methodMissing => "Request method is required."
  | urlMissing => "Request url is required."

namespace Descriptor

def readMethods : List String := ["GET", "HEAD", "OPTIONS"]

/-- A descriptor with cleaned method and address. -/
def make? (method url : Json) (body : Option Fields) (headers : Option (Assoc String)) :
    Except DescriptorError Descriptor :=
  let method := Text.uppercased method.cleaned
  let url := url.cleaned
  if method.isEmpty then .error .methodMissing
  else if url.isEmpty then .error .urlMissing
  else .ok ⟨method, url, body, headers⟩

def isRead (descriptor : Descriptor) : Bool :=
  readMethods.contains descriptor.method

/-- The body that is sent; a reading request has none. -/
def sentBody (descriptor : Descriptor) : Option Fields :=
  if descriptor.isRead then none else descriptor.body

end Descriptor

end AdminGate
