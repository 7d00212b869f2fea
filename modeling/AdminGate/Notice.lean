import AdminGate.Text.Blank
import AdminGate.Text.Case

/-!
# Notices

The few messages that the client words itself, in every language of the catalogue.  A locale is
reduced to a language of the catalogue: the whole tag first, then what stands before the first
hyphen, English otherwise.
-/

namespace AdminGate

/-- What the client has to tell the user on its own. -/
inductive Notice where
  | timedOut
  | networkFailed
  | invalidAnswer
  | requestFailed
deriving DecidableEq, Repr

inductive Language where
  | english
  | chinese
deriving DecidableEq, Repr

namespace Language

def all : List Language := [english, chinese]

def tag : Language → String
  | english => "en"
  | chinese => "zh"

def ofTag? (tag : String) : Option Language :=
  all.find? (·.tag == tag)

/-- What stands before the first hyphen. -/
def primary (tag : List Char) : List Char :=
  tag.takeWhile (· != '-')

/-- The language of a locale: trimmed, in lower case, an underscore read as a hyphen. -/
def ofLocale (locale : String) : Language :=
  let tag := (Text.lower (Text.trim locale.toList)).map fun character =>
    if character == '_' then '-' else character
  match ofTag? (String.ofList tag) with
  | some language => language
  | none => (ofTag? (String.ofList (primary tag))).getD english

end Language

namespace Notice

def all : List Notice := [timedOut, networkFailed, invalidAnswer, requestFailed]

/-- The name of a notice in the catalogue. -/
def key : Notice → String
  | timedOut => "timeout"
  | networkFailed => "network"
  | invalidAnswer => "invalid_response"
  | requestFailed => "request_failed"

def ofKey? (key : String) : Option Notice :=
  all.find? (·.key == key)

def wording : Notice → Language → String
  | timedOut, .english => "Request timed out"
  | networkFailed, .english => "Network error"
  | invalidAnswer, .english => "Invalid server response"
  | requestFailed, .english => "Request failed"
  | timedOut, .chinese => "请求超时"
  | networkFailed, .chinese => "网络错误"
  | invalidAnswer, .chinese => "服务器响应无效"
  | requestFailed, .chinese => "请求失败"

def message (notice : Notice) (locale : String) : String :=
  notice.wording (Language.ofLocale locale)

end Notice

end AdminGate
