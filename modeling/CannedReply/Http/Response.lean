import CannedReply.Http.Body
import CannedReply.Http.Reply
import CannedReply.Text.Numeral

/-!
Responses on the wire. Every connection ends with its response, and the response says so unless its
version takes that for granted.
-/

namespace CannedReply.Http

/-- A response on the wire, its date apart. -/
structure Response where
  version : Version
  status : Status
  fields : List Field
  body : Bytes
  deriving DecidableEq, Repr

namespace Response

def textField (name value : String) : Field :=
  ⟨Bytes.ofText name, Bytes.ofText value⟩

/-- The field that announces the end of the connection, in the version that needs it. -/
def closing (version : Version) : List Field :=
  if version = .v11 then [textField "connection" "close"] else []

def lengthField (n : Nat) : Field :=
  textField "content-length" (Numeral.decimal n)

/-- How a reply goes to the sender of a request: in the version of the request, without a body if
only the head was asked for, and with neither body nor length if a tunnel was. -/
def ofReply (request : Request) (r : Reply) : Response :=
  { version := request.version
    status := r.status
    fields := closing request.version ++ r.fields
      ++ (if request.isConnect then [] else [lengthField r.body.length])
    body := if request.isConnect || request.isHead then [] else r.body }

def refusal (status : Status) : Response :=
  { version := .v11, status, fields := closing .v11 ++ [lengthField 0], body := [] }

def sentFields (r : Response) (date : String) : List Field :=
  r.fields ++ [textField "date" date]

def fieldLine (f : Field) : Bytes :=
  f.name ++ Bytes.ofText ": " ++ f.value ++ [cr, lf]

def bytes (r : Response) (date : String) : Bytes :=
  Bytes.ofText (r.version.text ++ " " ++ Numeral.decimal r.status.code ++ " " ++ r.status.phrase)
    ++ [cr, lf]
    ++ (r.sentFields date).flatMap fieldLine
    ++ [cr, lf]
    ++ r.body

end Response

end CannedReply.Http
