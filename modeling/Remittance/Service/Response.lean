import Remittance.Json.Reader
import Remittance.Text.Utf8

/-!
# Responses of servers

A status and a body of octets. The body is read as text, leniently, or as JSON, strictly. Where that
happens there is room for so many values one inside the other, and no more.
-/

set_option autoImplicit false

namespace Remittance

/-- How deeply values can be nested where a response is read: in a text that is read, and in a value
that is shown in a message. -/
structure Room where
  reading : Nat
  showing : Nat

/-- The response of a server, and the room there is where it is read. -/
structure Response where
  status : Int
  body : Octets
  room : Room

/-- Why a body is not JSON. -/
inductive BodyError where
  | encoding (e : Utf8.Malformed)
  | json (e : Json.ReadError)
deriving DecidableEq

/-- The wording of the place of a malformed part. -/
def Utf8.Malformed.message (e : Utf8.Malformed) : String :=
  let place :=
    if e.width = 1 then
      "byte 0x" ++ Octets.hex [e.first] ++ " in position " ++ Numeral.ofNat e.position
    else
      "bytes in position " ++ Numeral.ofNat e.position ++ "-" ++
        Numeral.ofNat (e.position + e.width - 1)
  "'utf-8' codec can't decode " ++ place ++ ": " ++ e.reason.message

/-- The wording of a body error; a numeral that is too long speaks for itself. -/
def BodyError.message : BodyError → String
  | .encoding e => "response body is not JSON: " ++ e.message
  | .json (.numeral e) => e.message
  | .json e => "response body is not JSON: " ++ e.message

namespace Response

/-- The body as text. -/
def text (r : Response) : String := Utf8.decodeLossy r.body

/-- The body as a JSON value. -/
def json (r : Response) : Except (Json.Unread BodyError) Json :=
  match Utf8.decode r.body with
  | .error e => .error (.error (.encoding e))
  | .ok s => (Json.read r.room.reading s).mapError (.map .json)

end Response

end Remittance
