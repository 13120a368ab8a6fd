import Remittance.Dialogue
import Remittance.Http.Request
import Remittance.Json.Shape
import Remittance.Payment.Failure

/-!
# Exchanges with servers

An exchange is a dialogue of HTTP requests and responses. Whatever a server is asked for, at most
one request is sent, and the response alone decides the reply.
-/

set_option autoImplicit false

namespace Remittance

/-- A dialogue of HTTP requests. -/
abbrev Exchange (α : Type) := Dialogue Http.Request (fun _ => Reply Response) (Reply α)

namespace Exchange

/-- The exchange that sends nothing. -/
def of {α : Type} (r : Reply α) : Exchange α := .done r

/-- The exchange of one request, whose response is read by `f`. -/
def once {α : Type} (request : Http.Request) (f : Response → Except Failure α) : Exchange α :=
  .ask request fun reply => .done (reply.andThen f)

end Exchange

/-- Why a body is not an object of a shape. -/
inductive RecordError where
  | body (e : BodyError)
  | shape (e : Json.ShapeError)

/-- The members of a response's body, which must be a JSON object of a shape. Of a body of another
shape the values at fault are shown, for which there must be room. -/
def Response.members (r : Response) (shape : Json.Shape) :
    Except (Json.Unread RecordError) Json.Members :=
  match r.json with
  | .error e => .error (e.map .body)
  | .ok body =>
    if (shape.shown body).any fun value => r.room.showing < value.height then
      .error (.nested .shown)
    else match shape.check body with
      | .error e => .error (.error (.shape e))
      | .ok members => .ok members

end Remittance
