import Remittance.Http.Url
import Remittance.Service.Response
import Remittance.Text.Form

/-!
# Requests to servers

The two requests that the library sends, and what they are on the wire: the parameters of a GET go
into the query of its URL, the form of a POST into its body.
-/

set_option autoImplicit false

namespace Remittance.Http

/-- A request to a server. -/
inductive Request where
  | get (url : String) (params : Option Fields)
  | post (url : String) (form : Fields)

/-- The text of a URL in front of the query. -/
def bareUrl (url : String) : String := String.ofList (url.toList.takeWhile (· ≠ '?'))

/-- The URL without the slashes at its end. -/
def withoutLastSlashes (url : String) : String :=
  String.ofList ((url.toList.reverse.dropWhile (· = '/')).reverse)

/-- A request as it goes over the wire. -/
structure Wire where
  method : String
  address : Url
  contentType : Option String
  body : String

namespace Wire

/-- The text of the URL that a request goes to. -/
def url (w : Wire) : String := w.address.text

/-- The media type that every request asks for. -/
def accept (_ : Wire) : String := "application/json"

/-- The response to a request, which counts only if its URL has a scheme. -/
def settle (w : Wire) (r : Response) : Except Url.Fault Response :=
  if w.address.scheme.isEmpty then .error (.noScheme w.url) else .ok r

end Wire

namespace Request

/-- The method of a request. -/
def method : Request → String
  | .get .. => "GET"
  | .post .. => "POST"

/-- The URL that a request was made for. -/
def url : Request → String
  | .get url _ => url
  | .post url _ => url

/-- Why a request does not go over the wire: its URL is none, or a text in it is torn. -/
inductive Fault where
  | address (e : Url.Fault)
  | torn (e : Text.Torn)

/-- A URL with parameters as its query; they take the place of a query that it has. -/
def withParams (address : Url) (params : Form) : Except Url.Fault Url :=
  if params.isEmpty then .ok address else address.withQuery (Form.encode params)

/-- A request on the wire, if its URL is one and its texts are whole. -/
def wire : Request → Except Fault Wire
  | .get url params => do
    let address ← (Url.ofText url).mapError .address
    let params ← (params.getD []).form.mapError .torn
    let address ← (withParams address params).mapError .address
    pure ⟨"GET", address, none, ""⟩
  | .post url form => do
    let address ← (Url.ofText url).mapError .address
    let form ← form.form.mapError .torn
    pure (if form.isEmpty then ⟨"POST", address, none, ""⟩
      else ⟨"POST", address, some "application/x-www-form-urlencoded", Form.encode form⟩)

end Request

end Remittance.Http
