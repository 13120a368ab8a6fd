import Remittance.Ledger.Key
import Remittance.Payment.Destination
import Remittance.Service.Exchange

/-!
# The server of names

An account id stands for itself. Any other identifier must be an address, a name and a domain with
a star between them, and is looked up on one configured server, whose record gives the account and
perhaps the memo that payments to it must carry.
-/

set_option autoImplicit false

namespace Remittance.NameServer

/-- The shape of a record of a name. -/
def recordShape : Json.Shape where
  required := ["account_id"]
  rules :=
    [{ name := "account_id", kinds := [.text], nonEmpty := true },
      { name := "memo_type", kinds := [.text, .null] },
      { name := "memo", kinds := [.text, .integer, .null] }]

/-- Whether an identifier is an address: something before the first star and something after it. -/
def isAddress (identifier : Text) : Bool :=
  let name := identifier.codes.takeWhile (· ≠ .char '*')
  let domain := (identifier.codes.dropWhile (· ≠ .char '*')).drop 1
  !name.isEmpty && !domain.isEmpty

/-- The request for the record of an address. -/
def query (url : String) (identifier : Text) : Http.Request :=
  .get url (some [("q", identifier), ("type", "name")])

/-- The text of the memo in a record; nothing and null give the empty text. -/
def memoText (members : Json.Members) : Text :=
  match members.get? "memo" with
  | none => ""
  | some .null => ""
  | some value => value.plain

/-- The destination that a record describes. A memo counts only with a type that is not empty. -/
def destination (members : Json.Members) : Destination :=
  let accountId := ((members.get? "account_id").bind Json.text?).getD ""
  match (members.get? "memo_type").bind Json.text? with
  | none => { accountId }
  | some type =>
    if type.isEmpty then { accountId }
    else { accountId, memoType := some type, memo := some (memoText members) }

/-- What a body that is no record means. -/
def errorOf : RecordError → NamingError
  | .body e => .body e
  | .shape e => .record e

/-- The destination that a response describes. -/
def read (r : Response) : Except (Json.Unread NamingError) Destination :=
  if r.status ≠ 200 then .error (.error (.status r.status))
  else match r.members recordShape with
    | .error e => .error (e.map errorOf)
    | .ok members => .ok (destination members)

/-- Finds out what an identifier stands for; without a URL only account ids stand for something. -/
def resolve (url : Option String) (identifier : Text) : Exchange Destination :=
  if isAccountId identifier then .of (.value { accountId := identifier })
  else if !isAddress identifier then .of (.failed (.naming (.notAnAddress identifier)))
  else match url with
    | none => .of (.failed (.naming .noServer))
    | some url => .once (query url identifier) fun r =>
      (read r).mapError (.ofUnread .naming)

end Remittance.NameServer
