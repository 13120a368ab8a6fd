import Remittance.Text.CodePoint

/-!
# Journal records

What the library writes into its journal: a level, the part that wrote, a fixed message, and a few
named values.
-/

set_option autoImplicit false

namespace Remittance

/-- How much a record matters. -/
inductive Level where
  | info
  | warning
  | error
deriving DecidableEq

/-- The word for a level. -/
def Level.name : Level → String
  | .info => "INFO"
  | .warning => "WARNING"
  | .error => "ERROR"

/-- The part of the library that writes a record. -/
inductive Channel where
  | pipeline
  | destination
  | asset
  | memo
  | service
deriving DecidableEq

/-- The names under which a record can carry values. -/
inductive Label where
  | errorCode
  | error
  | state
  | destination
  | accountId
  | assetIssuer
  | memoType
  | memo
  | txHash
  | statusCode
  | path
  | ledgerUrl
deriving DecidableEq

namespace Label

/-- All names, in the order in which they are shown. -/
def all : List Label :=
  [.errorCode, .error, .state, .destination, .accountId, .assetIssuer, .memoType, .memo, .txHash,
    .statusCode, .path, .ledgerUrl]

/-- The word for a name. -/
def word : Label → String
  | .errorCode => "error_code"
  | .error => "error"
  | .state => "state"
  | .destination => "destination"
  | .accountId => "account_id"
  | .assetIssuer => "asset_issuer"
  | .memoType => "memo_type"
  | .memo => "memo"
  | .txHash => "tx_hash"
  | .statusCode => "status_code"
  | .path => "path"
  | .ledgerUrl => "horizon_url"

end Label

/-- A record of the journal. -/
structure Record where
  level : Level
  channel : Channel
  message : String
  values : List (Label × Text) := []
deriving DecidableEq

end Remittance
