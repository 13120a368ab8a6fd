import Remittance.Crypto.Ed25519
import Remittance.Crypto.Sha2
import Remittance.Decimal.Binary64
import Remittance.Decimal.Lenient
import Remittance.Decimal.Numeral
import Remittance.Decimal.Places
import Remittance.Decimal.Shortest
import Remittance.Dialogue
import Remittance.Gateway.Service
import Remittance.Gateway.Settings
import Remittance.Http.Host
import Remittance.Http.Request
import Remittance.Http.Url
import Remittance.Journal.Line
import Remittance.Journal.Record
import Remittance.Journal.Setup
import Remittance.Journal.Template
import Remittance.Json.Display
import Remittance.Json.Reader
import Remittance.Json.Shape
import Remittance.Json.Value
import Remittance.Json.Writer
import Remittance.Ledger.Admission
import Remittance.Ledger.Amount
import Remittance.Ledger.Asset
import Remittance.Ledger.Build
import Remittance.Ledger.Envelope
import Remittance.Ledger.Key
import Remittance.Ledger.Keypair
import Remittance.Ledger.Memo
import Remittance.Ledger.Operation
import Remittance.Ledger.Party
import Remittance.Ledger.Transaction
import Remittance.Ledger.Wire
import Remittance.Payment.AssetChoice
import Remittance.Payment.Call
import Remittance.Payment.Cause
import Remittance.Payment.Connection
import Remittance.Payment.Destination
import Remittance.Payment.Error
import Remittance.Payment.Failure
import Remittance.Payment.MemoPolicy
import Remittance.Payment.Outcome
import Remittance.Payment.Pipeline
import Remittance.Payment.Request
import Remittance.Pool
import Remittance.Rehearsal.Cast
import Remittance.Rehearsal.Script
import Remittance.Service.ComplianceServer
import Remittance.Service.Error
import Remittance.Service.Exchange
import Remittance.Service.LedgerServer
import Remittance.Service.NameServer
import Remittance.Service.Response
import Remittance.Text.Base32
import Remittance.Text.Base64
import Remittance.Text.Blank
import Remittance.Text.Charset
import Remittance.Text.Digit
import Remittance.Text.DomainName
import Remittance.Text.Form
import Remittance.Text.LabelLetter
import Remittance.Text.MediaType
import Remittance.Text.Multipart
import Remittance.Text.Octets
import Remittance.Text.Percent
import Remittance.Text.Printable
import Remittance.Text.Punycode
import Remittance.Text.Quoted
import Remittance.Text.Utf8
import Remittance.Time.Civil
import Remittance.Xdr.Format
import Remittance.Proofs.Computation
import Remittance.Proofs.Decimal.Numeral
import Remittance.Proofs.Decimal.Rounding
import Remittance.Proofs.Decimal.Shortest
import Remittance.Proofs.Expansion
import Remittance.Proofs.Gateway.Answer
import Remittance.Proofs.Gateway.Refusal
import Remittance.Proofs.Interleaving
import Remittance.Proofs.Json.Completeness
import Remittance.Proofs.Json.Grammar
import Remittance.Proofs.Json.Number
import Remittance.Proofs.Json.Readable
import Remittance.Proofs.Json.RoundTrip
import Remittance.Proofs.Json.Shape
import Remittance.Proofs.Json.Soundness
import Remittance.Proofs.Ledger.Amount
import Remittance.Proofs.Ledger.Build
import Remittance.Proofs.Ledger.Built
import Remittance.Proofs.Ledger.Key
import Remittance.Proofs.Ledger.Operation
import Remittance.Proofs.Ledger.Requirement
import Remittance.Proofs.Ledger.Transaction
import Remittance.Proofs.Ledger.Wire
import Remittance.Proofs.Payment.Agreement
import Remittance.Proofs.Payment.Amount
import Remittance.Proofs.Payment.Behaviour
import Remittance.Proofs.Payment.Connection
import Remittance.Proofs.Payment.Course
import Remittance.Proofs.Payment.Escape
import Remittance.Proofs.Payment.Fault
import Remittance.Proofs.Payment.HalfGiven
import Remittance.Proofs.Payment.Hash
import Remittance.Proofs.Payment.Interruption
import Remittance.Proofs.Payment.Lookup
import Remittance.Proofs.Payment.MandatedMemo
import Remittance.Proofs.Payment.Order
import Remittance.Proofs.Payment.Part
import Remittance.Proofs.Payment.Protocol
import Remittance.Proofs.Payment.Relay
import Remittance.Proofs.Payment.RelayServer
import Remittance.Proofs.Payment.Secrecy
import Remittance.Proofs.Payment.Sequence
import Remittance.Proofs.Payment.Signature
import Remittance.Proofs.Payment.Stages
import Remittance.Proofs.Payment.Submission
import Remittance.Proofs.Payment.Together
import Remittance.Proofs.Payment.Trail
import Remittance.Proofs.Pool
import Remittance.Proofs.Service.LedgerAnswer
import Remittance.Proofs.Service.NameRecord
import Remittance.Proofs.Service.Reading
import Remittance.Proofs.Text.Base32
import Remittance.Proofs.Text.Base64
import Remittance.Proofs.Text.Form
import Remittance.Proofs.Text.Octets
import Remittance.Proofs.Text.Percent
import Remittance.Proofs.Text.Utf8
import Remittance.Proofs.Transcript
import Remittance.Proofs.Xdr.Format
import Remittance.Proofs.Ledger.Envelope
import Remittance.Proofs.Ledger.Whole
import Remittance.Proofs.Ledger.Canonical
import Remittance.Proofs.Ledger.Intent
import Remittance.Proofs.Payment.Signing
import Remittance.Proofs.Gateway.Fee
import Remittance.Proofs.Payment.Decoded
import Remittance.Proofs.Ledger.Cosigning
import Remittance.Proofs.Ledger.Units
import Remittance.Proofs.Payment.MemoRules
import Remittance.Proofs.Service.Resolution
import Remittance.Proofs.Service.AccountUrl
import Remittance.Proofs.Journal.Line
import Remittance.Proofs.Payment.NumberedMemo
