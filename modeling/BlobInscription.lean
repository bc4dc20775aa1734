import BlobInscription.Address
import BlobInscription.Address.Base58
import BlobInscription.Address.Error
import BlobInscription.Address.Regroup
import BlobInscription.Address.Segwit
import BlobInscription.Authentication
import BlobInscription.Block
import BlobInscription.Bytes
import BlobInscription.Bytes.Base64
import BlobInscription.Bytes.Hex
import BlobInscription.Bytes.Lemmas
import BlobInscription.Cancellation
import BlobInscription.Checkpoint.Directory
import BlobInscription.Checkpoint.Error
import BlobInscription.Checkpoint.Store
import BlobInscription.Checkpoint.Table
import BlobInscription.CommandLine
import BlobInscription.CommandLine.Argument
import BlobInscription.CommandLine.Builder
import BlobInscription.CommandLine.Error
import BlobInscription.CommandLine.Invocation
import BlobInscription.CommandLine.Report
import BlobInscription.CommandLine.Surroundings
import BlobInscription.Compression
import BlobInscription.Config
import BlobInscription.Config.Error
import BlobInscription.Config.Sources
import BlobInscription.Curve.Ecdsa
import BlobInscription.Curve.Modular
import BlobInscription.Curve.Secp256k1
import BlobInscription.Datum
import BlobInscription.Datum.Display
import BlobInscription.Datum.Form
import BlobInscription.Dialogue
import BlobInscription.Envelope
import BlobInscription.Extraction
import BlobInscription.Fee
import BlobInscription.Hash.Sha256
import BlobInscription.Hash.XxHash64
import BlobInscription.Json
import BlobInscription.Json.Printer
import BlobInscription.Main
import BlobInscription.MerkleTree
import BlobInscription.Net.IpAddress
import BlobInscription.Network
import BlobInscription.Node
import BlobInscription.Node.Error
import BlobInscription.Node.Notation
import BlobInscription.Number.Binary64
import BlobInscription.Number.Binary64.Text
import BlobInscription.Number.Decimal
import BlobInscription.Number.Numeral
import BlobInscription.Number.Rounding
import BlobInscription.PathName
import BlobInscription.Polling
import BlobInscription.Rehearsal
import BlobInscription.Rehearsal.FileTree
import BlobInscription.Rehearsal.NodeScript
import BlobInscription.Rpc.Call
import BlobInscription.Rpc.Connection
import BlobInscription.Rpc.Endpoint
import BlobInscription.Rpc.Error
import BlobInscription.Rpc.Hint
import BlobInscription.Rpc.Http
import BlobInscription.Rpc.ReplyBook
import BlobInscription.Rpc.Session
import BlobInscription.Script
import BlobInscription.Service
import BlobInscription.Submission
import BlobInscription.Submission.Failure
import BlobInscription.Text.Blank
import BlobInscription.Text.Case
import BlobInscription.Text.Case.Table
import BlobInscription.Text.Digit
import BlobInscription.Text.Printable.Table
import BlobInscription.Text.Quoted
import BlobInscription.Text.Split
import BlobInscription.Text.Utf8
import BlobInscription.Transaction
import BlobInscription.UnspentOutput
import BlobInscription.Verification
import BlobInscription.Wire
import BlobInscription.Yaml.Cursor
import BlobInscription.Yaml.Form
import BlobInscription.Yaml.Lexer
import BlobInscription.Yaml.Name
import BlobInscription.Yaml.Node
import BlobInscription.Yaml.Scalar.Block
import BlobInscription.Yaml.Scalar.Plain
import BlobInscription.Yaml.Scalar.Quoted
import BlobInscription.Yaml.Scalar.Value
import BlobInscription.Yaml.Token
import BlobInscription.Yaml.Value
import BlobInscription.Zstd.Bits
import BlobInscription.Zstd.Frame
import BlobInscription.Zstd.Fse
import BlobInscription.Zstd.Huffman
import BlobInscription.Zstd.Literals
import BlobInscription.Zstd.Sequences
import BlobInscription.Proofs.Address.Checksum
import BlobInscription.Proofs.Address.Codec
import BlobInscription.Proofs.Address.Regroup
import BlobInscription.Proofs.Address.RoundTrip
import BlobInscription.Proofs.Authentication
import BlobInscription.Proofs.Authentication.Acceptance
import BlobInscription.Proofs.Block.Encoding
import BlobInscription.Proofs.Block.Extent
import BlobInscription.Proofs.Block.Fetching
import BlobInscription.Proofs.Checkpoint.Extension
import BlobInscription.Proofs.Checkpoint.Identifier
import BlobInscription.Proofs.Checkpoint.Requests
import BlobInscription.Proofs.Compression
import BlobInscription.Proofs.Curve.Compression
import BlobInscription.Proofs.Curve.Group
import BlobInscription.Proofs.Curve.Modular
import BlobInscription.Proofs.Curve.Primality
import BlobInscription.Proofs.Dialogue.Trail
import BlobInscription.Proofs.Envelope.Grammar
import BlobInscription.Proofs.Envelope.Parcel
import BlobInscription.Proofs.Extraction
import BlobInscription.Proofs.MerkleTree.Binding
import BlobInscription.Proofs.MerkleTree.Order
import BlobInscription.Proofs.Polling.Finality
import BlobInscription.Proofs.Polling.Retry
import BlobInscription.Proofs.Polling.Stage
import BlobInscription.Proofs.Polling.Steps
import BlobInscription.Proofs.Rpc.Reply
import BlobInscription.Proofs.Script.Spans
import BlobInscription.Proofs.Script.Stream
import BlobInscription.Proofs.Submission.Agenda
import BlobInscription.Proofs.Submission.Discipline
import BlobInscription.Proofs.Submission.Effects
import BlobInscription.Proofs.Submission.Ending
import BlobInscription.Proofs.Submission.Identifier
import BlobInscription.Proofs.Submission.Interleaving
import BlobInscription.Proofs.Submission.Return
import BlobInscription.Proofs.Text.Case
import BlobInscription.Proofs.Transaction.Canonical
import BlobInscription.Proofs.Transaction.Encoding
import BlobInscription.Proofs.Transaction.Extent
import BlobInscription.Proofs.Transaction.Identity
import BlobInscription.Proofs.Transaction.Signing
import BlobInscription.Proofs.Traversal
import BlobInscription.Proofs.Verification.Acceptance
import BlobInscription.Proofs.Verification.Honest
import BlobInscription.Proofs.Verification.Inclusion
import BlobInscription.Proofs.Verification.Integrity
import BlobInscription.Proofs.Verification.Order
import BlobInscription.Proofs.Verification.Witness
import BlobInscription.Proofs.Width
import BlobInscription.Proofs.Wire.Extent
import BlobInscription.Proofs.Wire.Ranges
import BlobInscription.Proofs.Wire.Reading
import BlobInscription.Proofs.Wire.Record
import BlobInscription.Proofs.Wire.Spelling
import BlobInscription.Proofs.Zstd.Growth
import BlobInscription.Proofs.Zstd.Stored
import BlobInscription.Proofs.Extraction.Selection
import BlobInscription.Proofs.Block.Commitment
import BlobInscription.Proofs.Address.Misspelling
import BlobInscription.Proofs.Address.Base58
import BlobInscription.Proofs.Address.Networks
import BlobInscription.Proofs.Curve.Signature
import BlobInscription.Proofs.Text.Hexadecimal
import BlobInscription.Proofs.Authentication.Signing
import BlobInscription.Proofs.Address.BitString
import BlobInscription.Proofs.Number.Comparison
import BlobInscription.Proofs.Fee
import BlobInscription.Proofs.Config.Layers
import BlobInscription.Proofs.Datum.Display
import BlobInscription.Proofs.PathName
import BlobInscription.Proofs.Config.Loading
