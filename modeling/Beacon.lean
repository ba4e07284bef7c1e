import Beacon.Ssz.Cursor
import Beacon.Merkle.Root
import Beacon.Hash.Sha256
import Beacon.Bytes.Hex
import Beacon.Bytes.Utf8
import Beacon.Text.Numeral
import Beacon.Text.Duration
import Beacon.Json.Error
import Beacon.Json.Token
import Beacon.Json.Node
import Beacon.Json.Record
import Beacon.Json.Value
import Beacon.Chain.Checkpoint
import Beacon.Chain.BlobSidecar
import Beacon.Chain.BeaconState
import Beacon.Chain.Report
import Beacon.Url.Basic
import Beacon.Capability
import Beacon.Main
import Beacon.RequestId
import Beacon.Proofs.Pool.Collection
import Beacon.Proofs.Pool.Vote
import Beacon.Proofs.Pool.Majority
import Beacon.Proofs.Pool.FirstSuccess
import Beacon.Proofs.Pool.Errors
import Beacon.Proofs.Merkle.Tree
import Beacon.Proofs.Ssz.FixedSize
import Beacon.Proofs.Ssz.Extraction
import Beacon.Proofs.Node.Sidecars
import Beacon.Proofs.Merkle.Binding
import Beacon.Proofs.Ssz.Schema
import Beacon.Proofs.Chain.Binding
import Beacon.Proofs.Node.Exchange
import Beacon.Proofs.Node.Classification
import Beacon.Proofs.Chain.RoundTrip
import Beacon.Proofs.Pool.Log
import Beacon.Proofs.Pool.Team
import Beacon.Proofs.Pool.Warnings
import Beacon.Proofs.Pool.Deadline
import Beacon.Proofs.Pool.Trust
import Beacon.Proofs.Pool.Timing
import Beacon.Proofs.Pool.Tower
import Beacon.Proofs.Pool.Race
import Beacon.Proofs.Pool.Regrouping
import Beacon.Proofs.Inspection
import Beacon.Proofs.Node.Resolution
import Beacon.Proofs.Chain.Objects
import Beacon.Proofs.Text.Hexadecimal
import Beacon.Proofs.Request.Encoding
import Beacon.Proofs.Request.Target
import Beacon.Proofs.Text.Decimal
import Beacon.Proofs.Chain.States
import Beacon.Proofs.Node.Headers
import Beacon.Proofs.Pool.Selection
import Beacon.Proofs.Ssz.Extraction
