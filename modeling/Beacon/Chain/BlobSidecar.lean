import Beacon.Chain.BlockHeader

/-!
# Blob sidecars

A blob sidecar carries one blob of a block, the commitment to it with its proof, and the proof that
the commitment is in the block. The serialized form has a fixed length, so a list of sidecars is
their serialized forms one after the other. The forks whose sidecars have this layout are
`BlobSidecar.isSupported`.
-/

namespace Beacon

/-- The length of a blob. -/
def blobSize : Nat := 131072

/-- The data of a blob. -/
abbrev Blob := ByteVector blobSize

/-- One blob of a block. -/
structure BlobSidecar where
  /-- The place of the blob in the block. -/
  index : UInt64
  blob : Blob
  kzgCommitment : ByteVector 48
  kzgProof : ByteVector 48
  signedBlockHeader : SignedBlockHeader
  /-- The proof that the commitment is in the block. -/
  inclusionProof : Vector Digest 17
deriving DecidableEq

namespace Blob

/-- A byte string as a blob. -/
def ofBytes (bytes : Bytes) : Except DataError Blob :=
  match ByteVector.ofList? blobSize bytes with
  | some blob => .ok blob
  | none => .error (.wrongLength "Blob" blobSize bytes.length)

/-- A blob by its first octets. -/
def brief (blob : Blob) : String := "Blob(" ++ Hex.encode (blob.toList.take 8) ++ "..)"

/-- Read a blob from hexadecimal text. -/
def readHex (text : String) : Except Json.Error Blob :=
  match Hex.decode? text with
  | none => .error (.rejected DataError.badHex.message)
  | some bytes =>
    match ofBytes bytes with
    | .ok blob => .ok blob
    | .error e => .error (.rejected e.message)

/-- The JSON form. -/
def codec : Json.Codec Blob := .ofText (fun blob => Hex.encode blob.toList) readHex

end Blob

namespace BlobSidecar

/-- The length of the serialized form. -/
def size : Nat := 8 + blobSize + 48 + 48 + SignedBlockHeader.size + 17 * 32

/-- The serialized form. -/
def toSsz (s : BlobSidecar) : Bytes :=
  (ByteVector.ofUInt64 s.index).toList ++ s.blob.toList ++ s.kzgCommitment.toList ++
    s.kzgProof.toList ++ s.signedBlockHeader.toSsz ++
    s.inclusionProof.toList.flatMap ByteVector.toList

/-- Read the serialized form. -/
def ofSsz (bytes : Bytes) : Except DataError BlobSidecar := do
  Ssz.checkLength "BlobSidecar" bytes size
  let (cursor, index) ← Ssz.part "BlobSidecar" (Ssz.cutUInt64 bytes 0)
  let (cursor, blob) ← Ssz.part "BlobSidecar" (Ssz.cut blobSize bytes cursor)
  let blob ← Blob.ofBytes blob.toList
  let (cursor, kzgCommitment) ← Ssz.part "BlobSidecar" (Ssz.cut 48 bytes cursor)
  let (cursor, kzgProof) ← Ssz.part "BlobSidecar" (Ssz.cut 48 bytes cursor)
  let (cursor, header) ← Ssz.part "BlobSidecar" (Ssz.cut SignedBlockHeader.size bytes cursor)
  let signedBlockHeader ← SignedBlockHeader.ofSsz header.toList
  let (_, inclusionProof) ← Ssz.part "BlobSidecar" (Ssz.cutVector 32 bytes cursor 17)
  return { index, blob, kzgCommitment, kzgProof, signedBlockHeader, inclusionProof }

/-- The serialized form of a list. -/
def listToSsz (sidecars : List BlobSidecar) : Bytes := sidecars.flatMap toSsz

/-- Read serialized forms, after the sidecars in `done`, last one first. -/
def readAll (done : List BlobSidecar) : List Bytes → Except DataError (List BlobSidecar)
  | [] => .ok done.reverse
  | piece :: rest =>
    match ofSsz piece with
    | .ok sidecar => readAll (sidecar :: done) rest
    | .error e => .error e

/-- Read the serialized form of a list. -/
def listOfSsz (bytes : Bytes) : Except DataError (List BlobSidecar) :=
  if bytes.length % size = 0 then readAll [] (Bytes.pieces size bytes)
  else .error (.wrongLength "BlobSidecarList" ((bytes.length / size + 1) * size) bytes.length)

/-- The root of the tree. -/
def treeRoot (join : Digest → Digest → Digest) (s : BlobSidecar) : Digest :=
  Merkle.root join
    [Merkle.leaf s.index, Merkle.bytesRoot join s.blob.toList,
      Merkle.bytesRoot join s.kzgCommitment.toList, Merkle.bytesRoot join s.kzgProof.toList,
      s.signedBlockHeader.treeRoot join, Merkle.root join s.inclusionProof.toList]

/-- The JSON form. -/
def codec : Json.Codec BlobSidecar :=
  (Json.Codec.record "BlobSidecar" [
    { name := "index", Value := UInt64, codec := .quoted },
    { name := "blob", Value := Blob, codec := Blob.codec },
    { name := "kzg_commitment", Value := ByteVector 48, codec := .hex 48 },
    { name := "kzg_proof", Value := ByteVector 48, codec := .hex 48 },
    { name := "signed_block_header", Value := SignedBlockHeader, codec := SignedBlockHeader.codec },
    { name := "kzg_commitment_inclusion_proof", Value := Vector Digest 17,
      codec := .hexVector 32 17 }]).iso
    (fun (index, blob, kzgCommitment, kzgProof, signedBlockHeader, inclusionProof, ()) =>
      { index, blob, kzgCommitment, kzgProof, signedBlockHeader, inclusionProof })
    (fun s => (s.index, s.blob, s.kzgCommitment, s.kzgProof, s.signedBlockHeader, s.inclusionProof,
      ()))

/-- Whether the sidecars of a fork have this layout. -/
def isSupported (fork : Fork) : Bool := fork = .deneb || fork = .electra

end BlobSidecar

/-- The sidecars of a block of a known fork. -/
structure VersionedSidecars where
  fork : Fork
  sidecars : List BlobSidecar
deriving DecidableEq

namespace VersionedSidecars

/-- The sidecars of a block, if sidecars of its fork have the layout. -/
def ofSidecars (fork : Fork) (sidecars : List BlobSidecar) : Except DataError VersionedSidecars :=
  if BlobSidecar.isSupported fork then .ok { fork, sidecars }
  else .error (.unsupportedFork "BlobSidecar" fork)

end VersionedSidecars

end Beacon
