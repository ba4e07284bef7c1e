import Beacon.Proofs.Text.Cut
import Beacon.Proofs.Text.Written
import Beacon.Request

/-!
# Paths of requests

The path of a request is made up of a stem and a tail, which its kind determines, of its subject
between them (the block, the state or the epoch that it names), and of a query. `Request.pathPart`
and `Request.queryPart` cut such a text at its first question mark. If there is none in the subject,
they give back what stands before the query and the query itself, and the places of blobs are read
back from the query (`Request.readQuery?_query`).
-/

namespace Beacon

/-! ### Parts of a path -/

/-- What the path of a request starts with, up to what the request names. -/
def Capability.stem : Capability → String
  | .genesis => "/eth/v1/beacon/genesis"
  | .nodeVersion => "/eth/v1/node/version"
  | .blockHeader => "/eth/v1/beacon/headers/"
  | .blockRoot => "/eth/v1/beacon/blocks/"
  | .stateRoot => "/eth/v1/beacon/states/"
  | .finalityCheckpoints => "/eth/v1/beacon/states/"
  | .state => "/eth/v2/debug/beacon/states/"
  | .blobSidecars => "/eth/v1/beacon/blob_sidecars/"
  | .validatorLiveness => "/eth/v1/validator/liveness/"

/-- What follows in the path of a request after what the request names. -/
def Capability.tail : Capability → String
  | .blockRoot => "/root"
  | .stateRoot => "/root"
  | .finalityCheckpoints => "/finality_checkpoints"
  | _ => ""

namespace Request

/-- The block or the state that a request names. -/
def id? : Request → Option String
  | .genesis => none
  | .nodeVersion => none
  | .blockHeader id => some id
  | .blockRoot id => some id
  | .stateRoot id => some id
  | .finalityCheckpoints id => some id
  | .state id => some id
  | .blobSidecars id _ => some id
  | .validatorLiveness _ _ => none

/-- The block, the state or the epoch that a request names. -/
def subject : Request → String
  | .validatorLiveness epoch _ => Numeral.write epoch
  | request => request.id?.getD ""

/-- The numbers that a request lists. -/
def indices : Request → List UInt64
  | .blobSidecars _ indices => indices
  | .validatorLiveness _ indices => indices
  | _ => []

/-- The query of a request. -/
def query? : Request → Option String
  | .blobSidecars _ [] => none
  | .blobSidecars _ (index :: rest) =>
    some ("&".intercalate ((index :: rest).map fun index => "indices=" ++ Numeral.write index))
  | _ => none

/-- What the path of a request is before its query. -/
def route (request : Request) : String :=
  request.capability.stem ++ request.subject ++ request.capability.tail

theorem path_eq (request : Request) :
    request.path =
      request.route ++ (match request.query? with
        | some query => "?" ++ query
        | none => "") := by
  cases request with
  | blobSidecars id indices =>
    cases indices with
    | nil =>
      simp only [route, capability, Capability.stem, Capability.tail, subject, query?, id?,
        Option.getD_some, String.append_empty]
      exact String.append_empty
    | cons index rest =>
      simp only [route, capability, Capability.stem, Capability.tail, subject, query?, id?,
        Option.getD_some, String.append_empty]
      rfl
  | genesis | nodeVersion | blockHeader | blockRoot | stateRoot | finalityCheckpoints | state
    | validatorLiveness =>
    simp only [route, capability, Capability.stem, Capability.tail, subject, query?, id?,
      Option.getD_some, Option.getD_none, String.append_empty]
    rfl

/-! ### Cuts -/

/-- The part of a path before its query. -/
def pathPart (path : String) : String := String.ofList (path.toList.takeWhile (· ≠ '?'))

/-- The query of a path, without its question mark. -/
def queryPart (path : String) : Option String :=
  match path.toList.dropWhile (· ≠ '?') with
  | [] => none
  | _ :: query => some (String.ofList query)

theorem cut_append {route : String} (plain : '?' ∉ route.toList) (query? : Option String) :
    let path := route ++ (match query? with
      | some query => "?" ++ query
      | none => "")
    pathPart path = route ∧ queryPart path = query? := by
  unfold pathPart queryPart
  cases query? with
  | none =>
    have hpath := Text.takeWhile_ne plain
    have hquery := Text.dropWhile_ne plain
    simp only [String.append_empty, hpath, hquery, String.ofList_toList, and_self]
  | some query =>
    have hpath := Text.takeWhile_ne_mark plain query.toList
    have hquery := Text.dropWhile_ne_mark plain query.toList
    have htext : (route ++ ("?" ++ query)).toList = route.toList ++ '?' :: query.toList := by simp
    simp only [htext, hpath, hquery, String.ofList_toList, and_self]

/-- A request whose block or state holds no question mark. -/
def IsPlain (request : Request) : Prop := ∀ id ∈ request.id?, '?' ∉ id.toList

variable {request : Request}

theorem stem_tail_plain :
    ∀ c ∈ Capability.all, '?' ∉ c.stem.toList ∧ '?' ∉ c.tail.toList := by
  decide

theorem isDigit_of_mem_write {n : UInt64} {c : Char} (h : c ∈ (Numeral.write n).toList) :
    c.isDigit = true := by
  rw [Numeral.write, String.toList_ofList] at h
  exact Nat.isDigit_of_mem_toDigits (by decide) (by decide) h

theorem IsPlain.not_mem_subject (plain : request.IsPlain) : '?' ∉ request.subject.toList := by
  cases request with
  | genesis | nodeVersion => exact List.not_mem_nil
  | validatorLiveness epoch indices => exact fun h => absurd (isDigit_of_mem_write h) (by decide)
  | blockHeader id | blockRoot id | stateRoot id | finalityCheckpoints id | state id
    | blobSidecars id indices => exact plain id rfl

theorem IsPlain.not_mem_route (plain : request.IsPlain) : '?' ∉ request.route.toList := by
  obtain ⟨hstem, htail⟩ := stem_tail_plain request.capability (Capability.mem_all _)
  simp only [route, String.toList_append, List.mem_append, not_or]
  exact ⟨⟨hstem, plain.not_mem_subject⟩, htail⟩

theorem IsPlain.pathPart_path (plain : request.IsPlain) :
    pathPart request.path = request.route := by
  rw [path_eq]
  exact (cut_append plain.not_mem_route request.query?).1

theorem IsPlain.queryPart_path (plain : request.IsPlain) :
    queryPart request.path = request.query? := by
  rw [path_eq]
  exact (cut_append plain.not_mem_route request.query?).2

/-! ### Queries -/

/-- The number in one part of a query. -/
def readIndex? (part : List Char) : Option UInt64 :=
  if "indices=".toList <+: part then
    (Numeral.readChars (part.drop "indices=".toList.length)).toOption
  else none

/-- The numbers in a query. -/
def readQuery? : Option String → Option (List UInt64)
  | none => some []
  | some query => (query.toList.splitOn '&').mapM readIndex?

theorem readIndex?_write (index : UInt64) :
    readIndex? ("indices=" ++ Numeral.write index).toList = some index := by
  have hread := Numeral.read_write index
  rw [Numeral.read] at hread
  rw [readIndex?, String.toList_append, if_pos (List.prefix_append ..), List.drop_left, hread]
  rfl

/-- The places of blobs are read back from the query, in their order. -/
theorem readQuery?_query (id : String) (indices : List UInt64) :
    readQuery? (blobSidecars id indices).query? = some indices := by
  cases indices with
  | nil => rfl
  | cons index rest =>
    have separate : ∀ part ∈ (index :: rest).map (fun index =>
        ("indices=" ++ Numeral.write index).toList), '&' ∉ part := by
      intro part hpart
      obtain ⟨n, -, rfl⟩ := List.mem_map.1 hpart
      rw [String.toList_append, List.mem_append, not_or]
      exact ⟨by decide, fun h => absurd (isDigit_of_mem_write h) (by decide)⟩
    rw [query?, readQuery?, String.toList_intercalate, List.map_map]
    show (List.splitOn '&' (['&'].intercalate ((index :: rest).map fun index =>
      ("indices=" ++ Numeral.write index).toList))).mapM readIndex? = some (index :: rest)
    rw [List.splitOn_intercalate '&' separate (by simp), Text.mapM_eq_some_iff, List.map_map]
    exact List.map_congr_left fun index _ => readIndex?_write index

end Request

end Beacon
