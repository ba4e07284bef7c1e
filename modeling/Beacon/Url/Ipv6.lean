import Beacon.Url.Ipv4

/-!
# IPv6 addresses

Eight pieces of 16 bits in hexadecimal. Two colons stand for as many zero pieces as are missing,
at least one, and the last two pieces may be written as an IPv4 address. The text of an address
shortens its first longest run of at least two zero pieces.
-/

namespace Beacon.Url.Ipv6

/-- At most four hexadecimal digits at the start of a text, and what follows them. -/
def piece (text : List Char) : List Char × List Char :=
  let digits := (text.take 4).takeWhile fun c => (Ipv4.digit? c).isSome
  (digits, text.drop digits.length)

/-- A decimal octet without leading zeros. -/
def octet? (digits : List Char) : Option Nat :=
  if digits.length > 1 ∧ digits.head? = some '0' then none
  else if digits = [] then none
  else
    match Ipv4.ofDigits? 10 digits with
    | some n => if n < 256 then some n else none
    | none => none

/-- The two pieces written as an IPv4 address. -/
def tail? (text : List Char) : Option (List Nat) := do
  match ← (Ipv4.parts text).mapM octet? with
  | [a, b, c, d] => some [a * 256 + b, c * 256 + d]
  | _ => none

/-- The pieces read so far, and how many of them come before the two colons. -/
structure Draft where
  pieces : List Nat
  gap : Option Nat

/-- How many pieces are spoken for: those read, and one for the two colons. -/
def Draft.size (draft : Draft) : Nat := draft.pieces.length + if draft.gap.isSome then 1 else 0

/-- Read the pieces that follow a draft, at most `count` steps. -/
def readPieces (draft : Draft) : (count : Nat) → List Char → Option Draft
  | _, [] => some draft
  | 0, _ => none
  | count + 1, c :: rest =>
    if draft.size = 8 then none
    else if c = ':' then
      if draft.gap.isSome then none
      else readPieces { draft with gap := some draft.pieces.length } count rest
    else
      let (digits, after) := piece (c :: rest)
      match after with
      | '.' :: _ =>
        if digits = [] ∨ draft.size > 6 then none
        else (tail? (c :: rest)).map fun two => { draft with pieces := draft.pieces ++ two }
      | [] => (Ipv4.ofDigits? 16 digits).map fun n => { draft with pieces := draft.pieces ++ [n] }
      | ':' :: next =>
        if next = [] then none
        else
          match Ipv4.ofDigits? 16 digits with
          | some n => readPieces { draft with pieces := draft.pieces ++ [n] } count next
          | none => none
      | _ => none

/-- The eight pieces of a draft. -/
def Draft.finish (draft : Draft) : Option (List Nat) :=
  match draft.gap with
  | some gap =>
    some (draft.pieces.take gap ++ List.replicate (8 - draft.pieces.length) 0 ++
      draft.pieces.drop gap)
  | none => if draft.pieces.length = 8 then some draft.pieces else none

/-- The pieces of an address. -/
def parse? (text : List Char) : Option (List Nat) :=
  match text with
  | ':' :: ':' :: rest => (readPieces ⟨[], some 0⟩ rest.length rest).bind Draft.finish
  | ':' :: _ => none
  | text => (readPieces ⟨[], none⟩ text.length text).bind Draft.finish

/-- The length of the run of zeros that starts at a place. -/
def zerosAt (pieces : List Nat) (place : Nat) : Nat :=
  ((pieces.drop place).takeWhile (· = 0)).length

/-- The first place of the longest run of at least two zeros. -/
def longestRun? (pieces : List Nat) : Option Nat :=
  (List.range pieces.length).foldl (fun best place =>
    let length := zerosAt pieces place
    match best with
    | none => if length ≥ 2 then some place else none
    | some b => if length > zerosAt pieces b then some place else some b) none

/-- Pieces in hexadecimal, with colons between them. -/
def joined (pieces : List Nat) : String :=
  ":".intercalate (pieces.map fun n => String.ofList (Nat.toDigits 16 n))

/-- The text of an address. -/
def write (pieces : List Nat) : String :=
  match longestRun? pieces with
  | none => joined pieces
  | some place =>
    joined (pieces.take place) ++ "::" ++ joined (pieces.drop (place + zerosAt pieces place))

end Beacon.Url.Ipv6
