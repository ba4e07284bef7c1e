/-!
# IPv4 addresses

The loose form of addresses that URLs admit: up to four numbers, in decimal, octal or hexadecimal,
the last of which fills the octets that are left.
-/

namespace Beacon.Url.Ipv4

/-- The value of a digit in any base up to 16. -/
def digit? (c : Char) : Option Nat :=
  if '0' ≤ c ∧ c ≤ '9' then some (c.toNat - 48)
  else if 'a' ≤ c ∧ c ≤ 'f' then some (c.toNat - 87)
  else if 'A' ≤ c ∧ c ≤ 'F' then some (c.toNat - 55)
  else none

/-- The number written by digits of a base. -/
def ofDigits? (base : Nat) (digits : List Char) : Option Nat :=
  digits.foldlM (fun n c => do
    let d ← digit? c
    if d < base then some (n * base + d) else none) 0

/-- The number in one part of an address: hexadecimal after `0x`, octal after `0`, else decimal. -/
def number? : List Char → Option Nat
  | [] => none
  | '0' :: 'x' :: digits => ofDigits? 16 digits
  | '0' :: 'X' :: digits => ofDigits? 16 digits
  | ['0'] => some 0
  | '0' :: digits => ofDigits? 8 digits
  | digits => ofDigits? 10 digits

/-- Cut a text at dots. -/
def parts (text : List Char) : List (List Char) :=
  let (last, done) := text.foldl
    (fun (part, done) c => if c = '.' then ([], part.reverse :: done) else (c :: part, done))
    (([], []) : List Char × List (List Char))
  (last.reverse :: done).reverse

/-- The parts of an address, without an empty last one. -/
def labels (text : List Char) : List (List Char) :=
  let parts := parts text
  if parts.length > 1 ∧ parts.getLast? = some [] then parts.dropLast else parts

/-- Whether a domain ends in a number, and so must be an address. -/
def endsInNumber (text : List Char) : Bool :=
  match (labels text).getLast? with
  | none => false
  | some [] => false
  | some last => last.all (fun c => decide ('0' ≤ c ∧ c ≤ '9')) || (number? last).isSome

/-- The value of the numbers of an address: each but the last one is an octet. -/
def combine? (first : List Nat) (last : Nat) : Option Nat :=
  if first.all (· < 256) ∧ last < Nat.pow 256 (4 - first.length) then
    some (first.foldl (fun n octet => n * 256 + octet) 0 * Nat.pow 256 (4 - first.length) + last)
  else none

/-- The value of an address. -/
def parse? (text : List Char) : Option Nat := do
  let labels := labels text
  if labels.length > 4 then none
  else
    let numbers ← labels.mapM number?
    let last ← numbers.getLast?
    combine? numbers.dropLast last

/-- The text of an address: four octets in decimal. -/
def write (address : Nat) : String :=
  s!"{address / 16777216}.{address / 65536 % 256}.{address / 256 % 256}.{address % 256}"

end Beacon.Url.Ipv4
