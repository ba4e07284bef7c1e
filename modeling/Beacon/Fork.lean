import Beacon.Text.Blank

/-!
# Forks

The consensus forks, in the order in which they took effect, and the tags that name them. Reading
a tag ignores the case of ASCII letters and blanks around it.
-/

namespace Beacon

/-- A consensus fork. -/
inductive Fork where
  | phase0
  | altair
  | bellatrix
  | capella
  | deneb
  | electra
  | fulu
deriving DecidableEq, Repr

namespace Fork

/-- Every fork, in order. -/
def all : List Fork := [.phase0, .altair, .bellatrix, .capella, .deneb, .electra, .fulu]

/-- The tag of a fork. -/
def tag : Fork → String
  | .phase0 => "phase0"
  | .altair => "altair"
  | .bellatrix => "bellatrix"
  | .capella => "capella"
  | .deneb => "deneb"
  | .electra => "electra"
  | .fulu => "fulu"

/-- The place of a fork in their order. -/
def number : Fork → Nat
  | .phase0 => 0
  | .altair => 1
  | .bellatrix => 2
  | .capella => 3
  | .deneb => 4
  | .electra => 5
  | .fulu => 6

instance : Ord Fork := ⟨fun a b => compare a.number b.number⟩

/-- A text that is no tag. -/
structure Unknown where
  text : String
deriving DecidableEq, Repr

/-- The text of the error for an unknown tag. -/
def Unknown.message (u : Unknown) : String := "Unrecognised consensus version \"" ++ u.text ++ "\""

/-- The fork that a text names. -/
def ofTag (text : String) : Except Unknown Fork :=
  match all.find? (fun fork => fork.tag = Text.lowercase (Text.trim text)) with
  | some fork => .ok fork
  | none => .error ⟨text⟩

/-- The tag of a fork names it. -/
theorem ofTag_tag (fork : Fork) : ofTag fork.tag = .ok fork := by
  cases fork <;> rfl

end Fork

end Beacon
