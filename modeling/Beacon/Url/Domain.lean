import Beacon.Text.Blank
import Beacon.Url.Ipv4
import Beacon.Url.Label

/-!
# Domains

Names of nodes: labels with full stops between them. `Domain.ofText?` brings a name that may be
written with any characters to its ASCII form, by UTS #46: characters are folded, the text is
composed, and each label is written as ASCII. The ASCII form is then checked label by label, so that
a name is accepted if and only if its ASCII form is.
-/

namespace Beacon.Url.Domain

/-- The characters that no host may hold. -/
def forbidden : List Char :=
  ['\x00', '\t', '\n', '\r', ' ', '#', '/', ':', '<', '>', '?', '@', '[', '\\', ']', '^', '|']

/-- Whether the ASCII form of a domain may hold a character. -/
def isDomainChar (c : Char) : Bool :=
  0x20 < c.toNat && c.toNat < 0x7F && c ≠ '%' && !forbidden.contains c

/-- Labels with full stops between them. -/
def joined (labels : List (List Char)) : List Char := ['.'].intercalate labels

/-- A text of any characters as labels in ASCII. -/
def encoded? (text : List Char) : Option (List Char) := do
  let folded ← text.mapM fold?
  let labels ← (Ipv4.parts (Text.composed folded.flatten)).mapM Label.write?
  return joined labels

/-- The name written by a text, in ASCII and small letters. -/
def asciiForm? (text : List Char) : Option (List Char) :=
  (if Label.isAscii text then some text else encoded? text).map fun name => name.map Char.toLower

/-- Whether labels can be read beside each other: if one of them has a character that is read from
right to left, each one has to have a direction. -/
def areDirected (labels : List (List Char)) : Bool :=
  !labels.any (·.any fun c => (Text.direction c).isRightToLeft) || labels.all Label.isDirected

/-- Whether an ASCII text is the name of a node. -/
def isName (text : List Char) : Bool :=
  text.all isDomainChar &&
    match (Ipv4.parts text).mapM Label.read? with
    | some labels => areDirected labels
    | none => false

/-- The name of a node that is written by a text. -/
def ofText? (text : List Char) : Option (List Char) := (asciiForm? text).filter isName

theorem isAscii_of_isName {name : List Char} (h : isName name = true) :
    Label.isAscii name = true := by
  simp only [isName, Bool.and_eq_true, List.all_eq_true] at h
  simp only [Label.isAscii, List.all_eq_true, decide_eq_true_eq]
  intro c hc
  have := h.1 c hc
  simp only [isDomainChar, Bool.and_eq_true, decide_eq_true_eq] at this
  omega

/-- The name of a node is its own name. -/
theorem ofText?_of_ofText? {text name : List Char} (h : ofText? text = some name) :
    ofText? name = some name := by
  obtain ⟨form, hn⟩ := Option.filter_eq_some_iff.1 h
  obtain ⟨written, -, rfl⟩ := Option.map_eq_some_iff.1 form
  have lowered : (written.map Char.toLower).map Char.toLower = written.map Char.toLower := by
    rw [List.map_map]
    exact List.map_congr_left fun c _ => Text.toLower_toLower c
  simp [ofText?, asciiForm?, isAscii_of_isName hn, lowered, hn]

end Beacon.Url.Domain
