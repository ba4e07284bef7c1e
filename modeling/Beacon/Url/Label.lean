import Beacon.Text.Composition
import Beacon.Text.Direction
import Beacon.Text.Joining
import Beacon.Url.Folding
import Beacon.Url.Punycode

/-!
# Labels

The parts of a domain between its full stops. A label of ASCII characters stands for itself, unless
it starts with the mark `xn--`: then what follows is the Punycode of the label that it stands for.
`Label.read?` gives the label that an ASCII label stands for and `Label.write?` the ASCII label that
stands for one. Both refuse what UTS #46 refuses: characters that a name has another character for,
text that is not in its normal form, a mark at the start, and joiners where nothing joins.
-/

namespace Beacon.Url.Label

/-- How many characters a label may have that is not ASCII. -/
def maxLength : Nat := 1000

/-- How many characters the Punycode of a label may have. -/
def maxCodeLength : Nat := 2000

/-- Whether a text is ASCII. -/
def isAscii (text : List Char) : Bool := text.all (·.toNat < 128)

/-- Whether the nearest character that joining does not pass by is of one of the types given. -/
def joinsWith (types : List Text.Joining) (text : List Char) : Bool :=
  match text.dropWhile (Text.joining · = .transparent) with
  | c :: _ => types.contains (Text.joining c)
  | [] => false

/-- Whether a joiner may stand between two texts, the first one last character first: after a mark
that takes the vowel off its letter, and a nonjoiner also between letters that would join. -/
def mayPart (before : List Char) (c : Char) (after : List Char) : Bool :=
  match before with
  | [] => false
  | previous :: _ =>
    Text.combiningClass previous = 9 ||
      (c = Text.nonJoiner && joinsWith [.left, .dual] before && joinsWith [.right, .dual] after)

/-- Whether all joiners of a text stand where they may, behind `before`, last character first. -/
def joinersFit (before : List Char) : List Char → Bool
  | [] => true
  | c :: rest =>
    ((c ≠ Text.joiner && c ≠ Text.nonJoiner) || mayPart before c rest) &&
      joinersFit (c :: before) rest

/-- Whether a text starts with a mark. -/
def startsWithMark (text : List Char) : Bool := text.head?.any Text.isMark

/-- Whether a label that is not ASCII is well formed. -/
def isWellFormed (label : List Char) : Bool :=
  label.length ≤ maxLength && label.all isKept && Text.composed label = label &&
    !startsWithMark label && joinersFit [] label

/-- The Punycode in an ASCII label that has the mark of one. -/
def code? : List Char → Option (List Char)
  | 'x' :: 'n' :: '-' :: '-' :: code => some code
  | _ => none

/-- The label that the Punycode of one stands for. -/
def decode? (code : List Char) : Option (List Char) :=
  if maxCodeLength < code.length then none
  else (Punycode.decode? code).filter fun label => !isAscii label && isWellFormed label

/-- The label that an ASCII label stands for. -/
def read? (label : List Char) : Option (List Char) :=
  match code? label with
  | some code => decode? code
  | none => some label

/-- The ASCII label that stands for a label. -/
def write? (label : List Char) : Option (List Char) :=
  if isAscii label then some label
  else if (code? label).isSome || !isWellFormed label then none
  else some ("xn--".toList ++ Punycode.encode label)

/-- Whether a label can be read in its own direction, by the rule of RFC 5893: from left to right
without characters of the other direction, or from right to left without letters of the other
direction and with digits of one kind. It ends in a letter or digit and the marks on it. -/
def isDirected (label : List Char) : Bool :=
  match label.map Text.direction with
  | [] => true
  | first :: rest =>
    let body := first :: (rest.reverse.dropWhile (· = .mark)).reverse
    let last := body.getLast?
    let shared : List Text.Direction := [.europeanNumber, .neutral, .mark]
    if first = .left then
      body.all (fun d => d = .left || shared.contains d) &&
        (last = some .left || last = some .europeanNumber)
    else if first = .right || first = .arabicLetter then
      body.all (fun d => d.isRightToLeft || shared.contains d) && last.any (fun d =>
        d.isRightToLeft || d = .europeanNumber) &&
        !(body.contains .europeanNumber && body.contains .arabicNumber)
    else false

end Beacon.Url.Label
