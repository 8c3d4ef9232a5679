import RpcTransport.Text.Joining
import RpcTransport.Text.Mark
import RpcTransport.Text.Normalization
import RpcTransport.Url.DomainMapping
import RpcTransport.Url.Punycode

/-! # Labels of domain names

The rules for a label beyond the choice of its characters: it begins with no mark, a joiner
stands only where a script needs it, and in a name that is partly written from right to left
every label has one direction.
-/

namespace RpcTransport.Url

/-- Going away from a joiner, the first character that is not transparent joins on the side
    of the joiner, as one of the given kinds does. -/
def reachesJoining (kinds : List Joining) : List Char → Bool
  | [] => false
  | c :: rest =>
    match Joining.ofChar c with
    | .transparent => reachesJoining kinds rest
    | kind => kinds.contains kind

/-- A joiner fits between what stands before it, the last character first, and behind it:
    behind a mark that takes away a vowel, or, if it keeps characters from joining, between
    two that would. -/
def joinerFits (joiner : Char) (before behind : List Char) : Bool :=
  match before with
  | [] => false
  | c :: _ =>
    Normalization.combiningClass c == 9 ||
      (joiner == '\u200c' && reachesJoining [.left, .dual] before &&
        reachesJoining [.right, .dual] behind)

def joinersFit (before : List Char) : List Char → Bool
  | [] => true
  | c :: rest =>
    (if c = '\u200c' ∨ c = '\u200d' then joinerFits c before rest else true) &&
      joinersFit (c :: before) rest

def isWellFormed (label : List Char) : Bool :=
  !(label.take 1).any isMark && joinersFit [] label

def turnsName (c : Char) : Bool :=
  0x80 ≤ c.toNat && Direction.ofChar c ∈ [.rightToLeft, .arabicLetter, .arabicNumber]

def leftToRightClasses : List Direction :=
  [.leftToRight, .europeanNumber, .europeanSeparator, .commonSeparator, .europeanTerminator,
   .otherNeutral, .boundaryNeutral, .nonspacingMark]

def leftToRightEnds : List Direction :=
  [.leftToRight, .europeanNumber]

def rightToLeftClasses : List Direction :=
  [.rightToLeft, .arabicLetter, .arabicNumber, .europeanNumber, .europeanSeparator,
   .commonSeparator, .europeanTerminator, .otherNeutral, .boundaryNeutral, .nonspacingMark]

def rightToLeftEnds : List Direction :=
  [.rightToLeft, .arabicLetter, .arabicNumber, .europeanNumber]

/-- What follows the first character of a label keeps to its direction: all classes are
    allowed, and the last one that is no mark may end the label. -/
def keepsTo (allowed ends rest : List Direction) : Bool :=
  rest.all allowed.contains &&
    ((rest.reverse.dropWhile (· == .nonspacingMark)).head?.all ends.contains)

/-- The label has one direction, that of its first character. Numbers of two kinds do not
    stand together in a label from right to left. -/
def hasOneDirection (label : List Char) : Bool :=
  match label.map Direction.ofChar with
  | [] => true
  | .leftToRight :: rest => keepsTo leftToRightClasses leftToRightEnds rest
  | first :: rest =>
    (first == .rightToLeft || first == .arabicLetter) &&
      keepsTo rightToLeftClasses rightToLeftEnds rest &&
      !(rest.contains .europeanNumber && rest.contains .arabicNumber)

/-- How many characters the ASCII form of a label may have behind its `xn--`. -/
def encodedLimit : Nat := 2000

/-- How many characters a label may have to be given an ASCII form. -/
def encodableLimit : Nat := 1000

/-- The label whose ASCII form has the given text behind its `xn--`. It has to be just as
    mapping and composing would leave it. -/
def decodeLabel? (encoded : List Char) : Option (List Char) :=
  if encoded = [] || encoded.getLast? = some '-' || encodedLimit < encoded.length then none
  else
    (Punycode.decode encoded).filter fun label =>
      label.all isMapped && Normalization.isComposed label && isWellFormed label

def encodedPart? (label : List Char) : Option (List Char) :=
  dropStart? ['x', 'n', '-', '-'] label

def asciiLabel? (text : List Char) : Option (List Char) :=
  let label := text.map Char.toLower
  match encodedPart? label with
  | some encoded => decodeLabel? encoded
  | none => if label.any isForbiddenAscii then none else some label

def mappedLabel? (label : List Char) : Option (List Char) :=
  let isAscii (c : Char) : Bool := c.toNat < 0x80
  let read := match encodedPart? label with
    | some encoded => if encoded.all isAscii then decodeLabel? encoded else none
    | none => if isWellFormed label then some label else none
  read.filter fun label => label.all isAscii || label.length ≤ encodableLimit

/-- The labels of a piece of a name that holds no dot, although a character that stands for a
    dot may divide it. -/
def pieceLabels? (piece : List Char) : Option (List (List Char)) :=
  if piece.all (·.toNat < 0x80) then (asciiLabel? piece).map ([·])
  else
    match piece.mapM mapDomainChar? with
    | none => none
    | some images =>
      let text := Normalization.compose images.flatten
      if text.any isForbiddenAscii then none else (splitAll '.' text).mapM mappedLabel?

def domainLabels? (name : List Char) : Option (List (List Char)) :=
  match (splitAll '.' name).mapM pieceLabels? with
  | none => none
  | some pieces =>
    let labels := pieces.flatten
    if labels.any (·.any turnsName) && !labels.all hasOneDirection then none else some labels

end RpcTransport.Url
