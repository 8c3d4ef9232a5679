import RpcTransport.Text.CombiningTable
import RpcTransport.Text.CodePoint

/-! # Composed text

One text can be written with marks of its own behind a letter or with characters that hold
letter and mark together. `compose` takes both to one form: every character is taken apart,
the marks behind a letter are put in the order of their classes, and a letter takes up the
marks that it can. Marks of one class keep their order (`filter_orderMarks`).
-/

namespace RpcTransport.Normalization

def combiningClass (c : Char) : Nat :=
  if c.toNat < 0x300 then 0
  else
    match combiningClasses.find? fun (_, ranges) => inRanges ranges c with
    | some (number, _) => number
    | none => 0

/-- Characters and what they become with a mark, in turns. -/
def pairsWith (mark : Char) : List Char → List (Char × Char × Char)
  | base :: composite :: rest => (base, mark, composite) :: pairsWith mark rest
  | _ => []

def pairs : List (Char × Char × Char) :=
  compositions.flatMap fun (mark, text) => pairsWith (Char.ofNat mark) text.toList

/-- The first Hangul syllable. Syllables are numbered by their letters: a leading consonant,
    a vowel, and a trailing consonant or none. -/
def firstSyllable : Nat := 0xac00

def firstLead : Nat := 0x1100

def firstVowel : Nat := 0x1161

/-- The code point before the first trailing consonant, which stands for none. -/
def firstTrail : Nat := 0x11a7

def leadCount : Nat := 19

def vowelCount : Nat := 21

/-- How many trailing consonants there are, with the one that stands for none. -/
def trailCount : Nat := 28

/-- A Hangul syllable without a trailing consonant and that consonant, or a leading consonant
    and a vowel. -/
def syllableParts? (c : Char) : Option (Char × Char) :=
  let number := c.toNat - firstSyllable
  if c.toNat < firstSyllable ∨ leadCount * vowelCount * trailCount ≤ number then none
  else if number % trailCount = 0 then
    let (lead, vowel) := (number / trailCount / vowelCount, number / trailCount % vowelCount)
    some (Char.ofNat (firstLead + lead), Char.ofNat (firstVowel + vowel))
  else
    some (Char.ofNat (c.toNat - number % trailCount), Char.ofNat (firstTrail + number % trailCount))

def syllable? (a b : Char) : Option Char :=
  let (m, n) := (a.toNat, b.toNat)
  if firstLead ≤ m ∧ m < firstLead + leadCount ∧ firstVowel ≤ n ∧ n < firstVowel + vowelCount then
    let letters := (m - firstLead) * vowelCount + (n - firstVowel)
    some (Char.ofNat (firstSyllable + letters * trailCount))
  else if firstSyllable ≤ m ∧ m < firstSyllable + leadCount * vowelCount * trailCount ∧
      (m - firstSyllable) % trailCount = 0 ∧ firstTrail < n ∧ n < firstTrail + trailCount then
    some (Char.ofNat (m + (n - firstTrail)))
  else none

def parts? (c : Char) : Option (Char × Char) :=
  if c.toNat < 0xc0 then none
  else
    match syllableParts? c with
    | some parts => some parts
    | none => (pairs.find? fun (_, _, composite) => composite == c).map fun (a, b, _) => (a, b)

def composite? (a b : Char) : Option Char :=
  if b.toNat < 0x300 then none
  else
    match syllable? a b with
    | some c => some c
    | none => (pairs.find? fun (first, second, _) => first == a && second == b).map (·.2.2)

/-- Take a character apart, and what stands first in it again, up to a number of times. -/
def takeApart : Nat → Char → List Char
  | 0, c => [c]
  | depth + 1, c =>
    match parts? c with
    | some (a, b) => takeApart depth a ++ [b]
    | none => [c]

/-- Put a character before text whose marks are in order: a mark goes behind those of lower
    classes. -/
def placeMark (c : Char) : List Char → List Char
  | [] => [c]
  | d :: rest =>
    if 0 < combiningClass d ∧ combiningClass d < combiningClass c then d :: placeMark c rest
    else c :: d :: rest

def orderMarks : List Char → List Char
  | [] => []
  | c :: rest => placeMark c (orderMarks rest)

/-- Compose a letter with what follows. `kept` are the marks between them that it did not
    take up, the last one first: a mark reaches the letter only past marks of lower
    classes, and another letter only if there are none. -/
def composeOnto (letter : Char) (kept : List Char) : List Char → List Char
  | [] => letter :: kept.reverse
  | c :: rest =>
    let reaches := match kept with
      | [] => true
      | last :: _ => combiningClass last < combiningClass c
    match if reaches then composite? letter c else none with
    | some both => composeOnto both kept rest
    | none =>
      if combiningClass c = 0 then letter :: kept.reverse ++ composeOnto c [] rest
      else composeOnto letter (c :: kept) rest

def composeLetters : List Char → List Char
  | [] => []
  | c :: rest => if combiningClass c = 0 then composeOnto c [] rest else c :: composeLetters rest

/-- The composed form of a text. No character is a letter with more than three marks. -/
def compose (text : List Char) : List Char :=
  composeLetters (orderMarks (text.flatMap (takeApart 3)))

def isComposed (text : List Char) : Bool :=
  compose text == text

theorem filter_placeMark (number : Nat) (c : Char) (text : List Char) :
    (placeMark c text).filter (combiningClass · = number) =
      (c :: text).filter (combiningClass · = number) := by
  induction text with
  | nil => rfl
  | cons d rest ih =>
      rw [placeMark]
      split
      · next passes =>
          -- the two characters that change places are not both of the class
          rw [List.filter_cons, ih]
          by_cases own : combiningClass c = number
          · have other : combiningClass d ≠ number := by omega
            simp [own, other]
          · simp [List.filter_cons, own]
      · rfl

/-- Characters of one class keep their order. -/
theorem filter_orderMarks (number : Nat) (text : List Char) :
    (orderMarks text).filter (combiningClass · = number) =
      text.filter (combiningClass · = number) := by
  induction text with
  | nil => rfl
  | cons c rest ih => rw [orderMarks, filter_placeMark, List.filter_cons, List.filter_cons, ih]

example : syllable? 'ᄒ' 'ᅡ' = some '하' ∧ syllable? '하' 'ᆫ' = some '한' := by decide
example : syllableParts? '한' = some ('하', 'ᆫ') ∧ syllableParts? 'a' = none := by decide

end RpcTransport.Normalization
