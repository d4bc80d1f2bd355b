import TableQuery.Text.Characters

/-!
# Guid — identifiers of 128 bits

A filter writes an identifier as 32 hexadecimal digits in groups of 8, 4, 4, 4 and 12.  A stored
identifier may also lack the hyphens, stand in braces, or be a URN.  The case of the digits does not
count, and identifiers are written in lower case.
-/

namespace TableQuery

open TableQuery.Text

/-- An identifier. -/
structure Guid where
  value : BitVec 128
  deriving DecidableEq

namespace Guid

/-- The smaller or larger identifier, by its most significant digits first. -/
def order (a b : Guid) : Ordering := compare a.value.toNat b.value.toNat

/-- The number that hexadecimal digits denote. -/
def hexNumber (ds : List Nat) : Nat := ds.foldl (fun n d => 16 * n + d) 0

/-- Reads hexadecimal digits to the end of the text. -/
def ofHex (cs : List Char) : Option Guid :=
  (cs.mapM hexValue?).map fun ds => ⟨BitVec.ofNat 128 (hexNumber ds)⟩

/-- Whether a hyphen stands at a position. -/
def isHyphenPosition (i : Nat) : Bool := i == 8 || i == 13 || i == 18 || i == 23

/-- Whether 36 characters have their hyphens, and only hexadecimal digits besides. -/
def isCanonical (cs : List Char) : Bool :=
  cs.length == 36 && cs.zipIdx.all fun (c, i) =>
    if isHyphenPosition i then c == '-' else (hexValue? c).isSome

/-- Reads the form with hyphens. -/
def readCanonical (cs : List Char) : Option Guid :=
  if isCanonical cs then ofHex (cs.filter (· != '-')) else none

/-- Reads an identifier written in a filter. -/
def read (s : String) : Option Guid := readCanonical s.toList

/-- The form without hyphens, if there are 32 characters, else the form with hyphens. -/
def readBare (cs : List Char) : Option Guid :=
  if cs.length = 32 then ofHex cs else readCanonical cs

/-- The letters that introduce a URN. -/
def urn : String := "urn:uuid:"

/-- Reads a stored identifier in any of its forms. -/
def readStored (s : String) : Option Guid :=
  let cs := s.toList
  if cs.length = 38 ∧ cs.head? = some '{' ∧ cs.getLast? = some '}' then
    readCanonical (cs.drop 1).dropLast
  else if cs.length = 45 ∧ eqIgnoreCase (String.ofList (cs.take 9)) urn then
    readCanonical (cs.drop 9)
  else readBare cs

/-- The last `n` hexadecimal digits of a number. -/
def hexDigits : Nat → Nat → List Char
  | 0, _ => []
  | n + 1, v => hexDigits n (v / 16) ++ [hexDigit (v % 16)]

/-- Digits with a hyphen behind the 8th, 12th, 16th and 20th. -/
def hyphenate (ds : List Char) : List Char :=
  ds.take 8 ++ '-' :: (ds.drop 8).take 4 ++ '-' :: (ds.drop 12).take 4 ++
    '-' :: (ds.drop 16).take 4 ++ '-' :: ds.drop 20

/-- The text of an identifier. -/
def text (g : Guid) : String := String.ofList (hyphenate (hexDigits 32 g.value.toNat))

end Guid

end TableQuery
