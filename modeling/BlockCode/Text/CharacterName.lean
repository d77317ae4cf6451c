import BlockCode.Text.CharacterName.A
import BlockCode.Text.CharacterName.B
import BlockCode.Text.CharacterName.C
import BlockCode.Text.CharacterName.DToG
import BlockCode.Text.CharacterName.HToK
import BlockCode.Text.CharacterName.L
import BlockCode.Text.CharacterName.M
import BlockCode.Text.CharacterName.NToR
import BlockCode.Text.CharacterName.S
import BlockCode.Text.CharacterName.TToZ

namespace BlockCode.Text.CharacterName

/-- Whether a name stands in a word tree. `rest` is the part of the name that the words of the
current group start from, `left` what is left of it behind the current word, if that word fits, and
`aside` counts the open groups that do not belong to the name. -/
def isListed (rest : List Char) : Nat → Option (List Char) → List Char → Bool
  | 0, left, [] => left == some []
  | _ + 1, _, [] => false
  | 0, left, c :: tree =>
    if c = ' ' then left == some [] || isListed rest 0 (some rest) tree
    else if c = ')' then left == some []
    else if c = '.' then left == some [] || isListed rest 0 left tree
    else if c = '(' then
      match left with
      | some (' ' :: next) => isListed next 0 (some next) tree
      | _ => isListed rest 1 none tree
    else
      match left with
      | some (d :: next) => isListed rest 0 (if c = d then some next else none) tree
      | _ => isListed rest 0 none tree
  | aside + 1, left, c :: tree =>
    if c = '(' then isListed rest (aside + 2) left tree
    else if c = ')' then isListed rest aside left tree
    else isListed rest (aside + 1) left tree

/-- The names as the lines of a word tree: the words that may follow a word stand in parentheses
behind it, and a point marks a word that others may follow but need not. -/
def trees : List (List String) :=
  [aNames, bNames, cNames, dToGNames, hToKNames, lNames, mNames, nToRNames, sNames, tToZNames]

/-- A digit of a base up to sixteen, of which letters are capital. -/
def digitValue? (base : Nat) (c : Char) : Option Nat :=
  let value :=
    if '0' ≤ c && c ≤ '9' then some (c.toNat - 48)
    else if 'A' ≤ c && c ≤ 'F' then some (c.toNat - 55)
    else none
  value.filter (· < base)

def number? (base : Nat) (cs : List Char) : Option Nat :=
  cs.foldlM (fun n c => do return base * n + (← digitValue? base c)) 0

/-- Names that end in a number: what stands before it, its base, the least count of its digits, and
the ranges that it comes from. -/
structure Family where
  lead : String
  base : Nat
  width : Nat
  ranges : List (Nat × Nat)

def families : List Family :=
  [⟨"CJK COMPATIBILITY IDEOGRAPH-", 16, 4,
      [(0xf900, 0xfa6d), (0xfa70, 0xfad9), (0x2f800, 0x2fa1d)]⟩,
    ⟨"KHITAN SMALL SCRIPT CHARACTER-", 16, 5, [(0x18b00, 0x18cd5)]⟩,
    ⟨"NUSHU CHARACTER-", 16, 5, [(0x1b170, 0x1b2fb)]⟩,
    ⟨"TANGUT COMPONENT-", 10, 3, [(1, 768)]⟩,
    ⟨"VARIATION SELECTOR-", 10, 1, [(1, 256)]⟩,
    ⟨"VS", 10, 1, [(1, 256)]⟩]

def isWithin (ranges : List (Nat × Nat)) (n : Nat) : Bool :=
  ranges.any fun (first, last) => first ≤ n && n ≤ last

/-- What follows a lead. -/
def after? (lead : String) (name : List Char) : Option (List Char) :=
  if lead.toList.isPrefixOf name then some (name.drop lead.length) else none

/-- Beyond the least count of digits a number has no zero in front. -/
def Family.has (f : Family) (name : List Char) : Bool :=
  match after? f.lead name with
  | none => false
  | some digits =>
    (digits.length = f.width || (f.width < digits.length && digits.head? ≠ some '0')) &&
      (number? f.base digits).any (isWithin f.ranges)

/-- Patterns of raised dots name the dots in ascending order. -/
def isDotPattern (name : List Char) : Bool :=
  match after? "BRAILLE PATTERN DOTS-" name with
  | none => false
  | some dots => !dots.isEmpty && dots.isSublist ['1', '2', '3', '4', '5', '6', '7', '8']

def ideographs : List (Nat × Nat) :=
  [(0x3400, 0x4dbf), (0x4e00, 0x9fff), (0x20000, 0x2a6df), (0x2a700, 0x2b738), (0x2b740, 0x2b81d),
    (0x2b820, 0x2cea1), (0x2ceb0, 0x2ebe0), (0x30000, 0x3134a)]

def isIdeograph (digits : List Char) : Bool :=
  (digits.length = 4 || digits.length = 5) && (number? 16 digits).any (isWithin ideographs)

def initials : List String :=
  ["G", "GG", "N", "D", "DD", "R", "M", "B", "BB", "S", "SS", "", "J", "JJ", "C", "K", "T", "P",
    "H"]

def vowels : List String :=
  ["A", "AE", "YA", "YAE", "EO", "E", "YEO", "YE", "O", "WA", "WAE", "OE", "YO", "U", "WEO", "WE",
    "WI", "YU", "EU", "YI", "I"]

def finals : List String :=
  ["", "G", "GG", "GS", "N", "NJ", "NH", "D", "L", "LG", "LM", "LB", "LS", "LT", "LP", "LH", "M",
    "B", "BS", "S", "SS", "NG", "J", "C", "K", "T", "P", "H"]

/-- Whether a text is made up of one of each kind of sounds. -/
def isComposed : List (List String) → List Char → Bool
  | [], cs => cs.isEmpty
  | sounds :: rest, cs => sounds.any fun sound => (after? sound cs).any (isComposed rest)

/-- Whether a character has the name. Ideographs and syllables are named in capitals, all others in
letters of either case. -/
def isName (name : List Char) : Bool :=
  match after? "CJK UNIFIED IDEOGRAPH-" name, after? "HANGUL SYLLABLE " name with
  | some digits, _ => isIdeograph digits
  | _, some syllable => isComposed [initials, vowels, finals] syllable
  | none, none =>
    let name := name.map Char.toUpper
    trees.any (fun tree => isListed name 0 (some name) (" ".intercalate tree).toList) ||
      families.any (fun f => f.has name) || isDotPattern name

end BlockCode.Text.CharacterName
