import Foldline.Text.CharacterName.Table1
import Foldline.Text.CharacterName.Table2
import Foldline.Text.CharacterName.Table3
import Foldline.Text.CharacterName.Table4
import Foldline.Text.CharacterName.Table5
import Foldline.Text.CharacterName.Table6
import Foldline.Text.CharacterName.Table7
import Foldline.Text.CharacterName.Table8

/-! # Character names

The names of the characters of Unicode 14 and their formal aliases. Letters of a name may be written
in either case. The names of ideographs and of Hangul syllables are made by rule, and there case
counts.

The tables list the other names in ascending order, where a name counts as ended by an equals sign.
A row is a series of entries with semicolons between them. An entry is a name, an equals sign and
the code point in hexadecimal; an entry after the first one starts with two digits, the number of
characters that its name has in common with the name before it, and leaves these characters out. -/

namespace Foldline.Text.CharacterName

/-- All rows, in ascending order. -/
def rows : List String :=
  [rows1, rows2, rows3, rows4, rows5, rows6, rows7, rows8].flatMap fun table =>
    (table.splitOn "\n").drop 1

/-- The value of a hexadecimal digit with a capital letter. -/
def hexDigit? (c : Char) : Option Nat :=
  if c.isDigit then some (c.toNat - 48)
  else if 'A' ≤ c && c ≤ 'F' then some (c.toNat - 55)
  else none

/-- The value of hexadecimal digits. -/
def hexNumber? (digits : List Char) : Option Nat :=
  digits.foldlM (fun n c => (hexDigit? c).map (16 * n + ·)) 0

/-- The number that two decimal digits at the front stand for, and what follows them. -/
def sharedLength? : List Char → Option (Nat × List Char)
  | a :: b :: rest => do return (10 * (← hexDigit? a) + (← hexDigit? b), rest)
  | _ => none

/-- The code point of a name in a row's entries after the first one, where `name` is the name
before. -/
def codeAmong? (target name : List Char) : List String → Option Nat
  | [] => none
  | entry :: rest =>
      match sharedLength? entry.toList with
      | none => none
      | some (shared, entry) =>
          let name := name.take shared ++ entry.takeWhile (· != '=')
          if name == target then hexNumber? ((entry.dropWhile (· != '=')).drop 1)
          else codeAmong? target name rest

/-- The code point of a name in a row. -/
def codeInRow? (target : List Char) (row : String) : Option Nat :=
  codeAmong? target [] ((row.splitOn ";").modifyHead ("00" ++ ·))

/-- The code point of a name in the tables: the last row that does not come after the name can list
it. -/
def listedCode? (name : List Char) : Option Nat :=
  let target := name.map Char.toUpper
  let bound := String.ofList (target ++ ['=', '~'])
  (rows.takeWhile fun row => row < bound).getLast?.bind (codeInRow? target)

/-- The code points of the unified ideographs. -/
def isIdeograph (n : Nat) : Bool :=
  [(0x3400, 0x4DBF), (0x4E00, 0x9FFF), (0x20000, 0x2A6DF), (0x2A700, 0x2B738), (0x2B740, 0x2B81D),
    (0x2B820, 0x2CEA1), (0x2CEB0, 0x2EBE0), (0x30000, 0x3134A)].any
    fun (low, high) => low ≤ n && n ≤ high

/-- An ideograph is named by its code point in four or five digits. -/
def ideograph? (digits : List Char) : Option Nat :=
  if digits.length == 4 || digits.length == 5 then (hexNumber? digits).filter isIdeograph else none

/-- The letters that a Hangul syllable can start with. -/
def initials : List String :=
  ["G", "GG", "N", "D", "DD", "R", "M", "B", "BB", "S", "SS", "", "J", "JJ", "C", "K", "T", "P",
    "H"]

/-- The vowels of Hangul syllables. -/
def vowels : List String :=
  ["A", "AE", "YA", "YAE", "EO", "E", "YEO", "YE", "O", "WA", "WAE", "OE", "YO", "U", "WEO", "WE",
    "WI", "YU", "EU", "YI", "I"]

/-- The letters that a Hangul syllable can end with. -/
def finals : List String :=
  ["", "G", "GG", "GS", "N", "NJ", "NH", "D", "L", "LG", "LM", "LB", "LS", "LT", "LP", "LH", "M",
    "B", "BS", "S", "SS", "NG", "J", "C", "K", "T", "P", "H"]

/-- The index of the longest of some texts that `text` starts with, and what follows it. -/
def longestStart? (parts : List String) (text : List Char) : Option (Nat × List Char) :=
  let fitting := parts.zipIdx.filter fun (part, _) => part.toList.isPrefixOf text
  let longest := fitting.foldl (fun best (part, index) =>
    match best with
    | some (length, found) =>
        if length < part.length then some (part.length, index) else some (length, found)
    | none => some (part.length, index)) none
  longest.map fun (length, index) => (index, text.drop length)

/-- A Hangul syllable is named by its letters, each the longest that fits. -/
def syllable? (letters : List Char) : Option Nat := do
  let (first, rest) ← longestStart? initials letters
  let (middle, rest) ← longestStart? vowels rest
  let (last, rest) ← longestStart? finals rest
  if rest.isEmpty then some (0xAC00 + (first * vowels.length + middle) * finals.length + last)
  else none

/-- What follows a beginning of a text. -/
def after? (start : String) (text : List Char) : Option (List Char) :=
  if start.toList.isPrefixOf text then some (text.drop start.length) else none

/-- The code point of the character with a name. -/
def code? (name : List Char) : Option Nat :=
  match after? "HANGUL SYLLABLE " name, after? "CJK UNIFIED IDEOGRAPH-" name with
  | some letters, _ => syllable? letters
  | none, some digits => ideograph? digits
  | none, none => listedCode? name

end Foldline.Text.CharacterName
