import Mathlib.Data.List.Basic

namespace Ten.Data

/-! # JSON text

`json.dumps` with `ensure_ascii`, for strings, numbers and lists. -/

/-- A digit of `'{0:04x}'`. -/
def hexDigit (value : Nat) : Char :=
  if value < 10 then Char.ofNat (48 + value) else Char.ofNat (87 + value)

/-- The escape `\uXXXX` of a sixteen bit unit. -/
def unicodeEscape (unit : Nat) : List Char :=
  [Char.ofNat 92, Char.ofNat 117, hexDigit (unit / 4096 % 16), hexDigit (unit / 256 % 16),
    hexDigit (unit / 16 % 16), hexDigit (unit % 16)]

def shortEscape (code : Nat) : Option Nat :=
  if code = 34 ∨ code = 92 then some code
  else if code = 8 then some 98
  else if code = 9 then some 116
  else if code = 10 then some 110
  else if code = 12 then some 102
  else if code = 13 then some 114
  else none

def escapeCharacter (character : Char) : List Char :=
  let code := character.toNat
  match shortEscape code with
  | some letter => [Char.ofNat 92, Char.ofNat letter]
  | none =>
      if 32 ≤ code ∧ code ≤ 126 then [character]
      else if code < 65536 then unicodeEscape code
      -- a surrogate pair
      else unicodeEscape (55296 + (code - 65536) / 1024) ++
        unicodeEscape (56320 + (code - 65536) % 1024)

/-- `json.dumps(text)`. -/
def jsonString (text : String) : String :=
  String.ofList ([Char.ofNat 34] ++ text.toList.flatMap escapeCharacter ++ [Char.ofNat 34])

/-- `json.dumps(items, separators=(",", ":"))` for items that are dumped already. -/
def jsonArray (items : List String) : String := "[" ++ String.intercalate "," items ++ "]"

end Ten.Data
