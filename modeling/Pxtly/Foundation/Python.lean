/-
This file gives the Python operations on texts and on decoded JSON values.
-/

import Pxtly.Foundation.Bytes
import Pxtly.Foundation.Json

namespace Pxtly.Foundation

/-- These characters are spaces to `str.strip` and `int`. -/
def isSpace (c : Char) : Bool :=
  (9 ≤ c.toNat && c.toNat ≤ 13) || (28 ≤ c.toNat && c.toNat ≤ 32) || (0x2000 ≤ c.toNat && c.toNat ≤ 0x200a) ||
    c.toNat ∈ [0x85, 0xa0, 0x1680, 0x2028, 0x2029, 0x202f, 0x205f, 0x3000]

def strip (text : List Char) : List Char :=
  ((text.dropWhile isSpace).reverse.dropWhile isSpace).reverse

theorem dropWhile_of_head {test : Char → Bool} {text : List Char} (begins : ∀ c ∈ text.head?, test c = false) :
    text.dropWhile test = text := by
  cases text with
  | nil => rfl
  | cons c rest => exact List.dropWhile_cons_of_neg (by rw [begins c rfl]; decide)

/-- A text that neither begins nor ends with a space is kept. -/
theorem strip_of_ends {first last : Char} (begins : isSpace first = false) (ends : isSpace last = false)
    (body : List Char) : strip (first :: (body ++ [last])) = first :: (body ++ [last]) := by
  have front : (first :: (body ++ [last])).dropWhile isSpace = first :: (body ++ [last]) :=
    dropWhile_of_head (by simp [begins])
  rw [strip, front, dropWhile_of_head (by simp [ends]), List.reverse_reverse]

theorem strip_cons_space {c : Char} (space : isSpace c = true) (text : List Char) : strip (c :: text) = strip text := by
  rw [strip, List.dropWhile_cons_of_pos space]
  rfl

/-- A dictionary of `json.loads` keeps the last value of a repeated key. -/
def dictGet : List (String × Json) → String → Option Json
  | [], _ => none
  | (key, value) :: later, name => (dictGet later name).or (if key = name then some value else none)

def truthy : Json → Bool
  | .null => false
  | .bool value => value
  | .integer value => value != 0
  | .number value => value != 0
  | .string value => value != ""
  | .array items => !items.isEmpty
  | .object members => !members.isEmpty

/-- `int` reads digits with single underscores between them, and no more than 4300 digits. -/
def intText (text : String) : Bool :=
  let unsigned := match strip text.toList with
    | '+' :: rest => rest
    | '-' :: rest => rest
    | rest => rest
  let groups := unsigned.splitOn '_'
  groups.all (fun group => !group.isEmpty && group.all unicodeDigit) && groups.flatten.length ≤ 4300

/-- `int` accepts these values. -/
def intReadable : Json → Bool
  | .null => false
  | .bool _ => true
  | .integer _ => true
  | .number value => value.isFinite
  | .string value => intText value
  | .array _ => false
  | .object _ => false

/-- The integer that `int` reads is kept as its source. -/
structure PyInt where
  source : Json
  readable : intReadable source = true

/-- The text of `str` is known for a text and kept as its source for any other value. -/
inductive PyText where
  | text (value : String)
  | str (source : Json)

def pyStr : Json → PyText
  | .string value => .text value
  | source => .str source

section Numbers

/-- `int` first writes each character in ASCII: a space, a digit, or a question mark for any other. -/
def asciiOf (c : Char) : Char :=
  if c.toNat < 127 then c
  else if isSpace c then ' '
  else match digitZeros.find? fun first => first ≤ c.toNat && c.toNat < first + 10 with
    | some first => hexDigit (c.toNat - first)
    | none => '?'

def isAsciiSpace (c : Char) : Bool := c == ' ' || (9 ≤ c.toNat && c.toNat ≤ 13)

/-- A prefix may be followed by one underscore. -/
def withoutPrefix : List Char → List Char
  | '0' :: 'x' :: '_' :: rest => rest
  | '0' :: 'X' :: '_' :: rest => rest
  | '0' :: 'x' :: rest => rest
  | '0' :: 'X' :: rest => rest
  | text => text

/-- An underscore stands between two digits. -/
def readDigits16 : Nat → Bool → List Char → Option Nat
  | value, afterDigit, [] => if afterDigit then some value else none
  | value, afterDigit, c :: rest =>
      if c = '_' then if afterDigit then readDigits16 value false rest else none
      else (hexValue c).bind fun digit => readDigits16 (16 * value + digit) true rest

/-- This is `int(text, 16)`; it raises an error where the result is missing. -/
def int16 (text : String) : Option Int :=
  let leading := (text.toList.map asciiOf).dropWhile isAsciiSpace
  let trimmed := (leading.reverse.dropWhile isAsciiSpace).reverse
  match trimmed with
  | '-' :: rest => (readDigits16 0 false (withoutPrefix rest)).map fun value => -(value : Int)
  | '+' :: rest => (readDigits16 0 false (withoutPrefix rest)).map Int.ofNat
  | rest => (readDigits16 0 false (withoutPrefix rest)).map Int.ofNat

end Numbers

section Dumps

def escapeUnit (unit : Nat) : List Char :=
  ['\\', 'u', hexDigit (unit / 4096 % 16), hexDigit (unit / 256 % 16), hexDigit (unit / 16 % 16), hexDigit (unit % 16)]

/-- A character outside ASCII is written in UTF-16. -/
def escapeChar (c : Char) : List Char :=
  if c.toNat ∈ [34, 92] then ['\\', c]
  else if c.toNat = 8 then ['\\', 'b']
  else if c.toNat = 9 then ['\\', 't']
  else if c.toNat = 10 then ['\\', 'n']
  else if c.toNat = 12 then ['\\', 'f']
  else if c.toNat = 13 then ['\\', 'r']
  else if 32 ≤ c.toNat ∧ c.toNat < 127 then [c]
  else if c.toNat < 0x10000 then escapeUnit c.toNat
  else escapeUnit (0xd800 + (c.toNat - 0x10000) / 0x400) ++ escapeUnit (0xdc00 + (c.toNat - 0x10000) % 0x400)

def dumpsText (text : String) : String := "\"" ++ String.ofList (text.toList.flatMap escapeChar) ++ "\""

/-- A dictionary keeps the last value of a repeated key. -/
def lastOfKeys {A : Type} : List (String × A) → List (String × A)
  | [] => []
  | (key, value) :: later =>
      if key ∈ later.map Prod.fst then lastOfKeys later else (key, value) :: lastOfKeys later

def dumpsObject (members : List (String × String)) : String :=
  let sorted := (lastOfKeys members).mergeSort fun first second => first.1 ≤ second.1
  "\x7b" ++ ",".intercalate (sorted.map fun member => dumpsText member.1 ++ ":" ++ member.2) ++ "\x7d"

variable (floatText : Float → String)

mutual

/-- This is `json.dumps` with sorted keys and without spaces; `floatText` writes a float. -/
def dumps : Json → String
  | .null => "null"
  | .bool value => if value then "true" else "false"
  | .integer value => toString value
  | .number value => floatText value
  | .string value => dumpsText value
  | .array items => "[" ++ ",".intercalate (dumpsItems items) ++ "]"
  | .object members => dumpsObject (dumpsMembers members)

def dumpsItems : List Json → List String
  | [] => []
  | item :: rest => dumps item :: dumpsItems rest

def dumpsMembers : List (String × Json) → List (String × String)
  | [] => []
  | (key, value) :: rest => (key, dumps value) :: dumpsMembers rest

end

/-- A text never has the canonical bytes of a dictionary. -/
theorem encode_dumps_string_ne_object (text : String) (members : List (String × Json)) :
    encode (dumps floatText (.string text)) ≠ encode (dumps floatText (.object members)) := by
  intro same
  have texts := congrArg String.toList (encode_injective same)
  simp only [dumps, dumpsText, dumpsObject, String.toList_append] at texts
  have quote : "\"".toList = ['"'] := by decide
  have brace : "\x7b".toList = ['\x7b'] := by decide
  rw [quote, brace] at texts
  simp at texts

end Dumps

section Repr

/-- Double quotes are taken only for a text with single quotes and without double ones. -/
def reprQuote (text : List Char) : Char := if '\'' ∈ text ∧ '"' ∉ text then '"' else '\''

def hexUnits (width value : Nat) : List Char :=
  (List.range width).reverse.map fun place => hexDigit (value / 16 ^ place % 16)

/-- A character that `str.isprintable` refuses is written as its number. -/
def reprChar (printable : Char → Bool) (quote c : Char) : List Char :=
  if c = quote ∨ c = '\\' then ['\\', c]
  else if c = '\t' then ['\\', 't']
  else if c = '\n' then ['\\', 'n']
  else if c = '\r' then ['\\', 'r']
  else if printable c then [c]
  else if c.toNat ≤ 0xff then '\\' :: 'x' :: hexUnits 2 c.toNat
  else if c.toNat ≤ 0xffff then '\\' :: 'u' :: hexUnits 4 c.toNat
  else '\\' :: 'U' :: hexUnits 8 c.toNat

def reprText (printable : Char → Bool) (text : String) : String :=
  let quote := reprQuote text.toList
  String.ofList (quote :: text.toList.flatMap (reprChar printable quote) ++ [quote])

variable (printable : Char → Bool) (floatText : Float → String)

mutual

/-- This is `str` of a dictionary, a list or one of their items; `floatText` writes a float. -/
def reprJson : Json → String
  | .null => "None"
  | .bool value => if value then "True" else "False"
  | .integer value => toString value
  | .number value => floatText value
  | .string value => reprText printable value
  | .array items => "[" ++ ", ".intercalate (reprItems items) ++ "]"
  | .object members => "\x7b" ++ ", ".intercalate (reprMembers members) ++ "\x7d"

def reprItems : List Json → List String
  | [] => []
  | item :: rest => reprJson item :: reprItems rest

def reprMembers : List (String × Json) → List String
  | [] => []
  | (key, value) :: rest => (reprText printable key ++ ": " ++ reprJson value) :: reprMembers rest

end

example : reprJson (fun _ => true) toString (.object [("kyc_ok", .bool true), ("Y_x", .string "it's")]) =
    "\x7b'kyc_ok': True, 'Y_x': \"it's\"\x7d" := by decide +kernel

end Repr

end Pxtly.Foundation
