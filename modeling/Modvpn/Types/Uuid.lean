/-
# Universally unique identifiers and their text

Identifiers travel as values and rest in the database as text. A value is its 32
hexadecimal digits, which the type insists on, and `toText` is the hyphenated
lower-case form. `parseStr` accepts what the uuid crate accepts: the simple, the
hyphenated, the braced and the URN form, in either case. Reading back a written
identifier therefore cannot fail, which is what every unwrap of a stored
identifier relies on.
-/

import Mathlib.Algebra.GroupWithZero.Nat
import Mathlib.Data.List.Basic

namespace Modvpn

/-- A 128-bit identifier as its hexadecimal digits, most significant first. -/
structure Uuid where
  digits : List (Fin 16)
  length_digits : digits.length = 32
  deriving DecidableEq

namespace Uuid

/-- Digits can be written as numerals. -/
instance neZero_base : NeZero 16 := ⟨Nat.succ_ne_zero 15⟩

/-- The lower-case hexadecimal character of a digit. -/
def hexChar (digit : Fin 16) : Char :=
  if digit.val < 10 then Char.ofNat (48 + digit.val) else Char.ofNat (87 + digit.val)

/-- The digit of a hexadecimal character of either case. -/
def hexValue (c : Char) : Option (Fin 16) :=
  if '0' ≤ c ∧ c ≤ '9' then some (Fin.ofNat 16 (c.toNat - 48))
  else if 'a' ≤ c ∧ c ≤ 'f' then some (Fin.ofNat 16 (c.toNat - 87))
  else if 'A' ≤ c ∧ c ≤ 'F' then some (Fin.ofNat 16 (c.toNat - 55))
  else none

theorem hexValue_hexChar (digit : Fin 16) : hexValue (hexChar digit) = some digit := by
  revert digit
  decide

/-- The identifier spelled by 32 hexadecimal characters. -/
def ofHex (chars : List Char) : Option Uuid :=
  match chars.mapM hexValue with
  | none => none
  | some digits =>
      if length_digits : digits.length = 32 then some ⟨digits, length_digits⟩ else none

theorem mapM_hexValue (digits : List (Fin 16)) :
    (digits.map hexChar).mapM hexValue = some digits := by
  induction digits with
  | nil => rfl
  | cons digit rest ih =>
      simp only [List.map_cons, List.mapM_cons, hexValue_hexChar, ih]
      rfl

theorem ofHex_digits (id : Uuid) : ofHex (id.digits.map hexChar) = some id := by
  simp only [ofHex, mapM_hexValue, id.length_digits, ↓reduceDIte]

/-- Insert the hyphens of the 8-4-4-4-12 layout. -/
def hyphenate (hex : List Char) : List Char :=
  hex.take 8 ++ '-' :: ((hex.drop 8).take 4 ++ '-' :: ((hex.drop 12).take 4 ++
    '-' :: ((hex.drop 16).take 4 ++ '-' :: hex.drop 20)))

/-- Remove the hyphens of the 8-4-4-4-12 layout, or fail if one is missing. -/
def unhyphenate (chars : List Char) : Option (List Char) :=
  if chars[8]? = some '-' ∧ chars[13]? = some '-' ∧ chars[18]? = some '-' ∧
      chars[23]? = some '-' then
    some (chars.take 8 ++ (chars.drop 9).take 4 ++ (chars.drop 14).take 4 ++
      (chars.drop 19).take 4 ++ chars.drop 24)
  else none

theorem length_hyphenate {hex : List Char} (h : hex.length = 32) :
    (hyphenate hex).length = 36 := by
  simp [hyphenate, h]

theorem unhyphenate_hyphenate {hex : List Char} (h : hex.length = 32) :
    unhyphenate (hyphenate hex) = some hex := by
  have hsplit : hyphenate hex = hex.take 8 ++ ('-' :: (hex.drop 8).take 4) ++
      ('-' :: (hex.drop 12).take 4) ++ ('-' :: (hex.drop 16).take 4) ++
      ('-' :: hex.drop 20) := by
    simp [hyphenate]
  have hjoin : hex.take 8 ++ (hex.drop 8).take 4 ++ (hex.drop 12).take 4 ++
      (hex.drop 16).take 4 ++ hex.drop 20 = hex := by
    rw [← List.take_add (i := 8) (j := 4), ← List.take_add (i := 12) (j := 4),
      ← List.take_add (i := 16) (j := 4), List.take_append_drop]
  rw [hsplit, unhyphenate, if_pos]
  · simpa [List.take_append, List.drop_append, List.drop_take, h] using hjoin
  · simp [h]

/-- `Uuid::to_string`: the hyphenated lower-case form. -/
def toText (id : Uuid) : String :=
  String.ofList (hyphenate (id.digits.map hexChar))

/-- `Uuid::parse_str`. -/
def parseStr (text : String) : Option Uuid :=
  let chars := text.toList
  if chars.length = 32 then ofHex chars
  else if chars.length = 36 then (unhyphenate chars).bind ofHex
  else if chars.length = 38 ∧ chars.head? = some '{' ∧ chars.getLast? = some '}' then
    (unhyphenate ((chars.drop 1).take 36)).bind ofHex
  else if chars.length = 45 ∧ chars.take 9 = "urn:uuid:".toList then
    (unhyphenate (chars.drop 9)).bind ofHex
  else none

@[simp]
theorem parseStr_toText (id : Uuid) : parseStr id.toText = some id := by
  have hlength : (id.digits.map hexChar).length = 32 := by simp [id.length_digits]
  simp only [parseStr, toText, String.toList_ofList, length_hyphenate hlength,
    unhyphenate_hyphenate hlength, Option.bind_some, ofHex_digits]
  simp

theorem toText_injective : Function.Injective toText := by
  intro first second h
  have hparsed : parseStr first.toText = parseStr second.toText := congrArg parseStr h
  simpa using hparsed

@[simp]
theorem toText_inj {first second : Uuid} : first.toText = second.toText ↔ first = second :=
  toText_injective.eq_iff

/-- The identifier that repeats one digit. -/
def replicate (digit : Fin 16) : Uuid where
  digits := List.replicate 32 digit
  length_digits := List.length_replicate

example : (replicate 10).toText = "aaaaaaaa-aaaa-aaaa-aaaa-aaaaaaaaaaaa" := by
  decide +kernel

end Uuid

end Modvpn
