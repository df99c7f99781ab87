/-
# Keys and their text

A key is 32 bytes. Its base64 and hexadecimal texts are read and written without
branches on the key, so that the time taken tells nothing about it: which range a
character lies in is found from the signs of differences.
-/

import Modvpn.Wireguard.Java

namespace Modvpn.Wireguard

open Java

namespace Key

inductive Format
  | base64
  | binary
  | hex
  deriving DecidableEq

def Format.length : Format → Nat
  | .base64 => 44
  | .binary => 32
  | .hex => 64

end Key

namespace KeyFormatException

inductive Kind
  | contents
  | length
  deriving DecidableEq

end KeyFormatException

structure KeyFormatException where
  format : Key.Format
  type : KeyFormatException.Kind
  deriving DecidableEq

structure Key where
  bytes : List JavaByte
  length_bytes : bytes.length = Key.Format.length .binary
  deriving DecidableEq

namespace Key

/-! ## Base64 -/

/-- The offset where `low ≤ c ≤ high`, and zero elsewhere. -/
def select (low high : Char) (c offset : JavaInt) : JavaInt :=
  ((((code low - 1) - c) &&& (c - (code high + 1))) >>> 8) &&& offset

/-- The six bits that a character stands for, or -1. -/
def sextet (c : JavaInt) : JavaInt :=
  -1
    + select 'A' 'Z' c (c - 64)
    + select 'a' 'z' c (c - 70)
    + select '0' '9' c (c + 5)
    + select '+' '+' c 63
    + select '/' '/' c 64

def decodeBase64 (c₀ c₁ c₂ c₃ : JavaChar) : JavaInt :=
  sextet (ofChar c₀) <<< 18 ||| sextet (ofChar c₁) <<< 12 ||| sextet (ofChar c₂) <<< 6 |||
    sextet (ofChar c₃) <<< 0

/-- The offset where `input` exceeds the bound, and zero elsewhere. -/
def beyond (bound input offset : JavaInt) : JavaInt := ((bound - input) >>> 8) &&& offset

/-- The character that stands for six bits. -/
def letter (input : JavaByte) : JavaChar :=
  toChar (ofByte input + code 'A'
    + beyond 25 (ofByte input) 6
    - beyond 51 (ofByte input) 75
    - beyond 61 (ofByte input) 15
    + beyond 62 (ofByte input) 3)

def encodeBase64 (b₀ b₁ b₂ : JavaByte) : List JavaChar :=
  [toByte ((ofByte b₀ >>> 2) &&& 63),
    toByte ((ofByte b₀ <<< 4 ||| ((ofByte b₁ &&& 0xff) >>> 4)) &&& 63),
    toByte ((ofByte b₁ <<< 2 ||| ((ofByte b₂ &&& 0xff) >>> 6)) &&& 63),
    toByte (ofByte b₂ &&& 63)].map letter

/-- The loop of `fromBase64`, with the end segment after so many full ones: the bytes,
and bits that are set where the text is no base64. -/
def readSegments : Nat → List JavaChar → List JavaByte × JavaInt
  | 0, c₀ :: c₁ :: c₂ :: _ =>
      let val := decodeBase64 c₀ c₁ c₂ (toChar (code 'A'))
      ([toByte ((val >>> 16) &&& 0xff), toByte ((val >>> 8) &&& 0xff)],
        (val >>> 31) ||| (val &&& 0xff))
  | segments + 1, c₀ :: c₁ :: c₂ :: c₃ :: input =>
      let val := decodeBase64 c₀ c₁ c₂ c₃
      let (key, ret) := readSegments segments input
      (toByte ((val >>> 16) &&& 0xff) :: toByte ((val >>> 8) &&& 0xff) ::
          toByte (val &&& 0xff) :: key,
        (val >>> 31) ||| ret)
  | _, _ => ([], 0)

theorem length_readSegments (segments : Nat) (input : List JavaChar)
    (h : input.length = 4 * segments + 4) :
    (readSegments segments input).1.length = 3 * segments + 2 := by
  induction segments generalizing input with
  | zero =>
      match input, h with
      | [_, _, _, _], _ => rfl
  | succ segments ih =>
      match input, h with
      | c₀ :: c₁ :: c₂ :: c₃ :: input, h =>
          have hrest : input.length = 4 * segments + 4 := by simpa [Nat.mul_succ] using h
          simp [readSegments, ih input hrest]
          omega

def fromBase64 (str : String) : Except KeyFormatException Key :=
  let input := toCharArray str
  if h : input.length ≠ Format.length .base64 ∨ input.getLast? ≠ some (toChar (code '=')) then
    .error ⟨.base64, .length⟩
  else
    have hlength : input.length = 4 * 10 + 4 := by simpa [Format.length] using (not_or.mp h).1
    let result := readSegments 10 input
    if result.2 ≠ 0 then .error ⟨.base64, .contents⟩
    else .ok ⟨result.1, length_readSegments 10 input hlength⟩

/-- The loop of `toBase64`, with the end segment. -/
def writeSegments : Nat → List JavaByte → List JavaChar
  | 0, b₀ :: b₁ :: _ => (encodeBase64 b₀ b₁ 0).take 3 ++ [toChar (code '=')]
  | segments + 1, b₀ :: b₁ :: b₂ :: key => encodeBase64 b₀ b₁ b₂ ++ writeSegments segments key
  | _, _ => []

def toBase64 (key : Key) : String := ofCharArray (writeSegments 10 key.bytes)

/-! ## Hexadecimal -/

/-- The four bits that a digit stands for, and bits that are set where it is none. -/
def nibble (c : JavaInt) : JavaInt × JavaInt :=
  let cNum := c ^^^ 48
  let cNum0 := ((cNum - 10) >>> 8) &&& 0xff
  let cAlpha := (c &&& ~~~32) - 55
  let cAlpha0 := (((cAlpha - 10) ^^^ (cAlpha - 16)) >>> 8) &&& 0xff
  ((cNum0 &&& cNum) ||| (cAlpha0 &&& cAlpha), ((cNum0 ||| cAlpha0) - 1) >>> 8)

/-- The loop of `fromHex`. -/
def readPairs : List JavaChar → List JavaByte × JavaInt
  | c₀ :: c₁ :: input =>
      let (cVal₀, ret₀) := nibble (ofChar c₀)
      let (cVal₁, ret₁) := nibble (ofChar c₁)
      let (key, ret) := readPairs input
      (toByte (cVal₀ * 16 ||| cVal₁) :: key, ret₀ ||| ret₁ ||| ret)
  | _ => ([], 0)

theorem length_readPairs (count : Nat) (input : List JavaChar) (h : input.length = 2 * count) :
    (readPairs input).1.length = count := by
  induction count generalizing input with
  | zero =>
      match input, h with
      | [], _ => rfl
  | succ count ih =>
      match input, h with
      | _ :: _ :: input, h =>
          have hrest : input.length = 2 * count := by simpa [Nat.mul_succ] using h
          simp [readPairs, ih input hrest]

def fromHex (str : String) : Except KeyFormatException Key :=
  let input := toCharArray str
  if h : input.length ≠ Format.length .hex then .error ⟨.hex, .length⟩
  else
    have hlength : input.length = 2 * 32 := by simpa [Format.length] using h
    let result := readPairs input
    if result.2 ≠ 0 then .error ⟨.hex, .contents⟩
    else .ok ⟨result.1, length_readPairs 32 input hlength⟩

/-- The digit of four bits. -/
def hexDigit (value : JavaInt) : JavaChar :=
  toChar (87 + (value &&& 0xf) + ((((value &&& 0xf) - 10).sshiftRight 8) &&& ~~~38))

def toHex (key : Key) : String :=
  ofCharArray (key.bytes.flatMap fun b =>
    [hexDigit ((ofByte b).sshiftRight 4), hexDigit (ofByte b)])

end Key

end Modvpn.Wireguard
