/-
# What the WireGuard library takes from its language

The library is written in Java. Its integers have fixed widths and wrap, a `byte` is
signed, and a string is a sequence of 16-bit code units. `>>>` shifts in zeros and `>>`
shifts in the sign.
-/

import Mathlib.Data.List.Basic

namespace Modvpn.Wireguard

abbrev JavaByte := BitVec 8

abbrev JavaChar := BitVec 16

abbrev JavaInt := BitVec 32

abbrev JavaLong := BitVec 64

namespace Java

/-- A `byte` in an expression. -/
abbrev ofByte (b : JavaByte) : JavaInt := b.signExtend 32

/-- A `char` in an expression. -/
abbrev ofChar (c : JavaChar) : JavaInt := c.setWidth 32

/-- The cast `(byte)`. -/
abbrev toByte (value : JavaInt) : JavaByte := value.setWidth 8

/-- The cast `(char)`. -/
abbrev toChar (value : JavaInt) : JavaChar := value.setWidth 16

/-- A character literal in an expression. -/
abbrev code (c : Char) : JavaInt := BitVec.ofNat 32 c.toNat

/-- The code units of a character, a surrogate pair beyond the basic plane. -/
def codeUnits (c : Char) : List JavaChar :=
  if c.toNat < 65536 then [BitVec.ofNat 16 c.toNat]
  else
    [BitVec.ofNat 16 (55296 + (c.toNat - 65536) / 1024),
      BitVec.ofNat 16 (56320 + (c.toNat - 65536) % 1024)]

/-- `String.toCharArray`. -/
def toCharArray (text : String) : List JavaChar := text.toList.flatMap codeUnits

/-- `new String(char[])`, for an array without surrogates. -/
def ofCharArray (units : List JavaChar) : String :=
  String.ofList (units.map fun unit => Char.ofNat unit.toNat)

end Java

end Modvpn.Wireguard
