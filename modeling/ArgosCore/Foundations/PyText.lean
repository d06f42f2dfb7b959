import Mathlib.Data.List.Basic

/-! Reading text the way a dynamic language does: white space and decimal digits of any
script, case folding for comparison with plain words. -/

namespace PyText

/-- `c.isspace()` -/
def isSpace (c : Char) : Bool :=
  let code := c.toNat
  (0x09 ≤ code && code ≤ 0x0d) || (0x1c ≤ code && code ≤ 0x20) || (0x2000 ≤ code && code ≤ 0x200a) ||
    [0x85, 0xa0, 0x1680, 0x2028, 0x2029, 0x202f, 0x205f, 0x3000].contains code

/-- `text.strip()` -/
def strip (chars : List Char) : List Char := ((chars.dropWhile isSpace).reverse.dropWhile isSpace).reverse

/-- `text.lower()`, as far as a comparison with words without `k` can tell: no other
character has an ASCII letter alone as its lower case. -/
def lower (chars : List Char) : List Char := chars.map Char.toLower

def zeros : List Nat :=
  [0x30, 0x660, 0x6f0, 0x7c0, 0x966, 0x9e6, 0xa66, 0xae6, 0xb66, 0xbe6, 0xc66, 0xce6, 0xd66, 0xde6, 0xe50, 0xed0, 0xf20,
    0x1040, 0x1090, 0x17e0, 0x1810, 0x1946, 0x19d0, 0x1a80, 0x1a90, 0x1b50, 0x1bb0, 0x1c40, 0x1c50, 0xa620, 0xa8d0,
    0xa900, 0xa9d0, 0xa9f0, 0xaa50, 0xabf0, 0xff10, 0x104a0, 0x10d30, 0x11066, 0x110f0, 0x11136, 0x111d0, 0x112f0,
    0x11450, 0x114d0, 0x11650, 0x116c0, 0x11730, 0x118e0, 0x11950, 0x11c50, 0x11d50, 0x11da0, 0x11f50, 0x16a60,
    0x16ac0, 0x16b50, 0x1d7ce, 0x1d7d8, 0x1d7e2, 0x1d7ec, 0x1d7f6, 0x1e140, 0x1e2f0, 0x1e4f0, 0x1e950, 0x1fbf0]

def digit? (c : Char) : Option Nat :=
  (zeros.find? fun first => first ≤ c.toNat && c.toNat < first + 10).map (c.toNat - ·)

/-- The longest decimal number that is converted. -/
def maxDigits : Nat := 4300

def readDecimal (chars : List Char) : Option Nat := do
  let groups := chars.splitOn '_'
  if groups.any List.isEmpty then none
  let digits ← groups.flatten.mapM digit?
  if digits.length ≤ maxDigits then return digits.foldl (fun value digit => value * 10 + digit) 0 else none

/-- `int(text)`; `none` is the value error. -/
def int? (text : String) : Option Int :=
  match strip text.toList with
  | '-' :: digits => (readDecimal digits).map fun value => -value
  | '+' :: digits => (readDecimal digits).map Int.ofNat
  | digits => (readDecimal digits).map Int.ofNat

example : int? " +1_2\n" = some 12 := by decide

end PyText
