import ArgosCore.Foundations.Json

/-! JSON text. `dumps` writes a value with `,` and `:` as separators, `spaced` with a
blank behind them, escaping either every character outside printable ASCII or only
what JSON requires; `loads` is a strict reader that also accepts whitespace. -/

namespace Json

def hexDigit (n : Nat) : Char := Nat.digitChar (n % 16)

def escapeUnit (unit : Nat) : List Char :=
  ['\\', 'u', hexDigit (unit / 4096), hexDigit (unit / 256), hexDigit (unit / 16), hexDigit unit]

def escapeChar (ensureAscii : Bool) (c : Char) : List Char :=
  if c = '"' then ['\\', '"']
  else if c = '\\' then ['\\', '\\']
  else if c = '\n' then ['\\', 'n']
  else if c = '\r' then ['\\', 'r']
  else if c = '\t' then ['\\', 't']
  else if c.toNat = 8 then ['\\', 'b']
  else if c.toNat = 12 then ['\\', 'f']
  else if c.toNat < 32 then escapeUnit c.toNat
  else if ensureAscii && 126 < c.toNat then
    -- Characters beyond the basic plane are written as a surrogate pair.
    if c.toNat < 0x10000 then escapeUnit c.toNat
    else escapeUnit (0xd800 + (c.toNat - 0x10000) / 0x400) ++ escapeUnit (0xdc00 + (c.toNat - 0x10000) % 0x400)
  else [c]

def dumpString (ensureAscii : Bool) (text : String) : List Char :=
  '"' :: text.toList.flatMap (escapeChar ensureAscii) ++ ['"']

def dumpInt : Int → List Char
  | .ofNat n => Nat.toDigits 10 n
  | .negSucc n => '-' :: Nat.toDigits 10 (n + 1)

mutual
def dumpValue (ensureAscii : Bool) : Json → List Char
  | .null => ['n', 'u', 'l', 'l']
  | .bool true => ['t', 'r', 'u', 'e']
  | .bool false => ['f', 'a', 'l', 's', 'e']
  | .int value => dumpInt value
  | .str value => dumpString ensureAscii value
  | .arr [] => ['[', ']']
  | .arr (item :: items) => '[' :: (dumpValue ensureAscii item ++ dumpItems ensureAscii items)
  | .obj [] => ['{', '}']
  | .obj ((key, value) :: members) =>
    '{' :: (dumpString ensureAscii key ++ ':' :: (dumpValue ensureAscii value ++ dumpMembers ensureAscii members))

def dumpItems (ensureAscii : Bool) : List Json → List Char
  | [] => [']']
  | item :: items => ',' :: (dumpValue ensureAscii item ++ dumpItems ensureAscii items)

def dumpMembers (ensureAscii : Bool) : List (String × Json) → List Char
  | [] => ['}']
  | (key, value) :: members =>
    ',' :: (dumpString ensureAscii key ++ ':' :: (dumpValue ensureAscii value ++ dumpMembers ensureAscii members))
end

/-- `json.dumps(value, ensure_ascii=..., separators=(",", ":"))`, keys in insertion order. -/
def dumps (ensureAscii : Bool) (value : Json) : String := String.ofList (dumpValue ensureAscii value)

/-- `json.dumps(value, sort_keys=True, separators=(",", ":"))`, the form that is hashed. -/
def canonical (value : Json) : String := dumps true value.sortKeys

mutual
def writeValue (ensureAscii : Bool) (blanks : List Char) : Json → List Char
  | .null => ['n', 'u', 'l', 'l']
  | .bool true => ['t', 'r', 'u', 'e']
  | .bool false => ['f', 'a', 'l', 's', 'e']
  | .int value => dumpInt value
  | .str value => dumpString ensureAscii value
  | .arr [] => ['[', ']']
  | .arr (item :: items) => '[' :: (writeValue ensureAscii blanks item ++ writeItems ensureAscii blanks items)
  | .obj [] => ['{', '}']
  | .obj ((key, value) :: members) => '{' :: (dumpString ensureAscii key ++
      ':' :: (blanks ++ (writeValue ensureAscii blanks value ++ writeMembers ensureAscii blanks members)))

def writeItems (ensureAscii : Bool) (blanks : List Char) : List Json → List Char
  | [] => [']']
  | item :: items => ',' :: (blanks ++ (writeValue ensureAscii blanks item ++ writeItems ensureAscii blanks items))

def writeMembers (ensureAscii : Bool) (blanks : List Char) : List (String × Json) → List Char
  | [] => ['}']
  | (key, value) :: members => ',' :: (blanks ++ (dumpString ensureAscii key ++
      ':' :: (blanks ++ (writeValue ensureAscii blanks value ++ writeMembers ensureAscii blanks members))))
end

/-- `json.dumps(value, sort_keys=True, ensure_ascii=...)`, whose separators end in a blank. -/
def spaced (ensureAscii : Bool) (value : Json) : String := String.ofList (writeValue ensureAscii [' '] value.sortKeys)

def hexValue (c : Char) : Option Nat :=
  let n := c.toNat
  if 48 ≤ n ∧ n ≤ 57 then some (n - 48)
  else if 97 ≤ n ∧ n ≤ 102 then some (n - 87)
  else if 65 ≤ n ∧ n ≤ 70 then some (n - 55)
  else none

def readUnit : List Char → Option (Nat × List Char)
  | a :: b :: c :: d :: rest => do
    return ((← hexValue a) * 4096 + (← hexValue b) * 256 + (← hexValue c) * 16 + (← hexValue d), rest)
  | _ => none

/-- The meaning of `\u`: a leading surrogate must be followed by a trailing one.
A lone surrogate is no character of a Unicode text and is refused here. -/
def readEscape (chars : List Char) : Option (Char × List Char) := do
  let (unit, rest) ← readUnit chars
  if 0xd800 ≤ unit ∧ unit ≤ 0xdbff then
    match rest with
    | '\\' :: 'u' :: rest =>
      let (low, rest) ← readUnit rest
      if 0xdc00 ≤ low ∧ low ≤ 0xdfff then
        return (Char.ofNat (0x10000 + (unit - 0xd800) * 0x400 + (low - 0xdc00)), rest)
      else none
    | _ => none
  else if 0xdc00 ≤ unit ∧ unit ≤ 0xdfff then none
  else return (Char.ofNat unit, rest)

def simpleEscape (c : Char) : Option Char :=
  if c = '"' ∨ c = '\\' ∨ c = '/' then some c
  else if c = 'b' then some (Char.ofNat 8)
  else if c = 'f' then some (Char.ofNat 12)
  else if c = 'n' then some '\n'
  else if c = 'r' then some '\r'
  else if c = 't' then some '\t'
  else none

def readChar : List Char → Option (Char × List Char)
  | [] => none
  | c :: rest =>
    if c = '\\' then
      match rest with
      | [] => none
      | e :: rest => if e = 'u' then readEscape rest else (simpleEscape e).map (·, rest)
    else if c.toNat < 32 then none
    else some (c, rest)

def readString : Nat → List Char → Option (List Char × List Char)
  | 0, _ => none
  | fuel + 1, chars =>
    match chars with
    | '"' :: rest => some ([], rest)
    | chars => do
      let (c, rest) ← readChar chars
      let (text, rest) ← readString fuel rest
      return (c :: text, rest)

def isSpace (c : Char) : Bool := c = ' ' || c = '\t' || c = '\n' || c = '\r'

def skipSpace (chars : List Char) : List Char := chars.dropWhile isSpace

/-- Digits without a redundant leading zero. A fraction or an exponent makes the
number a float, which `Json` does not represent. -/
def readNat (chars : List Char) : Option (Nat × List Char) :=
  let digits := chars.takeWhile Char.isDigit
  let rest := chars.dropWhile Char.isDigit
  match digits, rest with
  | [], _ => none
  | '0' :: _ :: _, _ => none
  | _, '.' :: _ | _, 'e' :: _ | _, 'E' :: _ => none
  | digits, rest => some (Nat.ofDigitChars 10 digits 0, rest)

def readInt : List Char → Option (Int × List Char)
  | '-' :: rest => (readNat rest).map fun (n, rest) => (-(n : Int), rest)
  | chars => (readNat chars).map fun (n, rest) => ((n : Int), rest)

mutual
def readValue : Nat → List Char → Option (Json × List Char)
  | 0, _ => none
  | fuel + 1, chars =>
    match chars with
    | '"' :: rest => (readString fuel rest).map fun (text, rest) => (.str (String.ofList text), rest)
    | '{' :: rest =>
      match skipSpace rest with
      | '}' :: rest => some (.obj [], rest)
      | rest => (readMembers fuel rest).map fun (members, rest) =>
          (.obj (Dict.setAll [] members), rest)
    | '[' :: rest =>
      match skipSpace rest with
      | ']' :: rest => some (.arr [], rest)
      | rest => (readItems fuel rest).map fun (items, rest) => (.arr items, rest)
    | 'n' :: 'u' :: 'l' :: 'l' :: rest => some (.null, rest)
    | 't' :: 'r' :: 'u' :: 'e' :: rest => some (.bool true, rest)
    | 'f' :: 'a' :: 'l' :: 's' :: 'e' :: rest => some (.bool false, rest)
    | chars => (readInt chars).map fun (n, rest) => (.int n, rest)

def readItems : Nat → List Char → Option (List Json × List Char)
  | 0, _ => none
  | fuel + 1, chars => do
    let (item, rest) ← readValue fuel chars
    match skipSpace rest with
    | ']' :: rest => return ([item], rest)
    | ',' :: rest =>
      let (items, rest) ← readItems fuel (skipSpace rest)
      return (item :: items, rest)
    | _ => none

def readMembers : Nat → List Char → Option (List (String × Json) × List Char)
  | 0, _ => none
  | fuel + 1, chars =>
    match chars with
    | '"' :: rest => do
      let (key, rest) ← readString fuel rest
      match skipSpace rest with
      | ':' :: rest =>
        let (value, rest) ← readValue fuel (skipSpace rest)
        match skipSpace rest with
        | '}' :: rest => return ([(String.ofList key, value)], rest)
        | ',' :: rest =>
          let (members, rest) ← readMembers fuel (skipSpace rest)
          return ((String.ofList key, value) :: members, rest)
        | _ => none
      | _ => none
    | _ => none
end

/-- `json.loads(text)`; `none` is a decoding error. A later duplicate of a key
replaces the earlier one. The reader consumes a character at every nested call,
so its fuel never runs out on a text of this length. -/
def loads (chars : List Char) : Option Json :=
  match readValue (chars.length + 1) (skipSpace chars) with
  | some (value, rest) => if (skipSpace rest).isEmpty then some value else none
  | none => none

end Json
