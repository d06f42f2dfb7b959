import ArgosCore.Foundations.IsoTime
import ArgosCore.Foundations.JsonRoundTrip
import ArgosCore.Foundations.Sha256

/-! What the services take from the interpreter and its standard library. Clock
readings and random identifiers are inputs of the calls that use them; SHA-256
and the `repr` of a string are parameters of the whole model. -/

namespace ArgosCore
open IsoTime

def isHexDigit (c : Char) : Bool := c.isDigit || ('a' ≤ c && c ≤ 'f')

theorem hexDigit_isHexDigit (n : Nat) : isHexDigit (Json.hexDigit n) = true := by
  have digits : ∀ d < 16, isHexDigit d.digitChar = true := by decide
  exact digits (n % 16) (Nat.mod_lt _ (by omega))

def reprBool (value : Bool) : String := if value then "True" else "False"

class Runtime where
  /-- `hashlib.sha256(data).hexdigest()` -/
  sha256 : ByteArray → String
  /-- `repr(text)` of a string -/
  reprStr : String → String
  sha256_hex : ∀ data, (sha256 data).toList.all isHexDigit = true

section
variable [Runtime]

/-- `"sha256:" + hashlib.sha256(text.encode("utf-8")).hexdigest()` -/
def hashText (text : String) : String := "sha256:" ++ Runtime.sha256 text.toUTF8

def hashJson (value : Json) : String := hashText value.canonical

/-- A hexadecimal digest has 64 characters. No function meets both this and the
idealisation below, so no statement assumes the two together. -/
def FullDigests : Prop := ∀ data, (Runtime.sha256 data).length = 64

/-- The usual idealisation of SHA-256: different data have different digests. -/
def CollisionFree : Prop := Function.Injective (Runtime.sha256 : ByteArray → String)

theorem CollisionFree.hashText (free : CollisionFree) {left right : String}
    (same : hashText left = hashText right) : left = right := by
  have digests : Runtime.sha256 left.toUTF8 = Runtime.sha256 right.toUTF8 := by
    simpa [ArgosCore.hashText, String.append_right_inj] using same
  exact String.toByteArray_inj.mp (free digests)

theorem CollisionFree.hashJson (free : CollisionFree) {left right : Json} (first : left.Distinct)
    (second : right.Distinct) (same : hashJson left = hashJson right) : left.sortKeys = right.sortKeys :=
  Json.canonical_injective first second (free.hashText same)

theorem hashJson_congr {left right : Json} (same : left.sortKeys = right.sortKeys) : hashJson left = hashJson right := by
  rw [hashJson, hashJson, Json.canonical, Json.canonical, same]

theorem CollisionFree.hashJson_eq_iff (free : CollisionFree) {left right : Json} (first : left.Distinct)
    (second : right.Distinct) : ArgosCore.hashJson left = ArgosCore.hashJson right ↔ left.sortKeys = right.sortKeys := by
  constructor
  · exact free.hashJson first second
  · exact hashJson_congr

omit [Runtime] in
private theorem spelled_injective {left right : List UInt8}
    (same : left.flatMap (fun byte => [Json.hexDigit (byte.toNat / 16), Json.hexDigit byte.toNat]) =
      right.flatMap (fun byte => [Json.hexDigit (byte.toNat / 16), Json.hexDigit byte.toNat])) : left = right := by
  induction left generalizing right with
  | nil =>
    cases right with
    | nil => rfl
    | cons byte right => cases same
  | cons byte left ih =>
    cases right with
    | nil => cases same
    | cons other right =>
      simp only [List.flatMap_cons, List.cons_append, List.nil_append, List.cons.injEq] at same
      obtain ⟨high, low, rest⟩ := same
      have highs := congrArg Json.hexValue high
      have lows := congrArg Json.hexValue low
      simp only [Json.hexValue_hexDigit, Option.some.injEq] at highs lows
      have first := byte.toNat_lt
      have second := other.toNat_lt
      rw [ih rest, UInt8.toNat_inj.mp (by omega : byte.toNat = other.toNat)]

/-- A digest that spells the data out in hexadecimal. It shows that the
idealisation can be met; `repr` is the one of text without special characters. -/
@[reducible] def Runtime.transparent : Runtime where
  sha256 data := String.ofList (data.data.toList.flatMap fun byte =>
    [Json.hexDigit (byte.toNat / 16), Json.hexDigit byte.toNat])
  reprStr text := "'" ++ text ++ "'"
  sha256_hex data := by
    rw [String.toList_ofList, List.all_flatMap, List.all_eq_true]
    intro byte _
    simp [hexDigit_isHexDigit]

omit [Runtime] in
theorem Runtime.transparent_collisionFree : @CollisionFree Runtime.transparent := by
  intro left right same
  have bytes := spelled_injective (String.ofList_injective same)
  cases left
  cases right
  exact congrArg ByteArray.mk (Array.toList_inj.mp bytes)

/-- SHA-256 itself, which has collisions. -/
@[reducible] def Runtime.standard : Runtime where
  sha256 := Sha256.hexdigest
  reprStr text := "'" ++ text ++ "'"
  sha256_hex data := by
    rw [List.all_eq_true]
    intro c member
    obtain ⟨digit, small, rfl⟩ := Sha256.exists_of_mem_hexdigest member
    rw [← Nat.mod_eq_of_lt small]
    exact hexDigit_isHexDigit digit

omit [Runtime] in
theorem Runtime.standard_fullDigests : @FullDigests Runtime.standard := Sha256.length_hexdigest

def reprList (items : List String) : String :=
  "[" ++ String.intercalate ", " (items.map Runtime.reprStr) ++ "]"

mutual
/-- `repr(value)` of a decoded document. -/
def reprJson : Json → String
  | .null => "None"
  | .bool value => reprBool value
  | .int value => toString value
  | .str text => Runtime.reprStr text
  | .arr items => "[" ++ String.intercalate ", " (reprItems items) ++ "]"
  | .obj members => "\x7b" ++ String.intercalate ", " (reprMembers members) ++ "\x7d"

def reprItems : List Json → List String
  | [] => []
  | item :: items => reprJson item :: reprItems items

def reprMembers : List (String × Json) → List String
  | [] => []
  | (key, value) :: members => (Runtime.reprStr key ++ ": " ++ reprJson value) :: reprMembers members
end

/-- `str(value)`: a string is its own text. -/
def strJson : Json → String
  | .str text => text
  | value => reprJson value

end

/-- `value or default` of an optional string: the empty string counts as absent. -/
def orDefault (value : Option String) (default : String) : String := (value.filter (· ≠ "")).getD default

def optionalStr : Option String → Json
  | none => .null
  | some text => .str text

/-- The clock reading and the random UUID that a call draws. -/
structure Draw where
  now : Instant
  uuid : BitVec 128

def uuidHex (uuid : BitVec 128) : List Char :=
  (List.range 32).reverse.map fun position => Json.hexDigit (uuid.toNat / 16 ^ position)

/-- `new_id_prefixed`: the domain's name, a hyphen and as much of the UUID as fits in 36 characters. -/
def newIdPrefixed (domain : String) (uuid : BitVec 128) : String :=
  domain ++ "-" ++ String.ofList ((uuidHex uuid).take (36 - domain.length - 1))

/-- `utc_now_iso()` -/
def Draw.utcNowIso (draw : Draw) : String := isoformat draw.now

end ArgosCore
