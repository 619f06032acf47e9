import AgentRuntime.Data.Text
import Mathlib.Data.List.SplitBy

/-!
# Python's strings and JSON values

What `json.loads` yields, as far as exceptions can depend on it. A string of Python is a list of code
points, and a lone surrogate may be one of them: `json.loads` reads it from an escape, and only encoding
the string fails. An integer has at most as many digits as the interpreter converts.
-/

namespace AgentRuntime.Python

/-- A code point. -/
abbrev CodePoint := Fin 0x110000

namespace CodePoint

def ofNat (n : Nat) (h : n < 0x110000 := by decide) : CodePoint := ⟨n, h⟩

/-- The code point is one half of a pair that encodes another one. -/
def isSurrogate (c : CodePoint) : Bool := 0xd800 ≤ c.val && c.val ≤ 0xdfff

def ofChar (c : Char) : CodePoint :=
  ⟨c.toNat, by
    have := c.valid
    rcases this with h | h
    · exact Nat.lt_trans h (by decide)
    · exact h.2⟩

/-- The character; a lone surrogate is shown as the replacement character. -/
def toChar (c : CodePoint) : Char := if c.isSurrogate then '\uFFFD' else Char.ofNat c.val

lemma isSurrogate_ofChar (c : Char) : (ofChar c).isSurrogate = false := by
  rw [isSurrogate, Bool.and_eq_false_iff, decide_eq_false_iff_not, decide_eq_false_iff_not]
  obtain below | ⟨above, -⟩ := c.valid
  · exact .inl (Nat.not_le.mpr below)
  · exact .inr (Nat.not_le.mpr above)

lemma toChar_ofChar (c : Char) : (ofChar c).toChar = c := by
  rw [toChar, isSurrogate_ofChar]
  exact Char.ofNat_toNat c

lemma ofChar_toChar {c : CodePoint} (plain : c.isSurrogate = false) : ofChar c.toChar = c := by
  have valid : c.val.isValidChar := by
    rw [isSurrogate, Bool.and_eq_false_iff, decide_eq_false_iff_not, decide_eq_false_iff_not] at plain
    have bound := c.isLt
    rw [Nat.isValidChar]
    omega
  have char : Char.ofNat c.val = Char.ofNatAux c.val valid := dif_pos valid
  rw [toChar, plain, if_neg Bool.false_ne_true, char]
  rfl

/-- Python's `str.isspace` for one character. -/
def isSpace (c : CodePoint) : Bool := Text.isSpace c.toChar

/-- The bytes of the character in UTF-8. -/
def utf8 (c : CodePoint) : List Nat :=
  let n := c.val
  if n < 0x80 then [n]
  else if n < 0x800 then [0xc0 + n / 0x40, 0x80 + n % 0x40]
  else if n < 0x10000 then [0xe0 + n / 0x1000, 0x80 + n / 0x40 % 0x40, 0x80 + n % 0x40]
  else [0xf0 + n / 0x40000, 0x80 + n / 0x1000 % 0x40, 0x80 + n / 0x40 % 0x40, 0x80 + n % 0x40]

end CodePoint

/-- A Python string. -/
abbrev PyStr := List CodePoint

namespace PyStr

def ofString (text : String) : PyStr := text.toList.map CodePoint.ofChar

/-- The string as it can be shown. -/
def shown (text : PyStr) : String := String.ofList (text.map CodePoint.toChar)

/-- The string has no lone surrogate: `text.encode("utf-8")` succeeds. -/
def encodable (text : PyStr) : Bool := text.all fun c => !c.isSurrogate

lemma encodable_ofString (text : String) : (ofString text).encodable = true := by
  simp [encodable, ofString, CodePoint.isSurrogate_ofChar]

lemma shown_ofString (text : String) : (ofString text).shown = text := by
  have same : CodePoint.toChar ∘ CodePoint.ofChar = id := funext CodePoint.toChar_ofChar
  rw [shown, ofString, List.map_map, same, List.map_id, String.ofList_toList]

lemma ofString_shown {text : PyStr} (spelled : text.encodable = true) : ofString text.shown = text := by
  rw [ofString, shown, String.toList_ofList, List.map_map]
  conv_rhs => rw [← List.map_id text]
  apply List.map_congr_left
  intro c mem
  have plain := List.all_eq_true.mp spelled c mem
  exact CodePoint.ofChar_toChar (by simpa using plain)

/-- `text.strip()` -/
def strip (text : PyStr) : PyStr :=
  ((text.dropWhile CodePoint.isSpace).reverse.dropWhile CodePoint.isSpace).reverse

/-- `text.split()` -/
def splitSpace (text : PyStr) : List PyStr :=
  (text.splitOnP CodePoint.isSpace).filter fun part => !part.isEmpty

/-- `text.replace(c, d)` for characters -/
def replaceChar (c d : CodePoint) (text : PyStr) : PyStr := text.map fun x => if x = c then d else x

/-- `text.partition(c)`, without the separator: what is before the first `c`, and what is behind it if there
    is one. -/
def partition (c : CodePoint) (text : PyStr) : PyStr × Option PyStr :=
  match text.span fun x => x ≠ c with
  | (before, []) => (before, none)
  | (before, _ :: after) => (before, some after)

/-- `text.rpartition(c)[2]`: what is behind the last `c`. -/
def behindLast (c : CodePoint) (text : PyStr) : PyStr :=
  (text.reverse.takeWhile fun x => x ≠ c).reverse

def isAsciiDigit (c : CodePoint) : Bool := 0x30 ≤ c.val && c.val ≤ 0x39

def isAsciiLetter (c : CodePoint) : Bool :=
  (0x41 ≤ c.val && c.val ≤ 0x5a) || (0x61 ≤ c.val && c.val ≤ 0x7a)

/-- The number that ASCII digits are. -/
def number (digits : PyStr) : Nat := digits.foldl (fun n c => 10 * n + (c.val - 0x30)) 0

/-- A string comes before another one, code point by code point. -/
def le : PyStr → PyStr → Bool
  | [], _ => true
  | _ :: _, [] => false
  | x :: xs, y :: ys => x.val < y.val || x = y && le xs ys

end PyStr

/-- The number of digits that the interpreter converts between text and an integer. -/
def maxStrDigits : Nat := 4300

/-- An integer that `json.loads` yields. -/
structure JsonInt where
  value : Int
  digits : (toString value.natAbs).length ≤ maxStrDigits

/-- A JSON value that `json.loads` yields. -/
inductive Value where
  | null
  | bool (value : Bool)
  | int (value : JsonInt)
  | float (bits : BitVec 64)
  | str (text : PyStr)
  | arr (items : List Value)
  | obj (fields : List (PyStr × Value))

namespace Value

/-- `object.get(key)` -/
def get? (fields : List (PyStr × Value)) (key : String) : Option Value :=
  fields.lookup (PyStr.ofString key)

/-- The values of a dictionary, and the items of a list. -/
def nested : Value → List Value
  | .arr items => items
  | .obj fields => fields.map Prod.snd
  | _ => []

mutual

/-- How deeply lists and dictionaries are nested. -/
def nesting : Value → Nat
  | .arr items => 1 + nestingItems items
  | .obj fields => 1 + nestingFields fields
  | _ => 0

def nestingItems : List Value → Nat
  | [] => 0
  | item :: items => max (nesting item) (nestingItems items)

def nestingFields : List (PyStr × Value) → Nat
  | [] => 0
  | (_, value) :: fields => max (nesting value) (nestingFields fields)

end

/-- `bool(value)` -/
def truthy : Value → Bool
  | .null => false
  | .bool value => value
  | .int value => value.value ≠ 0
  | .float bits => bits.extractLsb 62 0 ≠ 0
  | .str text => !text.isEmpty
  | .arr items => !items.isEmpty
  | .obj fields => !fields.isEmpty

end Value

section Dumps

/-- The hexadecimal digits of a control character in an escape. -/
def hex4 (n : Nat) : String :=
  "00" ++ String.ofList [Nat.digitChar (n / 16), Nat.digitChar (n % 16)]

/-- A character in a JSON string that is not restricted to ASCII. -/
def escaped (c : CodePoint) : PyStr :=
  let n := c.val
  if n = 0x22 then .ofString "\\\""
  else if n = 0x5c then .ofString "\\\\"
  else if n = 0x0a then .ofString "\\n"
  else if n = 0x0d then .ofString "\\r"
  else if n = 0x09 then .ofString "\\t"
  else if n = 0x08 then .ofString "\\b"
  else if n = 0x0c then .ofString "\\f"
  else if n < 0x20 then .ofString ("\\u" ++ hex4 n)
  else [c]

def quoted (text : PyStr) : PyStr :=
  .ofString "\"" ++ text.flatMap escaped ++ .ofString "\""

/-- Parts with a separator between them. -/
def join (separator : String) (parts : List PyStr) : PyStr :=
  (PyStr.ofString separator).intercalate parts

mutual

/-- `json.dumps(value, ensure_ascii=False, sort_keys=True)`, with the texts of floats given -/
def dumps (floatText : BitVec 64 → String) : Value → PyStr
  | .null => .ofString "null"
  | .bool value => .ofString (if value then "true" else "false")
  | .int value => .ofString (toString value.value)
  | .float bits => .ofString (floatText bits)
  | .str text => quoted text
  | .arr items => .ofString "[" ++ join ", " (dumpsItems floatText items) ++ .ofString "]"
  | .obj fields =>
    let sorted := (dumpsFields floatText fields).mergeSort fun x y => PyStr.le x.1 y.1
    .ofString "\x7b" ++ join ", " (sorted.map fun field => quoted field.1 ++ .ofString ": " ++ field.2) ++
      .ofString "\x7d"

def dumpsItems (floatText : BitVec 64 → String) : List Value → List PyStr
  | [] => []
  | item :: items => dumps floatText item :: dumpsItems floatText items

def dumpsFields (floatText : BitVec 64 → String) : List (PyStr × Value) → List (PyStr × PyStr)
  | [] => []
  | (key, value) :: fields => (key, dumps floatText value) :: dumpsFields floatText fields

end

end Dumps

end AgentRuntime.Python
