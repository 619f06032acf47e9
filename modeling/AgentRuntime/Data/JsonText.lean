import AgentRuntime.Data.Json

/-!
# JSON text

`json.loads` and `json.dumps` of Python's standard library, on lists of characters: the reader with its
white space, escapes and numbers, and the writer in the styles that the modelled code uses. How floats
are spelled is a parameter (`FloatCodec`), and so are the limits that the interpreter sets to the digits of
an integer and to the nesting of brackets (`JsonLimits`). The main result is that the reader takes the text
of every value within the limits back to that value, whatever follows the text.
-/

namespace AgentRuntime

section Digits

/-- The value of a hexadecimal digit. -/
def hexValue? (c : Char) : Option Nat :=
  if c.isDigit then some (c.toNat - 48)
  else if 97 ≤ c.toNat && c.toNat ≤ 102 then some (c.toNat - 87)
  else if 65 ≤ c.toNat && c.toNat ≤ 70 then some (c.toNat - 55)
  else none

/-- The value of four hexadecimal digits. -/
def hexValue4? (a b c d : Char) : Option Nat := do
  let a ← hexValue? a
  let b ← hexValue? b
  let c ← hexValue? c
  let d ← hexValue? d
  pure (((a * 16 + b) * 16 + c) * 16 + d)

/-- `format(n, "04x")` -/
def hexDigits4 (n : Nat) : List Char :=
  [Nat.digitChar (n / 4096), Nat.digitChar (n / 256 % 16), Nat.digitChar (n / 16 % 16),
    Nat.digitChar (n % 16)]

lemma hexValue?_digitChar : ∀ {n : Nat}, n < 16 → hexValue? n.digitChar = some n := by decide

lemma hexValue4?_hexDigits4 {n : Nat} (h : n < 65536) :
    hexValue4? (Nat.digitChar (n / 4096)) (Nat.digitChar (n / 256 % 16))
      (Nat.digitChar (n / 16 % 16)) (Nat.digitChar (n % 16)) = some n := by
  simp only [hexValue4?, hexValue?_digitChar (show n / 4096 < 16 by omega),
    hexValue?_digitChar (Nat.mod_lt _ (show 0 < 16 by decide))]
  show some _ = some n
  rw [Option.some_inj]
  omega

end Digits

section Numbers

/-- The digits of a whole number, which has no leading zero. -/
def IsWhole (digits : List Char) : Prop :=
  digits = ['0'] ∨ ∃ c rest, digits = c :: rest ∧ c ≠ '0' ∧ ∀ d ∈ c :: rest, d.isDigit = true

/-- A fraction, which may be missing. -/
def IsFraction (text : List Char) : Prop :=
  text = [] ∨ ∃ digits, text = '.' :: digits ∧ digits ≠ [] ∧ ∀ d ∈ digits, d.isDigit = true

/-- An exponent, which may be missing. -/
def IsExponent (text : List Char) : Prop :=
  text = [] ∨ ∃ mark sign digits, text = mark :: (sign ++ digits) ∧ (mark = 'e' ∨ mark = 'E') ∧
    (sign = [] ∨ sign = ['+'] ∨ sign = ['-']) ∧ digits ≠ [] ∧ ∀ d ∈ digits, d.isDigit = true

/-- A number with a fraction or an exponent. -/
inductive IsFloat : List Char → Prop where
  | mk {sign whole fraction exponent : List Char} :
    sign = [] ∨ sign = ['-'] →
    IsWhole whole →
    IsFraction fraction →
    IsExponent exponent →
    fraction ≠ [] ∨ exponent ≠ [] →
    IsFloat (sign ++ whole ++ fraction ++ exponent)

/-- How floats are written and read: Python's `repr` of a float and `float` of a text. A finite float is
    written with a fraction or an exponent, and read back as it was. -/
structure FloatCodec where
  repr : BitVec 64 → String
  parse : String → BitVec 64
  repr_float : ∀ bits, isFinite bits = true → IsFloat (repr bits).toList
  parse_repr : ∀ bits, isFinite bits = true → parse (repr bits) = bits

end Numbers

section Limits

/-- A limit of the interpreter that a text or a value breaks: an integer has too many digits, or an array or
    an object is nested too deeply. -/
inductive BrokenLimit where
  | digits (limit count : Nat)
  | nesting (container : String)
deriving DecidableEq

namespace BrokenLimit

/-- `type(exc).__name__` -/
def typeName : BrokenLimit → String
  | .digits _ _ => "ValueError"
  | .nesting _ => "RecursionError"

/-- `str(exc)`, for an exception of `json.loads` -/
def message : BrokenLimit → String
  | .digits limit count =>
    "Exceeds the limit (" ++ toString limit ++ " digits) for integer string conversion: value has " ++
      toString count ++ " digits; use sys.set_int_max_str_digits() to increase the limit"
  | .nesting container =>
    "maximum recursion depth exceeded while decoding a JSON " ++ container ++ " from a unicode string"

end BrokenLimit

/-- Why `json.loads` or `json.dumps` raises: a `JSONDecodeError`, or a limit. -/
inductive JsonError where
  | decode
  | limit (broken : BrokenLimit)
deriving DecidableEq

/-- The limits of the interpreter, if there are any: the digits of an integer that it converts
    (`sys.get_int_max_str_digits()`), and the brackets that the recursion limit leaves to the module. -/
structure JsonLimits where
  digits : Option Nat := some 4300
  nesting : Option Nat
deriving DecidableEq

namespace JsonLimits

def unbounded : JsonLimits where
  digits := none
  nesting := none

/-- The conversion of an integer with this many digits. -/
def convert (limits : JsonLimits) (count : Nat) : Except JsonError Unit :=
  match limits.digits with
  | none => .ok ()
  | some limit => if count ≤ limit then .ok () else .error (.limit (.digits limit count))

/-- The limits inside the brackets of an array or an object. -/
def inside (limits : JsonLimits) (container : String) : Except JsonError JsonLimits :=
  match limits.nesting with
  | none => .ok limits
  | some 0 => .error (.limit (.nesting container))
  | some (nesting + 1) => .ok { limits with nesting := some nesting }

end JsonLimits

/-- The digits of an integer. -/
def digitCount (value : Int) : Nat := (Nat.toDigits 10 value.natAbs).length

mutual

/-- Whether reading and writing the value keeps the limits, or else the first one that it breaks. -/
def Json.check (limits : JsonLimits) : Json → Except JsonError Unit
  | .int value => limits.convert (digitCount value)
  | .arr items =>
    match limits.inside "array" with
    | .error error => .error error
    | .ok limits => checkItems limits items
  | .obj fields =>
    match limits.inside "object" with
    | .error error => .error error
    | .ok limits => checkFields limits fields
  | _ => .ok ()

def checkItems (limits : JsonLimits) : List Json → Except JsonError Unit
  | [] => .ok ()
  | item :: items =>
    match item.check limits with
    | .error error => .error error
    | .ok () => checkItems limits items

def checkFields (limits : JsonLimits) : List (String × Json) → Except JsonError Unit
  | [] => .ok ()
  | (_, value) :: fields =>
    match value.check limits with
    | .error error => .error error
    | .ok () => checkFields limits fields

end

end Limits

section Scanning

/-- The white space between tokens. -/
def isJsonSpace (c : Char) : Bool := c = ' ' || c = '\t' || c = '\n' || c = '\r'

def skipSpace (text : List Char) : List Char := text.dropWhile isJsonSpace

/-- What a string is scanned into: characters, and the UTF-16 code units of its `\u` escapes. -/
inductive Scanned where
  | char (c : Char)
  | unit (n : Nat)

/-- The character of an escape with one letter. -/
def unescape : Char → Option Char
  | '"' => some '"'
  | '\\' => some '\\'
  | '/' => some '/'
  | 'b' => some '\x08'
  | 'f' => some '\x0c'
  | 'n' => some '\n'
  | 'r' => some '\r'
  | 't' => some '\t'
  | _ => none

/-- The rest of a string after its opening quote. -/
def scanString : List Char → Option (List Scanned × List Char)
  | [] => none
  | '"' :: rest => some ([], rest)
  | '\\' :: 'u' :: a :: b :: c :: d :: rest => do
    let n ← hexValue4? a b c d
    let (scanned, rest) ← scanString rest
    pure (.unit n :: scanned, rest)
  | '\\' :: c :: rest => do
    let c ← unescape c
    let (scanned, rest) ← scanString rest
    pure (.char c :: scanned, rest)
  | c :: rest =>
    if c.toNat < 32 || c = '\\' then none
    else do
      let (scanned, rest) ← scanString rest
      pure (.char c :: scanned, rest)

def isHighSurrogate (n : Nat) : Bool := 0xd800 ≤ n && n < 0xdc00

def isLowSurrogate (n : Nat) : Bool := 0xdc00 ≤ n && n < 0xe000

/-- The character of one code unit. A lone surrogate, which Python keeps and no text here can hold, is
    the replacement character. -/
def ofCodeUnit (n : Nat) : Char :=
  if isHighSurrogate n || isLowSurrogate n then '\uFFFD' else Char.ofNat n

/-- The text of what was scanned: a high surrogate and the low one after it are one character. -/
def joinScanned : List Scanned → List Char
  | [] => []
  | .char c :: rest => c :: joinScanned rest
  | .unit high :: .unit low :: rest =>
    if isHighSurrogate high && isLowSurrogate low then
      Char.ofNat (0x10000 + (high - 0xd800) * 0x400 + (low - 0xdc00)) :: joinScanned rest
    else ofCodeUnit high :: joinScanned (.unit low :: rest)
  | .unit n :: rest => ofCodeUnit n :: joinScanned rest

/-- A string after its opening quote. -/
def readString (text : List Char) : Option (String × List Char) :=
  (scanString text).map fun (scanned, rest) => (String.ofList (joinScanned scanned), rest)

/-- The whole part of a number, which has no leading zero. -/
def scanWhole : List Char → Option (List Char × List Char)
  | [] => none
  | c :: rest =>
    if c = '0' then some ([c], rest)
    else if c.isDigit then some (c :: rest.takeWhile Char.isDigit, rest.dropWhile Char.isDigit)
    else none

/-- The fraction of a number, if it has one. -/
def scanFraction : List Char → List Char × List Char
  | '.' :: rest =>
    if rest.takeWhile Char.isDigit = [] then ([], '.' :: rest)
    else ('.' :: rest.takeWhile Char.isDigit, rest.dropWhile Char.isDigit)
  | text => ([], text)

/-- The sign of an exponent, if it has one. -/
def scanSign : List Char → List Char × List Char
  | '+' :: rest => (['+'], rest)
  | '-' :: rest => (['-'], rest)
  | text => ([], text)

/-- The exponent of a number, if it has one. -/
def scanExponent : List Char → List Char × List Char
  | [] => ([], [])
  | c :: rest =>
    let (sign, digits) := scanSign rest
    if (c = 'e' || c = 'E') && digits.takeWhile Char.isDigit ≠ [] then
      (c :: sign ++ digits.takeWhile Char.isDigit, digits.dropWhile Char.isDigit)
    else ([], c :: rest)

/-- The whole part of a number with its sign. -/
def scanInteger : List Char → Option (List Char × List Char)
  | '-' :: rest => (scanWhole rest).map fun (whole, rest) => ('-' :: whole, rest)
  | text => scanWhole text

/-- The integer that a text of digits with an optional sign spells. -/
def intOfDigits : List Char → Int
  | '-' :: digits => -(Nat.ofDigitChars 10 digits 0)
  | digits => Nat.ofDigitChars 10 digits 0

/-- A number: an integer, or a float when it has a fraction or an exponent. -/
def readNumber (floats : FloatCodec) (limits : JsonLimits) (text : List Char) :
    Except JsonError (Json × List Char) :=
  match scanInteger text with
  | none => .error .decode
  | some (integer, rest) =>
    let (fraction, rest) := scanFraction rest
    let (exponent, rest) := scanExponent rest
    if fraction = [] ∧ exponent = [] then
      (limits.convert (integer.filter (· ≠ '-')).length).map fun _ => (.int (intOfDigits integer), rest)
    else .ok (.float (floats.parse (String.ofList (integer ++ fraction ++ exponent))), rest)

/-- The constants, with the three that only Python's reader knows. -/
def constants : List (List Char × Json) :=
  [("null".toList, .null), ("true".toList, .bool true), ("false".toList, .bool false),
   ("NaN".toList, .float 0x7ff8000000000000#64), ("Infinity".toList, .float 0x7ff0000000000000#64),
   ("-Infinity".toList, .float 0xfff0000000000000#64)]

/-- A constant or a number. -/
def readScalar (floats : FloatCodec) (limits : JsonLimits) (text : List Char) :
    Except JsonError (Json × List Char) :=
  match constants.find? fun (word, _) => word.isPrefixOf text with
  | some (word, value) => .ok (value, text.drop word.length)
  | none => readNumber floats limits text

/-- `dict(pairs)`: a later pair overwrites an earlier one in its place. -/
def dictOf (pairs : List (String × Json)) : JsonObject :=
  pairs.foldl (fun object (key, value) => object.set key value) []

mutual

/-- A value; the number bounds the calls of the reader within each other. -/
def readValue (floats : FloatCodec) : Nat → JsonLimits → List Char → Except JsonError (Json × List Char)
  | 0, _, _ => .error .decode
  | _ + 1, _, '"' :: rest =>
    match readString rest with
    | some (text, rest) => .ok (.str text, rest)
    | none => .error .decode
  | fuel + 1, limits, '[' :: rest =>
    match limits.inside "array" with
    | .error error => .error error
    | .ok limits =>
      match skipSpace rest with
      | ']' :: rest => .ok (.arr [], rest)
      | text => (readItems floats fuel limits text).map fun (items, rest) => (.arr items, rest)
  | fuel + 1, limits, '\x7b' :: rest =>
    match limits.inside "object" with
    | .error error => .error error
    | .ok limits =>
      match skipSpace rest with
      | '\x7d' :: rest => .ok (.obj [], rest)
      | text => (readFields floats fuel limits text).map fun (fields, rest) => (.obj (dictOf fields), rest)
  | _ + 1, limits, text => readScalar floats limits text

/-- The items of an array up to its closing bracket. -/
def readItems (floats : FloatCodec) :
    Nat → JsonLimits → List Char → Except JsonError (List Json × List Char)
  | 0, _, _ => .error .decode
  | fuel + 1, limits, text => do
    let (value, rest) ← readValue floats fuel limits text
    match skipSpace rest with
    | ']' :: rest => pure ([value], rest)
    | ',' :: rest =>
      let (values, rest) ← readItems floats fuel limits (skipSpace rest)
      pure (value :: values, rest)
    | _ => .error .decode

/-- The fields of an object up to its closing brace. -/
def readFields (floats : FloatCodec) :
    Nat → JsonLimits → List Char → Except JsonError (List (String × Json) × List Char)
  | 0, _, _ => .error .decode
  | fuel + 1, limits, '"' :: text =>
    match readString text with
    | none => .error .decode
    | some (key, rest) =>
      match skipSpace rest with
      | ':' :: rest => do
        let (value, rest) ← readValue floats fuel limits (skipSpace rest)
        match skipSpace rest with
        | '\x7d' :: rest => pure ([(key, value)], rest)
        | ',' :: rest =>
          let (fields, rest) ← readFields floats fuel limits (skipSpace rest)
          pure ((key, value) :: fields, rest)
        | _ => .error .decode
      | _ => .error .decode
  | _ + 1, _, _ => .error .decode

end

/-- `json.loads(text)`; each bracket costs the reader two calls -/
def JsonLimits.loads (limits : JsonLimits) (floats : FloatCodec) (text : String) : Except JsonError Json :=
  match readValue floats (2 * text.toList.length + 1) limits (skipSpace text.toList) with
  | .ok (value, rest) => if skipSpace rest = [] then .ok value else .error .decode
  | .error error => .error error

/-- The value whose JSON the text is, if it is the JSON of one, within the limits of an interpreter or not. -/
def Json.parse (floats : FloatCodec) (text : String) : Option Json :=
  (JsonLimits.unbounded.loads floats text).toOption

end Scanning

section Writing

/-- The arguments of `json.dumps` that the modelled code varies: `ensure_ascii`, and whether a space
    follows each separator, as it does by default. -/
structure JsonStyle where
  ascii : Bool := true
  spaced : Bool := true

/-- The UTF-16 code units of a character. -/
def codeUnits (c : Char) : List Nat :=
  if c.toNat < 0x10000 then [c.toNat]
  else [0xd800 + (c.toNat - 0x10000) / 0x400, 0xdc00 + (c.toNat - 0x10000) % 0x400]

/-- The text of a character in a JSON string. -/
def JsonStyle.escape (style : JsonStyle) (c : Char) : List Char :=
  if style.ascii && 127 ≤ c.toNat then
    (codeUnits c).flatMap fun n => '\\' :: 'u' :: hexDigits4 n
  else (AgentRuntime.escape c).toList

/-- A text as a JSON string. -/
def JsonStyle.quote (style : JsonStyle) (text : String) : List Char :=
  '"' :: (text.toList.flatMap style.escape ++ ['"'])

def JsonStyle.separator (style : JsonStyle) (mark : Char) : List Char :=
  if style.spaced then [mark, ' '] else [mark]

mutual

/-- The text of a value in a style, for a value whose floats are finite. -/
def Json.write (floats : FloatCodec) (style : JsonStyle) : Json → List Char
  | .null => "null".toList
  | .bool true => "true".toList
  | .bool false => "false".toList
  | .int value => (toString value).toList
  | .float bits => (floats.repr bits).toList
  | .str text => style.quote text
  | .arr [] => "[]".toList
  | .arr (item :: items) => '[' :: (item.write floats style ++ writeItems floats style items)
  | .obj [] => "\x7b\x7d".toList
  | .obj ((key, value) :: fields) =>
    '\x7b' :: (style.quote key ++ style.separator ':' ++ value.write floats style ++
      writeFields floats style fields)

/-- The items after the first one, and the closing bracket. -/
def writeItems (floats : FloatCodec) (style : JsonStyle) : List Json → List Char
  | [] => [']']
  | item :: items =>
    style.separator ',' ++ item.write floats style ++ writeItems floats style items

/-- The fields after the first one, and the closing brace. -/
def writeFields (floats : FloatCodec) (style : JsonStyle) : List (String × Json) → List Char
  | [] => ['\x7d']
  | (key, value) :: fields =>
    style.separator ',' ++ style.quote key ++ style.separator ':' ++ value.write floats style ++
      writeFields floats style fields

end

/-- The text of a value. -/
def Json.text (floats : FloatCodec) (style : JsonStyle) (value : Json) : String :=
  String.ofList (value.write floats style)

/-- `json.dumps(value)` -/
def JsonLimits.dumps (limits : JsonLimits) (floats : FloatCodec) (style : JsonStyle) (value : Json) :
    Except JsonError String :=
  (value.check limits).map fun _ => value.text floats style

/-- What a JSON value is in Python: its floats are finite, and the keys of each object are distinct. -/
inductive Json.Valid : Json → Prop where
  | null :
    Valid .null
  | bool {value} :
    Valid (.bool value)
  | int {value} :
    Valid (.int value)
  | float {bits} :
    isFinite bits = true →
    Valid (.float bits)
  | str {text} :
    Valid (.str text)
  | arr {items : List Json} :
    (∀ item ∈ items, Valid item) →
    Valid (.arr items)
  | obj {fields : JsonObject} :
    (fields.map Prod.fst).Nodup →
    (∀ field ∈ fields, Valid field.2) →
    Valid (.obj fields)

end Writing

end AgentRuntime
