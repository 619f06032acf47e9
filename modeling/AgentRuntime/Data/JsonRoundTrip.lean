import AgentRuntime.Data.JsonText
import AgentRuntime.Lib.Fallible

/-!
# Reading back what was written

The reader takes the text of every value back to that value: first for strings, character by character,
then for numbers, and then for values, by induction on the value. What follows the text only must not
continue a number. What is read within the limits of an interpreter is read without them.
-/

namespace AgentRuntime

section Strings

/-- The text is scanned into `units`, which stand for the character. -/
def ScansTo (text : List Char) (c : Char) : Prop :=
  ∃ units, (∀ rest, scanString (text ++ rest) =
      (scanString rest).map fun (scanned, rest) => (units ++ scanned, rest)) ∧
    ∀ scanned, joinScanned (units ++ scanned) = c :: joinScanned scanned

lemma scansTo_letter {letter c : Char} (h : unescape letter = some c) (other : letter ≠ 'u') :
    ScansTo ['\\', letter] c := by
  refine ⟨[.char c], fun rest => ?_, fun scanned => rfl⟩
  show scanString ('\\' :: letter :: rest) = _
  rw [scanString]
  · rw [h]
    cases scanString rest <;> rfl
  · rintro _ _ _ _ _ rfl
    exact absurd rfl other

lemma scansTo_self {c : Char} (printable : 32 ≤ c.toNat) (quote : c ≠ '"') (slash : c ≠ '\\') :
    ScansTo [c] c := by
  refine ⟨[.char c], fun rest => ?_, fun scanned => rfl⟩
  show scanString (c :: rest) = _
  rw [scanString]
  · have plain : ¬ (decide (c.toNat < 32) || decide (c = '\\')) = true := by
      simp only [Bool.or_eq_true, decide_eq_true_eq, not_or]
      exact ⟨Nat.not_lt.mpr printable, slash⟩
    rw [if_neg plain]
    cases scanString rest <;> rfl
  all_goals grind

lemma scanString_unit {n : Nat} (h : n < 65536) (rest : List Char) :
    scanString ('\\' :: 'u' :: (hexDigits4 n ++ rest)) =
      (scanString rest).map fun (scanned, rest) => (.unit n :: scanned, rest) := by
  show scanString ('\\' :: 'u' :: _ :: _ :: _ :: _ :: rest) = _
  rw [scanString, hexValue4?_hexDigits4 h]
  cases scanString rest <;> rfl

/-- One code unit that is no surrogate is its own character. -/
lemma scansTo_unit {c : Char} (h : c.toNat < 0x10000) :
    ScansTo ('\\' :: 'u' :: hexDigits4 c.toNat) c := by
  refine ⟨[.unit c.toNat], fun rest => scanString_unit h rest, fun scanned => ?_⟩
  have scalar : ¬ (0xd800 ≤ c.toNat ∧ c.toNat < 0xe000) := by
    have valid := c.valid
    simp only [UInt32.isValidChar, Nat.isValidChar] at valid
    have same : c.val.toNat = c.toNat := rfl
    omega
  have high : isHighSurrogate c.toNat = false := by
    simp only [isHighSurrogate, Bool.and_eq_false_iff, decide_eq_false_iff_not]
    omega
  have low : isLowSurrogate c.toNat = false := by
    simp only [isLowSurrogate, Bool.and_eq_false_iff, decide_eq_false_iff_not]
    omega
  have own : ofCodeUnit c.toNat = c := by
    simp [ofCodeUnit, high, low]
  show joinScanned (.unit c.toNat :: scanned) = _
  cases scanned with
  | nil => simp [joinScanned, own]
  | cons next scanned =>
    cases next with
    | char => simp [joinScanned, own]
    | unit => simp [joinScanned, own, high]

/-- A surrogate pair is the character that it stands for. -/
lemma scansTo_pair {c : Char} {high low : Nat} (hh : 0xd800 ≤ high ∧ high < 0xdc00)
    (hl : 0xdc00 ≤ low ∧ low < 0xe000)
    (pair : 0x10000 + (high - 0xd800) * 0x400 + (low - 0xdc00) = c.toNat) :
    ScansTo ([high, low].flatMap fun n => '\\' :: 'u' :: hexDigits4 n) c := by
  refine ⟨[.unit high, .unit low], fun rest => ?_, fun scanned => ?_⟩
  · show scanString ('\\' :: 'u' :: (hexDigits4 high ++ '\\' :: 'u' :: (hexDigits4 low ++ rest))) = _
    rw [scanString_unit (by omega), scanString_unit (by omega)]
    cases scanString rest <;> rfl
  · have surrogates : (isHighSurrogate high && isLowSurrogate low) = true := by
      simp [isHighSurrogate, isLowSurrogate, hh, hl]
    show joinScanned (.unit high :: .unit low :: scanned) = _
    rw [joinScanned, if_pos surrogates, pair, Char.ofNat_toNat]

lemma scansTo_units {c : Char} :
    ScansTo ((codeUnits c).flatMap fun n => '\\' :: 'u' :: hexDigits4 n) c := by
  simp only [codeUnits]
  split
  · next small => simpa using scansTo_unit small
  · next large =>
    have bound : c.toNat < 0x110000 := by
      have valid := c.valid
      simp only [UInt32.isValidChar, Nat.isValidChar] at valid
      have same : c.val.toNat = c.toNat := rfl
      omega
    exact scansTo_pair (by omega) (by omega) (by omega)

/-- Every character is scanned back from what `ensure_ascii=False` writes for it. -/
lemma scansTo_escape (c : Char) : ScansTo (escape c).toList c := by
  have own : ∀ {n}, c.toNat = n → c = Char.ofNat n := by
    rintro _ rfl
    exact (Char.ofNat_toNat c).symm
  simp only [escape]
  split
  · next h => exact own h ▸ scansTo_letter rfl (by decide)
  · next h => exact own h ▸ scansTo_letter rfl (by decide)
  · next h => exact own h ▸ scansTo_letter rfl (by decide)
  · next h => exact own h ▸ scansTo_letter rfl (by decide)
  · next h => exact own h ▸ scansTo_letter rfl (by decide)
  · next h => exact own h ▸ scansTo_letter rfl (by decide)
  · next h => exact own h ▸ scansTo_letter rfl (by decide)
  · next quote slash _ _ _ _ _ =>
    split
    · next control =>
      have unit := scansTo_unit (c := c) (by omega)
      have digits : hexDigits4 c.toNat =
          ['0', '0', Nat.digitChar (c.toNat / 16), Nat.digitChar (c.toNat % 16)] := by
        have zero : c.toNat / 4096 = 0 ∧ c.toNat / 256 % 16 = 0 := by omega
        have tens : c.toNat / 16 % 16 = c.toNat / 16 := by omega
        simp only [hexDigits4, zero, tens]
        rfl
      rw [digits] at unit
      simpa using unit
    · next printable =>
      have self := scansTo_self (Nat.not_lt.mp printable) (fun e => quote (e ▸ rfl))
        fun e => slash (e ▸ rfl)
      simpa using self

lemma scansTo_style (style : JsonStyle) (c : Char) : ScansTo (style.escape c) c := by
  simp only [JsonStyle.escape]
  split
  · exact scansTo_units
  · exact scansTo_escape c

/-- A string is read back, whatever follows its closing quote. -/
lemma readString_quote (style : JsonStyle) (text : String) (rest : List Char) :
    readString (text.toList.flatMap style.escape ++ '"' :: rest) = some (text, rest) := by
  have scans : ∀ chars : List Char, ∃ scanned,
      scanString (chars.flatMap style.escape ++ '"' :: rest) = some (scanned, rest) ∧
        joinScanned scanned = chars := by
    intro chars
    induction chars with
    | nil => exact ⟨[], by simp [scanString], rfl⟩
    | cons c chars ih =>
      obtain ⟨scanned, reads, joins⟩ := ih
      obtain ⟨units, unit, join⟩ := scansTo_style style c
      refine ⟨units ++ scanned, ?_, by rw [join, joins]⟩
      rw [List.flatMap_cons, List.append_assoc, unit, reads]
      rfl
  obtain ⟨scanned, reads, joins⟩ := scans text.toList
  rw [readString, reads]
  simp [joins]

end Strings

section Numbers

/-- The text does not continue a number. -/
def EndsNumber (text : List Char) : Prop :=
  ∀ c ∈ text.head?, c.isDigit = false ∧ c ≠ '.' ∧ c ≠ 'e' ∧ c ≠ 'E'

/-- The text does not begin with a digit. -/
def EndsDigits (text : List Char) : Prop := ∀ c ∈ text.head?, c.isDigit = false

lemma EndsNumber.digits {text : List Char} (ends : EndsNumber text) : EndsDigits text :=
  fun c head => (ends c head).1

variable {limits : JsonLimits} {digits rest : List Char}

lemma takeWhile_digits (all : ∀ d ∈ digits, d.isDigit = true) (ends : EndsDigits rest) :
    (digits ++ rest).takeWhile Char.isDigit = digits ∧
      (digits ++ rest).dropWhile Char.isDigit = rest := by
  rw [List.takeWhile_append_of_pos all, List.dropWhile_append_of_pos all]
  cases rest with
  | nil => simp
  | cons c rest => simp [ends c rfl]

lemma scanWhole_append (whole : IsWhole digits) (ends : EndsDigits rest) :
    scanWhole (digits ++ rest) = some (digits, rest) := by
  obtain rfl | ⟨c, more, rfl, ne, all⟩ := whole
  · rfl
  · obtain ⟨taken, dropped⟩ := takeWhile_digits (fun d mem => all d (.tail _ mem)) ends
    rw [List.cons_append, scanWhole, if_neg ne, if_pos (all c (.head _)), taken, dropped]

lemma IsWhole.isDigit (whole : IsWhole digits) : ∀ d ∈ digits, d.isDigit = true := by
  obtain rfl | ⟨c, more, rfl, -, all⟩ := whole
  · intro d mem
    rw [List.mem_singleton.mp mem]
    rfl
  · exact all

lemma IsWhole.head (whole : IsWhole digits) : ∃ c more, digits = c :: more ∧ c.isDigit = true := by
  obtain rfl | ⟨c, more, rfl, -, all⟩ := whole
  · exact ⟨_, _, rfl, rfl⟩
  · exact ⟨c, more, rfl, all c (.head _)⟩

lemma scanInteger_append {sign : List Char} (signed : sign = [] ∨ sign = ['-'])
    (whole : IsWhole digits) (ends : EndsDigits rest) :
    scanInteger (sign ++ digits ++ rest) = some (sign ++ digits, rest) := by
  obtain rfl | rfl := signed
  · obtain ⟨c, more, rfl, digit⟩ := whole.head
    have scanned := scanWhole_append whole ends
    simp only [List.nil_append, List.cons_append] at scanned ⊢
    rw [scanInteger, scanned]
    rintro rest' ⟨⟩
    cases digit
  · have scanned := scanWhole_append whole ends
    simp only [List.cons_append, List.nil_append, scanInteger, scanned, Option.map_some]

lemma scanFraction_append {fraction : List Char} (valid : IsFraction fraction)
    (ends : EndsDigits rest) (dot : fraction = [] → rest.head? ≠ some '.') :
    scanFraction (fraction ++ rest) = (fraction, rest) := by
  obtain rfl | ⟨digits, rfl, nonempty, all⟩ := valid
  · cases rest with
    | nil => rfl
    | cons c rest =>
      rw [List.nil_append, scanFraction]
      rintro rest' ⟨⟩
      exact dot rfl rfl
  · obtain ⟨taken, dropped⟩ := takeWhile_digits all ends
    rw [List.cons_append, scanFraction, taken, dropped, if_neg nonempty]

lemma scanSign_append {sign : List Char} (signed : sign = [] ∨ sign = ['+'] ∨ sign = ['-'])
    (nonempty : digits ≠ []) (all : ∀ d ∈ digits, d.isDigit = true) :
    scanSign (sign ++ (digits ++ rest)) = (sign, digits ++ rest) := by
  obtain rfl | rfl | rfl := signed
  · cases digits with
    | nil => exact absurd rfl nonempty
    | cons d digits =>
      have digit := all d (.head _)
      rw [List.nil_append, List.cons_append, scanSign]
      · rintro rest' ⟨⟩
        cases digit
      · rintro rest' ⟨⟩
        cases digit
  · rfl
  · rfl

lemma scanExponent_append {exponent : List Char} (valid : IsExponent exponent)
    (ends : EndsNumber rest) : scanExponent (exponent ++ rest) = (exponent, rest) := by
  obtain rfl | ⟨mark, sign, digits, rfl, marked, signed, nonempty, all⟩ := valid
  · cases rest with
    | nil => rfl
    | cons c rest =>
      obtain ⟨-, -, small, capital⟩ := ends c rfl
      simp [scanExponent, small, capital]
  · obtain ⟨taken, dropped⟩ := takeWhile_digits all ends.digits
    have mark : (mark = 'e' ∨ mark = 'E') := marked
    simp only [List.cons_append, List.append_assoc, scanExponent,
      scanSign_append signed nonempty all, taken, dropped]
    simp [mark, nonempty]

lemma IsExponent.endsDigits {exponent : List Char} (valid : IsExponent exponent)
    (ends : EndsNumber rest) : EndsDigits (exponent ++ rest) ∧
      (exponent ++ rest).head? ≠ some '.' := by
  obtain rfl | ⟨mark, sign, digits, rfl, marked, -⟩ := valid
  · exact ⟨ends.digits, fun dot => (ends '.' dot).2.1 rfl⟩
  · refine ⟨?_, ?_⟩
    · rintro c ⟨⟩
      obtain rfl | rfl := marked <;> rfl
    · rintro ⟨⟩
      exact absurd marked (by decide)

/-- The digits of a signed number. -/
lemma filter_signed {sign : List Char} (signed : sign = [] ∨ sign = ['-']) (whole : IsWhole digits) :
    (sign ++ digits).filter (fun c => decide (c ≠ '-')) = digits := by
  have plain : digits.filter (fun c => decide (c ≠ '-')) = digits := by
    rw [List.filter_eq_self]
    intro c mem
    rw [decide_eq_true_eq]
    rintro rfl
    cases whole.isDigit '-' mem
  obtain rfl | rfl := signed
  · rw [List.nil_append, plain]
  · rw [List.filter_append, plain]
    rfl

/-- A number is scanned whole. -/
lemma readNumber_append (floats : FloatCodec) {sign : List Char} (fraction exponent : List Char)
    (signed : sign = [] ∨ sign = ['-']) (whole : IsWhole digits) (valid : IsFraction fraction)
    (valid' : IsExponent exponent) (ends : EndsNumber rest) :
    readNumber floats limits (sign ++ digits ++ fraction ++ exponent ++ rest) =
      if fraction = [] ∧ exponent = [] then
        (limits.convert digits.length).map fun _ => (.int (intOfDigits (sign ++ digits)), rest)
      else .ok (.float (floats.parse (String.ofList (sign ++ digits ++ fraction ++ exponent))),
        rest) := by
  obtain ⟨endsDigits, noDot⟩ := valid'.endsDigits ends
  have after : EndsDigits (fraction ++ (exponent ++ rest)) := by
    obtain rfl | ⟨more, rfl, -⟩ := valid
    · exact endsDigits
    · rintro c ⟨⟩
      rfl
  rw [show sign ++ digits ++ fraction ++ exponent ++ rest =
    sign ++ digits ++ (fraction ++ (exponent ++ rest)) by simp]
  simp only [readNumber, scanInteger_append signed whole after,
    scanFraction_append valid endsDigits fun _ => noDot, scanExponent_append valid' ends,
    filter_signed signed whole]

/-- A text that begins like a number is no constant. -/
lemma no_constant {sign : List Char} (signed : sign = [] ∨ sign = ['-']) (whole : IsWhole digits) :
    (constants.find? fun (word, _) => word.isPrefixOf (sign ++ digits ++ rest)) = none := by
  obtain ⟨c, more, rfl, digit⟩ := whole.head
  have other : ∀ letter : Char, letter.isDigit = false → letter ≠ c := by
    rintro letter no rfl
    rw [digit] at no
    cases no
  rw [List.find?_eq_none]
  obtain rfl | rfl := signed
  · simp [constants, other 'n' rfl, other 't' rfl, other 'f' rfl, other 'N' rfl, other 'I' rfl,
      other '-' rfl]
  · simp [constants, other 'I' rfl]

lemma isWhole_toDigits (n : Nat) : IsWhole (Nat.toDigits 10 n) := by
  have all : ∀ d ∈ Nat.toDigits 10 n, d.isDigit = true := fun d mem =>
    Nat.isDigit_of_mem_toDigits (by decide) (by decide) mem
  by_cases zero : n = 0
  · subst zero
    exact .inl rfl
  · have first : ∃ c more, Nat.toDigits 10 n = c :: more ∧ c ≠ '0' := by
      clear all
      induction n using Nat.strongRecOn with
      | _ n ih =>
        by_cases small : n < 10
        · refine ⟨_, _, Nat.toDigits_of_lt_base small, ?_⟩
          have nonzero : ∀ k < 10, k ≠ 0 → Nat.digitChar k ≠ '0' := by decide
          exact nonzero n small zero
        · obtain ⟨c, more, digits, ne⟩ := ih (n / 10) (by omega) (by omega)
          rw [Nat.toDigits_of_base_le (by decide) (by omega), digits]
          exact ⟨c, _, rfl, ne⟩
    obtain ⟨c, more, digits, ne⟩ := first
    exact .inr ⟨c, more, digits, ne, fun d mem => all d (digits ▸ mem)⟩

/-- The text of an integer is an optional sign and its digits, which spell it. -/
lemma toString_int (value : Int) : ∃ sign digits, (toString value).toList = sign ++ digits ∧
    (sign = [] ∨ sign = ['-']) ∧ IsWhole digits ∧ intOfDigits (sign ++ digits) = value ∧
      digits.length = digitCount value := by
  cases value with
  | ofNat n =>
    refine ⟨[], Nat.toDigits 10 n, ?_, .inl rfl, isWhole_toDigits n, ?_, rfl⟩
    · exact Nat.toList_repr
    · obtain ⟨c, more, digits, digit⟩ := (isWhole_toDigits n).head
      rw [List.nil_append]
      have spelled : intOfDigits (Nat.toDigits 10 n) =
          (Nat.ofDigitChars 10 (Nat.toDigits 10 n) 0 : Nat) := by
        rw [digits, intOfDigits]
        rintro rest' ⟨⟩
        cases digit
      rw [spelled, Nat.ofDigitChars_ten_toDigits]
      rfl
  | negSucc n =>
    refine ⟨['-'], Nat.toDigits 10 (n + 1), ?_, .inr rfl, isWhole_toDigits _, ?_, rfl⟩
    · show ("-" ++ Nat.repr (n + 1)).toList = _
      rw [String.toList_append, Nat.toList_repr]
      rfl
    · show -((Nat.ofDigitChars 10 (Nat.toDigits 10 (n + 1)) 0 : Nat) : Int) = _
      rw [Nat.ofDigitChars_ten_toDigits]
      rfl

lemma readScalar_int (floats : FloatCodec) (value : Int) (ends : EndsNumber rest) :
    readScalar floats limits ((toString value).toList ++ rest) =
      (limits.convert (digitCount value)).map fun _ => (.int value, rest) := by
  obtain ⟨sign, digits, text, signed, whole, spells, count⟩ := toString_int value
  have read := @readNumber_append limits _ _ floats _ [] [] signed whole (.inl rfl) (.inl rfl) ends
  simp only [List.append_nil, and_self, if_true, spells, count] at read
  rw [text, readScalar, no_constant signed whole]
  exact read

lemma readScalar_float (floats : FloatCodec) {bits : BitVec 64} (finite : isFinite bits = true)
    (ends : EndsNumber rest) :
    readScalar floats limits ((floats.repr bits).toList ++ rest) = .ok (.float bits, rest) := by
  have parsed : floats.parse (String.ofList (floats.repr bits).toList) = bits := by
    rw [String.ofList_toList, floats.parse_repr bits finite]
  have float := floats.repr_float bits finite
  generalize (floats.repr bits).toList = text at float parsed
  obtain ⟨signed, whole, valid, valid', some_part⟩ := float
  have read := @readNumber_append limits _ _ floats _ _ _ signed whole valid valid' ends
  rw [if_neg (fun none_left => some_part.elim (· none_left.1) (· none_left.2)), parsed] at read
  rw [readScalar, show ∀ a b c d e : List Char, a ++ b ++ c ++ d ++ e = a ++ b ++ (c ++ d ++ e) by
    simp, no_constant signed whole]
  simpa using read

end Numbers

section Objects

lemma set_of_not_mem {object : JsonObject} {key : String} {value : Json}
    (fresh : key ∉ object.map Prod.fst) : object.set key value = object ++ [(key, value)] := by
  induction object with
  | nil => rfl
  | cons field object ih =>
    obtain ⟨k, v⟩ := field
    simp only [List.map_cons, List.mem_cons, not_or] at fresh
    rw [JsonObject.set, if_neg fresh.1, ih fresh.2, List.cons_append]

/-- Pairs with distinct keys are the fields of their object. -/
lemma dictOf_nodup {pairs : List (String × Json)} (distinct : (pairs.map Prod.fst).Nodup) :
    dictOf pairs = pairs := by
  have adds : ∀ {pairs : List (String × Json)} {object : JsonObject},
      ((object ++ pairs).map Prod.fst).Nodup →
        pairs.foldl (fun object pair => object.set pair.1 pair.2) object = object ++ pairs := by
    intro pairs
    induction pairs with
    | nil => simp
    | cons pair pairs ih =>
      intro object distinct
      obtain ⟨key, value⟩ := pair
      have fresh : key ∉ object.map Prod.fst := by
        intro mem
        rw [List.map_append, List.nodup_append] at distinct
        exact distinct.2.2 key mem key (.head _) rfl
      rw [List.foldl_cons]
      show pairs.foldl _ (object.set key value) = _
      rw [set_of_not_mem fresh, ih, List.append_assoc]
      · rfl
      · rwa [List.append_assoc]
  exact adds distinct

end Objects

section Values

variable {floats : FloatCodec} {style : JsonStyle}

lemma skipSpace_cons {c : Char} (text : List Char) (h : isJsonSpace c = false) :
    skipSpace (c :: text) = c :: text := by
  simp [skipSpace, h]

/-- What follows the mark of a separator is skipped. -/
lemma separator_cons (style : JsonStyle) (mark : Char) : ∃ pad, style.separator mark = mark :: pad ∧
    ∀ text, skipSpace (pad ++ text) = skipSpace text := by
  simp only [JsonStyle.separator]
  split
  · exact ⟨[' '], rfl, fun text => by simp [skipSpace, isJsonSpace]⟩
  · exact ⟨[], rfl, fun text => rfl⟩

/-- The text of a value begins with a character of ASCII that is neither space nor a closing bracket. -/
lemma write_head (floats : FloatCodec) (style : JsonStyle) {value : Json} (valid : value.Valid) :
    ∃ c text, value.write floats style = c :: text ∧ isJsonSpace c = false ∧ c ≠ ']' ∧ c.toNat < 127 := by
  have number : ∀ {sign whole : List Char}, sign = [] ∨ sign = ['-'] → IsWhole whole → ∀ more,
      ∃ c text, sign ++ whole ++ more = c :: text ∧ isJsonSpace c = false ∧ c ≠ ']' ∧
        c.toNat < 127 := by
    intro sign whole signed digits more
    obtain ⟨c, rest, rfl, digit⟩ := digits.head
    obtain rfl | rfl := signed
    · refine ⟨c, rest ++ more, rfl, ?_, ?_, ?_⟩
      · simp only [isJsonSpace, Bool.or_eq_false_iff, decide_eq_false_iff_not]
        refine ⟨⟨⟨?_, ?_⟩, ?_⟩, ?_⟩ <;> rintro rfl <;> cases digit
      · rintro rfl
        cases digit
      · simp only [Char.isDigit, Bool.and_eq_true, decide_eq_true_eq] at digit
        have high : c.toNat ≤ 57 := digit.2
        omega
    · exact ⟨'-', _, rfl, rfl, by decide, by decide⟩
  cases valid with
  | null => exact ⟨_, _, rfl, rfl, by decide, by decide⟩
  | @bool value => cases value <;> exact ⟨_, _, rfl, rfl, by decide, by decide⟩
  | @int value =>
    obtain ⟨sign, digits, text, signed, whole, -⟩ := toString_int value
    have head := number signed whole []
    rw [List.append_nil, ← text] at head
    simpa only [Json.write] using head
  | @float bits finite =>
    rw [Json.write]
    have float := floats.repr_float bits finite
    generalize (floats.repr bits).toList = text at float
    obtain ⟨signed, whole, -, -, -⟩ := float
    rw [List.append_assoc]
    exact number signed whole _
  | str =>
    rw [Json.write]
    exact ⟨_, _, rfl, rfl, by decide, by decide⟩
  | @arr items =>
    cases items <;> rw [Json.write]
    · exact ⟨_, _, rfl, rfl, by decide, by decide⟩
    · exact ⟨_, _, rfl, rfl, by decide, by decide⟩
  | @obj fields =>
    cases fields <;> rw [Json.write]
    · exact ⟨_, _, rfl, rfl, by decide, by decide⟩
    · exact ⟨_, _, rfl, rfl, by decide, by decide⟩

/-- With enough fuel, the reader takes the value's text back to the value, if that keeps the limits. -/
def ReadsBack (floats : FloatCodec) (style : JsonStyle) (value : Json) : Prop :=
  ∀ fuel limits rest, (value.write floats style).length ≤ fuel → EndsNumber rest →
    readValue floats fuel limits (value.write floats style ++ rest) =
      (value.check limits).map fun _ => (value, rest)

lemma endsNumber_cons {c : Char} (rest : List Char)
    (h : c.isDigit = false ∧ c ≠ '.' ∧ c ≠ 'e' ∧ c ≠ 'E') : EndsNumber (c :: rest) := by
  rintro _ ⟨⟩
  exact h

lemma writeItems_ends (items : List Json) (rest : List Char) :
    EndsNumber (writeItems floats style items ++ rest) := by
  cases items with
  | nil => exact endsNumber_cons _ (by decide)
  | cons item items =>
    obtain ⟨pad, separator, -⟩ := separator_cons style ','
    rw [writeItems, separator]
    exact endsNumber_cons _ (by decide)

lemma writeFields_ends (fields : List (String × Json)) (rest : List Char) :
    EndsNumber (writeFields floats style fields ++ rest) := by
  cases fields with
  | nil => exact endsNumber_cons _ (by decide)
  | cons field fields =>
    obtain ⟨pad, separator, -⟩ := separator_cons style ','
    rw [writeFields, separator]
    exact endsNumber_cons _ (by decide)

/-- The items of an array are read back up to its closing bracket. -/
lemma readItems_write {items : List Json} : ∀ {item : Json},
    (∀ x ∈ item :: items, x.Valid ∧ ReadsBack floats style x) → ∀ fuel limits rest,
    (item.write floats style ++ writeItems floats style items).length ≤ fuel →
      readItems floats fuel limits (item.write floats style ++ writeItems floats style items ++ rest) =
        (checkItems limits (item :: items)).map fun _ => (item :: items, rest) := by
  induction items with
  | nil =>
    intro item reads fuel limits rest enough
    simp only [writeItems, List.length_append, List.length_cons] at enough
    cases fuel with
    | zero => omega
    | succ fuel =>
      have read := (reads item (.head _)).2 fuel limits (']' :: rest) (by omega)
        (endsNumber_cons _ (by decide))
      rw [writeItems, List.append_assoc, List.cons_append, List.nil_append, readItems, read, checkItems]
      cases item.check limits with
      | error error => rfl
      | ok => rfl
  | cons next items ih =>
    intro item reads fuel limits rest enough
    obtain ⟨pad, separator, skips⟩ := separator_cons style ','
    obtain ⟨c, text, head, solid, -⟩ :=
      write_head floats style (reads next (.tail _ (.head _))).1
    simp only [writeItems, separator, List.length_append, List.length_cons] at enough
    cases fuel with
    | zero => omega
    | succ fuel =>
      have read := (reads item (.head _)).2 fuel limits
        (writeItems floats style (next :: items) ++ rest) (by omega) (writeItems_ends _ _)
      have more := ih (fun x mem => reads x (.tail _ mem)) fuel limits rest
        (by simp only [List.length_append]; omega)
      rw [List.append_assoc, readItems, read, checkItems]
      cases item.check limits with
      | error error => rfl
      | ok =>
        simp only [Except.map, bind, Except.bind, writeItems, separator, List.cons_append,
          List.append_assoc, skipSpace_cons _ (show isJsonSpace ',' = false from rfl), skips]
        rw [head, List.cons_append, skipSpace_cons _ solid, ← List.cons_append, ← head,
          ← List.append_assoc, more]
        cases checkItems limits (next :: items) with
        | error error => rfl
        | ok => rfl

lemma quote_append (style : JsonStyle) (text : String) (rest : List Char) :
    style.quote text ++ rest = '"' :: (text.toList.flatMap style.escape ++ '"' :: rest) := by
  simp [JsonStyle.quote]

/-- The fields of an object are read back up to its closing brace. -/
lemma readFields_write {fields : List (String × Json)} : ∀ {key : String} {value : Json},
    (∀ field ∈ (key, value) :: fields, field.2.Valid ∧ ReadsBack floats style field.2) →
    ∀ fuel limits rest,
    (style.quote key ++ style.separator ':' ++ value.write floats style ++
      writeFields floats style fields).length ≤ fuel →
      readFields floats fuel limits (style.quote key ++ style.separator ':' ++
        value.write floats style ++ writeFields floats style fields ++ rest) =
          (checkFields limits ((key, value) :: fields)).map fun _ => ((key, value) :: fields, rest) := by
  induction fields with
  | nil =>
    intro key value reads fuel limits rest enough
    obtain ⟨valid, back⟩ : value.Valid ∧ ReadsBack floats style value := reads _ (.head _)
    obtain ⟨pad, separator, skips⟩ := separator_cons style ':'
    obtain ⟨c, text, head, solid, -⟩ := write_head floats style valid
    simp only [writeFields, separator, List.length_append, List.length_cons] at enough
    cases fuel with
    | zero => omega
    | succ fuel =>
      have read := back fuel limits ('\x7d' :: rest) (by omega) (endsNumber_cons _ (by decide))
      simp only [List.append_assoc, quote_append, readFields, readString_quote, separator,
        List.cons_append, skips, skipSpace_cons _ (show isJsonSpace ':' = false from rfl)]
      rw [head, List.cons_append, skipSpace_cons _ solid, ← List.cons_append, ← head, writeFields,
        List.cons_append, List.nil_append, read, checkFields]
      cases value.check limits with
      | error error => rfl
      | ok => rfl
  | cons next fields ih =>
    intro key value reads fuel limits rest enough
    obtain ⟨next, nextValue⟩ := next
    obtain ⟨valid, back⟩ : value.Valid ∧ ReadsBack floats style value := reads _ (.head _)
    obtain ⟨pad, separator, skips⟩ := separator_cons style ':'
    obtain ⟨pad', separator', skips'⟩ := separator_cons style ','
    obtain ⟨c, text, head, solid, -⟩ := write_head floats style valid
    have following : writeFields floats style ((next, nextValue) :: fields) ++ rest =
        ',' :: (pad' ++ (style.quote next ++ style.separator ':' ++ nextValue.write floats style ++
          writeFields floats style fields ++ rest)) := by
      simp [writeFields, separator']
    have lengths := congrArg List.length following
    simp only [List.length_append, List.length_cons] at lengths enough
    rw [separator, List.length_cons] at enough
    cases fuel with
    | zero => omega
    | succ fuel =>
      have read := back fuel limits (writeFields floats style ((next, nextValue) :: fields) ++ rest)
        (by omega) (writeFields_ends _ _)
      have more := ih (fun field mem => reads field (.tail _ mem)) fuel limits rest
        (by simp only [List.length_append]; omega)
      simp only [List.append_assoc, quote_append, readFields, readString_quote, separator,
        List.cons_append, skips, skipSpace_cons _ (show isJsonSpace ':' = false from rfl)]
      rw [head, List.cons_append, skipSpace_cons _ solid, ← List.cons_append, ← head, read, checkFields]
      cases value.check limits with
      | error error => rfl
      | ok =>
        simp only [Except.map, bind, Except.bind]
        rw [following, skipSpace_cons _ (show isJsonSpace ',' = false from rfl)]
        simp only [skips']
        rw [show ∀ more, skipSpace (style.quote next ++ style.separator ':' ++
          nextValue.write floats style ++ writeFields floats style fields ++ more) = style.quote next ++
          style.separator ':' ++ nextValue.write floats style ++ writeFields floats style fields ++ more
          by intro more; simp only [List.append_assoc, quote_append]; exact skipSpace_cons _ rfl, more]
        cases checkFields limits ((next, nextValue) :: fields) with
        | error error => rfl
        | ok => rfl

lemma readValue_scalar {limits : JsonLimits} {result : Except JsonError (Json × List Char)}
    {sign whole : List Char} {fuel : Nat} {rest : List Char}
    (signed : sign = [] ∨ sign = ['-']) (digits : IsWhole whole) (more : List Char)
    (enough : (sign ++ whole ++ more).length ≤ fuel)
    (read : readScalar floats limits (sign ++ whole ++ more ++ rest) = result) :
    readValue floats fuel limits (sign ++ whole ++ more ++ rest) = result := by
  obtain ⟨c, text, rfl, digit⟩ := digits.head
  cases fuel with
  | zero => simp at enough
  | succ fuel =>
    obtain rfl | rfl := signed
    · simp only [List.nil_append, List.cons_append] at read ⊢
      rw [readValue, read]
      all_goals
        rintro rest' ⟨⟩
        cases digit
    · simp only [List.cons_append] at read ⊢
      rw [readValue, read]
      all_goals nofun

/-- The reader takes the text of every value within the limits back to the value. -/
theorem readValue_write (floats : FloatCodec) (style : JsonStyle) {value : Json}
    (valid : value.Valid) : ReadsBack floats style value := by
  induction valid with
  | null =>
    intro fuel limits rest enough _
    cases fuel with
    | zero => simp [Json.write] at enough
    | succ fuel => rfl
  | @bool value =>
    intro fuel limits rest enough _
    cases fuel with
    | zero => cases value <;> simp [Json.write] at enough
    | succ fuel => cases value <;> rfl
  | @int value =>
    intro fuel limits rest enough ends
    rw [Json.write] at enough ⊢
    obtain ⟨sign, digits, text, signed, whole, -⟩ := toString_int value
    have scalar := @readScalar_int limits _ floats value ends
    rw [text] at enough scalar ⊢
    have read := readValue_scalar signed whole [] (by simpa using enough) (by simpa using scalar)
    rwa [List.append_nil] at read
  | @float bits finite =>
    intro fuel limits rest enough ends
    rw [Json.write] at enough ⊢
    have scalar := @readScalar_float limits _ floats _ finite ends
    have float := floats.repr_float bits finite
    generalize (floats.repr bits).toList = text at float scalar enough
    cases float with
    | @mk sign whole fraction exponent signed digits =>
      have read := readValue_scalar signed digits (fraction ++ exponent) (by simpa using enough)
        (by simpa using scalar)
      show _ = Except.ok (Json.float bits, rest)
      simpa using read
  | @str text =>
    intro fuel limits rest enough _
    rw [Json.write] at enough ⊢
    cases fuel with
    | zero => simp [JsonStyle.quote] at enough
    | succ fuel =>
      rw [quote_append, readValue, readString_quote]
      rfl
  | @arr items valid ih =>
    intro fuel limits rest enough _
    cases items with
    | nil =>
      cases fuel with
      | zero => simp [Json.write] at enough
      | succ fuel =>
        rw [Json.check, Json.write, show "[]".toList ++ rest = '[' :: ']' :: rest from rfl, readValue]
        cases limits.inside "array" with
        | error error => rfl
        | ok limits => rfl
    | cons item items =>
      rw [Json.write] at enough ⊢
      cases fuel with
      | zero => simp at enough
      | succ fuel =>
        obtain ⟨c, text, head, solid, open_, -⟩ :=
          write_head floats style (valid item (.head _))
        have read (limits : JsonLimits) := readItems_write (fun x mem => ⟨valid x mem, ih x mem⟩) fuel
          limits rest (Nat.le_of_succ_le_succ enough)
        rw [Json.check, List.cons_append, readValue]
        cases limits.inside "array" with
        | error error => rfl
        | ok limits =>
          have read := read limits
          rw [head] at read ⊢
          simp only [List.cons_append] at read ⊢
          -- an item does not begin with the bracket that closes the list
          rw [skipSpace_cons _ solid]
          split
          · next e =>
            injection e with e _
            exact absurd e open_
          · rw [read]
            cases checkItems limits (item :: items) with
            | error error => rfl
            | ok => rfl
  | @obj fields distinct valid ih =>
    intro fuel limits rest enough _
    cases fields with
    | nil =>
      cases fuel with
      | zero => simp [Json.write] at enough
      | succ fuel =>
        rw [Json.check, Json.write, show "\x7b\x7d".toList ++ rest = '\x7b' :: '\x7d' :: rest from rfl,
          readValue]
        cases limits.inside "object" with
        | error error => rfl
        | ok limits => rfl
    | cons field fields =>
      obtain ⟨key, value⟩ := field
      rw [Json.write] at enough ⊢
      cases fuel with
      | zero => simp at enough
      | succ fuel =>
        have read (limits : JsonLimits) := readFields_write
          (fun field mem => ⟨valid field mem, ih field mem⟩) fuel limits rest
          (Nat.le_of_succ_le_succ enough)
        rw [Json.check, List.cons_append, readValue]
        cases limits.inside "object" with
        | error error => rfl
        | ok limits =>
          have read := read limits
          simp only [List.append_assoc, List.cons_append, quote_append] at read ⊢
          -- a key follows, not the brace that closes the object
          rw [skipSpace_cons _ (show isJsonSpace '"' = false from rfl)]
          split
          · next e =>
            injection e with e _
            exact absurd e (by decide)
          · rw [read]
            cases checkFields limits ((key, value) :: fields) with
            | error error => rfl
            | ok =>
              simp only [Except.map, dictOf_nodup distinct]

/-- `json.loads` takes back what `json.dumps` wrote, within its limits. -/
theorem loads_text (limits : JsonLimits) (floats : FloatCodec) (style : JsonStyle) {value : Json}
    (valid : value.Valid) :
    limits.loads floats (value.text floats style) = (value.check limits).map fun _ => value := by
  obtain ⟨c, text, head, solid, -⟩ := write_head floats style valid
  have read := readValue_write floats style valid
    (2 * (value.write floats style).length + 1) limits [] (by omega) nofun
  rw [List.append_nil] at read
  have skips : skipSpace (value.write floats style) = value.write floats style := by
    rw [head, skipSpace_cons _ solid]
  simp only [JsonLimits.loads, Json.text, String.toList_ofList, skips, read]
  cases value.check limits with
  | error error => rfl
  | ok => rfl

lemma checkItems_unbounded {items : List Json}
    (checks : ∀ item ∈ items, item.check .unbounded = .ok ()) : checkItems .unbounded items = .ok () := by
  induction items with
  | nil => rfl
  | cons item items ih =>
    rw [checkItems, checks item (.head _)]
    exact ih fun item mem => checks item (.tail _ mem)

lemma checkFields_unbounded {fields : List (String × Json)}
    (checks : ∀ field ∈ fields, field.2.check .unbounded = .ok ()) :
    checkFields .unbounded fields = .ok () := by
  induction fields with
  | nil => rfl
  | cons field fields ih =>
    obtain ⟨key, value⟩ := field
    rw [checkFields, checks (key, value) (.head _)]
    exact ih fun field mem => checks field (.tail _ mem)

/-- Without limits, none is broken. -/
lemma check_unbounded {value : Json} (valid : value.Valid) : value.check .unbounded = .ok () := by
  induction valid with
  | null | bool | int | float | str => rfl
  | arr _ ih => exact checkItems_unbounded ih
  | obj _ _ ih => exact checkFields_unbounded ih

/-- The text of a value is the JSON of it. -/
theorem parse_text (floats : FloatCodec) (style : JsonStyle) {value : Json} (valid : value.Valid) :
    Json.parse floats (value.text floats style) = some value := by
  rw [Json.parse, loads_text _ floats style valid, check_unbounded valid]
  rfl

end Values

/-- A codec for examples: a float is spelled by its bits. -/
def sampleFloats : FloatCodec where
  repr bits := toString bits.toNat ++ ".0"
  parse text := BitVec.ofNat 64 (Nat.ofDigitChars 10 (text.toList.takeWhile Char.isDigit) 0)
  repr_float := by
    intro bits _
    rw [String.toList_append, show (toString bits.toNat).toList = _ from Nat.toList_repr]
    have float : IsFloat ([] ++ Nat.toDigits 10 bits.toNat ++ ['.', '0'] ++ []) :=
      .mk (.inl rfl) (isWhole_toDigits _) (.inr ⟨['0'], rfl, nofun, List.all_eq_true.mp rfl⟩) (.inl rfl)
        (.inl nofun)
    simpa using float
  parse_repr := by
    intro bits _
    have all : ∀ d ∈ Nat.toDigits 10 bits.toNat, d.isDigit = true := fun d mem =>
      Nat.isDigit_of_mem_toDigits (by decide) (by decide) mem
    have dot : EndsDigits ".0".toList := by
      rintro _ ⟨⟩
      rfl
    rw [String.toList_append, show (toString bits.toNat).toList = _ from Nat.toList_repr,
      (takeWhile_digits all dot).1, Nat.ofDigitChars_ten_toDigits, BitVec.ofNat_toNat]
    simp

section Unbounded

variable {floats : FloatCodec} {limits : JsonLimits} {text : List Char}

lemma readNumber_unbounded {read : Json × List Char} (ok : readNumber floats limits text = .ok read) :
    readNumber floats .unbounded text = .ok read := by
  rw [readNumber] at ok ⊢
  cases scanned : scanInteger text with
  | none =>
    rw [scanned] at ok
    cases ok
  | some result =>
    obtain ⟨integer, rest⟩ := result
    simp only [scanned] at ok ⊢
    split at ok
    · next whole =>
      rw [if_pos whole]
      cases converts : limits.convert (integer.filter (· ≠ '-')).length with
      | error error =>
        rw [converts] at ok
        cases ok
      | ok =>
        rw [converts] at ok
        exact ok
    · next float =>
      rw [if_neg float]
      exact ok

lemma readScalar_unbounded {read : Json × List Char} (ok : readScalar floats limits text = .ok read) :
    readScalar floats .unbounded text = .ok read := by
  rw [readScalar] at ok ⊢
  split at ok
  · exact ok
  · exact readNumber_unbounded ok

/-- What is read within limits is read without them. -/
lemma read_unbounded (fuel : Nat) :
    (∀ limits text read, readValue floats fuel limits text = .ok read →
      readValue floats fuel .unbounded text = .ok read) ∧
    (∀ limits text read, readItems floats fuel limits text = .ok read →
      readItems floats fuel .unbounded text = .ok read) ∧
    ∀ limits text read, readFields floats fuel limits text = .ok read →
      readFields floats fuel .unbounded text = .ok read := by
  induction fuel with
  | zero => exact ⟨fun _ _ _ => nofun, fun _ _ _ => nofun, fun _ _ _ => nofun⟩
  | succ fuel ih =>
    obtain ⟨values, items, fields⟩ := ih
    refine ⟨fun limits text read ok => ?_, fun limits text read ok => ?_, fun limits text read ok => ?_⟩
    -- one level of a value: a text, a container or a scalar
    · unfold readValue at ok ⊢
      split at ok
      · cases ok
      · exact ok
      · next same =>
        cases same
        split at ok
        · cases ok
        · simp only [JsonLimits.inside, JsonLimits.unbounded]
          split at ok
          · exact ok
          · exact Fallible.map_eq_ok_of (items _ _) ok
      · next same =>
        cases same
        split at ok
        · cases ok
        · simp only [JsonLimits.inside, JsonLimits.unbounded]
          split at ok
          · exact ok
          · exact Fallible.map_eq_ok_of (fields _ _) ok
      · exact readScalar_unbounded ok
    -- an item, and those behind its comma
    · rw [readItems, Fallible.bind_eq_ok] at ok ⊢
      obtain ⟨⟨value, rest⟩, first, ok⟩ := ok
      refine ⟨(value, rest), values _ _ _ first, ?_⟩
      simp only at ok ⊢
      split at ok
      · exact ok
      · rw [Fallible.bind_eq_ok] at ok ⊢
        obtain ⟨more, others, ok⟩ := ok
        exact ⟨more, items _ _ _ others, ok⟩
      · cases ok
    -- a member, and those behind its comma
    · unfold readFields at ok ⊢
      split at ok
      · cases ok
      · next same =>
        cases same
        split at ok
        · cases ok
        · split at ok
          · rw [Fallible.bind_eq_ok] at ok ⊢
            obtain ⟨⟨value, rest⟩, first, ok⟩ := ok
            refine ⟨(value, rest), values _ _ _ first, ?_⟩
            simp only at ok ⊢
            split at ok
            · exact ok
            · rw [Fallible.bind_eq_ok] at ok ⊢
              obtain ⟨more, others, ok⟩ := ok
              exact ⟨more, fields _ _ _ others, ok⟩
            · cases ok
          · cases ok
      · cases ok

/-- What `json.loads` gives within the limits is the value whose JSON the text is. -/
theorem parse_of_loads {text : String} {value : Json} (loaded : limits.loads floats text = .ok value) :
    Json.parse floats text = some value := by
  rw [JsonLimits.loads] at loaded
  split at loaded
  · next read =>
    rw [Json.parse, JsonLimits.loads, (read_unbounded _).1 _ _ _ read]
    simp only [loaded]
    rfl
  · cases loaded

end Unbounded

end AgentRuntime
