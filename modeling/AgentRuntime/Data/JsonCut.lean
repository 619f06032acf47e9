import AgentRuntime.Data.JsonRoundTrip
import Mathlib.Data.Bool.AllAny

/-!
# JSON text that is cut short

The characters of JSON text are printable, and those beyond ASCII stand inside strings. So a text that is
cut before such a character, and goes on with a line feed if at all, is no JSON.
-/

namespace AgentRuntime

variable {floats : FloatCodec} {style : JsonStyle}

section Characters

/-- A character of ASCII that can be printed. -/
def IsPrintable (c : Char) : Prop := 32 ≤ c.toNat ∧ c.toNat < 127

lemma isPrintable_digit {c : Char} (digit : c.isDigit = true) : IsPrintable c := by
  simp only [Char.isDigit, Bool.and_eq_true, decide_eq_true_eq] at digit
  have low : 48 ≤ c.toNat := digit.1
  have high : c.toNat ≤ 57 := digit.2
  exact ⟨by omega, by omega⟩

lemma isPrintable_digitChar (n : Nat) : IsPrintable n.digitChar := by
  have small : ∀ n < 16, 32 ≤ (Nat.digitChar n).toNat ∧ (Nat.digitChar n).toNat < 127 := by decide
  by_cases h : n < 16
  · exact small n h
  · have star : n.digitChar = '*' := by
      unfold Nat.digitChar
      repeat rw [if_neg (by omega)]
    rw [star]
    exact ⟨by decide, by decide⟩

lemma IsWhole.printable {digits : List Char} (whole : IsWhole digits) :
    ∀ c ∈ digits, IsPrintable c := by
  obtain rfl | ⟨d, rest, rfl, -, all⟩ := whole
  · exact fun c mem => isPrintable_digit (by rw [List.mem_singleton.mp mem]; rfl)
  · exact fun c mem => isPrintable_digit (all c mem)

lemma IsFloat.printable {text : List Char} (float : IsFloat text) : ∀ c ∈ text, IsPrintable c := by
  have mark : ∀ c ∈ ['-', '+', '.', 'e', 'E'], 32 ≤ c.toNat ∧ c.toNat < 127 :=
    List.all_iff_forall_prop.mp rfl
  obtain ⟨signed, whole, fraction, exponent, -⟩ := float
  intro c mem
  simp only [List.mem_append] at mem
  obtain ((sign | digit) | part) | part := mem
  · obtain rfl | rfl := signed
    · cases sign
    · exact mark c (by simp_all)
  · exact whole.printable c digit
  · obtain rfl | ⟨digits, rfl, -, all⟩ := fraction
    · cases part
    · obtain rfl | digit := List.mem_cons.mp part
      · exact mark _ (by decide)
      · exact isPrintable_digit (all c digit)
  · obtain rfl | ⟨e, sign, digits, rfl, isMark, signed, -, all⟩ := exponent
    · cases part
    · obtain rfl | rest := List.mem_cons.mp part
      · obtain rfl | rfl := isMark <;> exact mark _ (by decide)
      · obtain sign | digit := List.mem_append.mp rest
        · obtain rfl | rfl | rfl := signed
          · cases sign
          · exact mark c (by simp_all)
          · exact mark c (by simp_all)
        · exact isPrintable_digit (all c digit)

/-- Whether given texts are printable is read off their characters. -/
lemma printable_of_all {texts : List String}
    (all : (texts.flatMap String.toList).all (fun c => 32 ≤ c.toNat ∧ c.toNat < 127) = true) :
    ∀ text ∈ texts, ∀ c ∈ text.toList, IsPrintable c := by
  intro text mem c char
  exact List.all_iff_forall_prop.mp all c (List.mem_flatMap.mpr ⟨text, mem, char⟩)

/-- The text of a character in a string is printable, or it is a character beyond ASCII, written as it
    is. -/
lemma escape_printable (style : JsonStyle) (c : Char) : (∀ d ∈ style.escape c, IsPrintable d) ∨
    style.ascii = false ∧ 127 ≤ c.toNat ∧ style.escape c = [c] := by
  have digits : ∀ n, ∀ d ∈ '\\' :: 'u' :: hexDigits4 n, IsPrintable d := by
    intro n d mem
    simp only [hexDigits4, List.mem_cons, List.not_mem_nil, or_false] at mem
    obtain rfl | rfl | rfl | rfl | rfl | rfl := mem
    · exact ⟨by decide, by decide⟩
    · exact ⟨by decide, by decide⟩
    all_goals exact isPrintable_digitChar _
  have letters : ∀ text ∈ ["\\\"", "\\\\", "\\b", "\\t", "\\n", "\\f", "\\r"],
      ∀ d ∈ text.toList, IsPrintable d := printable_of_all rfl
  simp only [JsonStyle.escape]
  split
  · next ascii =>
    refine .inl fun d mem => ?_
    obtain ⟨n, -, mem⟩ := List.mem_flatMap.mp mem
    exact digits n d mem
  · next plain =>
    simp only [escape]
    split
    all_goals try exact .inl fun d mem => letters _ (by decide) d mem
    split
    · next control =>
      refine .inl fun d mem => ?_
      simp only [String.toList_append, String.toList_ofList, List.mem_append] at mem
      obtain lead | digit := mem
      · have printable : ∀ d ∈ "\\u00".toList, 32 ≤ d.toNat ∧ d.toNat < 127 :=
          List.all_iff_forall_prop.mp rfl
        exact printable d lead
      · simp only [List.mem_cons, List.not_mem_nil, or_false] at digit
        obtain rfl | rfl := digit <;> exact isPrintable_digitChar _
    · next control =>
      by_cases beyond : 127 ≤ c.toNat
      · refine .inr ⟨?_, beyond, by simp⟩
        simpa [beyond] using plain
      · refine .inl fun d mem => ?_
        have own : d = c := by simpa using mem
        rw [own]
        exact ⟨by omega, by omega⟩

/-- A character that JSON text in the style can have. -/
def IsWritten (style : JsonStyle) (c : Char) : Prop :=
  IsPrintable c ∨ style.ascii = false ∧ 127 ≤ c.toNat

lemma quote_written (text : String) : ∀ c ∈ style.quote text, IsWritten style c := by
  have mark : IsPrintable '"' := ⟨by decide, by decide⟩
  intro c mem
  simp only [JsonStyle.quote, List.mem_cons, List.mem_append, List.mem_flatMap, List.not_mem_nil,
    or_false] at mem
  obtain rfl | ⟨d, -, mem⟩ | rfl := mem
  · exact .inl mark
  · obtain printable | ⟨ascii, beyond, own⟩ := escape_printable style d
    · exact .inl (printable c mem)
    · rw [own, List.mem_singleton] at mem
      exact .inr ⟨ascii, mem ▸ beyond⟩
  · exact .inl mark

lemma separator_printable {mark : Char} (printable : IsPrintable mark) :
    ∀ c ∈ style.separator mark, IsPrintable c := by
  intro c mem
  simp only [JsonStyle.separator] at mem
  split at mem
  · simp only [List.mem_cons, List.not_mem_nil, or_false] at mem
    obtain rfl | rfl := mem
    · exact printable
    · exact ⟨by decide, by decide⟩
  · rw [List.mem_singleton.mp mem]
    exact printable

lemma literal_printable : ∀ text ∈ ["null", "true", "false", "[]", "\x7b\x7d", "[", "]", "\x7b",
    "\x7d"], ∀ c ∈ text.toList, IsPrintable c :=
  printable_of_all rfl

/-- Numbers and constants are printable. -/
lemma scalar_printable (floats : FloatCodec) (style : JsonStyle) {value : Json} (valid : value.Valid)
    (scalar : ∀ text, value ≠ .str text) (flat : ∀ items, value ≠ .arr items)
    (plain : ∀ fields, value ≠ .obj fields) : ∀ c ∈ value.write floats style, IsPrintable c := by
  cases valid with
  | null => exact literal_printable "null" (by decide)
  | @bool value =>
    cases value
    · exact literal_printable "false" (by decide)
    · exact literal_printable "true" (by decide)
  | @int value =>
    obtain ⟨sign, digits, text, signed, whole, -⟩ := toString_int value
    rw [Json.write, text]
    intro c mem
    obtain minus | digit := List.mem_append.mp mem
    · obtain rfl | rfl := signed
      · cases minus
      · rw [List.mem_singleton.mp minus]
        exact ⟨by decide, by decide⟩
    · exact whole.printable c digit
  | float finite =>
    rw [Json.write]
    exact (floats.repr_float _ finite).printable
  | str => exact absurd rfl (scalar _)
  | arr => exact absurd rfl (flat _)
  | obj => exact absurd rfl (plain _)

lemma writeItems_written {items : List Json}
    (written : ∀ item ∈ items, ∀ c ∈ item.write floats style, IsWritten style c) :
    ∀ c ∈ writeItems floats style items, IsWritten style c := by
  induction items with
  | nil => exact fun c mem => .inl (literal_printable "]" (by decide) c mem)
  | cons item items ih =>
    intro c mem
    simp only [writeItems, List.mem_append] at mem
    obtain (comma | first) | more := mem
    · exact .inl (separator_printable ⟨by decide, by decide⟩ c comma)
    · exact written item (.head _) c first
    · exact ih (fun item mem => written item (.tail _ mem)) c more

lemma writeFields_written {fields : List (String × Json)}
    (written : ∀ field ∈ fields, ∀ c ∈ field.2.write floats style, IsWritten style c) :
    ∀ c ∈ writeFields floats style fields, IsWritten style c := by
  induction fields with
  | nil => exact fun c mem => .inl (literal_printable "\x7d" (by decide) c mem)
  | cons field fields ih =>
    obtain ⟨key, value⟩ := field
    intro c mem
    simp only [writeFields, List.mem_append] at mem
    obtain (((comma | name) | colon) | first) | more := mem
    · exact .inl (separator_printable ⟨by decide, by decide⟩ c comma)
    · exact quote_written key c name
    · exact .inl (separator_printable ⟨by decide, by decide⟩ c colon)
    · exact written (key, value) (.head _) c first
    · exact ih (fun field mem => written field (.tail _ mem)) c more

/-- JSON text has printable characters, and others beyond ASCII where the style leaves them. -/
theorem write_written {value : Json} (valid : value.Valid) :
    ∀ c ∈ value.write floats style, IsWritten style c := by
  induction valid with
  | null => exact fun c mem => .inl (scalar_printable floats style .null nofun nofun nofun c mem)
  | bool => exact fun c mem => .inl (scalar_printable floats style .bool nofun nofun nofun c mem)
  | int => exact fun c mem => .inl (scalar_printable floats style .int nofun nofun nofun c mem)
  | float finite =>
    exact fun c mem => .inl (scalar_printable floats style (.float finite) nofun nofun nofun c mem)
  | @str text =>
    rw [Json.write]
    exact quote_written text
  | @arr items valid ih =>
    cases items with
    | nil => exact fun c mem => .inl (literal_printable "[]" (by decide) c mem)
    | cons item items =>
      intro c mem
      simp only [Json.write, List.mem_cons, List.mem_append] at mem
      obtain rfl | first | more := mem
      · exact .inl ⟨by decide, by decide⟩
      · exact ih item (.head _) c first
      · exact writeItems_written (fun item mem => ih item (.tail _ mem)) c more
  | @obj fields distinct valid ih =>
    cases fields with
    | nil => exact fun c mem => .inl (literal_printable "\x7b\x7d" (by decide) c mem)
    | cons field fields =>
      obtain ⟨key, value⟩ := field
      intro c mem
      simp only [Json.write, List.mem_cons, List.mem_append] at mem
      obtain rfl | ((name | colon) | first) | more := mem
      · exact .inl ⟨by decide, by decide⟩
      · exact quote_written key c name
      · exact .inl (separator_printable ⟨by decide, by decide⟩ c colon)
      · exact ih (key, value) (.head _) c first
      · exact writeFields_written (fun field mem => ih field (.tail _ mem)) c more

end Characters

section Strings

mutual

/-- The strings and keys of a value. -/
def Json.strings : Json → List String
  | .str text => [text]
  | .arr items => itemStrings items
  | .obj fields => fieldStrings fields
  | _ => []

def itemStrings : List Json → List String
  | [] => []
  | item :: items => item.strings ++ itemStrings items

def fieldStrings : List (String × Json) → List String
  | [] => []
  | (key, value) :: fields => key :: value.strings ++ fieldStrings fields

end

variable {floats : FloatCodec} {style : JsonStyle} {c : Char}

lemma mem_escape_wide (wide : 127 ≤ c.toNat) (d : Char) :
    c ∈ style.escape d ↔ style.ascii = false ∧ c = d := by
  have narrow {d} : IsPrintable d → d ≠ c := by
    rintro ⟨-, low⟩ rfl
    omega
  constructor
  · intro mem
    obtain printable | ⟨raw, -, own⟩ := escape_printable style d
    · exact absurd rfl (narrow (printable c mem))
    · exact ⟨raw, List.mem_singleton.mp (own ▸ mem)⟩
  · rintro ⟨raw, rfl⟩
    have control : ¬ c.toNat < 32 := by omega
    simp only [JsonStyle.escape, raw, Bool.false_and, Bool.false_eq_true, if_false, escape]
    split
    all_goals first
      | omega
      | simp [control]

lemma mem_quote_wide (wide : 127 ≤ c.toNat) (text : String) :
    c ∈ style.quote text ↔ style.ascii = false ∧ c ∈ text.toList := by
  have mark : c ≠ '"' := by
    rintro rfl
    exact absurd wide (by decide)
  simp only [JsonStyle.quote, List.mem_cons, List.mem_append, List.mem_flatMap, mark,
    mem_escape_wide wide, false_or, List.not_mem_nil, or_false]
  constructor
  · rintro ⟨d, mem, raw, rfl⟩
    exact ⟨raw, mem⟩
  · rintro ⟨raw, mem⟩
    exact ⟨c, mem, raw, rfl⟩

lemma not_mem_printable (wide : 127 ≤ c.toNat) {text : List Char}
    (printable : ∀ d ∈ text, IsPrintable d) : c ∉ text :=
  fun mem => absurd (printable c mem).2 (by omega)

/-- The characters beyond ASCII of JSON text are those of the value's strings, where the style leaves
    them. -/
theorem mem_write_wide {value : Json} (valid : value.Valid) (wide : 127 ≤ c.toNat) :
    c ∈ value.write floats style ↔
      style.ascii = false ∧ ∃ text ∈ value.strings, c ∈ text.toList := by
  have literal {t : String} (h : t ∈ ["null", "true", "false", "[]", "\x7b\x7d", "[", "]",
      "\x7b", "\x7d"]) : c ∉ t.toList := not_mem_printable wide (literal_printable t h)
  have comma : c ∉ style.separator ',' :=
    not_mem_printable wide (separator_printable ⟨by decide, by decide⟩)
  have colon : c ∉ style.separator ':' :=
    not_mem_printable wide (separator_printable ⟨by decide, by decide⟩)
  have scalar {value : Json} (valid : value.Valid) (text : ∀ text, value ≠ .str text)
      (flat : ∀ items, value ≠ .arr items) (plain : ∀ fields, value ≠ .obj fields) :
      c ∉ value.write floats style :=
    not_mem_printable wide (scalar_printable floats style valid text flat plain)
  induction valid with
  | null => simpa [Json.strings] using scalar .null nofun nofun nofun
  | bool => simpa [Json.strings] using scalar .bool nofun nofun nofun
  | int => simpa [Json.strings] using scalar .int nofun nofun nofun
  | float finite => simpa [Json.strings] using scalar (.float finite) nofun nofun nofun
  | @str text => simp [Json.write, Json.strings, mem_quote_wide wide]
  | @arr items valid ih =>
    have more : ∀ items : List Json, (∀ item ∈ items, c ∈ item.write floats style ↔
        style.ascii = false ∧ ∃ text ∈ item.strings, c ∈ text.toList) →
        (c ∈ writeItems floats style items ↔
          style.ascii = false ∧ ∃ text ∈ itemStrings items, c ∈ text.toList) := by
      intro items ih
      induction items with
      | nil => simpa [writeItems, itemStrings] using literal (t := "]") (by decide)
      | cons item items ih' =>
        obtain ⟨first, others⟩ := List.forall_mem_cons.mp ih
        simp only [writeItems, itemStrings, List.mem_append, comma, first, ih' others, false_or,
          or_and_right, exists_or, and_or_left]
    cases items with
    | nil => simpa [Json.write, Json.strings, itemStrings] using literal (t := "[]") (by decide)
    | cons item items =>
      obtain ⟨first, others⟩ := List.forall_mem_cons.mp ih
      have bracket : c ≠ '[' := fun e => literal (t := "[") (by decide) (e ▸ .head _)
      simp only [Json.write, Json.strings, itemStrings, List.mem_cons, List.mem_append, bracket, first,
        more items others, false_or, or_and_right, exists_or, and_or_left]
  | @obj fields distinct valid ih =>
    have more : ∀ fields : List (String × Json), (∀ field ∈ fields, c ∈ field.2.write floats style ↔
        style.ascii = false ∧ ∃ text ∈ field.2.strings, c ∈ text.toList) →
        (c ∈ writeFields floats style fields ↔
          style.ascii = false ∧ ∃ text ∈ fieldStrings fields, c ∈ text.toList) := by
      intro fields ih
      induction fields with
      | nil => simpa [writeFields, fieldStrings] using literal (t := "\x7d") (by decide)
      | cons field fields ih' =>
        obtain ⟨first, others⟩ := List.forall_mem_cons.mp ih
        simp only [writeFields, fieldStrings, List.mem_cons, List.mem_append, comma, colon, first,
          ih' others, mem_quote_wide wide, false_or, or_false, or_and_right, exists_or,
          exists_eq_left, and_or_left]
    cases fields with
    | nil => simpa [Json.write, Json.strings, fieldStrings] using
        literal (t := "\x7b\x7d") (by decide)
    | cons field fields =>
      obtain ⟨first, others⟩ := List.forall_mem_cons.mp ih
      have brace : c ≠ '\x7b' := fun e => literal (t := "\x7b") (by decide) (e ▸ .head _)
      simp only [Json.write, Json.strings, fieldStrings, List.mem_cons, List.mem_append, brace, colon,
        first, more fields others, mem_quote_wide wide, false_or, or_false, or_and_right, exists_or,
        exists_eq_left, and_or_left]

end Strings

section Cut

/-- What follows a cut: nothing, or a line feed. -/
def AfterCut (rest : List Char) : Prop := rest = [] ∨ ∃ more, rest = '\n' :: more

variable {p q rest : List Char} {b : Char}

/-- A character after a common prefix stands in the first text or in the second one. -/
lemma cut_append {xs ys : List Char} (h : xs ++ ys = p ++ b :: q) :
    (∃ p', p = xs ++ p' ∧ ys = p' ++ b :: q) ∨ ∃ q', xs = p ++ b :: q' := by
  obtain ⟨p', rfl, rest⟩ | ⟨q', rfl, rest⟩ := List.append_eq_append_iff.mp h
  · exact .inl ⟨p', rfl, rest⟩
  · cases q' with
    | nil => exact .inl ⟨[], by simp, by simpa using rest.symm⟩
    | cons c q' =>
      injection rest with head tail
      exact .inr ⟨q', by rw [head]⟩

lemma not_printable (beyond : 127 ≤ b.toNat) : ¬ IsPrintable b :=
  fun printable => absurd printable.2 (Nat.not_lt.mpr beyond)

/-- A string that is cut before a character beyond ASCII is not scanned. -/
lemma scanString_cut {chars : List Char} (beyond : 127 ≤ b.toNat) (cut : AfterCut rest) :
    ∀ {p}, chars.flatMap style.escape = p ++ b :: q → scanString (p ++ rest) = none := by
  have ended : scanString rest = none := by
    obtain rfl | ⟨more, rfl⟩ := cut <;> simp [scanString]
  induction chars with
  | nil => simp
  | cons c chars ih =>
    intro p text
    rw [List.flatMap_cons] at text
    obtain ⟨p', rfl, tail⟩ | ⟨q', own⟩ := cut_append text
    · obtain ⟨units, scans, -⟩ := scansTo_style style c
      rw [List.append_assoc, scans, ih tail]
      rfl
    · have mem : b ∈ style.escape c := own ▸ List.mem_append_right _ (.head _)
      obtain printable | ⟨-, -, alone⟩ := escape_printable style c
      · exact absurd (printable b mem) (not_printable beyond)
      · rw [alone] at own
        have lengths := congrArg List.length own
        simp only [List.length_append, List.length_cons, List.length_nil] at lengths
        have empty : p = [] := List.length_eq_zero_iff.mp (by omega)
        rw [empty]
        exact ended

/-- A quoted text that is cut begins with its quote, and is not read as a string. -/
lemma readString_cut {text : String} (beyond : 127 ≤ b.toNat) (cut : AfterCut rest)
    (h : style.quote text = p ++ b :: q) :
    ∃ p', p = '"' :: p' ∧ readString (p' ++ rest) = none := by
  cases p with
  | nil =>
    injection h with quote _
    exact absurd beyond (by rw [← quote]; decide)
  | cons c p =>
    injection h with quote tail
    subst quote
    refine ⟨p, rfl, ?_⟩
    obtain ⟨p', rfl, last⟩ | ⟨q', body⟩ := cut_append tail
    · cases p' with
      | nil =>
        injection last with quote _
        exact absurd beyond (by rw [← quote]; decide)
      | cons d p' =>
        injection last with _ tail
        simp at tail
    · rw [readString, scanString_cut beyond cut body]
      rfl

/-- However much fuel it has for it, the reader does not read the value's text when it is cut before a
    character beyond ASCII. -/
def FailsCut (floats : FloatCodec) (style : JsonStyle) (value : Json) : Prop :=
  ∀ p b q fuel limits rest, value.write floats style = p ++ b :: q → 127 ≤ b.toNat → AfterCut rest →
    2 * p.length ≤ fuel → ∃ error, readValue floats fuel limits (p ++ rest) = .error error

/-- A separator is printable, so a cut leaves its mark. -/
lemma separator_cut {mark : Char} {ys : List Char} (printable : IsPrintable mark)
    (beyond : 127 ≤ b.toNat) (h : style.separator mark ++ ys = p ++ b :: q) :
    ∃ p', p = style.separator mark ++ p' ∧ ys = p' ++ b :: q := by
  obtain found | ⟨q', own⟩ := cut_append h
  · exact found
  · have mem : b ∈ style.separator mark := own ▸ List.mem_append_right _ (.head _)
    exact absurd (separator_printable printable b mem) (not_printable beyond)

/-- The text of a value has an ASCII character first, so a cut leaves it. -/
lemma value_cut {value : Json} {ys : List Char} (valid : value.Valid) (beyond : 127 ≤ b.toNat)
    (h : value.write floats style ++ ys = p ++ b :: q) :
    ∃ c p', p = c :: p' ∧ isJsonSpace c = false ∧ c ≠ ']' := by
  obtain ⟨c, text, head, solid, open_, ascii⟩ :=
    write_head floats style valid
  rw [head] at h
  cases p with
  | nil =>
    injection h with first _
    exact absurd beyond (Nat.not_le.mpr (first ▸ ascii))
  | cons d p =>
    injection h with first _
    subst first
    exact ⟨c, p, rfl, solid, open_⟩

lemma bracket_cut {c : Char} (printable : IsPrintable c) (beyond : 127 ≤ b.toNat)
    (h : [c] = p ++ b :: q) : False := by
  have mem : b ∈ [c] := h ▸ List.mem_append_right _ (.head _)
  rw [List.mem_singleton.mp mem] at beyond
  exact not_printable beyond printable

lemma readItems_cut {items : List Json} : ∀ {item : Json},
    (∀ x ∈ item :: items, x.Valid ∧ FailsCut floats style x) → ∀ p b q fuel limits rest,
    item.write floats style ++ writeItems floats style items = p ++ b :: q → 127 ≤ b.toNat →
    AfterCut rest → 2 * p.length + 1 ≤ fuel →
      ∃ error, readItems floats fuel limits (p ++ rest) = .error error := by
  have inside : ∀ {item : Json} {p q rest b fuel limits}, FailsCut floats style item →
      item.write floats style = p ++ b :: q → 127 ≤ b.toNat → AfterCut rest →
      2 * p.length + 1 ≤ fuel → ∃ error, readItems floats fuel limits (p ++ rest) = .error error := by
    intro item p q rest b fuel limits fails text beyond cut enough
    cases fuel with
    | zero => exact ⟨_, rfl⟩
    | succ fuel =>
      obtain ⟨error, unread⟩ := fails p b q fuel limits rest text beyond cut (by omega)
      rw [readItems, unread]
      exact ⟨error, rfl⟩
  induction items with
  | nil =>
    intro item fails p b q fuel limits rest text beyond cut enough
    obtain ⟨p', rfl, last⟩ | ⟨q', own⟩ := cut_append text
    · exact (bracket_cut ⟨by decide, by decide⟩ beyond last).elim
    · exact inside (fails item (.head _)).2 own beyond cut enough
  | cons next items ih =>
    intro item fails p b q fuel limits rest text beyond cut enough
    obtain ⟨p', rfl, more⟩ | ⟨q', own⟩ := cut_append text
    · rw [writeItems, List.append_assoc] at more
      obtain ⟨p'', rfl, following⟩ := separator_cut ⟨by decide, by decide⟩ beyond more
      obtain ⟨pad, separator, skips⟩ := separator_cons style ','
      obtain ⟨c, tail, head, solid, -⟩ :=
        value_cut (fails next (.tail _ (.head _))).1 beyond following
      simp only [separator, List.length_append, List.length_cons] at enough
      cases fuel with
      | zero => exact ⟨_, rfl⟩
      | succ fuel =>
        have read := readValue_write floats style (fails item (.head _)).1 fuel limits
          (',' :: (pad ++ (p'' ++ rest))) (by omega) (endsNumber_cons _ (by decide))
        obtain ⟨error, unread⟩ := ih (fun x mem => fails x (.tail _ mem)) p'' b q fuel limits rest
          following beyond cut (by omega)
        rw [separator, List.append_assoc, List.cons_append, List.cons_append, List.append_assoc,
          readItems, read]
        cases item.check limits with
        | error error => exact ⟨error, rfl⟩
        | ok =>
          simp only [Except.map, bind, Except.bind, skips,
            skipSpace_cons _ (show isJsonSpace ',' = false from rfl)]
          rw [head, List.cons_append, skipSpace_cons _ solid, ← List.cons_append, ← head, unread]
          exact ⟨error, rfl⟩
    · exact inside (fails item (.head _)).2 own beyond cut enough

/-- A field that is read after its key. -/
lemma readFields_key (key : String) {fuel : Nat} {limits : JsonLimits} {text : List Char}
    (solid : skipSpace text = text) :
    readFields floats (fuel + 1) limits (style.quote key ++ (style.separator ':' ++ text)) = (do
      let (value, rest) ← readValue floats fuel limits text
      match skipSpace rest with
      | '\x7d' :: rest => pure ([(key, value)], rest)
      | ',' :: rest =>
        let (fields, rest) ← readFields floats fuel limits (skipSpace rest)
        pure ((key, value) :: fields, rest)
      | _ => .error .decode) := by
  obtain ⟨pad, separator, skips⟩ := separator_cons style ':'
  have opened := Eq.refl (readFields floats (fuel + 1) limits (style.quote key ++ (style.separator ':' ++ text)))
  conv_rhs at opened =>
    simp only [quote_append, readFields, readString_quote, separator, List.cons_append, skips, solid,
      skipSpace_cons _ (show isJsonSpace ':' = false from rfl)]
  exact opened

lemma readFields_cut {fields : List (String × Json)} : ∀ {key : String} {value : Json},
    (∀ field ∈ (key, value) :: fields, field.2.Valid ∧ FailsCut floats style field.2) →
    ∀ p b q fuel limits rest,
    style.quote key ++ style.separator ':' ++ value.write floats style ++
      writeFields floats style fields = p ++ b :: q → 127 ≤ b.toNat →
    AfterCut rest → 2 * p.length + 1 ≤ fuel →
      ∃ error, readFields floats fuel limits (p ++ rest) = .error error := by
  have inside : ∀ {key : String} {value : Json} {p q rest b fuel limits}, value.Valid →
      FailsCut floats style value →
      style.quote key ++ style.separator ':' ++ value.write floats style = p ++ b :: q →
      127 ≤ b.toNat → AfterCut rest → 2 * p.length + 1 ≤ fuel →
      ∃ error, readFields floats fuel limits (p ++ rest) = .error error := by
    intro key value p q rest b fuel limits valid fails text beyond cut enough
    rw [List.append_assoc] at text
    cases fuel with
    | zero => exact ⟨_, rfl⟩
    | succ fuel =>
      obtain ⟨p', rfl, more⟩ | ⟨q', own⟩ := cut_append text
      · obtain ⟨p'', rfl, following⟩ := separator_cut ⟨by decide, by decide⟩ beyond more
        have same : value.write floats style ++ [] = p'' ++ b :: q := by rw [List.append_nil, following]
        obtain ⟨c, tail, head, solid, -⟩ := value_cut valid beyond same
        simp only [List.length_append] at enough
        have skips : skipSpace (p'' ++ rest) = p'' ++ rest := by
          rw [head, List.cons_append, skipSpace_cons _ solid]
        obtain ⟨error, unread⟩ := fails p'' b q fuel limits rest following beyond cut (by omega)
        rw [List.append_assoc, List.append_assoc, readFields_key key skips, unread]
        exact ⟨error, rfl⟩
      · obtain ⟨p', rfl, unread⟩ := readString_cut beyond cut own
        rw [List.cons_append, readFields, unread]
        exact ⟨_, rfl⟩
  induction fields with
  | nil =>
    intro key value fails p b q fuel limits rest text beyond cut enough
    obtain ⟨valid, fails⟩ : value.Valid ∧ FailsCut floats style value := fails _ (.head _)
    obtain ⟨p', rfl, last⟩ | ⟨q', own⟩ := cut_append text
    · exact (bracket_cut ⟨by decide, by decide⟩ beyond last).elim
    · exact inside valid fails own beyond cut enough
  | cons next fields ih =>
    intro key value fails p b q fuel limits rest text beyond cut enough
    obtain ⟨next, nextValue⟩ := next
    obtain ⟨valid, failsFirst⟩ : value.Valid ∧ FailsCut floats style value := fails _ (.head _)
    obtain ⟨p', rfl, more⟩ | ⟨q', own⟩ := cut_append text
    · simp only [writeFields, List.append_assoc] at more
      obtain ⟨p'', rfl, following⟩ := separator_cut ⟨by decide, by decide⟩ beyond more
      obtain ⟨pad, separator, skips⟩ := separator_cons style ','
      obtain ⟨c, tail, head, solid, -⟩ := write_head floats style valid
      cases fuel with
      | zero => exact ⟨_, rfl⟩
      | succ fuel =>
        simp only [separator, List.length_append, List.length_cons] at enough
        have read := readValue_write floats style valid fuel limits (',' :: (pad ++ (p'' ++ rest)))
          (by omega) (endsNumber_cons _ (by decide))
        obtain ⟨error, unread⟩ := ih (fun field mem => fails field (.tail _ mem)) p'' b q fuel limits rest
          (by simpa only [List.append_assoc] using following) beyond cut (by omega)
        have begins : skipSpace (p'' ++ rest) = p'' ++ rest := by
          obtain ⟨p3, rfl, -⟩ | ⟨q', own⟩ := cut_append following
          · rw [List.append_assoc, quote_append, skipSpace_cons _ rfl]
          · obtain ⟨p3, rfl, -⟩ := readString_cut beyond cut own
            rw [List.cons_append, skipSpace_cons _ rfl]
        have whole : skipSpace (value.write floats style ++ (',' :: (pad ++ (p'' ++ rest)))) =
            value.write floats style ++ (',' :: (pad ++ (p'' ++ rest))) := by
          rw [head, List.cons_append, skipSpace_cons _ solid]
        simp only [separator, List.append_assoc, List.cons_append]
        rw [readFields_key key whole, read]
        cases value.check limits with
        | error error => exact ⟨error, rfl⟩
        | ok =>
          simp only [Except.map, bind, Except.bind, skips, begins, unread,
            skipSpace_cons _ (show isJsonSpace ',' = false from rfl)]
          exact ⟨error, rfl⟩
    · exact inside valid failsFirst own beyond cut enough

/-- The text of a value that is cut before a character beyond ASCII is not read. -/
theorem readValue_cut (floats : FloatCodec) (style : JsonStyle) {value : Json}
    (valid : value.Valid) : FailsCut floats style value := by
  -- the text of a scalar has no character beyond ASCII at which it could be cut
  have scalar : ∀ {value : Json}, value.Valid → (∀ text, value ≠ .str text) →
      (∀ items, value ≠ .arr items) → (∀ fields, value ≠ .obj fields) →
      FailsCut floats style value := by
    intro value valid noText noItems noFields p b q fuel limits rest text beyond cut enough
    have printable := scalar_printable floats style valid noText noItems noFields b
      (text ▸ List.mem_append_right _ (.head _))
    exact absurd printable (not_printable beyond)
  induction valid with
  | null => exact scalar .null nofun nofun nofun
  | bool => exact scalar .bool nofun nofun nofun
  | int => exact scalar .int nofun nofun nofun
  | float finite => exact scalar (.float finite) nofun nofun nofun
  | @str text =>
    intro p b q fuel limits rest written beyond cut enough
    rw [Json.write] at written
    obtain ⟨p', rfl, unread⟩ := readString_cut beyond cut written
    cases fuel with
    | zero => exact ⟨_, rfl⟩
    | succ fuel =>
      rw [List.cons_append, readValue, unread]
      exact ⟨_, rfl⟩
  | @arr items valid ih =>
    intro p b q fuel limits rest written beyond cut enough
    cases items with
    | nil =>
      exact absurd (literal_printable "[]" (by decide) b (by
        rw [Json.write] at written
        exact written ▸ List.mem_append_right _ (.head _))) (not_printable beyond)
    | cons item items =>
      rw [Json.write] at written
      cases p with
      | nil =>
        injection written with bracket _
        exact absurd beyond (by rw [← bracket]; decide)
      | cons c p =>
        injection written with bracket written
        subst bracket
        obtain ⟨c, tail, head, solid, open_⟩ := value_cut (valid item (.head _)) beyond written
        simp only [List.length_cons] at enough
        cases fuel with
        | zero => exact ⟨_, rfl⟩
        | succ fuel =>
          rw [List.cons_append, readValue]
          cases limits.inside "array" with
          | error error => exact ⟨error, rfl⟩
          | ok limits =>
            obtain ⟨error, unread⟩ := readItems_cut (fun x mem => ⟨valid x mem, ih x mem⟩) p b q fuel
              limits rest written beyond cut (by omega)
            rw [head] at unread ⊢
            simp only [List.cons_append] at unread ⊢
            rw [skipSpace_cons _ solid]
            split
            · next e =>
              injection e with e _
              exact absurd e open_
            · rw [unread]
              exact ⟨error, rfl⟩
  | @obj fields distinct valid ih =>
    intro p b q fuel limits rest written beyond cut enough
    cases fields with
    | nil =>
      exact absurd (literal_printable "\x7b\x7d" (by decide) b (by
        rw [Json.write] at written
        exact written ▸ List.mem_append_right _ (.head _))) (not_printable beyond)
    | cons field fields =>
      obtain ⟨key, value⟩ := field
      rw [Json.write] at written
      cases p with
      | nil =>
        injection written with brace _
        exact absurd beyond (by rw [← brace]; decide)
      | cons c p =>
        injection written with brace written
        subst brace
        have begins : ∃ tail, p = '"' :: tail := by
          simp only [List.append_assoc] at written
          obtain ⟨p', rfl, -⟩ | ⟨q', own⟩ := cut_append written
          · exact ⟨_, rfl⟩
          -- the cut is inside the key, behind its first quote
          · obtain ⟨p', rfl, -⟩ := readString_cut beyond cut own
            exact ⟨_, rfl⟩
        obtain ⟨tail, head⟩ := begins
        simp only [List.length_cons] at enough
        cases fuel with
        | zero => exact ⟨_, rfl⟩
        | succ fuel =>
          rw [List.cons_append, readValue]
          cases limits.inside "object" with
          | error error => exact ⟨error, rfl⟩
          | ok limits =>
            obtain ⟨error, unread⟩ := readFields_cut (fun field mem => ⟨valid field mem, ih field mem⟩) p b
              q fuel limits rest written beyond cut (by omega)
            rw [head] at unread ⊢
            simp only [List.cons_append] at unread ⊢
            rw [skipSpace_cons _ (show isJsonSpace '"' = false from rfl)]
            split
            · next e =>
              injection e with e _
              exact absurd e (by decide)
            · rw [unread]
              exact ⟨error, rfl⟩

/-- `json.loads` refuses a text that is cut before a character beyond ASCII. -/
theorem loads_cut (limits : JsonLimits) {value : Json} (valid : value.Valid)
    (written : value.write floats style = p ++ b :: q) (beyond : 127 ≤ b.toNat)
    (cut : AfterCut rest) : ∃ error, limits.loads floats (String.ofList (p ++ rest)) = .error error := by
  have same : value.write floats style ++ [] = p ++ b :: q := by rw [List.append_nil, written]
  obtain ⟨c, tail, head, solid, -⟩ := value_cut valid beyond same
  have skips : skipSpace (p ++ rest) = p ++ rest := by
    rw [head, List.cons_append, skipSpace_cons _ solid]
  obtain ⟨error, unread⟩ := readValue_cut floats style valid p b q
    (2 * (p ++ rest).length + 1) limits rest written beyond cut
    (by simp only [List.length_append]; omega)
  simp only [JsonLimits.loads, String.toList_ofList, skips, unread]
  exact ⟨error, rfl⟩

end Cut

end AgentRuntime
