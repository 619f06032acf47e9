import Mathlib.Data.List.Infix
import Mathlib.Tactic.Lemma

/-!
# Glob-style patterns

Patterns as Redis matches keys against them, byte by byte: `*`, `?`, `[abc]`, `[^abc]`, `[a-c]`, and `\` before
a character that stands for itself. A class that is not closed ends with the pattern.
-/

namespace Glob

/-- The bytes of a text. -/
def utf8 (text : String) : List UInt8 := text.toList.flatMap String.utf8EncodeChar

/-- The byte of an ASCII character. -/
def byte (c : Char) : UInt8 := c.val.toUInt8

/-- A part of a pattern. -/
inductive Token where
  | many
  | one
  | literal (value : UInt8)
  | oneOf (negated : Bool) (ranges : List (UInt8 × UInt8))
deriving DecidableEq, Repr

/-- The single byte that the part stands for, if it stands for one. -/
def Token.accepts (value : UInt8) : Token → Bool
  | .many => false
  | .one => true
  | .literal expected => value = expected
  | .oneOf negated ranges => negated != ranges.any fun range => range.1 ≤ value && value ≤ range.2

/-- The parts of a pattern. Within a class, `classOf` holds whether it is negated and what it has so far. -/
def scan : Option (Bool × List (UInt8 × UInt8)) → List UInt8 → List Token
  | none, [] => []
  | none, c :: rest =>
    if c = byte '*' then .many :: scan none rest
    else if c = byte '?' then .one :: scan none rest
    else if c = byte '[' then
      match rest with
      | [] => scan (some (false, [])) []
      | d :: more =>
        if d = byte '^' then scan (some (true, [])) more else scan (some (false, [])) (d :: more)
    else if c = byte '\\' then
      match rest with
      | [] => [.literal c]
      | d :: more => .literal d :: scan none more
    else .literal c :: scan none rest
  | some (negated, ranges), [] => [.oneOf negated ranges]
  | some (negated, ranges), [c] =>
    if c = byte ']' then [.oneOf negated ranges] else [.oneOf negated ((c, c) :: ranges)]
  | some (negated, ranges), c :: d :: rest =>
    if c = byte '\\' then scan (some (negated, (d, d) :: ranges)) rest
    else if c = byte ']' then .oneOf negated ranges :: scan none (d :: rest)
    else if d = byte '-' then
      match rest with
      | [] => scan (some (negated, (c, c) :: ranges)) [d]
      | e :: more => scan (some (negated, (min c e, max c e) :: ranges)) more
    else scan (some (negated, (c, c) :: ranges)) (d :: rest)

/-- The parts match the whole text. -/
def matchesTokens : List Token → List UInt8 → Bool
  | [], text => text.isEmpty
  | .many :: tokens, text => text.tails.any (matchesTokens tokens)
  | token :: tokens, c :: text => token.accepts c && matchesTokens tokens text
  | _ :: _, [] => false

/-- The pattern matches the text. -/
def isMatch (pattern text : String) : Bool := matchesTokens (scan none (utf8 pattern)) (utf8 text)

/-- The byte means itself in a pattern. -/
def plainByte (c : UInt8) : Bool :=
  c ≠ byte '*' ∧ c ≠ byte '?' ∧ c ≠ byte '[' ∧ c ≠ byte '\\'

/-- The text matches only itself. -/
def plain (text : String) : Bool := (utf8 text).all plainByte

example : isMatch "turn:[a-c]?:*" "turn:bé:x" = false ∧ isMatch "turn:[a-c]??:*" "turn:bé:x" = true ∧
    isMatch "a\\*[^b" "a*c" = true := by
  decide +kernel

@[simp] lemma utf8_append (text text' : String) : utf8 (text ++ text') = utf8 text ++ utf8 text' := by
  rw [utf8, String.toList_append, List.flatMap_append, utf8, utf8]

lemma scan_cons_plain {c : UInt8} (rest : List UInt8) (clean : plainByte c = true) :
    scan none (c :: rest) = .literal c :: scan none rest := by
  obtain ⟨star, any, bracket, slash⟩ := of_decide_eq_true clean
  rw [scan.eq_def]
  simp only [star, any, bracket, slash, if_false]

lemma scan_plain {before : List UInt8} (after : List UInt8) (all : ∀ c ∈ before, plainByte c = true) :
    scan none (before ++ after) = before.map .literal ++ scan none after := by
  induction before with
  | nil => rfl
  | cons c before ih =>
    rw [List.cons_append, scan_cons_plain _ (all c List.mem_cons_self),
      ih fun d mem => all d (List.mem_cons_of_mem _ mem)]
    rfl

lemma matchesTokens_literals {before text : List UInt8} {tokens : List Token}
    (matching : matchesTokens (before.map .literal ++ tokens) text = true) : before <+: text := by
  induction before generalizing text with
  | nil => exact List.nil_prefix
  | cons c before ih =>
    cases text with
    | nil => cases matching
    | cons d text =>
      obtain ⟨accepted, rest⟩ := Bool.and_eq_true_iff.mp matching
      cases of_decide_eq_true accepted
      exact List.cons_prefix_cons.mpr ⟨rfl, ih rest⟩

/-- No character begins within the bytes of another. -/
lemma prefix_of_utf8 {before text : String} (begins : utf8 before <+: utf8 text) :
    before.toList <+: text.toList := by
  obtain ⟨rest, eq⟩ := begins
  refine List.isPrefix_of_utf8Encode_append_eq_utf8Encode rest.toByteArray ?_
  rw [List.utf8Encode, List.utf8Encode, ← List.toByteArray_append]
  exact congrArg List.toByteArray eq

/-- What stands before the first special character of a pattern stands at the beginning of what it matches. -/
lemma prefix_of_isMatch {before after text : String} (clean : plain before = true)
    (matching : isMatch (before ++ after) text = true) : before.toList <+: text.toList := by
  rw [isMatch, utf8_append, scan_plain _ (List.all_eq_true.mp clean)] at matching
  exact prefix_of_utf8 (matchesTokens_literals matching)

end Glob
