import Mathlib.Data.List.Basic
import Mathlib.Data.List.GetD
import Mathlib.Data.List.Nodup
import Mathlib.Tactic.Lemma

/-!
# Base64

Bytes as text over the URL-safe alphabet, without padding, and the reader that forgives: it skips what is not
in the alphabet, takes both alphabets, and stops at a complete padding. What is written and then padded is
read back.
-/

namespace Base64

/-- The symbols, in the order of their values. -/
def alphabet : List Char :=
  ['A', 'B', 'C', 'D', 'E', 'F', 'G', 'H', 'I', 'J', 'K', 'L', 'M', 'N', 'O', 'P', 'Q', 'R', 'S', 'T', 'U', 'V',
   'W', 'X', 'Y', 'Z', 'a', 'b', 'c', 'd', 'e', 'f', 'g', 'h', 'i', 'j', 'k', 'l', 'm', 'n', 'o', 'p', 'q', 'r',
   's', 't', 'u', 'v', 'w', 'x', 'y', 'z', '0', '1', '2', '3', '4', '5', '6', '7', '8', '9', '-', '_']

/-- The symbol of a value. -/
def symbol (n : Nat) : Char := alphabet.getD n 'A'

/-- The value of a symbol, of this alphabet or the plain one. -/
def value? (c : Char) : Option Nat :=
  if c = '+' then some 62
  else if c = '/' then some 63
  else alphabet.findIdx? fun symbol => symbol = c

/-- No symbol stands twice. -/
lemma alphabet_nodup : alphabet.Nodup := by
  have codes : (alphabet.map Char.toNat).Nodup := by decide
  exact List.Nodup.of_map Char.toNat codes

lemma symbol_eq {n : Nat} (h : n < alphabet.length) : symbol n = alphabet[n] := List.getD_eq_getElem _ _ h

lemma symbol_mem {n : Nat} (h : n < alphabet.length) : symbol n ∈ alphabet := by
  rw [symbol_eq h]
  exact List.getElem_mem h

lemma value?_symbol {n : Nat} (h : n < 64) : value? (symbol n) = some n := by
  have within : n < alphabet.length := h
  have plus : '+' ∉ alphabet := by decide
  have slash : '/' ∉ alphabet := by decide
  have mem := symbol_mem within
  rw [value?, if_neg (ne_of_mem_of_not_mem mem plus), if_neg (ne_of_mem_of_not_mem mem slash),
    List.findIdx?_eq_some_iff_getElem]
  refine ⟨within, decide_eq_true (symbol_eq within).symm, ?_⟩
  intro j before
  -- an earlier place of the symbol would be a second one
  rw [symbol_eq within, decide_eq_true_eq]
  intro same
  exact absurd ((alphabet_nodup.getElem_inj_iff).mp same) (Nat.ne_of_lt before)

/-- The padding is no symbol. -/
lemma value?_padding : value? '=' = none := by decide

/-- The values of six bits each that bytes consist of; the last one is filled up with zeros. -/
def sextets : List UInt8 → List Nat
  | [] => []
  | [a] => [a.toNat / 4, a.toNat % 4 * 16]
  | [a, b] => [a.toNat / 4, a.toNat % 4 * 16 + b.toNat / 16, b.toNat % 16 * 4]
  | a :: b :: c :: rest =>
    a.toNat / 4 :: (a.toNat % 4 * 16 + b.toNat / 16) :: (b.toNat % 16 * 4 + c.toNat / 64) :: c.toNat % 64 ::
      sextets rest

/-- The text of bytes, without padding. -/
def encode (bytes : List UInt8) : List Char := (sextets bytes).map symbol

/-- How much of a group of four symbols was read: the bits that are left over, and whether a padding has
    begun. -/
inductive Quad where
  | empty
  | one (left : Nat)
  | two (left : Nat) (padded : Bool)
  | three (left : Nat)

namespace Quad

/-- The group after one more value. -/
def next : Quad → Nat → Quad
  | empty, n => one n
  | one _, n => two (n % 16) false
  | two _ _, n => three (n % 4)
  | three _, _ => empty

/-- The byte that one more value completes. -/
def byte? : Quad → Nat → Option UInt8
  | empty, _ => none
  | one left, n => some (.ofNat (left * 4 + n / 16))
  | two left _, n => some (.ofNat (left * 16 + n / 4))
  | three left, n => some (.ofNat (left * 64 + n))

/-- The group after a padding symbol, or nothing when it is complete; one that is too short stays as it is. -/
def pad? : Quad → Option Quad
  | two left false => some (two left true)
  | two _ true => none
  | three _ => none
  | q => some q

/-- A text may end here. -/
def closed : Quad → Bool
  | empty => true
  | _ => false

end Quad

/-- The bytes of the rest of a text, or nothing when it ends inside a group. -/
def read (q : Quad) : List Char → Option (List UInt8)
  | [] => if q.closed then some [] else none
  | c :: rest =>
    match value? c with
    | some n => (read (q.next n) rest).map ((q.byte? n).toList ++ ·)
    | none =>
      if c = '=' then
        match q.pad? with
        | some q => read q rest
        | none => some []
      else read q rest

/-- The bytes of a text. -/
def decode (text : List Char) : Option (List UInt8) := read .empty text

/-- A text with the padding that makes its length a multiple of four. -/
def pad (text : List Char) : List Char := text ++ List.replicate ((4 - text.length % 4) % 4) '='

section Write

/-- Every value has six bits. -/
lemma sextets_lt (bytes : List UInt8) : ∀ n ∈ sextets bytes, n < 64 := by
  induction bytes using sextets.induct with
  | case1 => exact List.forall_mem_nil _
  | case2 a =>
    have := a.toNat_lt
    simp only [sextets, List.forall_mem_cons]
    refine ⟨by omega, by omega, List.forall_mem_nil _⟩
  | case3 a b =>
    have := a.toNat_lt
    have := b.toNat_lt
    simp only [sextets, List.forall_mem_cons]
    refine ⟨by omega, by omega, by omega, List.forall_mem_nil _⟩
  | case4 a b c rest ih =>
    have := a.toNat_lt
    have := b.toNat_lt
    have := c.toNat_lt
    simp only [sextets, List.forall_mem_cons]
    exact ⟨by omega, by omega, by omega, by omega, ih⟩

/-- Only symbols are written. -/
lemma mem_encode {bytes : List UInt8} {c : Char} (mem : c ∈ encode bytes) : c ∈ alphabet := by
  obtain ⟨n, value, rfl⟩ := List.mem_map.mp mem
  exact symbol_mem (sextets_lt bytes n value)

/-- Three bytes are four symbols, and a group that is not full has one more than bytes. -/
lemma length_encode (bytes : List UInt8) : (encode bytes).length = (4 * bytes.length + 2) / 3 := by
  rw [encode, List.length_map]
  induction bytes using sextets.induct with
  | case1 => rfl
  | case2 => simp [sextets]
  | case3 => simp [sextets]
  | case4 a b c rest ih =>
    simp only [sextets, List.length_cons, ih]
    omega

end Write

section RoundTrip

variable {rest : List Char}

lemma read_symbol (q : Quad) {n : Nat} (h : n < 64) : read q (symbol n :: rest) =
    (read (q.next n) rest).map ((q.byte? n).toList ++ ·) := by
  rw [read, value?_symbol h]

/-- A byte from the bits of two values. -/
lemma byte_eq {a : UInt8} {n : Nat} (same : n = a.toNat) : UInt8.ofNat n = a := by
  rw [same, UInt8.ofNat_toNat]

/-- What was written and padded is read back. -/
theorem decode_encode (bytes : List UInt8) : decode (pad (encode bytes)) = some bytes := by
  rw [decode, pad, length_encode]
  -- three bytes at a time: the ends of one and of two bytes are padded
  induction bytes using sextets.induct with
  | case1 => rfl
  | case2 a =>
    have := a.toNat_lt
    have padding : (4 - (4 * [a].length + 2) / 3 % 4) % 4 = 2 := by simp
    rw [padding]
    show read .empty (symbol (a.toNat / 4) :: symbol (a.toNat % 4 * 16) :: ['=', '=']) = some [a]
    rw [read_symbol _ (by omega), read_symbol _ (by omega)]
    have whole : a.toNat / 4 * 4 + a.toNat % 4 * 16 / 16 = a.toNat := by omega
    simp only [Quad.next, Quad.byte?, byte_eq whole, read, value?_padding, Quad.pad?]
    rfl
  | case3 a b =>
    have := a.toNat_lt
    have := b.toNat_lt
    have padding : (4 - (4 * [a, b].length + 2) / 3 % 4) % 4 = 1 := by simp
    rw [padding]
    show read .empty (symbol (a.toNat / 4) :: symbol (a.toNat % 4 * 16 + b.toNat / 16) ::
      symbol (b.toNat % 16 * 4) :: ['=']) = some [a, b]
    have first : a.toNat / 4 * 4 + (a.toNat % 4 * 16 + b.toNat / 16) / 16 = a.toNat := by omega
    have second : (a.toNat % 4 * 16 + b.toNat / 16) % 16 * 16 + b.toNat % 16 * 4 / 4 = b.toNat := by omega
    rw [read_symbol _ (by omega), read_symbol _ (by omega), read_symbol _ (by omega)]
    simp only [Quad.next, Quad.byte?, byte_eq first, byte_eq second, read, value?_padding, Quad.pad?]
    rfl
  | case4 a b c rest ih =>
    have := a.toNat_lt
    have := b.toNat_lt
    have := c.toNat_lt
    have padding : (4 - (4 * (a :: b :: c :: rest).length + 2) / 3 % 4) % 4 =
        (4 - (4 * rest.length + 2) / 3 % 4) % 4 := by
      have longer : (4 * (a :: b :: c :: rest).length + 2) / 3 = (4 * rest.length + 2) / 3 + 4 := by
        simp only [List.length_cons]
        omega
      rw [longer, Nat.add_mod_right]
    rw [padding]
    show read .empty (symbol (a.toNat / 4) :: symbol (a.toNat % 4 * 16 + b.toNat / 16) ::
      symbol (b.toNat % 16 * 4 + c.toNat / 64) :: symbol (c.toNat % 64) :: (encode rest ++ _)) = _
    have first : a.toNat / 4 * 4 + (a.toNat % 4 * 16 + b.toNat / 16) / 16 = a.toNat := by omega
    have second : (a.toNat % 4 * 16 + b.toNat / 16) % 16 * 16 + (b.toNat % 16 * 4 + c.toNat / 64) / 4 =
      b.toNat := by
      omega
    have third : (b.toNat % 16 * 4 + c.toNat / 64) % 4 * 64 + c.toNat % 64 = c.toNat := by omega
    rw [read_symbol _ (by omega), read_symbol _ (by omega), read_symbol _ (by omega), read_symbol _ (by omega)]
    simp only [Quad.next, Quad.byte?, byte_eq first, byte_eq second, byte_eq third, ih]
    rfl

end RoundTrip

end Base64
