import Mathlib.Tactic.Lemma
import Mathlib.Data.List.Infix

/-!
# Text

The methods of Python's `str` and `re` that the modelled code calls, on lists of characters. Case
mapping is a parameter of the functions that need it: Python lowers the whole of Unicode, and nothing
here depends on how.
-/

namespace AgentRuntime.Text

/-- The characters that `str.strip()` removes. -/
def isSpace (c : Char) : Bool :=
  let n := c.toNat
  (9 ≤ n && n ≤ 13) || (28 ≤ n && n ≤ 32) || n = 0x85 || n = 0xa0 || n = 0x1680
    || (0x2000 ≤ n && n ≤ 0x200a) || n = 0x2028 || n = 0x2029 || n = 0x202f || n = 0x205f
    || n = 0x3000

/-- The characters of `text` without the ones at its ends that satisfy `p`. -/
def stripIf (p : Char → Bool) (text : List Char) : List Char :=
  ((text.dropWhile p).reverse.dropWhile p).reverse

/-- `text.strip()` -/
def strip (text : String) : String := String.ofList (stripIf isSpace text.toList)

/-- A text without blanks at its ends is what `strip` leaves of it and the blanks after it. -/
lemma stripIf_append {p : Char → Bool} {first last : Char} {middle blanks : List Char}
    (starts : p first = false) (ends : p last = false) (blank : ∀ c ∈ blanks, p c = true) :
    stripIf p (first :: middle ++ [last] ++ blanks) = first :: middle ++ [last] := by
  have front : (first :: middle ++ [last] ++ blanks).dropWhile p =
      first :: middle ++ [last] ++ blanks :=
    List.dropWhile_cons_of_neg (by rw [starts]; exact Bool.false_ne_true)
  have back : (blanks.reverse ++ last :: (first :: middle).reverse).dropWhile p =
      last :: (first :: middle).reverse := by
    rw [List.dropWhile_append_of_pos fun c mem => blank c (List.mem_reverse.mp mem)]
    exact List.dropWhile_cons_of_neg (by rw [ends]; exact Bool.false_ne_true)
  rw [stripIf, front, List.reverse_append, List.reverse_append, List.reverse_singleton,
    List.singleton_append, back, List.reverse_cons, List.reverse_reverse]

section Strip

variable {p : Char → Bool} {text : List Char}

lemma dropWhile_eq_self (starts : ∀ c ∈ text.head?, p c = false) : text.dropWhile p = text := by
  cases text with
  | nil => rfl
  | cons c rest => exact List.dropWhile_cons_of_neg (by rw [starts c rfl]; exact Bool.false_ne_true)

/-- A text without blanks at its ends stays as it is. -/
lemma stripIf_eq_self (starts : ∀ c ∈ text.head?, p c = false) (ends : ∀ c ∈ text.getLast?, p c = false) :
    stripIf p text = text := by
  rw [stripIf, dropWhile_eq_self starts, dropWhile_eq_self, List.reverse_reverse]
  rwa [List.head?_reverse]

lemma head?_dropWhile : ∀ c ∈ (text.dropWhile p).head?, p c = false := by
  intro c first
  have head := List.head?_dropWhile_not p text
  rw [Option.mem_def.mp first] at head
  simpa using head

/-- What is left has no blank at its ends. -/
lemma stripIf_ends (p : Char → Bool) (text : List Char) :
    (∀ c ∈ (stripIf p text).head?, p c = false) ∧ ∀ c ∈ (stripIf p text).getLast?, p c = false := by
  rw [stripIf, List.head?_reverse, List.getLast?_reverse]
  refine ⟨?_, head?_dropWhile⟩
  intro c first
  -- the last character that is left was there from the start, or nothing is left
  obtain ⟨blanks, parts⟩ : (text.dropWhile p).reverse.dropWhile p <:+ (text.dropWhile p).reverse :=
    List.dropWhile_suffix p
  have whole : (text.dropWhile p).head? = some c := by
    rw [← List.getLast?_reverse, ← parts, List.getLast?_append, Option.mem_def.mp first]
    rfl
  exact head?_dropWhile c whole

/-- Stripping twice is stripping once. -/
lemma strip_strip (text : String) : strip (strip text) = strip text := by
  obtain ⟨starts, ends⟩ := stripIf_ends isSpace text.toList
  rw [strip, strip, String.toList_ofList, stripIf_eq_self starts ends]

lemma length_strip_le (text : String) : (strip text).length ≤ text.length := by
  rw [strip, String.length_ofList, stripIf, List.length_reverse, ← String.length_toList]
  apply (List.dropWhile_suffix isSpace).length_le.trans
  rw [List.length_reverse]
  exact (List.dropWhile_suffix isSpace).length_le

/-- A text without blanks stays as it is. -/
lemma strip_solid {text : String} (solid : ∀ c ∈ text.toList, isSpace c = false) : strip text = text := by
  rw [strip, stripIf_eq_self, String.ofList_toList]
  · exact fun c first => solid c (List.mem_of_head? first)
  · exact fun c last => solid c (List.mem_of_getLast? last)

/-- Texts that stay as they are, around one another. -/
lemma strip_append {before after : String} (first : strip before = before) (last : strip after = after)
    (middle : String) (filled : before ≠ "") (filled' : after ≠ "") :
    strip (before ++ middle ++ after) = before ++ middle ++ after := by
  have starts := (stripIf_ends isSpace before.toList).1
  have ends := (stripIf_ends isSpace after.toList).2
  have same {text : String} (h : strip text = text) : stripIf isSpace text.toList = text.toList := by
    conv_rhs => rw [← h, strip, String.toList_ofList]
  rw [same first] at starts
  rw [same last] at ends
  rw [strip, stripIf_eq_self, String.ofList_toList]
  · intro c head
    rw [String.toList_append, String.toList_append, List.append_assoc, List.head?_append] at head
    cases given : before.toList.head? with
    | none => exact absurd (String.toList_eq_nil_iff.mp (List.head?_eq_none_iff.mp given)) filled
    | some d =>
      rw [given] at head starts
      cases head
      exact starts _ rfl
  · intro c last
    rw [String.toList_append, List.getLast?_append] at last
    cases given : after.toList.getLast? with
    | none => exact absurd (String.toList_eq_nil_iff.mp (List.getLast?_eq_none_iff.mp given)) filled'
    | some d =>
      rw [given] at last ends
      cases last
      exact ends _ rfl

end Strip

/-- `re.sub(r"[^...]+", separator, text)` for the characters kept by `keep`: every run of other
    characters becomes one `separator`. The flag says that a run has begun. -/
def subRuns (keep : Char → Bool) (separator : Char) : Bool → List Char → List Char
  | _, [] => []
  | inRun, c :: cs =>
    if keep c then c :: subRuns keep separator false cs
    else if inRun then subRuns keep separator true cs
    else separator :: subRuns keep separator true cs

/-- `{part for part in text.split(separator) if part}`, as a list. -/
def parts (separator : Char) (text : List Char) : List String :=
  ((text.splitOn separator).filter fun part => !part.isEmpty).map String.ofList

/-- `text.count(part)` for a nonempty part: occurrences from left to right that do not overlap. The
    number says how many characters of an occurrence are still to be skipped. -/
def countFrom (part : List Char) : Nat → List Char → Nat
  | _, [] => 0
  | skip + 1, _ :: rest => countFrom part skip rest
  | 0, c :: rest =>
    if part.isPrefixOf (c :: rest) then 1 + countFrom part (part.length - 1) rest
    else countFrom part 0 rest

/-- `text.count(part)`; the empty part occurs around every character. -/
def count (part text : List Char) : Nat :=
  if part.isEmpty then text.length + 1 else countFrom part 0 text

/-- The text is a UUID in the form that `str(uuid4())` writes: 32 lower-case hexadecimal digits in
    groups of 8, 4, 4, 4 and 12. -/
def canonicalUuid (text : String) : Bool :=
  let groups := text.toList.splitOn '-'
  groups.map List.length = [8, 4, 4, 4, 12]
    && groups.flatten.all fun c => "0123456789abcdef".toList.contains c

lemma canonicalUuid_length {text : String} (canonical : canonicalUuid text = true) :
    text.length = 36 := by
  simp only [canonicalUuid, Bool.and_eq_true, decide_eq_true_eq] at canonical
  have joined : ['-'].intercalate (text.toList.splitOn '-') = text.toList := List.intercalate_splitOn '-'
  rw [← String.length_toList, ← joined]
  generalize text.toList.splitOn '-' = groups at canonical
  obtain ⟨lengths, -⟩ := canonical
  simp only [List.map_eq_cons_iff, List.map_eq_nil_iff] at lengths
  obtain ⟨a, _, rfl, ha, b, _, rfl, hb, c, _, rfl, hc, d, _, rfl, hd, e, _, rfl, he, rfl⟩ := lengths
  simp [List.intercalate, ha, hb, hc, hd, he]

/-- The characters of a text that is joined from parts. -/
lemma mem_intercalate {separator : List Char} {texts : List (List Char)} {c : Char}
    (mem : c ∈ separator.intercalate texts) : c ∈ separator ∨ c ∈ texts.flatten := by
  induction texts with
  | nil => cases mem
  | cons head texts ih =>
    cases texts with
    | nil =>
      rw [List.intercalate_singleton] at mem
      exact .inr (List.mem_append_left _ mem)
    | cons next texts =>
      rw [List.intercalate_cons_cons, List.append_assoc, List.mem_append, List.mem_append] at mem
      rcases mem with mem | mem | mem
      · exact .inr (List.mem_append_left _ mem)
      · exact .inl mem
      · exact (ih mem).imp_right (List.mem_append_right _)

/-- A UUID is a text without blanks. -/
lemma canonicalUuid_solid {text : String} (canonical : canonicalUuid text = true) :
    ∀ c ∈ text.toList, isSpace c = false := by
  have digits : ∀ c ∈ '-' :: "0123456789abcdef".toList, isSpace c = false := by
    have all : ('-' :: "0123456789abcdef".toList).all (fun c => !isSpace c) = true := by decide +kernel
    simpa only [List.all_eq_true, Bool.not_eq_true'] using all
  simp only [canonicalUuid, Bool.and_eq_true, List.all_eq_true, List.contains_iff_mem] at canonical
  have joined : ['-'].intercalate (text.toList.splitOn '-') = text.toList := List.intercalate_splitOn '-'
  intro c mem
  rw [← joined] at mem
  obtain dash | digit := mem_intercalate mem
  · exact digits c (by rw [List.mem_singleton.mp dash]; exact .head _)
  · exact digits c (.tail _ (canonical.2 c digit))

/-- `part in text` -/
def Contains (text part : String) : Prop := part.toList <:+: text.toList

instance (text part : String) : Decidable (Contains text part) :=
  inferInstanceAs (Decidable (part.toList <:+: text.toList))

/-- Every text contains itself. -/
lemma Contains.refl (text : String) : Contains text text := List.infix_refl _

/-- A part of a part is a part. -/
lemma Contains.trans {text middle part : String} (h1 : Contains text middle)
    (h2 : Contains middle part) : Contains text part := List.IsInfix.trans h2 h1

/-- What a text contains stays in it when text is put around it. -/
lemma Contains.around {text part : String} (before after : String) (h : Contains text part) :
    Contains (before ++ text ++ after) part := by
  refine List.IsInfix.trans h ⟨before.toList, after.toList, ?_⟩
  simp only [String.toList_append]

/-- A text that is joined from parts contains each of them. -/
lemma Contains.intercalate (separator : String) {texts : List String} {text : String}
    (mem : text ∈ texts) : Contains (separator.intercalate texts) text := by
  induction texts with
  | nil => cases mem
  | cons head texts ih =>
    by_cases last : texts = []
    · subst last
      rw [List.mem_singleton] at mem
      rw [mem, String.intercalate_singleton]
      exact .refl head
    · rw [String.intercalate_cons_of_ne_nil last]
      cases mem with
      | head =>
        have kept := (Contains.refl text).around "" (separator ++ separator.intercalate texts)
        rwa [String.empty_append, ← String.append_assoc] at kept
      | tail _ mem =>
        have kept := (ih mem).around (head ++ separator) ""
        rwa [String.append_empty] at kept

/-- The first occurrence of a character cuts a text in one way. -/
lemma cut_unique {c : Char} {before before' after after' : List Char} (clean : c ∉ before)
    (clean' : c ∉ before') (same : before ++ c :: after = before' ++ c :: after') :
    before = before' ∧ after = after' := by
  obtain ⟨between, rfl, rest⟩ | ⟨between, rfl, rest⟩ := List.append_eq_append_iff.mp same
  all_goals
    cases between with
    | nil => simpa [eq_comm] using rest
    | cons head between =>
      obtain ⟨rfl, -⟩ := List.cons.inj rest
      simp at clean clean'

section Occurrences

/-- The text begins with one of the parts. -/
def startsWith (marks : List (List Char)) (text : List Char) : Bool :=
  marks.any fun mark => mark.isPrefixOf text

/-- The number of positions of a text at which one of the marks stands. -/
def occurrences (marks : List (List Char)) : List Char → Nat
  | [] => 0
  | c :: rest => (if startsWith marks (c :: rest) then 1 else 0) + occurrences marks rest

variable {marks : List (List Char)}

/-- A mark that stands at the beginning of a text stands there whatever follows. -/
lemma startsWith_append {text : List Char} (here : startsWith marks text = true)
    (after : List Char) : startsWith marks (text ++ after) = true := by
  simp only [startsWith, List.any_eq_true, List.isPrefixOf_iff_prefix] at here ⊢
  obtain ⟨mark, mem, begins⟩ := here
  exact ⟨mark, mem, begins.trans (List.prefix_append text after)⟩

/-- A mark does not reach from a nonempty text into what follows when it cannot go on with the
    character that stands there. -/
lemma startsWith_of_append {c : Char} (apart : ∀ mark ∈ marks, c ∉ mark.tail)
    {text after : List Char} (nonempty : text ≠ [])
    (here : startsWith marks (text ++ c :: after) = true) : startsWith marks text = true := by
  simp only [startsWith, List.any_eq_true, List.isPrefixOf_iff_prefix] at here ⊢
  obtain ⟨mark, mem, begins⟩ := here
  refine ⟨mark, mem, ?_⟩
  obtain short | ⟨beyond, rfl⟩ :=
    List.prefix_or_prefix_of_prefix begins (List.prefix_append text (c :: after))
  · exact short
  rw [List.prefix_append_right_inj] at begins
  cases beyond with
  | nil => simp
  | cons head beyond =>
    obtain ⟨rfl, -⟩ := List.cons_prefix_cons.mp begins
    have inside : head ∈ (text ++ head :: beyond).tail := by
      rw [List.tail_append_of_ne_nil nonempty]
      simp
    exact absurd inside (apart _ mem)

/-- Where no mark reaches over the boundary, the occurrences in the two parts add up. -/
lemma occurrences_append {c : Char} (apart : ∀ mark ∈ marks, c ∉ mark.tail)
    (text after : List Char) :
    occurrences marks (text ++ c :: after) =
      occurrences marks text + occurrences marks (c :: after) := by
  induction text with
  | nil => simp [occurrences]
  | cons head text ih =>
    have same : startsWith marks (head :: text ++ c :: after) = startsWith marks (head :: text) := by
      rw [Bool.eq_iff_iff]
      exact ⟨startsWith_of_append apart (by simp), fun here => startsWith_append here _⟩
    rw [List.cons_append] at same ⊢
    simp only [occurrences, ih, same]
    omega

/-- What a text begins with has no more marks than the text. -/
lemma occurrences_le_append (marks : List (List Char)) (text after : List Char) :
    occurrences marks text ≤ occurrences marks (text ++ after) := by
  induction text with
  | nil => simp [occurrences]
  | cons head text ih =>
    simp only [List.cons_append, occurrences]
    have kept : startsWith marks (head :: text) = true →
        startsWith marks (head :: (text ++ after)) = true := fun here => startsWith_append here after
    split
    · next here =>
      rw [if_pos (kept here)]
      omega
    · omega

/-- No mark begins among characters that begin none. -/
lemma occurrences_skip {before : List Char}
    (apart : ∀ mark ∈ marks, ∀ c ∈ before, mark ≠ [] ∧ mark.head? ≠ some c) (after : List Char) :
    occurrences marks (before ++ after) = occurrences marks after := by
  induction before with
  | nil => rfl
  | cons c before ih =>
    have none : startsWith marks (c :: (before ++ after)) = false := by
      rw [startsWith, List.any_eq_false]
      intro mark mem begins
      obtain ⟨nonempty, other⟩ := apart mark mem c (by simp)
      obtain ⟨head, mark, rfl⟩ := List.exists_cons_of_ne_nil nonempty
      rw [List.isPrefixOf_iff_prefix, List.cons_prefix_cons] at begins
      exact other (by rw [begins.1]; rfl)
    rw [List.cons_append, occurrences, none,
      ih fun mark mem c inside => apart mark mem c (List.mem_cons_of_mem _ inside)]
    simp

end Occurrences

end AgentRuntime.Text
