import Mathlib.Data.Bool.AllAny
import Mathlib.Data.List.Basic
import Mathlib.Data.List.TakeWhile
import QueryOptions.Proofs.Token.Crossing

set_option autoImplicit false

namespace QueryOptions

theorem in_ranges_listed {code : Nat} {ranges : List (Nat × Nat)} (inside : Text.inRanges code ranges) :
    code ∈ ranges.flatMap fun range => List.range' range.1 (range.2 + 1 - range.1) := by
  obtain ⟨range, listed, between⟩ := List.any_eq_true.mp inside
  simp only [Bool.and_eq_true, decide_eq_true_eq] at between
  exact List.mem_flatMap.mpr ⟨range, listed, List.mem_range'_1.mpr (by omega)⟩

namespace Expression

def delimiters : List Char :=
  ',' :: ')' ::
    (Text.blanks.flatMap fun range => List.range' range.1 (range.2 + 1 - range.1)).map Char.ofNat

theorem delimiter_listed {c : Char} (delimits : isDelimiter c) : c ∈ delimiters := by
  simp only [isDelimiter, Bool.or_eq_true, beq_iff_eq] at delimits
  rcases delimits with (rfl | rfl) | blank
  · exact List.mem_cons_self
  · exact List.mem_cons_of_mem _ List.mem_cons_self
  · have listed := List.mem_map_of_mem (f := Char.ofNat) (in_ranges_listed blank)
    rw [Char.ofNat_toNat] at listed
    exact List.mem_cons_of_mem _ (List.mem_cons_of_mem _ listed)

def Inner (test : Char → Bool) : Prop := delimiters.any test = false

instance (test : Char → Bool) : Decidable (Inner test) := inferInstanceAs (Decidable (_ = false))

theorem delimiter_outside {test : Char → Bool} (inner : Inner test) {c : Char} (delimits : isDelimiter c) :
    test c = false :=
  Bool.eq_false_iff.mpr (List.any_eq_false.mp inner c (delimiter_listed delimits))

theorem inner_delimits {test : Char → Bool} (inner : Inner test) {c : Char} (holds : test c) : isDelimiter c = false := by
  cases delimits : isDelimiter c with
  | false => rfl
  | true =>
      rw [delimiter_outside inner delimits] at holds
      cases holds

theorem inside_visible {c : Char} (inside : isDelimiter c = false) : Text.isBlank c = false :=
  (Bool.or_eq_false_iff.mp inside).2

theorem inner_visible {test : Char → Bool} (inner : Inner test) {c : Char} (holds : test c) : Text.isBlank c = false :=
  inside_visible (inner_delimits inner holds)

theorem classes_inner : Inner Char.isDigit ∧ Inner Text.isHexDigit ∧ Inner Text.isIdentifierContinue ∧
    Inner Text.isIdentifierStart ∧ Inner Numeral.isSuffix := by decide +kernel

theorem digit_inner : Inner Char.isDigit := classes_inner.1

theorem hex_digit_inner : Inner Text.isHexDigit := classes_inner.2.1

theorem continue_inner : Inner Text.isIdentifierContinue := classes_inner.2.2.1

theorem start_inner : Inner Text.isIdentifierStart := classes_inner.2.2.2.1

theorem suffix_inner : Inner Numeral.isSuffix := classes_inner.2.2.2.2

def hexDigits : List Char := "0123456789abcdefABCDEF".toList

theorem hex_digit_listed {c : Char} (digit : Text.isHexDigit c) : c ∈ hexDigits := by
  have inside : Text.inRanges c.toNat [(0x30, 0x39), (0x61, 0x66), (0x41, 0x46)] := by
    simpa [Text.isHexDigit, Text.inRanges, Char.isDigit, Char.le_def, UInt32.le_iff_toNat_le, or_assoc] using digit
  have listed := List.mem_map_of_mem (f := Char.ofNat) (in_ranges_listed inside)
  rw [Char.ofNat_toNat] at listed
  exact listed

theorem hex_digits_read : ∀ c ∈ hexDigits, Text.isIdentifierStart c = !c.isDigit ∧ Text.isIdentifierContinue c ∧
    isDelimiter c = false ∧ c ≠ '$' ∧ c ≠ '-' ∧ c ≠ 'x' ∧ c ≠ 'X' :=
  List.all_iff_forall_prop.mp (by decide +kernel)

theorem digit_no_start {c : Char} (digit : c.isDigit) : ¬ Text.isIdentifierStart c := by
  have hex : Text.isHexDigit c := by simp [Text.isHexDigit, digit]
  simp [(hex_digits_read c (hex_digit_listed hex)).1, digit]

theorem sign_inner (negative : Bool) : ∀ c ∈ (if negative then ['-'] else []), isDelimiter c = false := by
  cases negative with
  | false => exact List.forall_mem_nil _
  | true => exact List.forall_mem_singleton.mpr (by decide)

theorem blank_delimits {c : Char} (blank : Text.isBlank c) : isDelimiter c := by rw [isDelimiter, blank, Bool.or_true]

def Delimited (text : List Char) : Prop := ∀ c ∈ text.head?, isDelimiter c

theorem delimited_nil : Delimited [] := fun _ absent => by cases absent

theorem delimited_mark {c : Char} (delimits : isDelimiter c) (text : List Char) : Delimited (c :: text) :=
  fun _ head => Option.some.inj head ▸ delimits

-- Where one text was left another one goes on, with the same character or with a
-- delimiter.
def Heads (left after : List Char) : Prop := ∀ c ∈ after.head?, left.head? = some c ∨ isDelimiter c

variable {text front left after : List Char}

theorem heads_append (front : List Char) (heads : Heads left after) : Heads (front ++ left) (front ++ after) := by
  cases front with
  | nil => exact heads
  | cons c front => exact fun d head => .inl head

theorem heads_fail {test : Char → Bool} (inner : Inner test) (heads : Heads left after)
    (fails : ∀ c ∈ left.head?, test c = false) : ∀ c ∈ after.head?, test c = false := by
  intro c head
  rcases heads c head with same | delimits
  · exact fails c same
  · exact delimiter_outside inner delimits

theorem head_drop_while (test : Char → Bool) (text : List Char) :
    ∀ c ∈ (text.dropWhile test).head?, test c = false := by
  intro c head
  have stops := List.head?_dropWhile_not test text
  rw [Option.mem_def.mp head] at stops
  exact stops

theorem take_while_before {test : Char → Bool} (front : ∀ c ∈ text, test c) (fails : ∀ c ∈ after.head?, test c = false) :
    (text ++ after).takeWhile test = text := by
  rw [List.takeWhile_append_of_pos front]
  cases after with
  | nil => exact List.append_nil text
  | cons c after => rw [List.takeWhile_cons_of_neg (by simp [fails c rfl]), List.append_nil]

theorem drop_while_before {test : Char → Bool} (front : ∀ c ∈ text, test c) (fails : ∀ c ∈ after.head?, test c = false) :
    (text ++ after).dropWhile test = after := by
  rw [List.dropWhile_append_of_pos front]
  cases after with
  | nil => rfl
  | cons c after => exact List.dropWhile_cons_of_neg (by simp [fails c rfl])

theorem drop_while_append {test : Char → Bool} (some : text.dropWhile test ≠ []) (tail : List Char) :
    (text ++ tail).dropWhile test = text.dropWhile test ++ tail := by
  rw [List.dropWhile_append, if_neg (by simpa using some)]

theorem take_while_all (test : Char → Bool) (text : List Char) : ∀ c ∈ text.takeWhile test, test c :=
  List.all_eq_true.mp List.all_takeWhile

theorem take_while_follows {test : Char → Bool} (inner : Inner test) (heads : Heads (text.dropWhile test) after) :
    (text.takeWhile test ++ after).takeWhile test = text.takeWhile test :=
  take_while_before (take_while_all test text) (heads_fail inner heads (head_drop_while test text))

theorem drop_while_follows {test : Char → Bool} (inner : Inner test) (heads : Heads (text.dropWhile test) after) :
    (text.takeWhile test ++ after).dropWhile test = after :=
  drop_while_before (take_while_all test text) (heads_fail inner heads (head_drop_while test text))

theorem take_while_delimited {test : Char → Bool} (inner : Inner test) (text : List Char) (delimited : Delimited after) :
    (text ++ after).takeWhile test = text.takeWhile test := by
  induction text with
  | nil => exact take_while_before (List.forall_mem_nil _) fun c head => delimiter_outside inner (delimited c head)
  | cons c text ih => rw [List.cons_append, List.takeWhile_cons, List.takeWhile_cons, ih]

theorem trim_between {front back : List Char} (blank : ∀ c ∈ front, Text.isBlank c) (blank' : ∀ c ∈ back, Text.isBlank c)
    (visible : ∀ c ∈ text, Text.isBlank c = false) : Text.trim (front ++ (text ++ back)) = text := by
  by_cases none : text = []
  · have all : ∀ c ∈ front ++ ([] ++ back), Text.isBlank c := List.forall_mem_append.mpr ⟨blank, blank'⟩
    rw [none, Text.trim, List.dropWhile_eq_nil_iff.mpr all]
    rfl
  · have head {text : List Char} (visible : ∀ c ∈ text, Text.isBlank c = false) (some : text ≠ []) (back : List Char) :
        ∀ c ∈ (text ++ back).head?, Text.isBlank c = false := by
      obtain ⟨c, more, rfl⟩ := List.exists_cons_of_ne_nil some
      exact fun d head => Option.some.inj head ▸ visible c List.mem_cons_self
    have visible' : ∀ c ∈ text.reverse, Text.isBlank c = false := fun c member => visible c (List.mem_reverse.mp member)
    have behind := drop_while_before (fun c member => blank' c (List.mem_reverse.mp member))
      (head visible' (by simpa using none) [])
    rw [List.append_nil] at behind
    rw [Text.trim, drop_while_before blank (head visible none back), List.reverse_append, behind, List.reverse_reverse]

end Expression

end QueryOptions
