import Mathlib.Data.List.Basic
import QueryOptions.Json.Read
import QueryOptions.Json.Write

set_option autoImplicit false

namespace QueryOptions.Json

inductive Written (c : Char) : List Char → Prop where
  | plain (quote : c ≠ '"') (backslash : c ≠ '\\') (printed : ¬ c.toNat < 0x20) : Written c [c]
  | letter (mark : Char) (short : mark ≠ 'u') (stands : letterEscape? mark = some c) : Written c ['\\', mark]
  | control (high low : Char) (digits : Text.isHexDigit high ∧ Text.isHexDigit low) (control : c.toNat < 0x20)
      (unit : codeUnit '0' '0' high low = c.toNat) : Written c ['\\', 'u', '0', '0', high, low]

theorem hex_digits_of_control :
    ∀ value < 0x20, (Text.isHexDigit (hexDigit (value / 16)) ∧ Text.isHexDigit (hexDigit value)) ∧
      codeUnit '0' '0' (hexDigit (value / 16)) (hexDigit value) = value := by
  decide

theorem escape_char_written (c : Char) : Written c (escapeChar c) := by
  unfold escapeChar
  split_ifs with quote backslash backspace feed line carriage tab control
  · exact .letter '"' (by decide) (by rw [quote]; rfl)
  · exact .letter '\\' (by decide) (by rw [backslash]; rfl)
  · exact .letter 'b' (by decide) (by rw [backspace]; rfl)
  · exact .letter 'f' (by decide) (by rw [feed]; rfl)
  · exact .letter 'n' (by decide) (by rw [line]; rfl)
  · exact .letter 'r' (by decide) (by rw [carriage]; rfl)
  · exact .letter 't' (by decide) (by rw [tab]; rfl)
  · obtain ⟨digits, unit⟩ := hex_digits_of_control c.toNat control
    exact .control _ _ digits control unit
  · exact .plain quote backslash control

theorem string_of_written {c : Char} {spelling : List Char} (written : Written c spelling) (rest : List Char) :
    string? (spelling ++ rest) = (string? rest).map fun (front, rest) => (spelling ++ front, rest) := by
  cases written with
  | plain quote backslash printed =>
      rw [List.singleton_append, string?]
      · rw [if_neg (by simp only [backslash, printed, or_self, not_false_eq_true])]
        rfl
      all_goals intros; simp_all
  | letter mark short stands =>
      rw [List.cons_append, List.singleton_append, string?]
      · rw [if_pos (by rw [stands]; rfl)]
        rfl
      · intros; simp_all
  | control high low digits control unit =>
      have zero : Text.isHexDigit '0' := by decide
      have hex : ['0', '0', high, low].all Text.isHexDigit := by
        simp only [List.all_cons, List.all_nil, zero, digits.1, digits.2, Bool.and_self]
      simp only [List.cons_append, List.nil_append, string?]
      rw [if_pos hex]

theorem unescape_of_written {c : Char} {spelling : List Char} (written : Written c spelling) (rest : List Char) :
    unescape (spelling ++ rest) = (unescape rest).map (c :: ·) := by
  cases written with
  | plain quote backslash printed =>
      rw [List.singleton_append, unescape]
      all_goals intros; simp_all
  | letter mark short stands =>
      rw [List.cons_append, List.singleton_append, unescape]
      · rw [stands]
        rfl
      · intros; simp_all
  | control high low digits control unit =>
      simp only [List.cons_append, List.nil_append]
      rw [unescape.eq_def]
      simp only [unit]
      rw [if_neg (by omega), if_neg (by omega), Char.ofNat_toNat]

theorem string_of_escape (text : String) (rest : List Char) :
    string? ((escape text).toList ++ '"' :: rest) = some ((escape text).toList, rest) := by
  rw [escape, String.toList_ofList]
  induction text.toList with
  | nil => rfl
  | cons c chars ih =>
      rw [List.flatMap_cons, List.append_assoc, string_of_written (escape_char_written c), ih]
      rfl

theorem unquoted_escape (text : String) : unquoted? (escape text) = some text := by
  have chars : unescape (text.toList.flatMap escapeChar) = some text.toList := by
    induction text.toList with
    | nil => rfl
    | cons c chars ih =>
        rw [List.flatMap_cons, unescape_of_written (escape_char_written c), ih]
        rfl
  rw [unquoted?, escape, String.toList_ofList, chars, Option.map_some, String.ofList_toList]

theorem escape_injective : Function.Injective escape := fun text text' same => by
  have back := congrArg unquoted? same
  rwa [unquoted_escape, unquoted_escape, Option.some.injEq] at back

-- What may stand after a number: nothing that would go on with it.
def EndsNumber (rest : List Char) : Prop :=
  ∀ c, rest.head? = some c → c.isDigit = false ∧ c ≠ '.' ∧ c ≠ 'e' ∧ c ≠ 'E'

theorem digits_of_digits {digits rest : List Char} (all : ∀ c ∈ digits, c.isDigit) (some : digits ≠ [])
    (ends : EndsNumber rest) : digits? (digits ++ rest) = .some (digits, rest) := by
  have stops : rest.takeWhile Char.isDigit = [] ∧ rest.dropWhile Char.isDigit = rest := by
    cases rest with
    | nil => exact ⟨rfl, rfl⟩
    | cons c rest =>
        have other := (ends c rfl).1
        simp only [List.takeWhile_cons, List.dropWhile_cons, other, Bool.false_eq_true, if_false, and_self]
  unfold digits?
  simp only [List.takeWhile_append_of_pos all, List.dropWhile_append_of_pos all, stops, List.append_nil]
  rw [if_neg (by simpa using some)]

theorem digits_of_positive (value : Nat) (positive : value ≠ 0) : (Nat.toDigits 10 value).head? ≠ some '0' := by
  induction value using Nat.strongRecOn with
  | ind value ih =>
      by_cases small : value < 10
      · rw [Nat.toDigits_of_lt_base small, List.head?_singleton]
        have nonzero : ∀ digit < 10, digit ≠ 0 → some digit.digitChar ≠ some '0' := by decide
        exact nonzero value small positive
      · rw [Nat.toDigits_of_base_le (by decide) (by omega), List.head?_append_of_ne_nil _ Nat.toDigits_ne_nil]
        exact ih (value / 10) (by omega) (by omega)

theorem whole_of_nat (value : Nat) {rest : List Char} (ends : EndsNumber rest) :
    whole? (Nat.toDigits 10 value ++ rest) = some (Nat.toDigits 10 value, rest) := by
  by_cases zero : value = 0
  · rw [zero, Nat.toDigits_zero]
    rfl
  · have digits : ∀ c ∈ Nat.toDigits 10 value, c.isDigit :=
      fun c member => Nat.isDigit_of_mem_toDigits (by decide) (by decide) member
    have first := digits_of_positive value zero
    have read := digits_of_digits digits Nat.toDigits_ne_nil ends
    unfold whole?
    split
    · rename_i text starts
      have same : (Nat.toDigits 10 value ++ rest).head? = (Nat.toDigits 10 value).head? :=
        List.head?_append_of_ne_nil _ Nat.toDigits_ne_nil
      rw [← same, starts] at first
      exact absurd rfl first
    · exact read

theorem number_of_nat (value : Nat) {rest : List Char} (ends : EndsNumber rest) :
    number? ((toString value).toList ++ rest) = some ((toString value).toList, rest) := by
  have signless : ((Nat.toDigits 10 value ++ rest).take 1).filter (· == '-') = [] := by
    cases written : Nat.toDigits 10 value with
    | nil => exact absurd written Nat.toDigits_ne_nil
    | cons c digits =>
        have digit : c.isDigit := Nat.isDigit_of_mem_toDigits (by decide) (by decide) (written ▸ List.mem_cons_self)
        have sign : c ≠ '-' := fun same => absurd (same ▸ digit) (by decide)
        simp [sign]
  have fraction : fraction? rest = some ([], rest) := by
    unfold fraction?
    split
    · exact absurd rfl (ends '.' rfl).2.1
    · rfl
  have exponent : exponent? rest = some ([], rest) := by
    unfold exponent?
    cases rest with
    | nil => rfl
    | cons c rest => exact if_neg (not_or.mpr (ends c rfl).2.2)
  rw [Nat.toString_eq_ofList_toDigits, String.toList_ofList]
  simp only [number?, signless, List.length_nil, List.drop_zero, whole_of_nat value ends, fraction, exponent,
    Option.bind_eq_bind, Option.bind_some, List.nil_append, List.append_nil]

theorem nat_string_injective : Function.Injective (toString : Nat → String) := fun value value' same => by
  rw [Nat.toString_eq_ofList_toDigits, Nat.toString_eq_ofList_toDigits, String.ofList_inj] at same
  rw [← Nat.ofDigitChars_ten_toDigits (n := value), same, Nat.ofDigitChars_ten_toDigits]

end QueryOptions.Json
