import QueryOptions.Proofs.Guid
import QueryOptions.Proofs.Token.Number

set_option autoImplicit false

namespace QueryOptions

def unsigned : List Char → List Char
  | '-' :: text => text
  | text => text

def behindDigits (text : List Char) : Option Char := (text.dropWhile Char.isDigit).head?

theorem unsigned_plain {text : List Char} (plain : text.head? ≠ some '-') : unsigned text = text := by
  unfold unsigned
  split
  · exact absurd rfl plain
  · rfl

theorem drop_while_none {test : Char → Bool} {text : List Char} (fails : ∀ c ∈ text.head?, test c = false) :
    text.dropWhile test = text :=
  Expression.drop_while_before (List.forall_mem_nil _) fails

theorem behind_digits {front text : List Char} (digits : ∀ c ∈ front, c.isDigit) :
    behindDigits (front ++ text) = behindDigits text := by
  rw [behindDigits, List.dropWhile_append_of_pos digits, behindDigits]

namespace Calendar

variable {text rest : List Char}

theorem number_behind {least most value : Nat} (read : number? least most text = some (value, rest)) :
    behindDigits rest = behindDigits text := by
  obtain ⟨digits, rfl, -, -, all⟩ := number_parts read
  exact (behind_digits all).symm

theorem number_unsigned {least most value : Nat} (read : number? (least + 1) most text = some (value, rest)) :
    unsigned text = text := by
  obtain ⟨digits, rfl, enough, -, all⟩ := number_parts read
  obtain ⟨c, digits, rfl⟩ := List.exists_cons_of_ne_nil (List.ne_nil_of_length_pos (Nat.lt_of_lt_of_le least.succ_pos enough))
  refine unsigned_plain fun head => ?_
  obtain rfl : c = '-' := Option.some.inj head
  exact absurd (all '-' List.mem_cons_self) (by decide)

theorem char_behind {c : Char} (other : c.isDigit = false) (read : char? c text = some rest) :
    behindDigits text = some c := by
  rw [char_parts read, behindDigits, List.dropWhile_cons_of_neg (by rw [other]; decide)]
  rfl

theorem year_behind {least : Nat} {year : Int} (read : year? least text = some (year, rest)) :
    behindDigits rest = behindDigits (unsigned text) := by
  unfold year? at read
  split at read
  · obtain ⟨⟨value, after⟩, digits, same⟩ := Option.map_eq_some_iff.mp read
    cases same
    exact number_behind digits
  · rename_i other
    obtain ⟨⟨value, after⟩, digits, same⟩ := Option.map_eq_some_iff.mp read
    cases same
    have plain : text.head? ≠ some '-' := fun head => by
      obtain ⟨more, rfl⟩ := List.head?_eq_some_iff.mp head
      exact other more rfl
    rw [unsigned_plain plain]
    exact number_behind digits

theorem date_behind {leastYear least : Nat} {date : Date} (read : date? leastYear least text = some (date, rest)) :
    behindDigits (unsigned text) = some '-' := by
  simp only [date?, Option.bind_eq_bind, Option.bind_eq_some_iff, Prod.exists] at read
  obtain ⟨year, afterYear, years, afterDash, dash, -⟩ := read
  rw [← year_behind years]
  exact char_behind rfl dash

theorem clock_behind {leastHour leastMinute minutes : Nat}
    (read : clock? (leastHour + 1) leastMinute text = some (minutes, rest)) :
    behindDigits (unsigned text) = some ':' := by
  simp only [clock?, Option.bind_eq_bind, Option.bind_eq_some_iff, Prod.exists] at read
  obtain ⟨hour, afterHour, hours, afterColon, colon, -⟩ := read
  rw [number_unsigned hours, ← number_behind hours]
  exact char_behind rfl colon

theorem is_date_behind (date : isDate text) : behindDigits (unsigned text) = some '-' := by
  unfold isDate at date
  split at date
  · rename_i read
    exact date_behind read
  · cases date

theorem is_time_behind (time : isTimeOfDay text) : behindDigits (unsigned text) = some ':' := by
  unfold isTimeOfDay at time
  split at time
  · rename_i read
    exact clock_behind read
  · rename_i read
    exact clock_behind read
  · cases time

theorem is_date_time_behind (point : isDateTimeOffset text) : behindDigits (unsigned text) = some '-' := by
  rcases Bool.or_eq_true_iff.mp point with full | short
  · obtain ⟨offset, read⟩ := Option.isSome_iff_exists.mp full
    simp only [Option.bind_eq_bind, Option.bind_eq_some_iff, Prod.exists] at read
    obtain ⟨year, afterYear, years, afterDash, dash, -⟩ := read
    rw [number_unsigned years, ← number_behind years]
    exact char_behind rfl dash
  · obtain ⟨offset, read⟩ := Option.isSome_iff_exists.mp short
    simp only [Option.bind_eq_bind, Option.bind_eq_some_iff, Prod.exists] at read
    obtain ⟨date, afterDate, days, -⟩ := read
    exact date_behind days

end Calendar

namespace Expression

theorem form_shape {text : List Char} {kind : TokenKind} (form : formKind? text = some kind) :
    behindDigits (unsigned text) = some '-' ∨ behindDigits (unsigned text) = some ':' ∨ Guid.isGuid text := by
  unfold formKind? at form
  split at form
  · rename_i date
    exact .inl (Calendar.is_date_behind date)
  · split at form
    · rename_i point
      exact .inl (Calendar.is_date_time_behind point)
    · split at form
      · rename_i guid
        exact .inr (.inr guid)
      · split at form
        · rename_i time
          exact .inr (.inl (Calendar.is_time_behind time))
        · cases form

end Expression

namespace Numeral

-- What may stand behind the digits at the front of a number.
def goesOn (c : Char) : Bool := c == '.' || isMark c || isSuffix c

theorem goes_on_no_digit {c : Char} (goes : goesOn c) : c.isDigit = false := by
  simp only [goesOn, isMark, isSuffix, Bool.or_eq_true, beq_iff_eq] at goes
  rcases goes with (rfl | rfl | rfl) | ((((((rfl | rfl) | rfl) | rfl) | rfl) | rfl) | rfl) | rfl <;> rfl

theorem digits_dashes {digits : List Char} (all : ∀ c ∈ digits, c.isDigit) : digits.count '-' = 0 :=
  List.count_eq_zero.mpr fun dash => absurd (all '-' dash) (by decide)

def tailText (fraction : Option (List Char)) (exponent : Option Exponent) (suffix : Option Char) : List Char :=
  (fraction.map fun digits => '.' :: digits).getD [] ++ ((exponent.map Exponent.text).getD [] ++ suffix.toList)

variable {numeral : Numeral} {suffix : Option Char}

theorem tail_head (written : numeral.Written) (suffixes : ∀ c ∈ suffix, isSuffix c) :
    ∀ c ∈ (tailText numeral.fraction numeral.exponent suffix).head?, goesOn c := by
  obtain ⟨negative, whole, fraction, exponent⟩ := numeral
  intro c head
  cases fraction with
  | some digits => cases head; rfl
  | none =>
      cases exponent with
      | some exponent =>
          cases head
          simp [goesOn, written.mark exponent rfl]
      | none =>
          cases suffix with
          | some letter =>
              obtain rfl : letter = c := Option.some.inj head
              simp [goesOn, suffixes letter rfl]
          | none => cases head

theorem tail_dashes (written : numeral.Written) (suffixes : ∀ c ∈ suffix, isSuffix c) :
    (tailText numeral.fraction numeral.exponent suffix).count '-' ≤ 1 := by
  have fraction : ((numeral.fraction.map fun digits => '.' :: digits).getD []).count '-' = 0 := by
    cases found : numeral.fraction with
    | none => rfl
    | some digits => exact (List.count_cons_of_ne (by decide)).trans (digits_dashes (written.fraction digits found))
  have exponent : ((numeral.exponent.map Exponent.text).getD []).count '-' ≤ 1 := by
    cases found : numeral.exponent with
    | none => exact Nat.zero_le _
    | some exponent =>
        have mark : exponent.mark ≠ '-' := fun same => by
          have marks := written.mark exponent found
          rw [same] at marks
          cases marks
        have digits := digits_dashes (written.power exponent found)
        have sign : exponent.sign.toList.count '-' ≤ 1 :=
          Nat.le_trans List.count_le_length (by cases exponent.sign <;> simp)
        simpa [Exponent.text, List.count_cons_of_ne mark, digits] using sign
  have letter : suffix.toList.count '-' = 0 := by
    cases suffix with
    | none => rfl
    | some c =>
        refine List.count_eq_zero.mpr fun dash => ?_
        obtain rfl := List.mem_singleton.mp dash
        cases suffixes '-' rfl
  simp only [tailText, List.count_append]
  omega

theorem text_parts (numeral : Numeral) (suffix : Option Char) : numeral.text ++ suffix.toList =
    (if numeral.negative then ['-'] else []) ++ (numeral.whole ++ tailText numeral.fraction numeral.exponent suffix) := by
  simp only [text, tailText, List.append_assoc]

theorem text_unsigned {rest : List Char} (written : numeral.Written)
    (ends : ∀ c ∈ (tailText numeral.fraction numeral.exponent suffix ++ rest).head?, goesOn c) :
    unsigned (numeral.text ++ suffix.toList ++ rest) =
      numeral.whole ++ (tailText numeral.fraction numeral.exponent suffix ++ rest) := by
  rw [text_parts, List.append_assoc, List.append_assoc]
  cases numeral.negative with
  | true => rfl
  | false =>
      refine unsigned_plain fun dash => ?_
      cases digits : numeral.whole with
      | nil =>
          rw [digits] at dash
          exact absurd (ends '-' dash) (by decide)
      | cons c others =>
          rw [digits] at dash
          obtain rfl : c = '-' := Option.some.inj dash
          exact absurd (written.whole '-' (digits ▸ List.mem_cons_self)) (by decide)

theorem text_behind (rest : List Char) (written : numeral.Written)
    (ends : ∀ c ∈ (tailText numeral.fraction numeral.exponent suffix ++ rest).head?, goesOn c) :
    ∀ c ∈ behindDigits (unsigned (numeral.text ++ suffix.toList ++ rest)), goesOn c := by
  rw [text_unsigned written ends, behind_digits written.whole, behindDigits,
    drop_while_none fun c first => goes_on_no_digit (ends c first)]
  exact ends

theorem text_dashes (written : numeral.Written) (suffixes : ∀ c ∈ suffix, isSuffix c) :
    (numeral.text ++ suffix.toList).count '-' ≤ 2 := by
  have few := tail_dashes written suffixes
  have whole := digits_dashes written.whole
  have sign : (if numeral.negative then ['-'] else []).count '-' ≤ 1 := by cases numeral.negative <;> decide
  rw [text_parts, List.count_append, List.count_append]
  omega

theorem text_inside (written : numeral.Written) (suffixes : ∀ c ∈ suffix, isSuffix c) :
    ∀ c ∈ numeral.text ++ suffix.toList, Expression.isDelimiter c = false := by
  have digits {digits : List Char} (all : ∀ c ∈ digits, c.isDigit) : ∀ c ∈ digits, Expression.isDelimiter c = false :=
    fun c member => Expression.inner_delimits Expression.digit_inner (all c member)
  refine List.forall_mem_append.mpr ⟨?_, ?_⟩
  · refine List.forall_mem_append.mpr ⟨List.forall_mem_append.mpr ⟨List.forall_mem_append.mpr ⟨?_, ?_⟩, ?_⟩, ?_⟩
    · exact Expression.sign_inner numeral.negative
    · exact digits written.whole
    · cases found : numeral.fraction with
      | none => exact List.forall_mem_nil _
      | some places => exact List.forall_mem_cons.mpr ⟨by decide, digits (written.fraction places found)⟩
    · cases found : numeral.exponent with
      | none => exact List.forall_mem_nil _
      | some exponent =>
          refine List.forall_mem_cons.mpr ⟨Expression.inner_delimits mark_outside (written.mark exponent found), ?_⟩
          refine List.forall_mem_append.mpr ⟨fun c member => ?_, digits (written.power exponent found)⟩
          rcases written.sign exponent found c (Option.mem_toList.mp member) with rfl | rfl <;> decide
  · exact fun c member => Expression.inner_delimits Expression.suffix_inner (suffixes c (Option.mem_toList.mp member))

theorem text_no_form (written : numeral.Written) (suffixes : ∀ c ∈ suffix, isSuffix c) :
    Expression.formKind? (numeral.text ++ suffix.toList) = none := by
  cases form : Expression.formKind? (numeral.text ++ suffix.toList) with
  | none => rfl
  | some kind =>
      have behind := text_behind [] written (by simpa using tail_head written suffixes)
      rw [List.append_nil] at behind
      rcases Expression.form_shape form with dash | colon | guid
      · exact absurd (behind _ dash) (by decide)
      · exact absurd (behind _ colon) (by decide)
      · have dashes : 4 ≤ _ := Nat.le_of_succ_le_succ (Guid.grouped_dashes (Guid.is_guid_iff.mp guid)).ge
        have few := text_dashes written suffixes
        omega

-- Behind a letter that is no hexadecimal digit anything may follow.
theorem suffixed_no_form {letter : Char} (written : numeral.Written) (suffixed : isSuffix letter)
    (other : Text.isHexDigit letter = false) (rest : List Char) :
    Expression.formKind? (numeral.text ++ letter :: rest) = none := by
  have text : numeral.text ++ letter :: rest = numeral.text ++ (some letter).toList ++ rest := by simp
  cases form : Expression.formKind? (numeral.text ++ letter :: rest) with
  | none => rfl
  | some kind =>
      have suffixes : ∀ c ∈ some letter, isSuffix c := fun c is => Option.some.inj is ▸ suffixed
      have head : (tailText numeral.fraction numeral.exponent (some letter) ++ rest).head? =
          (tailText numeral.fraction numeral.exponent (some letter)).head? :=
        List.head?_append_of_ne_nil _ (by simp [tailText])
      have behind := text_behind rest written (head ▸ tail_head written suffixes)
      rw [text] at form
      rcases Expression.form_shape form with dash | colon | guid
      · exact absurd (behind _ dash) (by decide)
      · exact absurd (behind _ colon) (by decide)
      · have member : letter ∈ numeral.text ++ (some letter).toList ++ rest := by simp
        rcases Guid.grouped_characters (Guid.is_guid_iff.mp guid) letter member with hex | rfl
        · rw [other] at hex
          cases hex
        · cases suffixed

theorem spells_inside {negative : Bool} {kind : TokenKind} {taken : List Char} (spells : Spells negative kind taken) :
    ∀ c ∈ taken, Expression.isDelimiter c = false := by
  obtain ⟨numeral, written, -, suffix, suffixes, rfl, -⟩ := spells
  exact text_inside written suffixes

theorem spells_no_form {negative : Bool} {kind : TokenKind} {taken : List Char} (spells : Spells negative kind taken) :
    Expression.formKind? taken = none := by
  obtain ⟨numeral, written, -, suffix, suffixes, rfl, -⟩ := spells
  exact text_no_form written suffixes

end Numeral

end QueryOptions
