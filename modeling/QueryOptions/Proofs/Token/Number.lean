import QueryOptions.Proofs.Token.Follow

set_option autoImplicit false

namespace QueryOptions

open Expression

theorem token_inj {kind kind' : TokenKind} {taken taken' rest rest' : List Char}
    (same : Scan.token kind taken rest = .token kind' taken' rest') : kind = kind' ∧ taken = taken' ∧ rest = rest' := by
  cases same
  exact ⟨rfl, rfl, rfl⟩

namespace Numeral

variable {numeral : Numeral} {found : Option TokenKind} {kind : TokenKind} {text taken rest left after : List Char}

theorem head_of_class {test : Char → Bool} (some : ¬ ∀ c ∈ rest.head?, test c = false) :
    ∃ c more, rest = c :: more ∧ test c := by
  cases rest with
  | nil => exact absurd (fun _ absent => by cases absent) some
  | cons c more => exact ⟨c, more, rfl, by simpa using some⟩

theorem conclude_token (scans : conclude found text rest = .token kind taken left) :
    found = some kind ∧ text = taken ∧ rest = left := by
  cases found <;> cases scans
  exact ⟨rfl, rfl, rfl⟩

theorem scan_suffix_none (numeral : Numeral) (none : ∀ c ∈ rest.head?, isSuffix c = false) :
    scanSuffix numeral rest = conclude numeral.kind? numeral.text rest := by
  cases rest with
  | nil => rfl
  | cons c rest => exact if_neg (by simp [none c rfl])

theorem scan_suffix_local (scans : scanSuffix numeral rest = .token kind taken left) (heads : Heads left after) :
    ∃ front, rest = front ++ left ∧ scanSuffix numeral (front ++ after) = .token kind taken after := by
  by_cases none : ∀ c ∈ rest.head?, isSuffix c = false
  · rw [scan_suffix_none numeral none] at scans
    obtain ⟨found, rfl, rfl⟩ := conclude_token scans
    refine ⟨[], rfl, ?_⟩
    rw [List.nil_append, scan_suffix_none numeral (heads_fail suffix_inner heads none), found]
    rfl
  · obtain ⟨c, rest, rfl, suffix⟩ := head_of_class none
    have same (more : List Char) : scanSuffix numeral (c :: more) =
        conclude (numeral.suffixedKind? c) (numeral.text ++ [c]) more := if_pos suffix
    rw [same] at scans
    obtain ⟨found, rfl, rfl⟩ := conclude_token scans
    refine ⟨[c], rfl, ?_⟩
    rw [List.singleton_append, same, found]
    rfl

def isMark (c : Char) : Bool := c == 'e' || c == 'E'

theorem mark_outside : Inner isMark := by decide +kernel

theorem scan_exponent_none (numeral : Numeral) (none : ∀ c ∈ rest.head?, isMark c = false) :
    scanExponent numeral rest = scanSuffix numeral rest := by
  cases rest with
  | nil => rfl
  | cons c rest =>
      have other : ¬ (c = 'e' ∨ c = 'E') := by simpa [isMark] using none c rfl
      exact if_neg other

theorem scan_exponent_some (numeral : Numeral) {mark : Char} (marks : isMark mark) (sign : Option Char)
    (signs : ∀ c ∈ sign, c = '+' ∨ c = '-') {digits more : List Char} (some : digits ≠ [])
    (all : ∀ c ∈ digits, c.isDigit) (ends : ∀ c ∈ more.head?, c.isDigit = false) :
    scanExponent numeral (mark :: (sign.toList ++ (digits ++ more))) =
      scanSuffix { numeral with exponent := .some ⟨mark, sign, digits⟩ } more := by
  have signed : exponentSign (sign.toList ++ (digits ++ more)) = sign := by
    cases sign with
    | some c => exact if_pos (signs c rfl)
    | none =>
        obtain ⟨d, digits, rfl⟩ := List.exists_cons_of_ne_nil some
        have digit := all d List.mem_cons_self
        refine if_neg ?_
        rintro (rfl | rfl) <;> cases digit
  have marked : mark = 'e' ∨ mark = 'E' := by simpa [isMark] using marks
  unfold scanExponent
  dsimp only
  rw [if_pos marked, signed, List.drop_left, take_while_before all ends, drop_while_before all ends,
    if_neg (by simpa using some)]

theorem exponent_parts {mark : Char} (marks : isMark mark)
    (scans : scanExponent numeral (mark :: rest) = .token kind taken left) :
    ∃ (sign : Option Char) (digits more : List Char), (∀ c ∈ sign, c = '+' ∨ c = '-') ∧ digits ≠ [] ∧
      (∀ c ∈ digits, c.isDigit) ∧ (∀ c ∈ more.head?, c.isDigit = false) ∧
      rest = sign.toList ++ (digits ++ more) := by
  have marked : mark = 'e' ∨ mark = 'E' := by simpa [isMark] using marks
  unfold scanExponent at scans
  dsimp only at scans
  rw [if_pos marked] at scans
  refine ⟨exponentSign rest, (rest.drop (exponentSign rest).toList.length).takeWhile Char.isDigit,
    (rest.drop (exponentSign rest).toList.length).dropWhile Char.isDigit, ?_, ?_, take_while_all _ _,
    head_drop_while _ _, ?_⟩
  · unfold exponentSign
    intro c sign
    split at sign
    · split at sign
      · cases sign
        assumption
      · cases sign
    · cases sign
  · intro missing
    rw [missing, if_pos List.isEmpty_nil] at scans
    cases scans
  · rw [List.takeWhile_append_dropWhile, exponent_sign_split]

theorem scan_exponent_local (scans : scanExponent numeral rest = .token kind taken left) (heads : Heads left after) :
    ∃ front, rest = front ++ left ∧ scanExponent numeral (front ++ after) = .token kind taken after := by
  by_cases none : ∀ c ∈ rest.head?, isMark c = false
  · rw [scan_exponent_none numeral none] at scans
    obtain ⟨front, rfl, again⟩ := scan_suffix_local scans heads
    refine ⟨front, rfl, ?_⟩
    rwa [scan_exponent_none numeral (heads_fail mark_outside (heads_append front heads) none)]
  · obtain ⟨mark, rest, rfl, marks⟩ := head_of_class none
    obtain ⟨sign, digits, more, signs, some, all, ends, rfl⟩ := exponent_parts marks scans
    rw [scan_exponent_some numeral marks sign signs some all ends] at scans
    obtain ⟨front, rfl, again⟩ := scan_suffix_local scans heads
    have ends' := heads_fail digit_inner (heads_append front heads) ends
    refine ⟨mark :: (sign.toList ++ (digits ++ front)), by simp, ?_⟩
    simpa [scan_exponent_some numeral marks sign signs some all ends'] using again

theorem scan_fraction_none (numeral : Numeral) (none : rest.head? ≠ some '.') :
    scanFraction numeral rest = scanExponent numeral rest := by
  cases rest with
  | nil => rfl
  | cons c rest => exact if_neg fun same => none (congrArg some same)

theorem scan_fraction_some (numeral : Numeral) {digits more : List Char} (some : digits ≠ [])
    (all : ∀ c ∈ digits, c.isDigit) (ends : ∀ c ∈ more.head?, c.isDigit = false) :
    scanFraction numeral ('.' :: (digits ++ more)) = scanExponent { numeral with fraction := .some digits } more := by
  unfold scanFraction
  dsimp only
  rw [if_pos rfl, take_while_before all ends, drop_while_before all ends, if_neg (by simpa using some)]

theorem fraction_parts (scans : scanFraction numeral ('.' :: rest) = .token kind taken left) :
    ∃ digits more : List Char, digits ≠ [] ∧ (∀ c ∈ digits, c.isDigit) ∧ (∀ c ∈ more.head?, c.isDigit = false) ∧
      rest = digits ++ more := by
  unfold scanFraction at scans
  dsimp only at scans
  rw [if_pos rfl] at scans
  refine ⟨rest.takeWhile Char.isDigit, rest.dropWhile Char.isDigit, ?_, take_while_all _ _, head_drop_while _ _,
    List.takeWhile_append_dropWhile.symm⟩
  intro missing
  rw [missing, if_pos List.isEmpty_nil] at scans
  cases scans

theorem scan_fraction_local (scans : scanFraction numeral rest = .token kind taken left) (heads : Heads left after) :
    ∃ front, rest = front ++ left ∧ scanFraction numeral (front ++ after) = .token kind taken after := by
  by_cases point : rest.head? = some '.'
  · obtain ⟨rest, rfl⟩ := List.head?_eq_some_iff.mp point
    obtain ⟨digits, more, some, all, ends, rfl⟩ := fraction_parts scans
    rw [scan_fraction_some numeral some all ends] at scans
    obtain ⟨front, rfl, again⟩ := scan_exponent_local scans heads
    have ends' := heads_fail digit_inner (heads_append front heads) ends
    refine ⟨'.' :: (digits ++ front), by simp, ?_⟩
    simpa [scan_fraction_some numeral some all ends'] using again
  · rw [scan_fraction_none numeral point] at scans
    obtain ⟨front, rfl, again⟩ := scan_exponent_local scans heads
    refine ⟨front, rfl, ?_⟩
    rw [scan_fraction_none numeral ?_, again]
    intro head
    rcases heads_append front heads '.' head with same | delimits
    · exact point same
    · cases delimits

theorem scan_local {negative : Bool} (scans : scan negative text = .token kind taken left) (heads : Heads left after) :
    ∃ front, text.dropWhile Char.isDigit = front ++ left ∧
      scan negative (text.takeWhile Char.isDigit ++ (front ++ after)) = .token kind taken after := by
  obtain ⟨front, split, again⟩ := scan_fraction_local scans heads
  have heads' : Heads (text.dropWhile Char.isDigit) (front ++ after) := by
    rw [split]
    exact heads_append front heads
  refine ⟨front, split, ?_⟩
  rw [scan, take_while_follows digit_inner heads', drop_while_follows digit_inner heads', again]

structure Written (numeral : Numeral) : Prop where
  whole : ∀ c ∈ numeral.whole, c.isDigit
  fraction : ∀ digits ∈ numeral.fraction, ∀ c ∈ digits, c.isDigit
  mark : ∀ exponent ∈ numeral.exponent, isMark exponent.mark
  sign : ∀ exponent ∈ numeral.exponent, ∀ c ∈ exponent.sign, c = '+' ∨ c = '-'
  power : ∀ exponent ∈ numeral.exponent, ∀ c ∈ exponent.digits, c.isDigit

def isWritten (numeral : Numeral) : Bool :=
  numeral.whole.all Char.isDigit && numeral.fraction.all (·.all Char.isDigit) && numeral.exponent.all fun exponent =>
    isMark exponent.mark && exponent.sign.all (fun c => c == '+' || c == '-') && exponent.digits.all Char.isDigit

theorem is_written_iff (numeral : Numeral) : numeral.isWritten ↔ numeral.Written := by
  simp only [isWritten, Bool.and_eq_true, List.all_eq_true, Option.all_eq_true, Bool.or_eq_true, beq_iff_eq]
  constructor
  · rintro ⟨⟨whole, fraction⟩, exponent⟩
    exact ⟨whole, fraction, fun e is => (exponent e is).1.1, fun e is => (exponent e is).1.2, fun e is => (exponent e is).2⟩
  · exact fun written =>
      ⟨⟨written.whole, written.fraction⟩, fun e is => ⟨⟨written.mark e is, written.sign e is⟩, written.power e is⟩⟩

instance (numeral : Numeral) : Decidable numeral.Written :=
  decidable_of_iff _ numeral.is_written_iff

-- The text of a numeral and a letter for its type, if there is one, with the type they give.
def Spells (negative : Bool) (kind : TokenKind) (taken : List Char) : Prop :=
  ∃ numeral : Numeral, numeral.Written ∧ numeral.negative = negative ∧
    ∃ suffix : Option Char, (∀ c ∈ suffix, isSuffix c) ∧ taken = numeral.text ++ suffix.toList ∧
      some kind = suffix.elim numeral.kind? fun c => numeral.suffixedKind? c

theorem scan_suffix_spells (written : numeral.Written) (scans : scanSuffix numeral rest = .token kind taken left) :
    Spells numeral.negative kind taken := by
  refine ⟨numeral, written, rfl, ?_⟩
  by_cases none : ∀ c ∈ rest.head?, isSuffix c = false
  · rw [scan_suffix_none numeral none] at scans
    obtain ⟨found, rfl, rfl⟩ := conclude_token scans
    exact ⟨.none, fun c absent => (by cases absent), (List.append_nil _).symm, found.symm⟩
  · obtain ⟨c, rest, rfl, suffix⟩ := head_of_class none
    obtain ⟨found, rfl, -⟩ := conclude_token ((if_pos suffix).symm.trans scans)
    exact ⟨some c, fun d same => Option.some.inj same ▸ suffix, rfl, found.symm⟩

theorem scan_exponent_spells (written : numeral.Written) (scans : scanExponent numeral rest = .token kind taken left) :
    Spells numeral.negative kind taken := by
  by_cases none : ∀ c ∈ rest.head?, isMark c = false
  · rw [scan_exponent_none numeral none] at scans
    exact scan_suffix_spells written scans
  · obtain ⟨mark, rest, rfl, marks⟩ := head_of_class none
    obtain ⟨sign, digits, more, signs, some, all, ends, rfl⟩ := exponent_parts marks scans
    rw [scan_exponent_some numeral marks sign signs some all ends] at scans
    have written' : Written { numeral with exponent := .some ⟨mark, sign, digits⟩ } :=
      ⟨written.whole, written.fraction, fun _ same => Option.some.inj same ▸ marks,
        fun _ same => Option.some.inj same ▸ signs, fun _ same => Option.some.inj same ▸ all⟩
    have spells := scan_suffix_spells written' scans
    exact spells

theorem scan_spells {negative : Bool} (scans : scan negative text = .token kind taken left) :
    Spells negative kind taken := by
  have none {α : Type} {holds : α → Prop} : ∀ x ∈ (none : Option α), holds x := fun _ absent => by cases absent
  have whole := take_while_all Char.isDigit text
  unfold scan at scans
  by_cases point : (text.dropWhile Char.isDigit).head? = some '.'
  · obtain ⟨rest, split⟩ := List.head?_eq_some_iff.mp point
    rw [split] at scans
    obtain ⟨digits, more, some, all, ends, rfl⟩ := fraction_parts scans
    rw [scan_fraction_some _ some all ends] at scans
    have written : Written ⟨negative, text.takeWhile Char.isDigit, .some digits, .none⟩ :=
      ⟨whole, fun _ same => Option.some.inj same ▸ all, none, none, none⟩
    exact scan_exponent_spells written scans
  · rw [scan_fraction_none _ point] at scans
    exact scan_exponent_spells ⟨whole, none, none, none, none⟩ scans

theorem spells_literal {negative : Bool} (spells : Spells negative kind taken) : kind.isLiteral := by
  obtain ⟨numeral, -, -, suffix, -, -, found⟩ := spells
  cases suffix with
  | none => exact kind_literal found.symm
  | some c => exact suffixed_kind_literal found.symm

end Numeral

end QueryOptions
