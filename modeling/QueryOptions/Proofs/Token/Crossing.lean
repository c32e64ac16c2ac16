import QueryOptions.Proofs.Token.Split
import QueryOptions.Token.OptionValue

set_option autoImplicit false

namespace QueryOptions

def isPlain (c : Char) : Bool := c != '\'' && c != '"' && c != '(' && c != ')' && c != ';'

-- The raw scan gets from a text with some parentheses open to a later one.
inductive Crosses : Nat → List Char → Nat → List Char → Prop where
  | refl (depth : Nat) (text : List Char) : Crosses depth text depth text
  | plain {depth depth' : Nat} {c : Char} {rest text' : List Char} (simple : isPlain c)
      (others : Crosses depth rest depth' text') : Crosses depth (c :: rest) depth' text'
  | semicolon {depth depth' : Nat} {rest text' : List Char}
      (others : Crosses (depth + 1) rest depth' text') : Crosses (depth + 1) (';' :: rest) depth' text'
  | opening {depth depth' : Nat} {rest text' : List Char}
      (others : Crosses (depth + 1) rest depth' text') : Crosses depth ('(' :: rest) depth' text'
  | closing {depth depth' : Nat} {rest text' : List Char}
      (others : Crosses depth rest depth' text') : Crosses (depth + 1) (')' :: rest) depth' text'
  | string {depth depth' : Nat} {quote : Char} {rest text' : List Char} (quotes : quote = '\'' ∨ quote = '"')
      (closed : (scanString quote rest).ending = .closed)
      (others : Crosses depth (scanString quote rest).rest depth' text') :
      Crosses depth (quote :: rest) depth' text'

namespace Crosses

variable {depth depth' depth'' : Nat} {text text' text'' : List Char}

theorem trans (first : Crosses depth text depth' text') (second : Crosses depth' text' depth'' text'') :
    Crosses depth text depth'' text'' := by
  induction first with
  | refl => exact second
  | plain simple _ ih => exact .plain simple (ih second)
  | semicolon _ ih => exact .semicolon (ih second)
  | opening _ ih => exact .opening (ih second)
  | closing _ ih => exact .closing (ih second)
  | string quotes closed _ ih => exact .string quotes closed (ih second)

theorem suffix (crosses : Crosses depth text depth' text') : text' <:+ text := by
  induction crosses with
  | refl => exact List.suffix_rfl
  | plain _ _ ih => exact ih.trans (List.suffix_cons _ _)
  | semicolon _ ih => exact ih.trans (List.suffix_cons _ _)
  | opening _ ih => exact ih.trans (List.suffix_cons _ _)
  | closing _ ih => exact ih.trans (List.suffix_cons _ _)
  | @string _ _ quote rest _ _ _ _ ih =>
      have inside : (scanString quote rest).rest <:+ rest := ⟨_, scan_string_splits quote rest⟩
      exact (ih.trans inside).trans (List.suffix_cons quote rest)

theorem deeper (more : Nat) (crosses : Crosses depth text depth' text') :
    Crosses (depth + more) text (depth' + more) text' := by
  induction crosses with
  | refl => exact .refl _ _
  | plain simple _ ih => exact .plain simple ih
  | semicolon _ ih =>
      rw [Nat.add_right_comm] at ih ⊢
      exact .semicolon ih
  | opening _ ih =>
      rw [Nat.add_right_comm] at ih
      exact .opening ih
  | closing _ ih =>
      rw [Nat.add_right_comm]
      exact .closing ih
  | string quotes closed _ ih => exact .string quotes closed ih

theorem of_plain (front : List Char) (simple : ∀ c ∈ front, isPlain c) :
    Crosses depth (front ++ text) depth text := by
  induction front with
  | nil => exact .refl _ _
  | cons c front ih =>
      exact .plain (simple c List.mem_cons_self) (ih fun d member => simple d (List.mem_cons_of_mem c member))

end Crosses

theorem scan_string_append (quote : Char) (text tail : List Char) (other : tail.head? ≠ some quote)
    (closed : (scanString quote text).ending = .closed) :
    scanString quote (text ++ tail) =
      ⟨.closed, (scanString quote text).taken, (scanString quote text).rest ++ tail⟩ := by
  fun_induction scanString quote text with
  | case1 => cases closed
  | case2 after ih =>
      rw [scanString.eq_def]
      simp only [List.cons_append, if_true, ih closed, QuoteScan.after]
  | case3 d after different =>
      rw [scanString.eq_def]
      simp only [List.cons_append, if_true, different, if_false]
  | case4 =>
      rw [scanString.eq_def]
      cases tail with
      | nil => simp only [List.append_nil, if_true]
      | cons d after =>
          have different : d ≠ quote := fun same => other (congrArg some same)
          simp only [List.cons_append, List.nil_append, if_true, different, if_false]
  | case5 => cases closed
  | case6 c different escape e after simple ih =>
      rw [scanString.eq_def]
      simp only [List.cons_append, different, if_false, escape, if_true, simple, ih closed, QuoteScan.after]
  | case7 c different escape h₁ h₂ h₃ h₄ after digits simple ih =>
      rw [scanString.eq_def]
      simp only [List.cons_append, different, if_false, escape, if_true, simple, digits, ih closed,
        QuoteScan.after, Bool.false_eq_true]
  | case8 => cases closed
  | case9 => cases closed
  | case10 => cases closed
  | case11 c rest different escape ih =>
      rw [scanString.eq_def]
      simp only [List.cons_append, different, if_false, escape, ih closed, QuoteScan.after]
      rfl

-- What was crossed before the end of a text is crossed when another text follows. The
-- following one must not start with a quote: it would be taken for the second of two that
-- stand for one.
theorem Crosses.before {depth depth' : Nat} {text text' tail : List Char}
    (single : tail.head? ≠ some '\'') (double : tail.head? ≠ some '"')
    (crosses : Crosses depth text depth' text') : Crosses depth (text ++ tail) depth' (text' ++ tail) := by
  induction crosses with
  | refl => exact .refl _ _
  | plain simple _ ih => exact .plain simple ih
  | semicolon _ ih => exact .semicolon ih
  | opening _ ih => exact .opening ih
  | closing _ ih => exact .closing ih
  | @string _ _ quote rest _ quotes closed _ ih =>
      have other : tail.head? ≠ some quote := by
        rcases quotes with rfl | rfl
        · exact single
        · exact double
      have longer := scan_string_append quote rest tail other closed
      exact .string quotes (congrArg QuoteScan.ending longer) (congrArg QuoteScan.rest longer ▸ ih)

def AtDelimiter (text : List Char) : Prop := ∃ c after, text = c :: after ∧ (c = ')' ∨ c = ';')

theorem scan_value_delimiter (pieces : Nat) {text : List Char} (delimiter : AtDelimiter text) :
    scanValue (pieces + 1) 0 text = ⟨none, [], text⟩ := by
  obtain ⟨c, after, rfl, rfl | rfl⟩ := delimiter <;> simp [scanValue]

theorem scan_value_plain (pieces depth : Nat) {c : Char} (rest : List Char) (simple : isPlain c) :
    scanValue (pieces + 1) depth (c :: rest) = (scanValue pieces depth rest).after [c] := by
  simp only [isPlain, Bool.and_eq_true, bne_iff_ne, ne_eq] at simple
  obtain ⟨⟨⟨⟨single, double⟩, opening⟩, closing⟩, semicolon⟩ := simple
  simp only [scanValue, single, double, opening, closing, semicolon, or_false, false_and, if_false]

theorem scan_value_semicolon (pieces depth : Nat) (rest : List Char) :
    scanValue (pieces + 1) (depth + 1) (';' :: rest) = (scanValue pieces (depth + 1) rest).after [';'] := by
  simp [scanValue]

theorem scan_value_opening (pieces depth : Nat) (rest : List Char) :
    scanValue (pieces + 1) depth ('(' :: rest) = (scanValue pieces (depth + 1) rest).after ['('] := by
  simp [scanValue]

theorem scan_value_closing (pieces depth : Nat) (rest : List Char) :
    scanValue (pieces + 1) (depth + 1) (')' :: rest) = (scanValue pieces depth rest).after [')'] := by
  simp [scanValue]

theorem scan_value_string (pieces depth : Nat) {quote : Char} {rest : List Char}
    (quotes : quote = '\'' ∨ quote = '"') (closed : (scanString quote rest).ending = .closed) :
    scanValue (pieces + 1) depth (quote :: rest) =
      (scanValue pieces depth (scanString quote rest).rest).after (quote :: (scanString quote rest).taken) := by
  simp only [scanValue, quotes, if_true, QuoteScan.fault?, closed]

namespace ValueScan

theorem after_nil (scan : ValueScan) : scan.after [] = scan := by
  obtain ⟨fault, taken, rest⟩ := scan
  cases fault <;> simp [after, shift_none]

theorem after_after (front back : List Char) (scan : ValueScan) : (scan.after back).after front = scan.after (front ++ back) := by
  obtain ⟨fault, taken, rest⟩ := scan
  cases fault <;> simp [after, shift_shift, Text.byteLength_append]

end ValueScan

-- The raw scan goes on where it has crossed to. A string is one piece of many characters, so the pieces left are more than
-- the characters, but not as many more.
theorem scan_value_steps {depth depth' : Nat} {text tail : List Char} (crosses : Crosses depth text depth' tail)
    (pieces : Nat) (enough : text.length < pieces) :
    ∃ taken fewer, taken ++ tail = text ∧ tail.length < fewer ∧
      scanValue pieces depth text = (scanValue fewer depth' tail).after taken := by
  induction crosses generalizing pieces with
  | refl => exact ⟨[], pieces, rfl, enough, (ValueScan.after_nil _).symm⟩
  | @plain _ _ c rest _ simple _ ih =>
      obtain ⟨less, rfl⟩ : ∃ less, pieces = less + 1 := ⟨pieces - 1, by simp at enough; omega⟩
      obtain ⟨taken, fewer, split, more, scan⟩ := ih less (by simpa using enough)
      exact ⟨c :: taken, fewer, congrArg (c :: ·) split, more,
        by rw [scan_value_plain _ _ _ simple, scan, ValueScan.after_after]; rfl⟩
  | semicolon _ ih =>
      obtain ⟨less, rfl⟩ : ∃ less, pieces = less + 1 := ⟨pieces - 1, by simp at enough; omega⟩
      obtain ⟨taken, fewer, split, more, scan⟩ := ih less (by simpa using enough)
      exact ⟨';' :: taken, fewer, congrArg (';' :: ·) split, more,
        by rw [scan_value_semicolon, scan, ValueScan.after_after]; rfl⟩
  | opening _ ih =>
      obtain ⟨less, rfl⟩ : ∃ less, pieces = less + 1 := ⟨pieces - 1, by simp at enough; omega⟩
      obtain ⟨taken, fewer, split, more, scan⟩ := ih less (by simpa using enough)
      exact ⟨'(' :: taken, fewer, congrArg ('(' :: ·) split, more,
        by rw [scan_value_opening, scan, ValueScan.after_after]; rfl⟩
  | closing _ ih =>
      obtain ⟨less, rfl⟩ : ∃ less, pieces = less + 1 := ⟨pieces - 1, by simp at enough; omega⟩
      obtain ⟨taken, fewer, split, more, scan⟩ := ih less (by simpa using enough)
      exact ⟨')' :: taken, fewer, congrArg (')' :: ·) split, more,
        by rw [scan_value_closing, scan, ValueScan.after_after]; rfl⟩
  | @string _ _ quote rest _ quotes closed _ ih =>
      have inside := congrArg List.length (scan_string_splits quote rest)
      simp only [List.length_append] at inside
      obtain ⟨less, rfl⟩ : ∃ less, pieces = less + 1 := ⟨pieces - 1, by simp at enough; omega⟩
      obtain ⟨taken, fewer, split, more, scan⟩ := ih less (by simp at enough; omega)
      refine ⟨quote :: (scanString quote rest).taken ++ taken, fewer, ?_, more, ?_⟩
      · rw [List.append_assoc, split, List.cons_append, scan_string_splits]
      · rw [scan_value_string _ _ quotes closed, scan, ValueScan.after_after]

theorem scan_value_of_crosses {depth depth' : Nat} {text tail : List Char}
    (crosses : Crosses depth text depth' tail) (outside : depth' = 0) (delimiter : AtDelimiter tail)
    (pieces : Nat) (enough : text.length < pieces) :
    ∃ taken, scanValue pieces depth text = ⟨none, taken, tail⟩ ∧ taken ++ tail = text := by
  subst outside
  obtain ⟨taken, fewer, split, more, scan⟩ := scan_value_steps crosses pieces enough
  obtain ⟨less, rfl⟩ : ∃ less, fewer = less + 1 := ⟨fewer - 1, by omega⟩
  rw [scan_value_delimiter less delimiter] at scan
  exact ⟨taken, by simpa [ValueScan.after] using scan, split⟩

theorem fault_after {front : List Char} {scan : ValueScan} (fine : (scan.after front).fault = none) :
    scan.fault = none := Option.map_eq_none_iff.mp fine

theorem closed_of_fault {pieces depth : Nat} {quote : Char} {rest : List Char}
    (quotes : quote = '\'' ∨ quote = '"') (fine : (scanValue (pieces + 1) depth (quote :: rest)).fault = none) :
    (scanString quote rest).ending = .closed := by
  cases ending : (scanString quote rest).ending with
  | closed => rfl
  | unclosed => simp [scanValue, quotes, QuoteScan.fault?, ending] at fine
  | badEscape sequence => simp [scanValue, quotes, QuoteScan.fault?, ending] at fine

theorem not_plain {c : Char} (special : ¬ isPlain c) :
    (c = '\'' ∨ c = '"') ∨ c = '(' ∨ c = ')' ∨ c = ';' := by
  simp only [isPlain, Bool.and_eq_true, bne_iff_ne, ne_eq, Decidable.not_and_iff_not_or_not,
    Decidable.not_not] at special
  rcases special with (((single | double) | opening) | closing) | semicolon
  · exact .inl (.inl single)
  · exact .inl (.inr double)
  · exact .inr (.inl opening)
  · exact .inr (.inr (.inl closing))
  · exact .inr (.inr (.inr semicolon))

theorem scan_value_crosses (pieces depth : Nat) (text : List Char) (enough : text.length < pieces)
    (fine : (scanValue pieces depth text).fault = none) :
    Crosses depth text 0 (scanValue pieces depth text).rest ∧ AtDelimiter (scanValue pieces depth text).rest := by
  induction pieces generalizing depth text with
  | zero => exact absurd enough (Nat.not_lt_zero _)
  | succ pieces ih =>
      cases text with
      | nil => cases fine
      | cons c rest =>
          have few : rest.length < pieces := Nat.lt_of_succ_lt_succ enough
          by_cases simple : isPlain c
          · rw [scan_value_plain _ _ _ simple] at fine ⊢
            obtain ⟨others, delimiter⟩ := ih depth rest few (fault_after fine)
            exact ⟨.plain simple others, delimiter⟩
          · rcases not_plain simple with quotes | rfl | rfl | rfl
            · have closed := closed_of_fault quotes fine
              have inside := congrArg List.length (scan_string_splits c rest)
              simp only [List.length_append] at inside
              rw [scan_value_string _ _ quotes closed] at fine ⊢
              obtain ⟨others, delimiter⟩ := ih depth _ (by omega) (fault_after fine)
              exact ⟨.string quotes closed others, delimiter⟩
            · rw [scan_value_opening] at fine ⊢
              obtain ⟨others, delimiter⟩ := ih (depth + 1) rest few (fault_after fine)
              exact ⟨.opening others, delimiter⟩
            · cases depth with
              | zero =>
                  have delimiter : AtDelimiter (')' :: rest) := ⟨_, _, rfl, .inl rfl⟩
                  rw [scan_value_delimiter pieces delimiter]
                  exact ⟨.refl _ _, delimiter⟩
              | succ depth =>
                  rw [scan_value_closing] at fine ⊢
                  obtain ⟨others, delimiter⟩ := ih depth rest few (fault_after fine)
                  exact ⟨.closing others, delimiter⟩
            · cases depth with
              | zero =>
                  have delimiter : AtDelimiter (';' :: rest) := ⟨_, _, rfl, .inr rfl⟩
                  rw [scan_value_delimiter pieces delimiter]
                  exact ⟨.refl _ _, delimiter⟩
              | succ depth =>
                  rw [scan_value_semicolon] at fine ⊢
                  obtain ⟨others, delimiter⟩ := ih (depth + 1) rest few (fault_after fine)
                  exact ⟨.semicolon others, delimiter⟩

end QueryOptions
