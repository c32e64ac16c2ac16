import QueryOptions.Proofs.Nested.Value
import QueryOptions.Proofs.Token.Quoted

set_option autoImplicit false

namespace QueryOptions

inductive RawPart where
  | string (quote : Char) (inner : List Char)
  | single (c : Char)

namespace RawPart

def text : RawPart → List Char
  | string quote inner => quote :: inner ++ [quote]
  | single c => [c]

-- How many more parentheses are open behind the part than in front of it.
@[simp]
def rise : RawPart → Int
  | string _ _ => 0
  | single c => if c = '(' then 1 else if c = ')' then -1 else 0

@[simp]
def delimits : RawPart → Bool
  | string _ _ => false
  | single c => c == ';' || c == ')'

end RawPart

@[simp]
def parenthesesOpen : List RawPart → Int
  | [] => 0
  | part :: parts => part.rise + parenthesesOpen parts

-- Semicolons and closing parentheses have a parenthesis open in front of them.
def Enclosed (depth : Int) (parts : List RawPart) : Prop :=
  ∀ front part back, parts = front ++ part :: back → part.delimits → 0 < depth + parenthesesOpen front

-- A text begins with these parts, and what is left follows. Where a quote is met the string is the literal there.
inductive Composed : List RawPart → List Char → List Char → Prop where
  | nil (text : List Char) : Composed [] text text
  | string {quote : Char} {inner text rest tail : List Char} {parts : List RawPart} (quotes : quote = '\'' ∨ quote = '"')
      (literal : StringLiteral quote text (quote :: inner ++ [quote]) rest) (others : Composed parts rest tail) :
      Composed (.string quote inner :: parts) text tail
  | single {c : Char} {rest tail : List Char} {parts : List RawPart} (bare : ¬ (c = '\'' ∨ c = '"'))
      (others : Composed parts rest tail) : Composed (.single c :: parts) (c :: rest) tail

variable {depth : Int} {level level' : Nat} {part : RawPart} {parts front back : List RawPart}
variable {text tail rest value : List Char} {quote c : Char}

theorem enclosed_nil (depth : Int) : Enclosed depth [] := by
  intro front part back split
  cases front <;> cases split

theorem enclosed_cons : Enclosed depth (part :: parts) ↔
    (part.delimits → 0 < depth) ∧ Enclosed (depth + part.rise) parts := by
  constructor
  · refine fun enclosed => ⟨fun delimits => by simpa using enclosed [] part parts rfl delimits, ?_⟩
    intro front other back split delimits
    have inside := enclosed (part :: front) other back (congrArg (part :: ·) split) delimits
    rwa [parenthesesOpen, ← Int.add_assoc] at inside
  · rintro ⟨here, others⟩ front other back split delimits
    cases front with
    | nil =>
        cases split
        simpa using here delimits
    | cons first front =>
        cases split
        rw [parenthesesOpen, ← Int.add_assoc]
        exact others front other back rfl delimits

theorem rise_plain (simple : isPlain c) : (RawPart.single c).rise = 0 := by
  simp only [isPlain, Bool.and_eq_true, bne_iff_ne, ne_eq] at simple
  rw [RawPart.rise, if_neg simple.1.1.2, if_neg simple.1.2]

theorem delimits_plain (simple : isPlain c) : (RawPart.single c).delimits = false := by
  simp only [isPlain, Bool.and_eq_true, bne_iff_ne, ne_eq] at simple
  simp [simple.1.2, simple.2]

theorem rise_least (part : RawPart) : 0 ≤ part.rise ∨ part.delimits ∧ part.rise = -1 := by
  cases part with
  | string quote inner => exact .inl (Int.le_refl 0)
  | single c =>
      by_cases closes : c = ')'
      · subst closes
        exact .inr ⟨rfl, rfl⟩
      · refine .inl ?_
        rw [RawPart.rise, if_neg closes]
        split <;> decide

theorem parentheses_open_nonneg (start : 0 ≤ depth) (enclosed : Enclosed depth (front ++ back)) :
    0 ≤ depth + parenthesesOpen front := by
  induction front generalizing depth with
  | nil => simpa using start
  | cons part front ih =>
      obtain ⟨here, others⟩ := enclosed_cons.mp enclosed
      rw [parenthesesOpen, ← Int.add_assoc]
      refine ih ?_ others
      rcases rise_least part with more | ⟨delimits, less⟩
      · omega
      · have some := here delimits
        omega

theorem composed_split (composed : Composed parts text tail) : text = parts.flatMap RawPart.text ++ tail := by
  induction composed with
  | nil => rfl
  | string _ literal _ ih => rw [List.flatMap_cons, List.append_assoc, ← ih, literal.split]; rfl
  | single _ _ ih => exact congrArg (_ :: ·) ih

theorem closed_literal (quotes : quote = '\'' ∨ quote = '"') (closed : (scanString quote text).ending = .closed) :
    ∃ inner, StringLiteral quote (quote :: text) (quote :: inner ++ [quote]) (scanString quote text).rest := by
  have unbroken : ∀ front rest, ¬ BrokenEscape quote (quote :: text) front rest := by
    intro front rest broken
    obtain ⟨_, _, _, -, scanned⟩ := escape_scanned quotes broken
    rw [scanned] at closed
    cases closed
  obtain ⟨literal, rest, found⟩ : ∃ literal rest, StringLiteral quote (quote :: text) literal rest := by
    by_contra none
    simp only [not_exists] at none
    rw [scan_string_unclosed none unbroken] at closed
    cases closed
  obtain ⟨taken, -, scanned⟩ := literal_scanned found
  obtain ⟨inner, -, rfl⟩ := found.quoted
  exact ⟨inner, by rwa [scanned]⟩

theorem literal_closed {literal : List Char} (found : StringLiteral quote (quote :: text) literal rest) :
    (scanString quote text).ending = .closed ∧ (scanString quote text).rest = rest := by
  obtain ⟨taken, -, scanned⟩ := literal_scanned found
  rw [scanned]
  exact ⟨rfl, rfl⟩

theorem crosses_of_composed (composed : Composed parts text tail) (enclosed : Enclosed level parts) :
    ∃ level' : Nat, (level' : Int) = level + parenthesesOpen parts ∧ Crosses level text level' tail := by
  induction composed generalizing level with
  | nil text => exact ⟨level, by simp, .refl level text⟩
  | @string quote inner text rest tail parts quotes literal _ ih =>
      obtain ⟨-, others⟩ := enclosed_cons.mp enclosed
      obtain ⟨level', same, crosses⟩ := ih (by simpa using others)
      obtain ⟨text, rfl⟩ : ∃ more, text = quote :: more := ⟨inner ++ [quote] ++ rest, by simpa using literal.split⟩
      obtain ⟨closed, rfl⟩ := literal_closed literal
      exact ⟨level', by simpa using same, .string quotes closed crosses⟩
  | @single c rest tail parts bare _ ih =>
      obtain ⟨here, others⟩ := enclosed_cons.mp enclosed
      by_cases simple : isPlain c
      · rw [rise_plain simple, Int.add_zero] at others
        obtain ⟨level', same, crosses⟩ := ih others
        exact ⟨level', by rw [parenthesesOpen, rise_plain simple, Int.zero_add, same], .plain simple crosses⟩
      · rcases not_plain simple with quotes | rfl | rfl | rfl
        · exact absurd quotes bare
        · have deeper : Enclosed (level + 1 : Nat) parts := by simpa using others
          obtain ⟨level', same, crosses⟩ := ih deeper
          exact ⟨level', by simp at same ⊢; omega, .opening crosses⟩
        · obtain ⟨fewer, rfl⟩ : ∃ fewer, level = fewer + 1 := ⟨level - 1, by have some := here rfl; omega⟩
          have outer : Enclosed fewer parts := by simpa [Int.add_neg_cancel_right] using others
          obtain ⟨level', same, crosses⟩ := ih outer
          exact ⟨level', by simp at same ⊢; omega, .closing crosses⟩
        · obtain ⟨fewer, rfl⟩ : ∃ fewer, level = fewer + 1 := ⟨level - 1, by have some := here rfl; omega⟩
          have within : Enclosed (fewer + 1 : Nat) parts := by simpa using others
          obtain ⟨level', same, crosses⟩ := ih within
          exact ⟨level', by simp at same ⊢; omega, .semicolon crosses⟩

theorem composed_of_crosses (crosses : Crosses level text level' tail) :
    ∃ parts, Composed parts text tail ∧ Enclosed level parts ∧ (level' : Int) = level + parenthesesOpen parts := by
  induction crosses with
  | refl depth text => exact ⟨[], .nil text, enclosed_nil depth, by simp⟩
  | @plain _ _ c _ _ simple _ ih =>
      obtain ⟨parts, composed, enclosed, same⟩ := ih
      have bare : ¬ (c = '\'' ∨ c = '"') := by rintro (rfl | rfl) <;> cases simple
      refine ⟨.single c :: parts, .single bare composed, enclosed_cons.mpr ⟨fun delimits => ?_, ?_⟩, ?_⟩
      · rw [delimits_plain simple] at delimits
        cases delimits
      · rwa [rise_plain simple, Int.add_zero]
      · rw [parenthesesOpen, rise_plain simple, Int.zero_add, same]
  | semicolon _ ih =>
      obtain ⟨parts, composed, enclosed, same⟩ := ih
      exact ⟨.single ';' :: parts, .single (by decide) composed, enclosed_cons.mpr ⟨fun _ => by omega, by simpa using enclosed⟩,
        by simpa using same⟩
  | opening _ ih =>
      obtain ⟨parts, composed, enclosed, same⟩ := ih
      exact ⟨.single '(' :: parts, .single (by decide) composed, enclosed_cons.mpr ⟨by simp, by simpa using enclosed⟩,
        by simp at same ⊢; omega⟩
  | @closing depth _ _ _ _ ih =>
      obtain ⟨parts, composed, enclosed, same⟩ := ih
      have inside : Enclosed ((depth + 1 : Nat) + (RawPart.single ')').rise) parts := by
        simpa [Int.add_neg_cancel_right] using enclosed
      exact ⟨.single ')' :: parts, .single (by decide) composed, enclosed_cons.mpr ⟨fun _ => by omega, inside⟩,
        by simp at same ⊢; omega⟩
  | @string _ _ quote rest _ quotes closed _ ih =>
      obtain ⟨parts, composed, enclosed, same⟩ := ih
      obtain ⟨inner, literal⟩ := closed_literal quotes closed
      exact ⟨.string quote inner :: parts, .string quotes literal composed, enclosed_cons.mpr ⟨by simp, by simpa using enclosed⟩,
        by simpa using same⟩

theorem not_closed_of_none (none : ∀ literal more, ¬ StringLiteral quote (quote :: text) literal more)
    (quotes : quote = '\'' ∨ quote = '"') : (scanString quote text).ending ≠ .closed := by
  intro closed
  obtain ⟨inner, literal⟩ := closed_literal quotes closed
  exact none _ _ literal

theorem string_fault (unclosed : (scanString quote rest).ending ≠ .closed) :
    ∃ error, (scanString quote rest).fault? [] quote = some error ∧
      ∀ expected found position, error ≠ .expectedToken expected found position := by
  cases ending : (scanString quote rest).ending with
  | closed => exact absurd ending unclosed
  | unclosed => exact ⟨_, by rw [QuoteScan.fault?, ending], fun _ _ _ => by simp⟩
  | badEscape sequence => exact ⟨_, by rw [QuoteScan.fault?, ending], fun _ _ _ => by simp⟩

theorem crosses_far (level : Nat) (text : List Char) :
    ∃ level' tail, Crosses level text level' tail ∧
      (tail = [] ∨ (level' = 0 ∧ AtDelimiter tail) ∨
        ∃ quote rest, tail = quote :: rest ∧ (quote = '\'' ∨ quote = '"') ∧ (scanString quote rest).ending ≠ .closed) := by
  cases text with
  | nil => exact ⟨level, [], .refl level [], .inl rfl⟩
  | cons c rest =>
      by_cases simple : isPlain c
      · obtain ⟨level', tail, crosses, stops⟩ := crosses_far level rest
        exact ⟨level', tail, .plain simple crosses, stops⟩
      · rcases not_plain simple with quotes | rfl | delimits
        · by_cases closed : (scanString c rest).ending = .closed
          · have inside := congrArg List.length (scan_string_splits c rest)
            simp only [List.length_append] at inside
            have shorter : (scanString c rest).rest.length < rest.length + 1 := by omega
            obtain ⟨level', tail, crosses, stops⟩ := crosses_far level (scanString c rest).rest
            exact ⟨level', tail, .string quotes closed crosses, stops⟩
          · exact ⟨level, c :: rest, .refl level _, .inr (.inr ⟨c, rest, rfl, quotes, closed⟩)⟩
        · obtain ⟨level', tail, crosses, stops⟩ := crosses_far (level + 1) rest
          exact ⟨level', tail, .opening crosses, stops⟩
        · cases level with
          | zero => exact ⟨0, c :: rest, .refl 0 _, .inr (.inl ⟨rfl, c, rest, rfl, delimits⟩)⟩
          | succ level =>
              rcases delimits with rfl | rfl
              · obtain ⟨level', tail, crosses, stops⟩ := crosses_far level rest
                exact ⟨level', tail, .closing crosses, stops⟩
              · obtain ⟨level', tail, crosses, stops⟩ := crosses_far (level + 1) rest
                exact ⟨level', tail, .semicolon crosses, stops⟩
  termination_by text.length

theorem delimiter_of_mark (delimits : c = ')' ∨ c = ';') : ∃ kind, Delimiter c kind := by
  rcases delimits with rfl | rfl
  · exact ⟨_, .close⟩
  · exact ⟨_, .semicolon⟩

theorem mark_of_delimiter {kind : TokenKind} (delimiter : Delimiter c kind) : c = ')' ∨ c = ';' := by
  cases delimiter
  · exact .inl rfl
  · exact .inr rfl

theorem composed_far (text : List Char) :
    ∃ parts tail, Composed parts text tail ∧ Enclosed 0 parts ∧
      (tail = [] ∨ (parenthesesOpen parts = 0 ∧ ∃ c kind rest, tail = c :: rest ∧ Delimiter c kind) ∨
        ∃ quote rest, tail = quote :: rest ∧ (quote = '\'' ∨ quote = '"') ∧ (scanString quote rest).ending ≠ .closed) := by
  obtain ⟨level', tail, crosses, stops⟩ := crosses_far 0 text
  obtain ⟨parts, composed, enclosed, same⟩ := composed_of_crosses crosses
  refine ⟨parts, tail, composed, enclosed, stops.imp_right (Or.imp_left ?_)⟩
  rintro ⟨rfl, c, rest, rfl, delimits⟩
  obtain ⟨kind, delimiter⟩ := delimiter_of_mark delimits
  exact ⟨by simpa using same.symm, c, kind, rest, rfl, delimiter⟩

namespace Cursor

variable {cursor : Cursor} {kind : TokenKind}

def behind (cursor : Cursor) (taken rest : List Char) : Cursor :=
  { cursor with rest := rest, offset := cursor.offset + Text.byteLength taken }

variable (enclosed : Enclosed 0 parts)
include enclosed

theorem value_goes_on (composed : Composed parts cursor.rest tail) :
    ∃ level fewer : Nat, (level : Int) = parenthesesOpen parts ∧
      scanValue (cursor.rest.length + 1) 0 cursor.rest =
        (scanValue (fewer + 1) level tail).after (parts.flatMap RawPart.text) := by
  have start : Enclosed (0 : Nat) parts := enclosed
  obtain ⟨level, same, crosses⟩ := crosses_of_composed composed start
  obtain ⟨taken, pieces, split, more, scan⟩ := scan_value_steps crosses _ (Nat.lt_succ_self _)
  obtain ⟨fewer, rfl⟩ := Nat.exists_eq_succ_of_ne_zero (Nat.ne_zero_of_lt more)
  obtain rfl : taken = parts.flatMap RawPart.text := List.append_cancel_right (split.trans (composed_split composed))
  exact ⟨level, fewer, by simpa using same, scan⟩

theorem option_value_delimited (composed : Composed parts cursor.rest (c :: rest)) (closed : parenthesesOpen parts = 0)
    (delimiter : Delimiter c kind) (dialect : cursor.dialect = .expression) :
    optionValue cursor = .ok (String.ofList (parts.flatMap RawPart.text), cursor.offset)
      (cursor.pastValue (parts.flatMap RawPart.text) kind c rest) := by
  obtain ⟨level, fewer, same, scan⟩ := value_goes_on enclosed composed
  obtain rfl : level = 0 := by omega
  rw [scan_value_delimiter fewer ⟨c, rest, rfl, mark_of_delimiter delimiter⟩] at scan
  have scan' : scanValue (cursor.rest.length + 1) 0 cursor.rest =
      ⟨none, (String.ofList (parts.flatMap RawPart.text)).toList, c :: rest⟩ := by
    simpa [ValueScan.after] using scan
  have taken := option_value_taken scan' dialect delimiter
  rwa [String.toList_ofList] at taken

theorem option_value_ended (composed : Composed parts cursor.rest []) :
    optionValue cursor =
      .error (.expectedToken "')'" "end of input" (cursor.offset + Text.byteLength cursor.rest))
        (cursor.behind cursor.rest []) := by
  obtain ⟨level, fewer, -, scan⟩ := value_goes_on enclosed composed
  have split := composed_split composed
  rw [List.append_nil] at split
  rw [← split] at scan
  unfold optionValue
  dsimp only
  rw [scan]
  simp [scanValue, ValueScan.after, ParseError.shift, behind]

theorem option_value_broken (composed : Composed parts cursor.rest (quote :: rest)) (quotes : quote = '\'' ∨ quote = '"')
    (unclosed : (scanString quote rest).ending ≠ .closed) (dialect : cursor.dialect = .expression) :
    ∃ error moved, advance (cursor.behind (parts.flatMap RawPart.text) (quote :: rest)) = .error error moved ∧
      optionValue cursor = .error error moved ∧ ∀ expected found position, error ≠ .expectedToken expected found position := by
  obtain ⟨level, fewer, -, scan⟩ := value_goes_on enclosed composed
  obtain ⟨error, fault, other⟩ := string_fault unclosed
  have read : advance (cursor.behind (parts.flatMap RawPart.text) (quote :: rest)) = _ :=
    advance_quote quotes dialect rfl
  refine ⟨error.shift (cursor.offset + Text.byteLength (parts.flatMap RawPart.text)),
    cursor.behind (parts.flatMap RawPart.text ++ quote :: (scanString quote rest).taken) (scanString quote rest).rest,
    ?_, ?_, ?_⟩
  · rw [read, Scan.quoted, fault]
    simp [settled, Scan.fault, behind, Text.byteLength_append, Nat.add_assoc]
  · unfold optionValue
    dsimp only
    rw [scan]
    simp [scanValue, quotes, fault, ValueScan.after, shift_shift, Text.byteLength_append, behind]
  · intro expected found position same
    cases error <;> cases same
    exact other _ _ _ rfl

end Cursor

-- A raw value is cut out exactly where a delimiter follows parts that enclose all their own; the text ends before it
-- exactly where the parts are all of the text; and any other error is that of the literal at the first quote that starts
-- none. On the way no more parentheses are closed than were opened.
theorem raw_value_language {cursor : Cursor} (dialect : cursor.dialect = .expression) :
    (∀ value offset moved, Cursor.optionValue cursor = .ok (value, offset) moved ↔
      ∃ parts c kind rest, Composed parts cursor.rest (c :: rest) ∧ Enclosed 0 parts ∧ parenthesesOpen parts = 0 ∧
        Delimiter c kind ∧ value.toList = parts.flatMap RawPart.text ∧ offset = cursor.offset ∧
        moved = cursor.pastValue value.toList kind c rest) ∧
    ((∃ moved, Cursor.optionValue cursor =
        .error (.expectedToken "')'" "end of input" (cursor.offset + Text.byteLength cursor.rest)) moved) ↔
      ∃ parts, Composed parts cursor.rest [] ∧ Enclosed 0 parts) ∧
    (∀ error moved, error ≠ .expectedToken "')'" "end of input" (cursor.offset + Text.byteLength cursor.rest) →
      (Cursor.optionValue cursor = .error error moved ↔
        ∃ parts quote rest, Composed parts cursor.rest (quote :: rest) ∧ Enclosed 0 parts ∧ (quote = '\'' ∨ quote = '"') ∧
          (∀ literal more, ¬ StringLiteral quote (quote :: rest) literal more) ∧
          Cursor.advance (cursor.behind (parts.flatMap RawPart.text) (quote :: rest)) = .error error moved)) ∧
    ∀ parts rest, Composed parts cursor.rest rest → Enclosed 0 parts → ∀ front, front <+: parts → 0 ≤ parenthesesOpen front := by
  obtain ⟨parts, tail, composed, enclosed, stops⟩ := composed_far cursor.rest
  refine ⟨fun value offset moved => ⟨fun taken => ?_, ?_⟩, ⟨?_, ?_⟩, fun error moved other => ⟨fun fails => ?_, ?_⟩, ?_⟩
  · rcases stops with rfl | ⟨closed, c, kind, rest, rfl, delimiter⟩ | ⟨quote, rest, rfl, quotes, unclosed⟩
    · rw [Cursor.option_value_ended enclosed composed] at taken
      cases taken
    · rw [Cursor.option_value_delimited enclosed composed closed delimiter dialect] at taken
      cases taken
      exact ⟨parts, c, kind, rest, composed, enclosed, closed, delimiter, by simp, rfl, by simp⟩
    · obtain ⟨_, _, -, broken, -⟩ := Cursor.option_value_broken enclosed composed quotes unclosed dialect
      rw [broken] at taken
      cases taken
  · rintro ⟨parts, c, kind, rest, composed, enclosed, closed, delimiter, same, rfl, rfl⟩
    rw [Cursor.option_value_delimited enclosed composed closed delimiter dialect, same, ← same, String.ofList_toList]
  · rintro ⟨moved, ended⟩
    rcases stops with rfl | ⟨closed, c, kind, rest, rfl, delimiter⟩ | ⟨quote, rest, rfl, quotes, unclosed⟩
    · exact ⟨parts, composed, enclosed⟩
    · rw [Cursor.option_value_delimited enclosed composed closed delimiter dialect] at ended
      cases ended
    · obtain ⟨_, _, -, broken, other⟩ := Cursor.option_value_broken enclosed composed quotes unclosed dialect
      cases broken.symm.trans ended
      exact absurd rfl (other _ _ _)
  · rintro ⟨parts, composed, enclosed⟩
    exact ⟨_, Cursor.option_value_ended enclosed composed⟩
  · rcases stops with rfl | ⟨closed, c, kind, rest, rfl, delimiter⟩ | ⟨quote, rest, rfl, quotes, unclosed⟩
    · cases (Cursor.option_value_ended enclosed composed).symm.trans fails
      exact absurd rfl other
    · rw [Cursor.option_value_delimited enclosed composed closed delimiter dialect] at fails
      cases fails
    · obtain ⟨_, _, read, broken, -⟩ := Cursor.option_value_broken enclosed composed quotes unclosed dialect
      cases broken.symm.trans fails
      exact ⟨parts, quote, rest, composed, enclosed, quotes,
        fun literal more found => unclosed (literal_closed found).1, read⟩
  · rintro ⟨parts, quote, rest, composed, enclosed, quotes, none, read⟩
    obtain ⟨_, _, read', broken, -⟩ :=
      Cursor.option_value_broken enclosed composed quotes (not_closed_of_none none quotes) dialect
    cases read'.symm.trans read
    exact broken
  · rintro parts rest - enclosed front ⟨back, rfl⟩
    simpa using parentheses_open_nonneg (Int.le_refl 0) enclosed

theorem values_with_delimiters :
    let delimited : Cursor := ⟨"';)'(;);d".toList, 3, .unread 3, .expression, false⟩
    let unclosed : Cursor := ⟨"(;".toList, 3, .unread 3, .expression, false⟩
    let broken : Cursor := ⟨"(\"a)".toList, 3, .unread 3, .expression, false⟩
    Composed [.string '\'' [';', ')'], .single '(', .single ';', .single ')'] delimited.rest ";d".toList ∧
      Cursor.optionValue delimited = .ok ("';)'(;)", 3) ⟨['d'], 11, ⟨.semicolon, ";", 10⟩, .expression, false⟩ ∧
      Composed [.single '(', .single ';'] unclosed.rest [] ∧
      (∃ moved, Cursor.optionValue unclosed = .error (.expectedToken "')'" "end of input" 5) moved) ∧
      Composed [.single '('] broken.rest "\"a)".toList ∧
      (∀ literal more, ¬ StringLiteral '"' "\"a)".toList literal more) ∧
      ∃ moved, Cursor.optionValue broken = .error (.unterminatedString 4) moved := by
  intro delimited unclosed broken
  have literal : StringLiteral '\'' delimited.rest "';)'".toList "(;);d".toList := by
    refine ⟨rfl, ⟨[';'] ++ ([')'] ++ []), ?_, rfl⟩, by decide⟩
    exact .cons (.plain (by decide) (by decide)) (.cons (.plain (by decide) (by decide)) .nil)
  have composed : Composed [.string '\'' [';', ')'], .single '(', .single ';', .single ')'] delimited.rest ";d".toList :=
    .string (.inl rfl) literal (.single (by decide) (.single (by decide) (.single (by decide) (.nil _))))
  have enclosed : Enclosed 0 [.string '\'' [';', ')'], .single '(', .single ';', .single ')'] := by
    simp [enclosed_cons, enclosed_nil]
  have composed' : Composed [.single '(', .single ';'] unclosed.rest [] := .single (by decide) (.single (by decide) (.nil _))
  have enclosed' : Enclosed 0 [.single '(', .single ';'] := by simp [enclosed_cons, enclosed_nil]
  have front : Composed [.single '('] broken.rest "\"a)".toList := .single (by decide) (.nil _)
  have inside : Enclosed 0 [.single '('] := by simp [enclosed_cons, enclosed_nil]
  have none (literal more : List Char) (found : StringLiteral '"' "\"a)".toList literal more) : False :=
    absurd (literal_closed found).1 (by decide)
  have taken := ((raw_value_language (show delimited.dialect = .expression from rfl)).1 "';)'(;)" 3 _).mpr
    ⟨_, _, _, _, composed, enclosed, rfl, .semicolon, by decide, rfl, rfl⟩
  have ended := (raw_value_language (show unclosed.dialect = .expression from rfl)).2.1.mpr ⟨_, composed', enclosed'⟩
  have fails := ((raw_value_language (show broken.dialect = .expression from rfl)).2.2.1 (.unterminatedString 4) _ (by decide)).mpr
    ⟨_, _, _, front, inside, .inr rfl, none, rfl⟩
  exact ⟨composed, taken, composed', ended, front, none, _, fails⟩

end QueryOptions
