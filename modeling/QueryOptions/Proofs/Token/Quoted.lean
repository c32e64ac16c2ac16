import QueryOptions.Proofs.Token.Phrase
import QueryOptions.Proofs.Token.Words

set_option autoImplicit false

namespace QueryOptions

-- A doubled quote, a plain character or, between double quotes, an escape.
inductive StringPart (quote : Char) : List Char → Prop where
  | doubled : StringPart quote [quote, quote]
  | plain {c : Char} (other : c ≠ quote) (bare : quote = '"' → c ≠ '\\') : StringPart quote [c]
  | escape {e : Char} (double : quote = '"') (listed : e ∈ ['"', '\\', '/', 'b', 'f', 'n', 'r', 't']) :
      StringPart quote ['\\', e]
  | character {digits : List Char} (double : quote = '"') (four : digits.length = 4) (hex : ∀ d ∈ digits, Text.isHexDigit d) :
      StringPart quote ('\\' :: 'u' :: digits)

inductive StringInner (quote : Char) : List Char → Prop where
  | nil : StringInner quote []
  | cons {part inner : List Char} (first : StringPart quote part) (others : StringInner quote inner) :
      StringInner quote (part ++ inner)

def NoPart (quote : Char) (text : List Char) : Prop := ∀ part rest, text = part ++ rest → ¬ StringPart quote part

-- A literal at the front of a text. The quote at its end is not doubled.
structure StringLiteral (quote : Char) (text literal rest : List Char) : Prop where
  split : text = literal ++ rest
  quoted : ∃ inner, StringInner quote inner ∧ literal = quote :: inner ++ [quote]
  alone : rest.head? ≠ some quote

-- A backslash behind some parts, with more text behind it, where no part starts.
structure BrokenEscape (quote : Char) (text front rest : List Char) : Prop where
  split : text = front ++ '\\' :: rest
  reached : ∃ inner, StringInner quote inner ∧ front = quote :: inner
  followed : rest ≠ []
  broken : NoPart quote ('\\' :: rest)

variable {quote : Char} {text inner part rest front literal : List Char}

theorem scan_string_character {digits : List Char} (four : digits.length = 4) (hex : ∀ d ∈ digits, Text.isHexDigit d)
    (text : List Char) :
    scanString '"' ('\\' :: 'u' :: digits ++ text) = (scanString '"' text).after ('\\' :: 'u' :: digits) := by
  match digits, four with
  | [h₁, h₂, h₃, h₄], _ =>
      have all : [h₁, h₂, h₃, h₄].all Text.isHexDigit := List.all_eq_true.mpr hex
      rw [scanString.eq_def]
      simp only [List.cons_append, List.nil_append]
      rw [if_neg (by decide), if_pos (by rfl), if_neg (by decide), if_pos trivial, if_pos all]

theorem scan_string_part (first : StringPart quote part) (text : List Char) :
    scanString quote (part ++ text) = (scanString quote text).after part := by
  cases first with
  | doubled => exact scan_string_doubled quote text
  | plain other bare =>
      refine scan_string_plain other ?_ text
      by_cases double : quote = '"'
      · simp [startsEscape, bare double]
      · simp [startsEscape, double]
  | escape double listed =>
      subst double
      exact scan_string_escape (by simpa [isSimpleEscape, or_assoc] using listed) text
  | character double four hex =>
      subst double
      exact scan_string_character four hex text

theorem scan_string_inner (inside : StringInner quote inner) (text : List Char) :
    scanString quote (inner ++ text) = (scanString quote text).after inner := by
  induction inside with
  | nil => rfl
  | cons first _ ih =>
      rw [List.append_assoc, scan_string_part first, ih]
      simp [QuoteScan.after]

theorem part_ne_nil (first : StringPart quote part) : part ≠ [] := by
  cases first <;> exact List.cons_ne_nil _ _

theorem string_reaches (quote : Char) (text : List Char) :
    ∃ inner rest, text = inner ++ rest ∧ StringInner quote inner ∧ NoPart quote rest := by
  by_cases stops : NoPart quote text
  · exact ⟨[], text, rfl, .nil, stops⟩
  · obtain ⟨part, more, split, first⟩ : ∃ part more, text = part ++ more ∧ StringPart quote part := by
      simpa [NoPart] using stops
    have shorter : more.length < text.length := by
      have taking := List.length_pos_of_ne_nil (part_ne_nil first)
      rw [split, List.length_append]
      omega
    obtain ⟨inner, rest, rfl, inside, stops⟩ := string_reaches quote more
    exact ⟨part ++ inner, rest, by rw [split, List.append_assoc], .cons first inside, stops⟩
  termination_by text.length

-- No part starts at the end, at a quote that is not doubled and at some backslashes.
theorem no_part_cases (stops : NoPart quote text) :
    text = [] ∨ (∃ rest, text = quote :: rest ∧ rest.head? ≠ some quote) ∨ (quote = '"' ∧ ∃ rest, text = '\\' :: rest) := by
  cases text with
  | nil => exact .inl rfl
  | cons c rest =>
      by_cases closing : c = quote
      · subst closing
        refine .inr (.inl ⟨rest, rfl, fun doubled => ?_⟩)
        obtain ⟨more, rfl⟩ := List.head?_eq_some_iff.mp doubled
        exact stops [c, c] more rfl .doubled
      · by_cases bare : quote = '"' → c ≠ '\\'
        · exact absurd (.plain closing bare) (stops [c] rest rfl)
        · simp only [Classical.not_imp, not_not] at bare
          obtain ⟨double, rfl⟩ := bare
          exact .inr (.inr ⟨double, rest, rfl⟩)

theorem scan_string_broken (followed : rest ≠ []) (broken : NoPart '"' ('\\' :: rest)) :
    ∃ sequence left, scanString '"' ('\\' :: rest) = ⟨.badEscape sequence, sequence, left⟩ := by
  obtain ⟨e, after, rfl⟩ := List.exists_cons_of_ne_nil followed
  have complex : ¬ isSimpleEscape e := fun simple =>
    broken ['\\', e] after rfl (.escape rfl (by simpa [isSimpleEscape, or_assoc] using simple))
  rw [scanString.eq_def]
  dsimp only
  rw [if_neg (by decide), if_pos (by rfl), if_neg complex]
  by_cases letter : e = 'u'
  · subst letter
    rw [if_pos rfl]
    split
    · rename_i h₁ h₂ h₃ h₄ tail
      have other : ¬ [h₁, h₂, h₃, h₄].all Text.isHexDigit := fun all =>
        broken ('\\' :: 'u' :: [h₁, h₂, h₃, h₄]) tail rfl (.character rfl rfl (List.all_eq_true.mp all))
      rw [if_neg other]
      exact ⟨_, _, rfl⟩
    · exact ⟨_, _, rfl⟩
  · rw [if_neg letter]
    exact ⟨_, _, rfl⟩

theorem literal_scanned (found : StringLiteral quote (quote :: text) literal rest) :
    ∃ taken, literal = quote :: taken ∧ scanString quote text = ⟨.closed, taken, rest⟩ := by
  obtain ⟨split, ⟨inner, inside, rfl⟩, alone⟩ := found
  have same : text = inner ++ quote :: rest := by simpa using split
  refine ⟨inner ++ [quote], rfl, ?_⟩
  rw [same, scan_string_inner inside, scan_string_closing alone]
  rfl

theorem escape_scanned (quotes : quote = '\'' ∨ quote = '"') (found : BrokenEscape quote (quote :: text) front rest) :
    ∃ inner sequence left, front = quote :: inner ∧ scanString quote text = ⟨.badEscape sequence, inner ++ sequence, left⟩ := by
  obtain ⟨split, ⟨inner, inside, rfl⟩, followed, broken⟩ := found
  have same : text = inner ++ '\\' :: rest := by simpa using split
  rcases no_part_cases broken with none | ⟨_, closing, -⟩ | ⟨double, -⟩
  · cases none
  · cases closing
    rcases quotes with quotes | quotes <;> cases quotes
  · subst double
    obtain ⟨sequence, left, fails⟩ := scan_string_broken followed broken
    refine ⟨inner, sequence, left, rfl, ?_⟩
    rw [same, scan_string_inner inside, fails]
    rfl

theorem scan_string_unclosed (unclosed : ∀ literal rest, ¬ StringLiteral quote (quote :: text) literal rest)
    (unbroken : ∀ front rest, ¬ BrokenEscape quote (quote :: text) front rest) :
    (scanString quote text).ending = .unclosed := by
  obtain ⟨inner, rest, rfl, inside, stops⟩ := string_reaches quote text
  rw [scan_string_inner inside]
  rcases no_part_cases stops with rfl | ⟨after, rfl, alone⟩ | ⟨rfl, after, rfl⟩
  · rw [scanString.eq_def]
    rfl
  · exact absurd ⟨by simp, ⟨inner, inside, rfl⟩, alone⟩ (unclosed (quote :: inner ++ [quote]) after)
  · by_cases followed : after = []
    · subst followed
      rw [scanString.eq_def]
      rfl
    · exact absurd ⟨by simp, ⟨inner, inside, rfl⟩, followed, stops⟩ (unbroken ('"' :: inner) after)

theorem Cursor.advance_quote {cursor : Cursor} (quotes : quote = '\'' ∨ quote = '"') (dialect : cursor.dialect = .expression)
    (here : cursor.rest = quote :: text) :
    Cursor.advance cursor = cursor.settled (.quoted .stringLiteral [] quote (scanString quote text)) := by
  have visible : ∀ c ∈ cursor.rest.head?, Text.isBlank c = false := by
    rw [here]
    rintro c ⟨⟩
    rcases quotes with rfl | rfl <;> rfl
  rw [Cursor.advance_visible visible, dialect, here]
  exact congrArg _ (Expression.scan_of_branch (.string quotes))

theorem Cursor.settled_fault (cursor : Cursor) {scan : QuoteScan} {error : ParseError}
    (fault : scan.fault? [] quote = some error) :
    ∃ moved, cursor.settled (.quoted .stringLiteral [] quote scan) = .error (error.shift cursor.offset) moved := by
  rw [Scan.quoted, fault]
  exact ⟨_, rfl⟩

-- What stands at a quote: the one literal there; or the error of the one escape there that is none; or that of the
-- quote.
theorem string_literal_language {cursor : Cursor} (quotes : quote = '\'' ∨ quote = '"')
    (dialect : cursor.dialect = .expression) (here : cursor.rest = quote :: text) :
    (∀ literal rest, StringLiteral quote cursor.rest literal rest →
      Cursor.advance cursor = .ok () (cursor.onto .stringLiteral literal rest) ∧
        ∀ other rest', StringLiteral quote cursor.rest other rest' → other = literal) ∧
    (∀ front rest, BrokenEscape quote cursor.rest front rest →
      (∃ sequence moved, Cursor.advance cursor =
        .error (.invalidEscape sequence (cursor.offset + Text.byteLength front)) moved) ∧
        ∀ other rest', BrokenEscape quote cursor.rest other rest' → other = front) ∧
    ((∀ literal rest, ¬ StringLiteral quote cursor.rest literal rest) →
      (∀ front rest, ¬ BrokenEscape quote cursor.rest front rest) →
        ∃ moved, Cursor.advance cursor = .error (.unterminatedString cursor.offset) moved) := by
  rw [Cursor.advance_quote quotes dialect here, here]
  refine ⟨fun literal rest found => ?_, fun front rest found => ?_, fun unclosed unbroken => ?_⟩
  · obtain ⟨taken, rfl, scanned⟩ := literal_scanned found
    refine ⟨by rw [scanned]; rfl, fun other rest' found' => ?_⟩
    obtain ⟨taken', rfl, scanned'⟩ := literal_scanned found'
    cases scanned.symm.trans scanned'
    rfl
  · obtain ⟨inner, sequence, left, rfl, scanned⟩ := escape_scanned quotes found
    refine ⟨⟨String.ofList sequence, ?_⟩, fun other rest' found' => ?_⟩
    · have fault : (scanString quote text).fault? [] quote =
          some (.invalidEscape (String.ofList sequence) (Text.byteLength (quote :: inner))) := by
        simp [QuoteScan.fault?, scanned, ← Nat.add_assoc]
      exact cursor.settled_fault fault
    · obtain ⟨inner', sequence', left', rfl, scanned'⟩ := escape_scanned quotes found'
      have same := scanned.symm.trans scanned'
      simp only [QuoteScan.mk.injEq, QuoteEnd.badEscape.injEq] at same
      obtain ⟨rfl, taken, -⟩ := same
      rw [List.append_cancel_right taken]
  · have fault : (scanString quote text).fault? [] quote = some (.unterminatedString 0) := by
      simp [QuoteScan.fault?, scan_string_unclosed unclosed unbroken]
    exact cursor.settled_fault fault

theorem quotes_and_escapes :
    let doubled : Cursor := ⟨"'it''s' eq x".toList, 7, .unread 7, .expression, true⟩
    let broken : Cursor := ⟨"\"\\n\"\"\\u12cG\"".toList, 7, .unread 7, .expression, true⟩
    let unclosed : Cursor := ⟨"'a''".toList, 7, .unread 7, .expression, true⟩
    StringLiteral '\'' doubled.rest "'it''s'".toList " eq x".toList ∧
      Cursor.advance doubled = .ok () ⟨" eq x".toList, 14, ⟨.stringLiteral, "'it''s'", 7⟩, .expression, true⟩ ∧
      BrokenEscape '"' broken.rest "\"\\n\"\"".toList "u12cG\"".toList ∧
      (∃ sequence moved, Cursor.advance broken = .error (.invalidEscape sequence 12) moved) ∧
      (∀ literal rest, ¬ StringLiteral '\'' unclosed.rest literal rest) ∧
      (∀ front rest, ¬ BrokenEscape '\'' unclosed.rest front rest) ∧
      ∃ moved, Cursor.advance unclosed = .error (.unterminatedString 7) moved := by
  intro doubled broken unclosed
  have inner : StringInner '\'' (['i'] ++ (['t'] ++ (['\'', '\''] ++ (['s'] ++ [])))) :=
    .cons (.plain (by decide) (by decide)) (.cons (.plain (by decide) (by decide))
      (.cons .doubled (.cons (.plain (by decide) (by decide)) .nil)))
  have literal : StringLiteral '\'' doubled.rest "'it''s'".toList " eq x".toList := ⟨rfl, ⟨_, inner, rfl⟩, by decide⟩
  have front : StringInner '"' (['\\', 'n'] ++ (['"', '"'] ++ [])) := .cons (.escape rfl (by decide)) (.cons .doubled .nil)
  have escape : BrokenEscape '"' broken.rest "\"\\n\"\"".toList "u12cG\"".toList := by
    refine ⟨rfl, ⟨_, front, rfl⟩, by decide, fun part rest split part => ?_⟩
    change '\\' :: ['u', '1', '2', 'c', 'G', '"'] = _ at split
    cases part with
    | doubled => cases split
    | plain _ bare => cases split; exact bare rfl rfl
    | escape _ listed => cases split; revert listed; decide
    | @character digits _ four hex =>
        match digits, four with
        | [_, _, _, _], _ => cases split; exact absurd (hex 'G' (by simp)) (by decide)
  obtain ⟨literals, escapes, otherwise⟩ :=
    string_literal_language (.inl rfl) (show unclosed.dialect = .expression from rfl) (show unclosed.rest = '\'' :: _ from rfl)
  have fails : ∃ moved, Cursor.advance unclosed = .error (.unterminatedString 7) moved := ⟨_, rfl⟩
  have unended (literal rest : List Char) (found : StringLiteral '\'' unclosed.rest literal rest) : False := by
    obtain ⟨moved, fails⟩ := fails
    cases fails.symm.trans (literals literal rest found).1
  have unescaped (front rest : List Char) (found : BrokenEscape '\'' unclosed.rest front rest) : False := by
    obtain ⟨moved, fails⟩ := fails
    obtain ⟨sequence, moved', read⟩ := (escapes front rest found).1
    cases fails.symm.trans read
  exact ⟨literal, ((string_literal_language (.inl rfl) rfl rfl).1 _ _ literal).1, escape,
    ((string_literal_language (.inr rfl) rfl rfl).2.1 _ _ escape).1, unended, unescaped, otherwise unended unescaped⟩

end QueryOptions
