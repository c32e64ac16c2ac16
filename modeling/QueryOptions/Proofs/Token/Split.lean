import QueryOptions.Proofs.Located
import QueryOptions.Proofs.Token.Branch
import QueryOptions.Token.Cursor

set_option autoImplicit false

namespace QueryOptions

namespace QuoteScan

def Splits (text : List Char) (scan : QuoteScan) : Prop := scan.taken ++ scan.rest = text

theorem splits_after {text : List Char} {scan : QuoteScan} (front : List Char)
    (splits : scan.Splits text) : (scan.after front).Splits (front ++ text) := by
  simp only [Splits, after, List.append_assoc] at splits ⊢
  rw [splits]

end QuoteScan

theorem take_while_drop_length {α : Type} (test : α → Bool) (text : List α) :
    text.takeWhile test ++ text.drop (text.takeWhile test).length = text := by
  induction text with
  | nil => rfl
  | cons c rest ih =>
      rw [List.takeWhile_cons]
      split
      · simp only [List.length_cons, List.drop_succ_cons, List.cons_append, ih]
      · rfl

namespace Calendar

variable {text rest : List Char}

theorem number_parts {least most value : Nat} (read : number? least most text = some (value, rest)) :
    ∃ digits, text = digits ++ rest ∧ least ≤ digits.length ∧ digits.length ≤ most ∧ ∀ c ∈ digits, c.isDigit := by
  unfold number? at read
  dsimp only at read
  split at read
  · rename_i enough
    cases read
    have whole : (text.take most).takeWhile Char.isDigit <+: text :=
      (List.takeWhile_prefix _).trans (List.take_prefix _ _)
    have short : ((text.take most).takeWhile Char.isDigit).length ≤ most :=
      Nat.le_trans (List.takeWhile_prefix _).length_le (List.length_take_le most text)
    exact ⟨_, (List.prefix_iff_eq_append.mp whole).symm, enough, short, List.all_eq_true.mp List.all_takeWhile⟩
  · cases read

theorem char_parts {c : Char} (read : char? c text = some rest) : text = c :: rest := by
  cases text with
  | nil => cases read
  | cons d text =>
      by_cases same : d = c
      · rw [char?, if_pos same] at read
        rw [same, Option.some.inj read]
      · rw [char?, if_neg same] at read
        cases read

end Calendar

theorem scan_string_splits (quote : Char) (text : List Char) :
    (scanString quote text).Splits text := by
  fun_induction scanString quote text with
  | case1 => rfl
  | case2 after ih => exact QuoteScan.splits_after [_, _] ih
  | case3 => rfl
  | case4 => rfl
  | case5 => rfl
  | case6 _ _ _ _ _ _ ih => exact QuoteScan.splits_after [_, _] ih
  | case7 _ _ _ _ _ _ _ _ _ _ ih => exact QuoteScan.splits_after [_, _, _, _, _, _] ih
  | case8 e _ _ h₁ h₂ h₃ h₄ tail _ digits =>
      have split := take_while_drop_length Text.isHexDigit [h₁, h₂, h₃, h₄]
      have short : digits.length ≤ 4 := (List.takeWhile_prefix Text.isHexDigit).length_le
      change e :: 'u' :: (digits ++ ([h₁, h₂, h₃, h₄] ++ tail).drop digits.length) = _
      rw [List.drop_append_of_le_length short, ← List.append_assoc, split]
      rfl
  | case9 e _ _ short =>
      exact congrArg (fun text => e :: 'u' :: text) (take_while_drop_length Text.isHexDigit short)
  | case10 => rfl
  | case11 c rest _ _ ih => exact QuoteScan.splits_after [c] ih

theorem scan_phrase_splits (text : List Char) : (scanPhrase text).Splits text := by
  fun_induction scanPhrase text with
  | case1 => rfl
  | case2 => rfl
  | case3 => rfl
  | case4 _ _ _ _ ih => exact QuoteScan.splits_after [_, _] ih
  | case5 => rfl
  | case6 c rest _ _ ih => exact QuoteScan.splits_after [c] ih

namespace QuoteScan

-- The escape that a scan fails at is what it took last.
def Escapes (scan : QuoteScan) : Prop :=
  ∀ sequence, scan.ending = .badEscape sequence → ∃ front, scan.taken = front ++ sequence

theorem escapes_after {scan : QuoteScan} (front : List Char) (escapes : scan.Escapes) : (scan.after front).Escapes := by
  intro sequence bad
  obtain ⟨before, taken⟩ := escapes sequence bad
  exact ⟨front ++ before, (congrArg (front ++ ·) taken).trans (List.append_assoc ..).symm⟩

theorem escapes_bad (sequence rest : List Char) : Escapes ⟨.badEscape sequence, sequence, rest⟩ := by
  rintro _ ⟨⟩
  exact ⟨[], rfl⟩

theorem escapes_other {scan : QuoteScan} (other : ∀ sequence, scan.ending ≠ .badEscape sequence) : scan.Escapes :=
  fun sequence bad => absurd bad (other sequence)

end QuoteScan

theorem scan_string_escapes (quote : Char) (text : List Char) : (scanString quote text).Escapes := by
  fun_induction scanString quote text with
  | case1 => exact QuoteScan.escapes_other (by simp)
  | case2 after ih => exact QuoteScan.escapes_after _ ih
  | case3 => exact QuoteScan.escapes_other (by simp)
  | case4 => exact QuoteScan.escapes_other (by simp)
  | case5 => exact QuoteScan.escapes_other (by simp)
  | case6 _ _ _ _ _ _ ih => exact QuoteScan.escapes_after _ ih
  | case7 _ _ _ _ _ _ _ _ _ _ ih => exact QuoteScan.escapes_after _ ih
  | case8 => exact QuoteScan.escapes_bad _ _
  | case9 => exact QuoteScan.escapes_bad _ _
  | case10 => exact QuoteScan.escapes_bad _ _
  | case11 _ _ _ _ ih => exact QuoteScan.escapes_after _ ih

theorem scan_phrase_escapes (text : List Char) : (scanPhrase text).Escapes := by
  fun_induction scanPhrase text with
  | case1 => exact QuoteScan.escapes_other (by simp)
  | case2 => exact QuoteScan.escapes_other (by simp)
  | case3 => exact QuoteScan.escapes_other (by simp)
  | case4 _ _ _ _ ih => exact QuoteScan.escapes_after _ ih
  | case5 => exact QuoteScan.escapes_bad _ _
  | case6 _ _ _ _ ih => exact QuoteScan.escapes_after _ ih

theorem quote_fault_located {text : List Char} {quote : Char} {scan : QuoteScan} {error : ParseError}
    (front : List Char) (quotes : quote = '\'' ∨ quote = '"') (splits : scan.Splits text) (escapes : scan.Escapes)
    (failed : scan.fault? front quote = some error) : error.Located (front ++ quote :: text) := by
  unfold QuoteScan.fault? at failed
  cases ending : scan.ending with
  | closed =>
      rw [ending] at failed
      cases failed
  | unclosed =>
      rw [ending] at failed
      cases failed
      have here : Text.Stands (front ++ quote :: text) [quote] (Text.byteLength front) := ⟨front, text, rfl, rfl⟩
      rcases quotes with rfl | rfl
      · exact .inl here
      · exact .inr here
  | badEscape sequence =>
      rw [ending] at failed
      cases failed
      obtain ⟨before, taken⟩ := escapes sequence ending
      have whole : front ++ quote :: text = (front ++ quote :: before) ++ (sequence ++ scan.rest) := by
        rw [← splits, taken]
        simp
      have bytes : Text.byteLength (front ++ quote :: scan.taken) - Text.byteLength sequence =
          Text.byteLength (front ++ quote :: before) := by
        rw [taken, ← List.cons_append, ← List.append_assoc, Text.byteLength_append, Nat.add_sub_cancel]
      refine ⟨front ++ quote :: before, scan.rest, ?_, bytes.symm⟩
      rw [String.toList_ofList, whole]

def TokenKind.isBound : TokenKind → Bool
  | .unknown | .finish | .openParen | .closeParen | .semicolon => true
  | _ => false

theorem literal_inner {kind : TokenKind} (literal : kind.isLiteral) : kind.isBound = false := by
  cases kind <;> first | rfl | cases literal

namespace Scan

structure Splits (text : List Char) (scan : Scan) : Prop where
  split : scan.taken ++ scan.rest = text
  placed : ∀ error, scan.outcome = .error error → error.position.isSome
  located : ∀ error, scan.outcome = .error error → error.Located text
  takes : ∀ kind, scan.outcome = .ok kind → kind ≠ .unknown ∧ kind ≠ .finish ∧ scan.taken ≠ []
  opening : scan.outcome = .ok .openParen → scan.taken = ['(']
  closing : scan.outcome = .ok .closeParen → scan.taken = [')']
  semicolon : scan.outcome = .ok .semicolon → scan.taken = [';']

theorem splits_token {kind : TokenKind} {taken rest text : List Char} (split : taken ++ rest = text)
    (inner : kind.isBound = false) (taking : taken ≠ []) : Splits text (token kind taken rest) where
  split := split
  placed _ same := by cases same
  located _ same := by cases same
  takes _ same :=
    ⟨fun unknown => by simp [(Except.ok.inj same).trans unknown, TokenKind.isBound] at inner,
      fun finish => by simp [(Except.ok.inj same).trans finish, TokenKind.isBound] at inner, taking⟩
  opening same := by simp [Except.ok.inj same, TokenKind.isBound] at inner
  closing same := by simp [Except.ok.inj same, TokenKind.isBound] at inner
  semicolon same := by simp [Except.ok.inj same, TokenKind.isBound] at inner

theorem splits_fault {error : ParseError} {taken rest text : List Char} (split : taken ++ rest = text)
    (placed : error.position.isSome) (located : error.Located text) : Splits text (fault error taken rest) where
  split := split
  placed _ same := Except.error.inj same ▸ placed
  located _ same := Except.error.inj same ▸ located
  takes _ same := by cases same
  opening same := by cases same
  closing same := by cases same
  semicolon same := by cases same

theorem splits_mark {c : Char} {kind : TokenKind} {rest : List Char} (known : kind ≠ .unknown ∧ kind ≠ .finish)
    (opening : kind = .openParen → c = '(') (closing : kind = .closeParen → c = ')')
    (semicolon : kind = .semicolon → c = ';') : Splits (c :: rest) (token kind [c] rest) where
  split := rfl
  placed _ same := by cases same
  located _ same := by cases same
  takes _ same := by
    cases same
    exact ⟨known.1, known.2, List.cons_ne_nil c []⟩
  opening same := by rw [← opening (Except.ok.inj same), token]
  closing same := by rw [← closing (Except.ok.inj same), token]
  semicolon same := by rw [← semicolon (Except.ok.inj same), token]

theorem splits_quoted {kind : TokenKind} {text : List Char} {quote : Char} {scan : QuoteScan} (front : List Char)
    (quotes : quote = '\'' ∨ quote = '"') (splits : scan.Splits text) (escapes : scan.Escapes)
    (inner : kind.isBound = false) : Splits (front ++ quote :: text) (quoted kind front quote scan) := by
  have located {error : ParseError} : scan.fault? front quote = some error → error.Located (front ++ quote :: text) :=
    quote_fault_located front quotes splits escapes
  have split : (front ++ quote :: scan.taken) ++ scan.rest = front ++ quote :: text := by
    rw [List.append_assoc, List.cons_append, splits]
  rcases scan with ⟨ending, taken, rest⟩
  cases ending with
  | closed => exact splits_token split inner (by simp)
  | unclosed => exact splits_fault split rfl (located rfl)
  | badEscape sequence => exact splits_fault split rfl (located rfl)

end Scan

namespace Numeral

variable {numeral : Numeral} {kind : TokenKind}

theorem kind_literal (found : numeral.kind? = some kind) : kind.isLiteral := by
  unfold kind? fractionalKind? at found
  repeat' split at found
  all_goals cases found <;> rfl

theorem suffixed_kind_literal {suffix : Char} (found : numeral.suffixedKind? suffix = some kind) : kind.isLiteral := by
  unfold suffixedKind? at found
  repeat' split at found
  all_goals cases found <;> rfl

theorem conclude_splits {found : Option TokenKind} {taken rest text : List Char}
    (split : taken ++ rest = text) (literal : ∀ kind, found = some kind → kind.isLiteral)
    (taking : taken ≠ []) : (conclude found taken rest).Splits text := by
  cases found with
  | none => exact Scan.splits_fault split rfl ⟨[], rest, by rw [String.toList_ofList]; exact split.symm, rfl⟩
  | some kind => exact Scan.splits_token split (literal_inner (literal kind rfl)) taking

theorem scan_suffix_splits (numeral : Numeral) (rest : List Char) (digits : numeral.text ≠ []) :
    (scanSuffix numeral rest).Splits (numeral.text ++ rest) := by
  unfold scanSuffix
  split
  · rename_i c after
    split
    · exact conclude_splits (by simp) (fun _ => suffixed_kind_literal) (by simp)
    · exact conclude_splits rfl (fun _ => kind_literal) digits
  · exact conclude_splits rfl (fun _ => kind_literal) digits

theorem digits_missing_splits {taken rest text : List Char} (split : taken ++ rest = text) :
    (digitsMissing taken rest).Splits text :=
  Scan.splits_fault split rfl ⟨taken, rest, split.symm, rfl⟩

theorem exponent_sign_split (text : List Char) :
    (exponentSign text).toList ++ text.drop (exponentSign text).toList.length = text := by
  unfold exponentSign
  split
  · split <;> rfl
  · rfl

theorem text_with_exponent (numeral : Numeral) (exponent : Exponent) (plain : numeral.exponent = none) :
    { numeral with exponent := some exponent }.text = numeral.text ++ exponent.text := by
  simp [text, plain]

theorem text_with_fraction (numeral : Numeral) (digits : List Char) (integral : numeral.fraction = none)
    (plain : numeral.exponent = none) :
    { numeral with fraction := some digits }.text = numeral.text ++ '.' :: digits := by
  simp [text, plain, integral]

theorem scan_exponent_splits (numeral : Numeral) (rest : List Char) (plain : numeral.exponent = none)
    (digits : numeral.text ≠ []) : (scanExponent numeral rest).Splits (numeral.text ++ rest) := by
  unfold scanExponent
  split
  · rename_i mark after
    split
    · have signed := exponent_sign_split after
      dsimp only
      generalize exponentSign after = sign at signed ⊢
      generalize after.drop sign.toList.length = left at signed ⊢
      subst signed
      split
      · exact digits_missing_splits (by simp)
      · have split := scan_suffix_splits
          { numeral with exponent := some ⟨mark, sign, left.takeWhile Char.isDigit⟩ }
          (left.dropWhile Char.isDigit) (by rw [text_with_exponent _ _ plain]; simp [Exponent.text])
        rw [text_with_exponent _ _ plain] at split
        simpa only [Exponent.text, List.append_assoc, List.cons_append,
          List.takeWhile_append_dropWhile] using split
    · exact scan_suffix_splits numeral _ digits
  · exact scan_suffix_splits numeral _ digits

theorem scan_fraction_splits (numeral : Numeral) (rest : List Char) (integral : numeral.fraction = none)
    (plain : numeral.exponent = none) (digits : numeral.text ≠ []) :
    (scanFraction numeral rest).Splits (numeral.text ++ rest) := by
  unfold scanFraction
  split
  · rename_i point after
    split
    · rename_i same
      subst same
      dsimp only
      split
      · exact digits_missing_splits (by simp)
      · have split := scan_exponent_splits
          { numeral with fraction := some (after.takeWhile Char.isDigit) }
          (after.dropWhile Char.isDigit) plain (by rw [text_with_fraction _ _ integral plain]; simp)
        rw [text_with_fraction _ _ integral plain] at split
        simpa only [List.append_assoc, List.cons_append, List.takeWhile_append_dropWhile] using split
    · exact scan_exponent_splits numeral _ plain digits
  · exact scan_exponent_splits numeral _ plain digits

theorem scan_splits (negative : Bool) (c : Char) (rest : List Char) (digit : c.isDigit) :
    (scan negative (c :: rest)).Splits ((if negative then ['-'] else []) ++ c :: rest) := by
  have split := scan_fraction_splits ⟨negative, (c :: rest).takeWhile Char.isDigit, none, none⟩
    ((c :: rest).dropWhile Char.isDigit) rfl rfl (by simp [text, digit])
  simpa [scan, text] using split

end Numeral

namespace Expression

theorem form_kind_literal {run : List Char} {kind : TokenKind} (form : formKind? run = some kind) : kind.isLiteral := by
  unfold formKind? at form
  repeat' split at form
  all_goals cases form <;> rfl

theorem infinity_kind_literal {word : List Char} {kind : TokenKind} (infinite : infinityKind? word = some kind) :
    kind.isLiteral := by
  unfold infinityKind? at infinite
  repeat' split at infinite
  all_goals cases infinite <;> rfl

theorem quoted_kind_literal {type : String} {kind : TokenKind} (typed : quotedKind? type = some kind) : kind.isLiteral := by
  unfold quotedKind? at typed
  split at typed
  · cases typed
  · split at typed
    · rename_i entry listed
      cases typed
      have member := List.mem_of_find?_eq_some listed
      simp only [quotedKinds, List.mem_cons, List.not_mem_nil, or_false] at member
      rcases member with rfl | rfl | rfl | rfl | rfl <;> rfl
    · cases typed
      rfl

theorem quoted_kind_null {type : String} (untyped : quotedKind? type = none) : type = "null" := by
  unfold quotedKind? at untyped
  split at untyped
  · assumption
  · split at untyped <;> cases untyped

theorem word_kind_literal (word : String) : (wordKind word).isLiteral ∨ wordKind word = .identifier := by
  unfold wordKind
  repeat' split
  all_goals first | exact .inl rfl | exact .inr rfl

theorem word_kind_inner (word : String) : (wordKind word).isBound = false := by
  rcases word_kind_literal word with literal | identifier
  · exact literal_inner literal
  · rw [identifier]
    rfl

theorem punctuation_splits {c : Char} {kind : TokenKind} (found : punctuation? c = some kind)
    (rest : List Char) : (Scan.token kind [c] rest).Splits (c :: rest) := by
  unfold punctuation? at found
  split at found <;> cases found <;> exact Scan.splits_mark (by simp) (by simp) (by simp) (by simp)

theorem run_split (text : List Char) : run text ++ text.drop (run text).length = text :=
  take_while_drop_length _ text

theorem run_minus (text : List Char) : run ('-' :: text) = '-' :: run text := by
  rw [run, List.takeWhile_cons_of_pos (by decide)]
  rfl

theorem scan_digits_splits (negative : Bool) (c : Char) (rest : List Char) (digit : c.isDigit) :
    (scanDigits negative (c :: rest)).Splits ((if negative then ['-'] else []) ++ c :: rest) := by
  have signed : run ((if negative then ['-'] else []) ++ c :: rest) ++
      (c :: rest).drop (run (c :: rest)).length = (if negative then ['-'] else []) ++ c :: rest := by
    cases negative with
    | false => exact run_split (c :: rest)
    | true =>
        change run ('-' :: c :: rest) ++ _ = '-' :: c :: rest
        rw [run_minus, List.cons_append, run_split]
  have number := Numeral.scan_splits negative c rest digit
  unfold scanDigits
  dsimp only
  generalize (if negative then ['-'] else []) = sign at signed number ⊢
  have formed (kind : TokenKind) (form : formKind? (run (sign ++ c :: rest)) = some kind) :
      Scan.Splits (sign ++ c :: rest)
        (.token kind (run (sign ++ c :: rest)) ((c :: rest).drop (run (c :: rest)).length)) := by
    refine Scan.splits_token signed (literal_inner (form_kind_literal form)) ?_
    intro empty
    rw [empty] at form
    cases form
  split
  · rename_i x digits same
    split
    · exact Scan.splits_token (by simp [same]) rfl (by simp)
    · split
      · rename_i kind form
        exact formed kind form
      · exact number
  · split
    · rename_i kind form
      exact formed kind form
    · exact number

theorem scan_minus_splits (rest : List Char) : (scanMinus rest).Splits ('-' :: rest) := by
  unfold scanMinus
  split
  · rename_i c after
    split
    · rename_i digit
      exact scan_digits_splits true c after digit
    · split
      · dsimp only
        split
        · rename_i kind form
          exact Scan.splits_token (by simp) (literal_inner (infinity_kind_literal form)) (by simp)
        · exact Scan.splits_token rfl rfl (by simp)
      · exact Scan.splits_token rfl rfl (by simp)
  · exact Scan.splits_token rfl rfl (by simp)

theorem scan_word_splits (first : Char) (rest : List Char) :
    (scanWord first rest).Splits (first :: rest) := by
  have word : first :: rest.takeWhile Text.isIdentifierContinue ++
      rest.dropWhile Text.isIdentifierContinue = first :: rest := by simp
  have name := Scan.splits_token word
    (word_kind_inner (String.ofList (first :: rest.takeWhile Text.isIdentifierContinue))) (by simp)
  unfold scanWord
  dsimp only
  split
  · rename_i c tail after
    split
    · rename_i quote
      split
      · rename_i kind form
        have split := Scan.splits_quoted (first :: rest.takeWhile Text.isIdentifierContinue) (.inl quote)
          (scan_string_splits c tail) (scan_string_escapes c tail) (literal_inner (quoted_kind_literal form))
        rwa [← after, word] at split
      · rename_i untyped
        have null := quoted_kind_null untyped
        rw [← String.toList_inj, String.toList_ofList] at null
        refine Scan.splits_fault word rfl ⟨[], tail, ?_, rfl⟩
        rw [← word, after, null, quote]
        rfl
    · split
      · rename_i guid
        refine Scan.splits_token (run_split (first :: rest)) rfl ?_
        intro empty
        rw [empty] at guid
        exact absurd guid.2 (by decide)
      · exact name
  · exact name

theorem dotted_tail_split (text : List Char) : (dottedTail text).1 ++ (dottedTail text).2 = text := by
  fun_induction dottedTail text with
  | case1 => rfl
  | case2 c rest _ tail after same ih =>
      rw [same] at ih
      exact congrArg (List.cons c) ih
  | case3 c _ d after _ tail left same ih =>
      rw [same] at ih
      exact congrArg (fun text => c :: d :: text) ih
  | case4 => rfl
  | case5 => rfl

theorem scan_annotation_splits (rest : List Char) : ( scanAnnotation rest).Splits ('@' :: rest) := by
  unfold scanAnnotation
  split
  · exact Scan.splits_token rfl rfl (by simp)
  · rename_i c after
    split
    · exact Scan.splits_token rfl rfl (by simp)
    · split
      · refine Scan.splits_token ?_ rfl (by simp)
        exact congrArg (fun text => '@' :: c :: text) (dotted_tail_split after)
      · exact Scan.splits_fault rfl rfl ⟨['@'], after, rfl, rfl⟩

theorem scan_splits (c : Char) (rest : List Char) : (scan (c :: rest)).Splits (c :: rest) := by
  have branch := branch_of_scan c rest
  generalize scan (c :: rest) = found at branch ⊢
  cases branch with
  | mark found => exact punctuation_splits found rest
  | minus sign =>
      subst sign
      exact scan_minus_splits rest
  | string quotes => exact Scan.splits_quoted [] quotes (scan_string_splits c rest) (scan_string_escapes c rest) rfl
  | dollar => exact Scan.splits_token rfl rfl (by simp)
  | word => exact scan_word_splits c rest
  | number digit => exact scan_digits_splits false c rest digit
  | annotated sign =>
      subst sign
      exact scan_annotation_splits rest
  | foreign => exact Scan.splits_fault rfl rfl ⟨[], rest, rfl, rfl⟩

theorem scan_token_split {text taken rest : List Char} {kind : TokenKind} (scans : scan text = .token kind taken rest) :
    taken ++ rest = text := by
  cases text with
  | nil =>
      cases scans
      rfl
  | cons c text =>
      have split := (scan_splits c text).split
      rwa [scans] at split

end Expression

theorem Search.scan_splits (c : Char) (rest : List Char) : (Search.scan (c :: rest)).Splits (c :: rest) := by
  have single {kind : TokenKind} (bracket : (kind = .openParen ∧ c = '(') ∨ (kind = .closeParen ∧ c = ')')) :
      (Scan.token kind [c] rest).Splits (c :: rest) := by
    rcases bracket with ⟨rfl, rfl⟩ | ⟨rfl, rfl⟩ <;>
      exact Scan.splits_mark (by simp) (by simp) (by simp) (by simp)
  rw [Search.scan]
  split
  · rename_i opening
    exact single (.inl ⟨rfl, opening⟩)
  · split
    · rename_i closing
      exact single (.inr ⟨rfl, closing⟩)
    · split
      · rename_i quote
        exact Scan.splits_quoted [] (.inr quote) (scan_phrase_splits rest) (scan_phrase_escapes rest) rfl
      · refine Scan.splits_token (by simp) ?_ (by simp)
        split <;> rfl

theorem Dialect.scan_splits (dialect : Dialect) (c : Char) (rest : List Char) :
    (dialect.scan (c :: rest)).Splits (c :: rest) := by
  cases dialect with
  | expression => exact Expression.scan_splits c rest
  | search => exact Search.scan_splits c rest

theorem Dialect.scan_nil (dialect : Dialect) : dialect.scan [] = .token .finish [] [] := by
  cases dialect <;> rfl

theorem Dialect.scan_split (dialect : Dialect) (text : List Char) :
    (dialect.scan text).taken ++ (dialect.scan text).rest = text := by
  cases text with
  | nil => rw [Dialect.scan_nil]; rfl
  | cons c rest => exact (Dialect.scan_splits dialect c rest).split

theorem Dialect.scan_taking {dialect : Dialect} {text taken rest : List Char} {kind : TokenKind}
    (scans : dialect.scan text = .token kind taken rest) (going : kind ≠ .finish) : taken ≠ [] := by
  cases text with
  | nil =>
      rw [Dialect.scan_nil] at scans
      cases scans
      exact absurd rfl going
  | cons c more =>
      have splits := Dialect.scan_splits dialect c more
      rw [scans] at splits
      exact (splits.takes kind rfl).2.2

end QueryOptions
