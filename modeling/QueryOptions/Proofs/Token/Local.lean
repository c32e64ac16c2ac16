import QueryOptions.Proofs.Token.Form

set_option autoImplicit false

namespace QueryOptions

namespace Expression

variable {text taken rest left after : List Char} {kind : TokenKind}

-- Where one text was left another one goes on: a delimiter stands there, or the two are the same
-- as far as a delimiter or the end of them.
def Follows (left after : List Char) : Prop :=
  Delimited after ∨ ∃ same tail tail', Delimited tail ∧ Delimited tail' ∧ left = same ++ tail ∧ after = same ++ tail'

theorem follows_append (left : List Char) {tail : List Char} (delimited : Delimited tail) : Follows left (left ++ tail) :=
  .inr ⟨left, [], tail, fun _ => nofun, delimited, (List.append_nil left).symm, rfl⟩

theorem heads_of_follows (follows : Follows left after) : Heads left after := by
  intro c head
  rcases follows with delimited | ⟨same, tail, tail', -, delimited, rfl, rfl⟩
  · exact .inr (delimited c head)
  · cases same with
    | nil => exact .inr (delimited c head)
    | cons d same => exact .inl head

theorem run_append (text : List Char) {tail : List Char} (delimited : Delimited tail) : run (text ++ tail) = run text :=
  take_while_delimited (by decide) text delimited

theorem run_run (text : List Char) : run (run text) = run text := by
  have ends : ∀ c ∈ ([] : List Char).head?, (!isDelimiter c) = false := fun _ absent => by cases absent
  have again := take_while_before (take_while_all (fun c => !isDelimiter c) text) ends
  rwa [List.append_nil] at again

theorem run_again (split : text = run text ++ left) (follows : Follows left after) : run (run text ++ after) = run text := by
  rcases follows with delimited | ⟨same, tail, tail', delimited, delimited', rfl, rfl⟩
  · rw [run_append _ delimited, run_run]
  · rw [← List.append_assoc, run_append _ delimited', ← run_append _ delimited, List.append_assoc, ← split]

end Expression

open Expression

-- A closed string is read again where its quote does not follow.
theorem scan_string_local (quote : Char) (text : List Char) {after : List Char} (mark : isDelimiter quote = false)
    (closed : (scanString quote text).ending = .closed) (heads : Heads (scanString quote text).rest after) :
    scanString quote ((scanString quote text).taken ++ after) = ⟨.closed, (scanString quote text).taken, after⟩ := by
  fun_induction scanString quote text with
  | case1 => cases closed
  | case2 rest ih =>
      rw [scanString.eq_def]
      simp only [QuoteScan.after, List.cons_append, List.nil_append, if_true, ih closed heads]
  | case3 d rest different =>
      rw [scanString.eq_def]
      cases after with
      | nil => simp
      | cons e after =>
          have other : e ≠ quote := fun same => by
            rcases heads e rfl with head | delimits
            · exact different ((Option.some.inj head).trans same)
            · rw [same, mark] at delimits
              cases delimits
          simp [other]
  | case4 =>
      rw [scanString.eq_def]
      cases after with
      | nil => simp
      | cons e after =>
          have other : e ≠ quote := fun same => by
            rcases heads e rfl with head | delimits
            · cases head
            · rw [same, mark] at delimits
              cases delimits
          simp [other]
  | case5 => cases closed
  | case6 c different escape e rest simple ih =>
      rw [scanString.eq_def]
      simp only [QuoteScan.after, List.cons_append, List.nil_append, different, if_false, escape, if_true, simple,
        ih closed heads]
  | case7 c different escape h₁ h₂ h₃ h₄ rest digits simple ih =>
      rw [scanString.eq_def]
      simp only [QuoteScan.after, List.cons_append, List.nil_append, different, if_false, escape, if_true, simple,
        digits, ih closed heads, Bool.false_eq_true]
  | case8 => cases closed
  | case9 => cases closed
  | case10 => cases closed
  | case11 c rest different escape ih =>
      rw [scanString.eq_def]
      simp only [QuoteScan.after, List.cons_append, List.nil_append, different, if_false, escape, ih closed heads,
        Bool.false_eq_true]

namespace Expression

variable {text taken rest left after : List Char} {kind : TokenKind} {first : Char}

theorem run_inside {front : List Char} (inside : ∀ c ∈ front, isDelimiter c = false) (text : List Char) :
    run (front ++ text) = front ++ run text :=
  List.takeWhile_append_of_pos fun c member => by rw [inside c member]; rfl

theorem run_word {word : List Char} (outside : isDelimiter first = false)
    (letters : ∀ c ∈ word, Text.isIdentifierContinue c) (tail : List Char) :
    run (first :: (word ++ tail)) = first :: (word ++ run tail) := by
  have inside : ∀ c ∈ first :: word, isDelimiter c = false :=
    List.forall_mem_cons.mpr ⟨outside, fun c member => inner_delimits continue_inner (letters c member)⟩
  exact run_inside inside tail

theorem scan_word_quoted {word tail : List Char} (letters : ∀ c ∈ word, Text.isIdentifierContinue c) :
    scanWord first (word ++ '\'' :: tail) =
      match quotedKind? (String.ofList (first :: word)) with
      | some kind => .quoted kind (first :: word) '\'' (scanString '\'' tail)
      | none => .fault (.typedNull 0) (first :: word) ('\'' :: tail) := by
  have ends : ∀ c ∈ ('\'' :: tail).head?, Text.isIdentifierContinue c = false := fun c same => by
    rw [← Option.some.inj same]
    rfl
  unfold scanWord
  rw [take_while_before letters ends, drop_while_before letters ends]
  exact if_pos rfl

theorem scan_word_guid {word tail : List Char} (letters : ∀ c ∈ word, Text.isIdentifierContinue c)
    (guid : Guid.isGuid (run (first :: (word ++ '-' :: tail)))) :
    scanWord first (word ++ '-' :: tail) = .token .guidLiteral (run (first :: (word ++ '-' :: tail)))
      ((first :: (word ++ '-' :: tail)).drop (run (first :: (word ++ '-' :: tail))).length) := by
  have ends : ∀ c ∈ ('-' :: tail).head?, Text.isIdentifierContinue c = false := fun c same => by
    rw [← Option.some.inj same]
    rfl
  unfold scanWord
  rw [take_while_before letters ends, drop_while_before letters ends]
  dsimp only
  rw [if_neg (by decide), if_pos ⟨rfl, guid⟩]

theorem scan_word_name {word tail : List Char} (letters : ∀ c ∈ word, Text.isIdentifierContinue c)
    (ends : ∀ c ∈ tail.head?, Text.isIdentifierContinue c = false) (quote : tail.head? ≠ some '\'')
    (dash : tail.head? = some '-' → Guid.isGuid (run (first :: (word ++ tail))) = false) :
    scanWord first (word ++ tail) = .token (wordKind (String.ofList (first :: word))) (first :: word) tail := by
  unfold scanWord
  rw [take_while_before letters ends, drop_while_before letters ends]
  cases tail with
  | nil => rfl
  | cons c tail =>
      dsimp only
      rw [if_neg fun same => quote (congrArg some same), if_neg]
      rintro ⟨rfl, guid⟩
      rw [dash rfl] at guid
      cases guid

theorem quoted_token {kind' : TokenKind} {front : List Char} {quote : Char} {scan : QuoteScan}
    (scans : Scan.quoted kind front quote scan = .token kind' taken left) :
    kind = kind' ∧ scan.ending = .closed ∧ front ++ quote :: scan.taken = taken ∧ scan.rest = left := by
  obtain ⟨ending, read, rest⟩ := scan
  cases ending <;> cases scans
  exact ⟨rfl, rfl, rfl, rfl⟩

theorem head_other {c : Char} (inside : isDelimiter c = false) (heads : Heads left after) (other : left.head? ≠ some c) :
    after.head? ≠ some c := by
  intro head
  rcases heads c head with same | delimits
  · exact other same
  · rw [inside] at delimits
    cases delimits

theorem scan_word_local {word tail : List Char} (outside : isDelimiter first = false)
    (letters : ∀ c ∈ word, Text.isIdentifierContinue c) (ends : ∀ c ∈ tail.head?, Text.isIdentifierContinue c = false)
    (scans : scanWord first (word ++ tail) = .token kind taken left) (follows : Follows left after) :
    ∃ more, tail = more ++ left ∧ scanWord first (word ++ (more ++ after)) = .token kind taken after := by
  have heads := heads_of_follows follows
  by_cases quote : tail.head? = some '\''
  · obtain ⟨string, rfl⟩ := List.head?_eq_some_iff.mp quote
    rw [scan_word_quoted letters] at scans
    cases typed : quotedKind? (String.ofList (first :: word)) with
    | none =>
        rw [typed] at scans
        cases scans
    | some type =>
        rw [typed] at scans
        obtain ⟨rfl, closed, rfl, rfl⟩ := quoted_token scans
        refine ⟨'\'' :: (scanString '\'' string).taken, congrArg ('\'' :: ·) (scan_string_splits '\'' string).symm, ?_⟩
        rw [List.cons_append, scan_word_quoted letters, typed, scan_string_local '\'' string rfl closed heads]
        rfl
  · by_cases guid : tail.head? = some '-' ∧ Guid.isGuid (run (first :: (word ++ tail)))
    · obtain ⟨dash, form⟩ := guid
      obtain ⟨groups, rfl⟩ := List.head?_eq_some_iff.mp dash
      rw [scan_word_guid letters form] at scans
      cases scans
      -- The guid is the word, the dash and the run behind it.
      have whole (more : List Char) : run (first :: (word ++ '-' :: more)) = first :: (word ++ '-' :: run more) := by
        rw [run_word outside letters, run_minus]
      have split := run_split (first :: (word ++ '-' :: groups))
      have again := run_again split.symm follows
      rw [whole] at split again form ⊢
      generalize List.drop _ _ = left at split again follows heads ⊢
      have behind : groups = run groups ++ left := by simpa using split.symm
      have again' : run (first :: (word ++ '-' :: (run groups ++ after))) = first :: (word ++ '-' :: run groups) := by
        simpa using again
      refine ⟨'-' :: run groups, congrArg ('-' :: ·) behind, ?_⟩
      rw [List.cons_append, scan_word_guid letters (again'.symm ▸ form), again']
      simp
    · rw [scan_word_name letters ends quote fun dash => Bool.eq_false_iff.mpr fun form => guid ⟨dash, form⟩] at scans
      cases scans
      refine ⟨[], rfl, scan_word_name letters (heads_fail continue_inner heads ends) (head_other rfl heads quote) ?_⟩
      intro dash
      rcases follows with delimited | ⟨same, rest, rest', delimited, delimited', rfl, rfl⟩
      · cases delimited '-' dash
      · rw [← List.append_assoc, ← List.cons_append, run_append _ delimited] at guid
        rw [List.nil_append, ← List.append_assoc, ← List.cons_append, run_append _ delimited']
        refine Bool.eq_false_iff.mpr fun form => guid ⟨?_, form⟩
        by_contra other
        exact head_other rfl heads other dash

theorem dotted_tail_none (stops : ∀ c ∈ text.head?, Text.isIdentifierContinue c = false)
    (point : text.head? = some '.' → ∀ d ∈ text.tail.head?, Text.isIdentifierStart d = false) :
    dottedTail text = ([], text) := by
  rw [dottedTail.eq_def]
  cases text with
  | nil => rfl
  | cons c rest =>
      dsimp only
      rw [stops c rfl, if_neg (by decide)]
      cases rest with
      | nil => rfl
      | cons d after =>
          refine if_neg ?_
          rintro ⟨rfl, start⟩
          rw [point rfl d rfl] at start
          cases start

theorem delimited_stops (delimited : Delimited after) : dottedTail after = ([], after) := by
  refine dotted_tail_none (fun c head => delimiter_outside continue_inner (delimited c head)) fun point => ?_
  cases delimited '.' point

theorem dotted_tail_stops (stops : ∀ c ∈ left.head?, Text.isIdentifierContinue c = false)
    (point : left.head? = some '.' → ∀ d ∈ left.tail.head?, Text.isIdentifierStart d = false)
    (follows : Follows left after) : dottedTail after = ([], after) := by
  have heads := heads_of_follows follows
  rcases follows with delimited | ⟨same, tail, tail', -, delimited, rfl, rfl⟩
  · exact delimited_stops delimited
  · refine dotted_tail_none (heads_fail continue_inner heads stops) fun dot d head => ?_
    rcases same with _ | ⟨c, _ | ⟨d', same⟩⟩
    · cases delimited '.' dot
    · exact delimiter_outside start_inner (delimited d head)
    · exact point dot d head

theorem dotted_tail_local {front : List Char} (read : dottedTail text = (front, left)) (follows : Follows left after) :
    dottedTail (front ++ after) = (front, after) := by
  fun_induction dottedTail text generalizing front with
  | case1 =>
      cases read
      exact dotted_tail_stops (fun _ absent => by cases absent) (fun absent => by cases absent) follows
  | case2 c rest letter tail rest' same ih =>
      cases read
      rw [List.cons_append, dottedTail.eq_def]
      simp only [letter, if_true, ih same]
  | case3 c different d rest starts tail rest' same ih =>
      cases read
      rw [List.cons_append, List.cons_append, dottedTail.eq_def]
      dsimp only
      rw [if_neg different, if_pos starts, ih same]
  | case4 c different d rest other =>
      cases read
      refine dotted_tail_stops ?_ (fun dot e head => ?_) follows
      · rintro e ⟨⟩
        exact Bool.eq_false_iff.mpr different
      obtain rfl : c = '.' := Option.some.inj dot
      obtain rfl : d = e := Option.some.inj head
      exact Bool.eq_false_iff.mpr fun start => other ⟨rfl, start⟩
  | case5 c different =>
      cases read
      refine dotted_tail_stops ?_ (fun _ _ absent => by cases absent) follows
      rintro e ⟨⟩
      exact Bool.eq_false_iff.mpr different

theorem scan_annotation_local (scans : scanAnnotation rest = .token kind taken left) (follows : Follows left after)
    (named : kind ≠ .atSign) :
    ∃ front, rest = front ++ left ∧ scanAnnotation (front ++ after) = .token kind taken after := by
  unfold scanAnnotation at scans
  split at scans
  · cases scans
    exact absurd rfl named
  · rename_i c rest
    split at scans
    · cases scans
      exact absurd rfl named
    · rename_i visible
      split at scans
      · rename_i start
        cases read : dottedTail rest with
        | mk tail behind =>
            rw [read] at scans
            cases scans
            have split := dotted_tail_split rest
            rw [read] at split
            refine ⟨c :: tail, congrArg (c :: ·) split.symm, ?_⟩
            rw [List.cons_append, scanAnnotation, if_neg visible, if_pos start, dotted_tail_local read follows]
      · cases scans

def isBinary (text : List Char) : Bool := text.head? == some '0' && text.tail.head?.any fun x => x == 'x' || x == 'X'

theorem scan_digits_binary {negative : Bool} {x : Char} {digits : List Char} (binary : x = 'x' ∨ x = 'X') :
    scanDigits negative ('0' :: x :: digits) = .token .binaryLiteral
      ((if negative then ['-'] else []) ++ '0' :: x :: digits.takeWhile Text.isHexDigit)
      (digits.dropWhile Text.isHexDigit) := if_pos binary

theorem scan_digits_other {negative : Bool} (other : isBinary text = false) :
    scanDigits negative text =
      match formKind? (run ((if negative then ['-'] else []) ++ text)) with
      | some kind => .token kind (run ((if negative then ['-'] else []) ++ text)) (text.drop (run text).length)
      | none => Numeral.scan negative text := by
  unfold scanDigits
  dsimp only
  split
  · rename_i x digits
    refine if_neg ?_
    rintro (rfl | rfl) <;> cases other
  · rfl

theorem binary_parts (binary : isBinary text) : ∃ x digits, text = '0' :: x :: digits ∧ (x = 'x' ∨ x = 'X') := by
  rcases text with _ | ⟨c, _ | ⟨x, digits⟩⟩
  · cases binary
  · simp [isBinary] at binary
  · simp only [isBinary, List.head?_cons, List.tail_cons, Option.any_some, Bool.and_eq_true, beq_iff_eq,
      Option.some.injEq, Bool.or_eq_true] at binary
    exact ⟨x, digits, by rw [binary.1], binary.2⟩

theorem binary_follows {c : Char} (other : isBinary (c :: left) = false) (heads : Heads left after) :
    isBinary (c :: after) = false := by
  refine Bool.eq_false_iff.mpr fun binary => ?_
  obtain ⟨x, digits, same, marks⟩ := binary_parts binary
  cases same
  rcases heads x rfl with head | delimits
  · obtain ⟨more, rfl⟩ := List.head?_eq_some_iff.mp head
    rcases marks with rfl | rfl <;> cases other
  · rcases marks with rfl | rfl <;> cases delimits

theorem run_signed (negative : Bool) {c : Char} (digit : c.isDigit) (text : List Char) :
    run ((if negative then ['-'] else []) ++ c :: text) = (if negative then ['-'] else []) ++ c :: run text := by
  have outside := inner_delimits digit_inner digit
  have inside : ∀ d ∈ (if negative then ['-'] else []) ++ [c], isDelimiter d = false :=
    List.forall_mem_append.mpr ⟨sign_inner negative, List.forall_mem_singleton.mpr outside⟩
  have whole := run_inside inside text
  rwa [List.append_assoc, List.append_assoc] at whole

theorem run_all {front : List Char} (inside : ∀ c ∈ front, isDelimiter c = false) : run front = front := by
  have whole := run_inside inside []
  rwa [List.append_nil, show run [] = [] from rfl, List.append_nil] at whole

theorem scan_form_local {negative : Bool} {c : Char} (digit : c.isDigit) (other : isBinary (c :: rest) = false)
    (form : formKind? (run ((if negative then ['-'] else []) ++ c :: rest)) = some kind)
    (split : rest = run rest ++ left) (follows : Follows left after) :
    scanDigits negative (c :: (run rest ++ after)) =
      .token kind (run ((if negative then ['-'] else []) ++ c :: rest)) after := by
  have heads := heads_append (run rest) (heads_of_follows follows)
  rw [← split] at heads
  have same := run_again split follows
  have short : run (c :: (run rest ++ after)) = c :: run rest := by
    rw [← List.singleton_append, run_inside (List.forall_mem_singleton.mpr (inner_delimits digit_inner digit)), same]
    rfl
  rw [run_signed negative digit] at form ⊢
  rw [scan_digits_other (binary_follows other heads), run_signed negative digit, same, form, short]
  dsimp only
  rw [← List.cons_append, List.drop_left]

-- A number is none of them by itself, and before more text it is so as it was before.
theorem scan_number_local {negative : Bool} {c : Char} {front : List Char}
    (other : isBinary (c :: (front ++ left)) = false)
    (none : formKind? (run ((if negative then ['-'] else []) ++ c :: (front ++ left))) = none)
    (number : Numeral.scan negative (c :: (front ++ after)) = .token kind taken after)
    (spells : Numeral.Spells negative kind ((if negative then ['-'] else []) ++ c :: front)) (follows : Follows left after) :
    scanDigits negative (c :: (front ++ after)) = .token kind taken after := by
  have formless : formKind? (run ((if negative then ['-'] else []) ++ c :: (front ++ after))) = Option.none := by
    rcases follows with delimited | ⟨same, tail, tail', delimited, delimited', rfl, rfl⟩
    · rw [← List.cons_append, ← List.append_assoc, run_append _ delimited, run_all (Numeral.spells_inside spells)]
      exact Numeral.spells_no_form spells
    · rw [← List.append_assoc, ← List.cons_append, ← List.append_assoc] at none ⊢
      rw [run_append _ delimited']
      rwa [run_append _ delimited] at none
  rw [scan_digits_other (binary_follows other (heads_append front (heads_of_follows follows))), formless]
  exact number

theorem scan_digits_local {negative : Bool} {c : Char} (digit : c.isDigit)
    (scans : scanDigits negative (c :: rest) = .token kind taken left) (follows : Follows left after) :
    ∃ front, rest = front ++ left ∧ scanDigits negative (c :: (front ++ after)) = .token kind taken after := by
  have heads := heads_of_follows follows
  have splits := (scan_digits_splits negative c rest digit).split
  rw [scans] at splits
  change taken ++ left = _ at splits
  by_cases binary : isBinary (c :: rest)
  · obtain ⟨x, digits, same, marks⟩ := binary_parts binary
    cases same
    rw [scan_digits_binary marks] at scans
    cases scans
    refine ⟨x :: digits.takeWhile Text.isHexDigit, by simp, ?_⟩
    rw [List.cons_append, scan_digits_binary marks, take_while_follows hex_digit_inner heads,
      drop_while_follows hex_digit_inner heads]
  · have other := Bool.eq_false_iff.mpr binary
    rw [scan_digits_other other] at scans
    cases form : formKind? (run ((if negative then ['-'] else []) ++ c :: rest)) with
    | some type =>
        rw [form] at scans
        obtain ⟨rfl, rfl, rest⟩ := token_inj scans
        rw [run_signed negative digit, List.append_assoc] at splits
        have split := (List.cons.inj (List.append_cancel_left splits)).2.symm
        exact ⟨run _, split, scan_form_local digit other form split follows⟩
    | none =>
        rw [form] at scans
        obtain ⟨front, split, number⟩ := Numeral.scan_local scans heads
        rw [List.dropWhile_cons_of_pos digit] at split
        rw [List.takeWhile_cons_of_pos digit, List.cons_append, ← List.append_assoc] at number
        have whole : rest = rest.takeWhile Char.isDigit ++ front ++ left := by
          rw [List.append_assoc, ← split, List.takeWhile_append_dropWhile]
        generalize rest.takeWhile Char.isDigit ++ front = front at number whole
        subst whole
        have spelt : taken = (if negative then ['-'] else []) ++ c :: front :=
          List.append_cancel_right (splits.trans (by simp))
        exact ⟨front, rfl, scan_number_local other form number (spelt ▸ Numeral.scan_spells scans) follows⟩

theorem scan_minus_alone (digit : ∀ c ∈ text.head?, c.isDigit = false)
    (infinite : text.head? = some 'I' → infinityKind? (text.takeWhile Text.isIdentifierContinue) = none) :
    scanMinus text = .token .minus ['-'] text := by
  cases text with
  | nil => rfl
  | cons c text =>
      unfold scanMinus
      dsimp only
      rw [digit c rfl, if_neg (by decide)]
      by_cases letter : c = 'I'
      · subst letter
        rw [if_pos rfl, infinite rfl]
      · rw [if_neg letter]

theorem minus_alone_local (digit : ∀ c ∈ left.head?, c.isDigit = false)
    (infinite : left.head? = some 'I' → infinityKind? (left.takeWhile Text.isIdentifierContinue) = none)
    (follows : Follows left after) : scanMinus after = .token .minus ['-'] after := by
  have heads := heads_of_follows follows
  refine scan_minus_alone (heads_fail digit_inner heads digit) fun letter => ?_
  rcases follows with delimited | ⟨same, tail, tail', delimited, delimited', rfl, rfl⟩
  · cases delimited 'I' letter
  · have first : (same ++ tail).head? = some 'I' := by
      by_contra other
      exact head_other rfl heads other letter
    rw [take_while_delimited continue_inner same delimited', ← take_while_delimited continue_inner same delimited,
      infinite first]

theorem scan_minus_local (scans : scanMinus rest = .token kind taken left) (follows : Follows left after) :
    ∃ front, rest = front ++ left ∧ scanMinus (front ++ after) = .token kind taken after := by
  have heads := heads_of_follows follows
  unfold scanMinus at scans
  split at scans
  · rename_i c rest
    split at scans
    · rename_i digit
      obtain ⟨front, rfl, again⟩ := scan_digits_local digit scans follows
      exact ⟨c :: front, rfl, (if_pos digit).trans again⟩
    · rename_i digit
      have other : ∀ d ∈ (c :: rest).head?, d.isDigit = false := fun d same =>
        Option.some.inj same ▸ Bool.eq_false_iff.mpr digit
      split at scans
      · rename_i letter
        subst letter
        dsimp only at scans
        cases infinite : infinityKind? (('I' :: rest).takeWhile Text.isIdentifierContinue) with
        | some type =>
            rw [infinite] at scans
            cases scans
            refine ⟨('I' :: rest).takeWhile Text.isIdentifierContinue, List.takeWhile_append_dropWhile.symm, ?_⟩
            have again := take_while_follows continue_inner heads
            have behind := drop_while_follows continue_inner heads
            rw [List.takeWhile_cons_of_pos (by decide)] at again behind infinite ⊢
            unfold scanMinus
            dsimp only [List.cons_append] at again behind ⊢
            rw [if_neg (by decide), if_pos rfl, again, behind, infinite]
        | none =>
            rw [infinite] at scans
            cases scans
            exact ⟨[], rfl, minus_alone_local other (fun _ => infinite) follows⟩
      · rename_i letter
        cases scans
        exact ⟨[], rfl, minus_alone_local other (fun same => absurd (Option.some.inj same) letter) follows⟩
  · cases scans
    exact ⟨[], rfl, minus_alone_local (fun _ absent => by cases absent) (fun absent => by cases absent) follows⟩

theorem lone_dollar (alone : !(left.head?.any Text.isIdentifierContinue)) (heads : Heads left after) :
    !(after.head?.any Text.isIdentifierContinue) := by
  have stops : ∀ c ∈ left.head?, Text.isIdentifierContinue c = false := fun c first => by
    rw [Option.mem_def.mp first] at alone
    simpa using alone
  cases head : after.head? with
  | none => rfl
  | some c =>
      rw [Option.any_some, heads_fail continue_inner heads stops c head]
      rfl

theorem named_dollar (named : rest.head?.any Text.isIdentifierContinue) (more : List Char) :
    (rest.takeWhile Text.isIdentifierContinue ++ more).head?.any Text.isIdentifierContinue := by
  cases rest with
  | nil => cases named
  | cons c rest =>
      have letter : Text.isIdentifierContinue c := named
      rw [List.takeWhile_cons_of_pos letter]
      exact letter

theorem scan_from_local {c : Char} (scans : scan (c :: rest) = .token kind taken left) (follows : Follows left after)
    (named : kind ≠ .atSign) : ∃ front, rest = front ++ left ∧ scan (c :: (front ++ after)) = .token kind taken after := by
  have heads := heads_of_follows follows
  have branch := branch_of_scan c rest
  generalize scan (c :: rest) = found at branch scans
  cases branch with
  | mark found =>
      cases scans
      exact ⟨[], rfl, scan_of_branch (.mark found)⟩
  | minus sign =>
      obtain ⟨front, split, again⟩ := scan_minus_local scans follows
      exact ⟨front, split, (scan_of_branch (.minus sign)).trans again⟩
  | string quotes =>
      obtain ⟨rfl, closed, rfl, rfl⟩ := quoted_token scans
      refine ⟨(scanString c rest).taken, (scan_string_splits c rest).symm, ?_⟩
      have mark : isDelimiter c = false := by rcases quotes with rfl | rfl <;> rfl
      rw [scan_of_branch (.string quotes), scan_string_local c rest mark closed heads]
      rfl
  | dollar sign alone =>
      cases scans
      exact ⟨[], rfl, scan_of_branch (.dollar sign (lone_dollar alone heads))⟩
  | word start dollar =>
      have whole := List.takeWhile_append_dropWhile (p := Text.isIdentifierContinue) (l := rest)
      have letters := take_while_all Text.isIdentifierContinue rest
      have ends := head_drop_while Text.isIdentifierContinue rest
      obtain ⟨more, split, again⟩ :=
        scan_word_local (inner_delimits start_inner start) letters ends (whole.symm ▸ scans) follows
      refine ⟨rest.takeWhile Text.isIdentifierContinue ++ more, by rw [List.append_assoc, ← split, whole], ?_⟩
      rw [List.append_assoc, scan_of_branch (.word start fun sign => named_dollar (dollar sign) _), again]
  | number digit other =>
      obtain ⟨front, split, again⟩ := scan_digits_local digit scans follows
      exact ⟨front, split, (scan_of_branch (.number digit other)).trans again⟩
  | annotated sign =>
      obtain ⟨front, split, again⟩ := scan_annotation_local scans follows named
      exact ⟨front, split, (scan_of_branch (.annotated sign)).trans again⟩
  | foreign => cases scans

theorem scan_local (scans : scan text = .token kind taken left) (going : kind ≠ .finish) (named : kind ≠ .atSign)
    (follows : Follows left after) : scan (taken ++ after) = .token kind taken after := by
  cases text with
  | nil =>
      cases scans
      exact absurd rfl going
  | cons c rest =>
      obtain ⟨front, rfl, again⟩ := scan_from_local scans follows named
      obtain rfl : taken = c :: front := List.append_cancel_right (scan_token_split scans)
      exact again

end Expression

end QueryOptions
