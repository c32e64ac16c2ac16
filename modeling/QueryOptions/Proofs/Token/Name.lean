import QueryOptions.Proofs.Derivation.Basic
import QueryOptions.Proofs.Token.Local
import QueryOptions.Proofs.Token.Words

set_option autoImplicit false

namespace QueryOptions.Expression

variable {text taken rest left word : List Char} {kind : TokenKind} {first : Char}

-- A word as the scan of expressions sees it. A dollar sign needs a letter behind it.
structure IsWord (first : Char) (word : List Char) : Prop where
  starts : Text.isIdentifierStart first
  letters : ∀ c ∈ word, Text.isIdentifierContinue c
  dollar : first = '$' → word ≠ []

theorem parted_of_delimited (delimited : Delimited text) : Parted text := by
  intro c head
  have delimits := delimited c head
  refine ⟨delimiter_outside continue_inner delimits, ?_, ?_⟩
  · rintro rfl
    cases delimits
  · rintro rfl
    cases delimits

theorem scan_name (whole : IsWord first word) (parted : Parted text) :
    scan (first :: word ++ text) = .token (wordKind (String.ofList (first :: word))) (first :: word) text := by
  have starts : first = '$' → (word ++ text).head?.any Text.isIdentifierContinue := fun same => by
    obtain ⟨c, word, rfl⟩ := List.exists_cons_of_ne_nil (whole.dollar same)
    exact whole.letters c List.mem_cons_self
  rw [List.cons_append, scan_of_branch (.word whole.starts starts)]
  exact scan_letters whole.letters parted

theorem named_identifier_or_start (named : (Lexeme.mk kind (String.ofList taken)).isName) :
    kind = .identifier ∨ (kind.isLiteral ∧ taken.head?.any Text.isIdentifierStart) := by
  unfold Lexeme.isName Cursor.isName at named
  dsimp only at named
  rw [String.toList_ofList] at named
  cases kind <;> first | exact .inl rfl | exact .inr ⟨rfl, named⟩ | cases named

theorem named_unmarked {c : Char} (found : punctuation? c = some kind) :
    ¬ (Lexeme.mk kind (String.ofList [c])).isName := by
  unfold punctuation? at found
  split at found <;> cases found <;> exact Bool.false_ne_true

theorem scan_digits_literal {negative : Bool} (scans : scanDigits negative text = .token kind taken left) :
    kind.isLiteral := by
  by_cases binary : isBinary text
  · obtain ⟨x, digits, rfl, marks⟩ := binary_parts binary
    rw [scan_digits_binary marks] at scans
    cases scans
    rfl
  · rw [scan_digits_other (Bool.eq_false_iff.mpr binary)] at scans
    cases form : formKind? (run ((if negative then ['-'] else []) ++ text)) with
    | some type =>
        rw [form] at scans
        cases scans
        exact form_kind_literal form
    | none =>
        rw [form] at scans
        exact Numeral.spells_literal (Numeral.scan_spells scans)

theorem scan_minus_kind (scans : scanMinus rest = .token kind taken left) : kind.isLiteral ∨ kind = .minus := by
  unfold scanMinus at scans
  split at scans
  · split at scans
    · exact .inl (scan_digits_literal scans)
    · split at scans
      · dsimp only at scans
        split at scans
        · rename_i infinite
          cases scans
          exact .inl (infinity_kind_literal infinite)
        · cases scans
          exact .inr rfl
      · cases scans
        exact .inr rfl
  · cases scans
    exact .inr rfl

theorem scan_annotation_kind (scans : scanAnnotation rest = .token kind taken left) :
    kind = .atSign ∨ kind = .annotationIdentifier := by
  unfold scanAnnotation at scans
  split at scans
  · cases scans
    exact .inl rfl
  · split at scans
    · cases scans
      exact .inl rfl
    · split at scans
      · cases scans
        exact .inr rfl
      · cases scans

theorem quoted_kind_unnamed {type : String} (typed : quotedKind? type = some kind) (taken : List Char) :
    ¬ (Lexeme.mk kind (String.ofList taken)).isName := by
  unfold quotedKind? at typed
  split at typed
  · cases typed
  · split at typed
    · rename_i entry listed
      cases typed
      have member := List.mem_of_find?_eq_some listed
      simp only [quotedKinds, List.mem_cons, List.not_mem_nil, or_false] at member
      rcases member with rfl | rfl | rfl | rfl | rfl <;> exact Bool.false_ne_true
    · cases typed
      exact Bool.false_ne_true

theorem scan_word_named (scans : scanWord first rest = .token kind taken left)
    (named : (Lexeme.mk kind (String.ofList taken)).isName) :
    taken = first :: rest.takeWhile Text.isIdentifierContinue ∧ kind = wordKind (String.ofList taken) ∧
      left = rest.dropWhile Text.isIdentifierContinue ∧ left.head? ≠ some '\'' := by
  unfold scanWord at scans
  dsimp only at scans
  split at scans
  · split at scans
    · split at scans
      · rename_i typed
        obtain ⟨rfl, -, rfl, -⟩ := quoted_token scans
        exact absurd named (quoted_kind_unnamed typed _)
      · cases scans
    · split at scans
      · cases scans
        exact absurd named Bool.false_ne_true
      · rename_i behind quote _
        cases scans
        exact ⟨rfl, rfl, rfl, fun head => quote (Option.some.inj ((congrArg List.head? behind).symm.trans head))⟩
  · rename_i behind
    cases scans
    exact ⟨rfl, rfl, rfl, fun head => by rw [behind] at head; cases head⟩

theorem scan_named (scans : scan text = .token kind taken left)
    (named : (Lexeme.mk kind (String.ofList taken)).isName) :
    ∃ first word, IsWord first word ∧ taken = first :: word ∧ kind = wordKind (String.ofList taken) ∧
      (left.head? ≠ some '-' → Parted left) := by
  cases text with
  | nil =>
      cases scans
      exact absurd named Bool.false_ne_true
  | cons c rest =>
      have split := scan_token_split scans
      have starts (other : kind ≠ .identifier) : Text.isIdentifierStart c := by
        rcases named_identifier_or_start named with same | ⟨-, head⟩
        · exact absurd same other
        · cases taken with
          | nil => cases head
          | cons d taken =>
              cases split
              exact head
      have branch := branch_of_scan c rest
      generalize scan (c :: rest) = found at branch scans
      cases branch with
      | mark found =>
          cases scans
          exact absurd named (named_unmarked found)
      | minus sign =>
          have other : kind ≠ .identifier := by
            rcases scan_minus_kind scans with literal | rfl
            · rintro rfl
              cases literal
            · decide
          have start := starts other
          rw [sign] at start
          cases start
      | string =>
          obtain ⟨rfl, -, rfl, -⟩ := quoted_token scans
          exact absurd named Bool.false_ne_true
      | dollar =>
          cases scans
          exact absurd named Bool.false_ne_true
      | word start dollar =>
          obtain ⟨rfl, found, rfl, quote⟩ := scan_word_named scans named
          refine ⟨c, _, ⟨start, take_while_all _ _, fun same none => ?_⟩, rfl, found, fun dash d head => ?_⟩
          · cases rest with
            | nil => cases dollar same
            | cons d rest =>
                have letter : Text.isIdentifierContinue d := dollar same
                rw [List.takeWhile_cons_of_pos letter] at none
                cases none
          · exact ⟨head_drop_while _ _ d head, fun same => quote (same ▸ head), fun same => dash (same ▸ head)⟩
      | number _ other =>
          have literal := scan_digits_literal scans
          refine absurd (starts ?_) other
          rintro rfl
          cases literal
      | annotated =>
          rcases scan_annotation_kind scans with rfl | rfl <;> exact absurd named Bool.false_ne_true
      | foreign => cases scans

end QueryOptions.Expression
