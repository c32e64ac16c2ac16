import QueryOptions.Proofs.Token.Name

set_option autoImplicit false

namespace QueryOptions

def TokenKind.isPunctuation : TokenKind → Bool
  | openParen | closeParen | openBracket | closeBracket | comma | dot | slash | colon | semicolon
  | ampersand | percent | question | star | equal => true
  | _ => false

namespace Expression

variable {text taken rest left after : List Char} {kind : TokenKind} {first c d : Char}

theorem punctuation_inj (found : punctuation? c = some kind) (found' : punctuation? d = some kind) : c = d := by
  unfold punctuation? at found found'
  split at found <;> cases found
  all_goals split at found' <;> first | rfl | cases found'

theorem literal_unmarked (literal : kind.isLiteral) : kind.isPunctuation = false := by
  cases kind <;> first | rfl | cases literal

theorem scan_word_kind (scans : scanWord first rest = .token kind taken left) : kind.isLiteral ∨ kind = .identifier := by
  unfold scanWord at scans
  dsimp only at scans
  split at scans
  · split at scans
    · split at scans
      · rename_i typed
        obtain ⟨rfl, -⟩ := quoted_token scans
        exact .inl (quoted_kind_literal typed)
      · cases scans
    · split at scans
      · cases scans
        exact .inl rfl
      · cases scans
        exact word_kind_literal _
  · cases scans
    exact word_kind_literal _

theorem scan_kind (scans : scan (c :: rest) = .token kind taken left) :
    (taken = [c] ∧ punctuation? c = some kind) ∨ kind.isLiteral ∨
      kind ∈ [.identifier, .minus, .dollar, .atSign, .annotationIdentifier] := by
  have branch := branch_of_scan c rest
  generalize scan (c :: rest) = found at branch scans
  cases branch with
  | mark found =>
      cases scans
      exact .inl ⟨rfl, found⟩
  | minus => exact .inr ((scan_minus_kind scans).imp_right fun same => by simp [same])
  | string =>
      obtain ⟨rfl, -⟩ := quoted_token scans
      exact .inr (.inl rfl)
  | dollar =>
      cases scans
      exact .inr (.inr (by simp))
  | word => exact .inr ((scan_word_kind scans).imp_right fun same => by simp [same])
  | number => exact .inr (.inl (scan_digits_literal scans))
  | annotated => exact .inr (.inr (by rcases scan_annotation_kind scans with rfl | rfl <;> simp))
  | foreign => cases scans

theorem scan_punctuation (scans : scan text = .token kind taken left) (mark : kind.isPunctuation) :
    ∃ c, taken = [c] ∧ punctuation? c = some kind := by
  cases text with
  | nil =>
      cases scans
      cases mark
  | cons c rest =>
      rcases scan_kind scans with found | literal | other
      · exact ⟨c, found⟩
      · rw [literal_unmarked literal] at mark
        cases mark
      · simp only [List.mem_cons, List.not_mem_nil, or_false] at other
        rcases other with rfl | rfl | rfl | rfl | rfl <;> cases mark

end Expression

def Lexeme.inPath (lexeme : Lexeme) : Bool :=
  lexeme.isName || lexeme.kind == .dot || lexeme.kind == .slash || lexeme.kind == .star

namespace Expression

variable {text taken rest left after : List Char} {kind : TokenKind} {c : Char}

def breaks : List Char := ['(', '=', '-']

def Unbroken (c : Char) : Prop := Text.isBlank c = false ∧ c ∉ breaks

theorem unbroken_of_letter {test : Char → Bool} (inner : Inner test) (fails : breaks.any test = false) (holds : test c) :
    Unbroken c :=
  ⟨inner_visible inner holds, fun listed => List.any_eq_false.mp fails c listed holds⟩

theorem word_unbroken {first : Char} {word : List Char} (whole : IsWord first word) : ∀ c ∈ first :: word, Unbroken c :=
  List.forall_mem_cons.mpr ⟨unbroken_of_letter start_inner (by decide) whole.starts, fun c member =>
    unbroken_of_letter continue_inner (by decide) (whole.letters c member)⟩

theorem scan_again (scans : scan text = .token kind taken left) (path : (Lexeme.mk kind (String.ofList taken)).inPath)
    (undashed : left.head? ≠ some '-') :
    (∀ c ∈ taken, Unbroken c) ∧
      ∀ after : List Char, after.head? = left.head? → scan (taken ++ after) = .token kind taken after := by
  by_cases named : (Lexeme.mk kind (String.ofList taken)).isName
  · obtain ⟨first, word, whole, rfl, rfl, parted⟩ := scan_named scans named
    exact ⟨word_unbroken whole, fun after same => scan_name whole fun c head => parted undashed c (same ▸ head)⟩
  · have marks : (kind = .dot ∨ kind = .slash) ∨ kind = .star := by
      simpa [Lexeme.inPath, Bool.eq_false_iff.mpr named] using path
    obtain ⟨c, rfl, found⟩ := scan_punctuation scans (by rcases marks with (rfl | rfl) | rfl <;> rfl)
    have listed : c = '.' ∨ c = '/' ∨ c = '*' := by
      rcases marks with (rfl | rfl) | rfl
      · exact .inl (punctuation_inj found rfl)
      · exact .inr (.inl (punctuation_inj found rfl))
      · exact .inr (.inr (punctuation_inj found rfl))
    refine ⟨List.forall_mem_singleton.mpr ?_, fun after _ => scan_of_branch (.mark found)⟩
    rcases listed with rfl | rfl | rfl <;> exact ⟨rfl, by decide⟩

end Expression

end QueryOptions
