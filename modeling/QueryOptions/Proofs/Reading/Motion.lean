import QueryOptions.Proofs.Neutral
import QueryOptions.Proofs.Token.Plain

set_option autoImplicit false

namespace QueryOptions

def Cursor.ahead (cursor : Cursor) : List Char := cursor.token.text.toList ++ cursor.rest

-- The cursors of a dialect that stand on a token, and the ways through a text with some
-- parentheses open.
structure Motion where
  dialect : Dialect
  lexed : Cursor → Prop
  passes : Nat → List Char → Nat → List Char → Prop
  refl : ∀ depth text, passes depth text depth text
  trans : ∀ {depth depth' depth'' text text' text''},
    passes depth text depth' text' → passes depth' text' depth'' text'' → passes depth text depth'' text''
  shrinks : ∀ {depth depth' text text'}, passes depth text depth' text' → text'.length ≤ text.length
  begins : ∀ {text offset moved},
    Cursor.advance (.start text dialect offset false) = .ok () moved →
      lexed moved ∧ ∀ depth, passes depth text.toList depth moved.ahead
  finish : ∀ {cursor}, lexed cursor → cursor.token.kind = .finish → cursor.ahead = []
  steps : ∀ {cursor moved}, lexed cursor → Cursor.advance cursor = .ok () moved → lexed moved
  shortens : ∀ {cursor moved}, lexed cursor → cursor.token.kind ≠ .finish →
    Cursor.advance cursor = .ok () moved → moved.ahead.length < cursor.ahead.length
  inner : ∀ {cursor moved}, lexed cursor → cursor.token.kind.isBound = false →
    Cursor.advance cursor = .ok () moved → ∀ depth, passes depth cursor.ahead depth moved.ahead
  opening : ∀ {cursor moved}, lexed cursor → cursor.token.kind = .openParen →
    Cursor.advance cursor = .ok () moved → ∀ depth, passes depth cursor.ahead (depth + 1) moved.ahead
  closing : ∀ {cursor moved}, lexed cursor → cursor.token.kind = .closeParen →
    Cursor.advance cursor = .ok () moved → ∀ depth, passes (depth + 1) cursor.ahead depth moved.ahead

structure Cursor.Lexed (dialect : Dialect) (cursor : Cursor) : Prop where
  spoken : cursor.dialect = dialect
  blanks : cursor.keepsBlanks = false
  known : cursor.token.kind ≠ .unknown
  finish : cursor.token.kind = .finish → cursor.ahead = []
  text : cursor.token.kind ≠ .finish → cursor.token.text.toList ≠ []
  opening : cursor.token.kind = .openParen → cursor.ahead = '(' :: cursor.rest
  closing : cursor.token.kind = .closeParen → cursor.ahead = ')' :: cursor.rest
  semicolon : cursor.token.kind = .semicolon → cursor.ahead = ';' :: cursor.rest
  passed : dialect = .expression → cursor.token.kind.isBound = false →
    ∀ depth, Crosses depth cursor.ahead depth cursor.rest

namespace Cursor

theorem scanned_lexed {dialect : Dialect} {text : List Char} {kind : TokenKind} {moved : Cursor}
    (found : (dialect.scan text).outcome = .ok kind) (spoken : moved.dialect = dialect)
    (blanks : moved.keepsBlanks = false) (kinds : moved.token.kind = kind)
    (taken : moved.token.text.toList = (dialect.scan text).taken) (rest : moved.rest = (dialect.scan text).rest) :
    moved.Lexed dialect ∧ moved.ahead = text := by
  cases text with
  | nil =>
      rw [Dialect.scan_nil] at found taken rest
      cases found
      have none : moved.ahead = [] := by rw [ahead, taken, rest]; rfl
      refine ⟨⟨spoken, blanks, ?_, fun _ => none, fun other => absurd kinds other, ?_, ?_, ?_, ?_⟩, none⟩
      all_goals simp [kinds, TokenKind.isBound]
  | cons c text =>
      have splits := Dialect.scan_splits dialect c text
      have whole : moved.ahead = c :: text := by rw [ahead, taken, rest, splits.split]
      have single {bracket : Char} (one : (dialect.scan (c :: text)).taken = [bracket]) :
          moved.ahead = bracket :: moved.rest := by
        rw [ahead, taken, one]
        rfl
      obtain ⟨known, going, taking⟩ := splits.takes kind found
      subst kinds
      refine ⟨⟨spoken, blanks, known, fun same => absurd same going, fun _ => by rwa [taken], fun same => ?_,
        fun same => ?_, fun same => ?_, fun same inner depth => ?_⟩, whole⟩
      · exact single (splits.opening (found.trans (congrArg _ same)))
      · exact single (splits.closing (found.trans (congrArg _ same)))
      · exact single (splits.semicolon (found.trans (congrArg _ same)))
      · subst same
        rw [whole, rest]
        exact Expression.scan_passed c text _ found inner depth

theorem advance_lexed {cursor moved : Cursor} (blanks : cursor.keepsBlanks = false)
    (advanced : advance cursor = .ok () moved) :
    moved.Lexed cursor.dialect ∧ ∃ front, front ++ moved.ahead = cursor.rest ∧ ∀ c ∈ front, Text.isBlank c := by
  unfold advance at advanced
  simp only [blanks, Bool.false_eq_true, false_and, if_false] at advanced
  cases outcome : (cursor.dialect.scan (cursor.rest.dropWhile Text.isBlank)).outcome with
  | error error =>
      rw [outcome] at advanced
      cases advanced
  | ok kind =>
      rw [outcome] at advanced
      have same := (EStateM.Result.ok.inj advanced).2
      obtain ⟨lexed, whole⟩ : moved.Lexed cursor.dialect ∧ moved.ahead = cursor.rest.dropWhile Text.isBlank := by
        apply scanned_lexed outcome <;> rw [← same]
        exact String.toList_ofList
      refine ⟨lexed, cursor.rest.takeWhile Text.isBlank, ?_, fun c member =>
        List.all_eq_true.mp List.all_takeWhile c member⟩
      rw [whole, List.takeWhile_append_dropWhile]

theorem rest_le_ahead (cursor : Cursor) : cursor.rest.length ≤ cursor.ahead.length :=
  (List.suffix_append cursor.token.text.toList cursor.rest).length_le

theorem ahead_shortens {dialect : Dialect} {cursor moved : Cursor} (lexed : cursor.Lexed dialect)
    (going : cursor.token.kind ≠ .finish) (advanced : advance cursor = .ok () moved) :
    moved.ahead.length < cursor.ahead.length := by
  obtain ⟨_, front, split, -⟩ := advance_lexed lexed.blanks advanced
  have rest := congrArg List.length split
  have taking := List.length_pos_iff.mpr (lexed.text going)
  simp only [ahead, List.length_append] at rest ⊢
  omega

end Cursor

theorem steps_lexed {dialect : Dialect} {cursor moved : Cursor} (lexed : cursor.Lexed dialect)
    (advanced : cursor.advance = .ok () moved) : moved.Lexed dialect := by
  have after := (Cursor.advance_lexed lexed.blanks advanced).1
  rwa [lexed.spoken] at after

theorem rest_suffix {cursor moved : Cursor} (blanks : cursor.keepsBlanks = false)
    (advanced : cursor.advance = .ok () moved) : moved.ahead <:+ cursor.rest := by
  obtain ⟨_, front, split, -⟩ := Cursor.advance_lexed blanks advanced
  exact ⟨front, split⟩

theorem advance_suffix {dialect : Dialect} {cursor moved : Cursor} (lexed : cursor.Lexed dialect)
    (advanced : cursor.advance = .ok () moved) : moved.ahead <:+ cursor.ahead :=
  (rest_suffix lexed.blanks advanced).trans (List.suffix_append _ _)

-- Searches get further in their text. The depth counts characters that are sure to be
-- taken.
def Motion.search : Motion where
  dialect := .search
  lexed := Cursor.Lexed .search
  passes depth text depth' text' := text' <:+ text ∧ text'.length + depth' ≤ text.length + depth
  refl _ _ := ⟨List.suffix_rfl, Nat.le_refl _⟩
  trans first second := ⟨second.1.trans first.1, Nat.le_trans second.2 first.2⟩
  shrinks passed := passed.1.length_le
  begins advanced := by
    have suffix := rest_suffix rfl advanced
    exact ⟨(Cursor.advance_lexed rfl advanced).1, fun depth =>
      ⟨suffix, Nat.add_le_add_right suffix.length_le depth⟩⟩
  finish lexed := lexed.finish
  steps := steps_lexed
  shortens := Cursor.ahead_shortens
  inner lexed _ advanced depth := by
    have suffix := advance_suffix lexed advanced
    exact ⟨suffix, Nat.add_le_add_right suffix.length_le depth⟩
  opening lexed same advanced depth := by
    have shorter := Cursor.ahead_shortens lexed (by simp [same]) advanced
    exact ⟨advance_suffix lexed advanced, by omega⟩
  closing lexed _ advanced depth := by
    have suffix := advance_suffix lexed advanced
    exact ⟨suffix, by have := suffix.length_le; omega⟩

theorem crosses_rest {cursor moved : Cursor} (blanks : cursor.keepsBlanks = false)
    (advanced : cursor.advance = .ok () moved) (depth : Nat) : Crosses depth cursor.rest depth moved.ahead := by
  obtain ⟨_, front, split, blank⟩ := Cursor.advance_lexed blanks advanced
  rw [← split]
  exact .of_plain front fun c member => blank_plain c (blank c member)

-- Expressions are crossed as the raw scan of an option value crosses them.
def Motion.raw : Motion where
  dialect := .expression
  lexed := Cursor.Lexed .expression
  passes := Crosses
  refl := .refl
  trans := .trans
  shrinks crosses := crosses.suffix.length_le
  begins advanced := ⟨(Cursor.advance_lexed rfl advanced).1, crosses_rest rfl advanced⟩
  finish lexed := lexed.finish
  steps := steps_lexed
  shortens := Cursor.ahead_shortens
  inner lexed inner advanced depth := (lexed.passed rfl inner depth).trans (crosses_rest lexed.blanks advanced depth)
  opening lexed same advanced depth := by
    rw [lexed.opening same]
    exact .opening (crosses_rest lexed.blanks advanced _)
  closing lexed same advanced depth := by
    rw [lexed.closing same]
    exact .closing (crosses_rest lexed.blanks advanced _)

theorem crosses_semicolon {cursor moved : Cursor} (lexed : cursor.Lexed .expression)
    (same : cursor.token.kind = .semicolon) (advanced : cursor.advance = .ok () moved) (depth : Nat) :
    Crosses (depth + 1) cursor.ahead (depth + 1) moved.ahead := by
  rw [lexed.semicolon same]
  exact .semicolon (crosses_rest lexed.blanks advanced _)

end QueryOptions
