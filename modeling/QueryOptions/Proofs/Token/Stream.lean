import QueryOptions.Proofs.Derivation.Spans
import QueryOptions.Proofs.Token.Mark
import QueryOptions.Proofs.Token.Phrase

set_option autoImplicit false

namespace QueryOptions

def joined (tokens : List Token) : List Char := tokens.flatMap fun token => token.text.toList

-- Tokens one after the other in a text that starts at `offset`, with gaps before, between
-- and behind them.
inductive Laid (gap : List Char → Prop) : Nat → List Char → List Token → Prop where
  | finish {offset : Nat} {between : List Char} (clear : gap between) : Laid gap offset between []
  | token {offset : Nat} {between rest : List Char} {token : Token} {tokens : List Token} (clear : gap between)
      (taking : token.text.toList ≠ []) (placed : token.position = offset + Text.byteLength between)
      (others : Laid gap (token.position + Text.byteLength token.text.toList) rest tokens) :
      Laid gap offset (between ++ (token.text.toList ++ rest)) (token :: tokens)

section

variable {gap : List Char → Prop} {offset : Nat} {text : List Char} {tokens front back : List Token}

theorem laid_behind (laid : Laid gap offset text tokens) : ∀ token ∈ tokens, offset ≤ token.position := by
  induction laid with
  | finish => exact fun _ none => absurd none List.not_mem_nil
  | token _ _ placed _ ih =>
      intro other member
      rcases List.mem_cons.mp member with rfl | member
      · omega
      · have behind := ih other member
        omega

end

namespace Expression

variable {kind : TokenKind} {c : Char}

theorem punctuation_visible (found : punctuation? c = some kind) : kind ≠ .whitespace := by
  unfold punctuation? at found
  split at found <;> cases found <;> decide

theorem literal_visible (literal : kind.isLiteral) : kind ≠ .whitespace := by
  rintro rfl
  cases literal

theorem scan_visible {text taken left : List Char} (scans : scan text = .token kind taken left) :
    kind ≠ .whitespace := by
  cases text with
  | nil =>
      cases scans
      decide
  | cons c rest =>
      rcases scan_kind scans with ⟨-, found⟩ | literal | other
      · exact punctuation_visible found
      · exact literal_visible literal
      · rintro rfl
        simp at other

end Expression

theorem Dialect.scan_visible {dialect : Dialect} {kind : TokenKind} {text taken left : List Char}
    (scans : dialect.scan text = .token kind taken left) : kind ≠ .whitespace := by
  cases dialect with
  | expression => exact Expression.scan_visible scans
  | search =>
      by_cases finish : kind = .finish
      · rw [finish]
        decide
      · cases Search.taken_of_scan scans finish with
        | opening => decide
        | closing => decide
        | phrase => decide
        | word =>
            unfold Search.termKind
            split <;> decide

namespace Cursor

variable {cursor moved : Cursor} {tokens : List Token} {count other : Nat}

def stream (cursor : Cursor) : Except ParseError (List Token) := cursor.tokens (cursor.rest.length + 1)

theorem tokens_settled (enough : cursor.rest.length < count) (enough' : cursor.rest.length < other) :
    cursor.tokens count = cursor.tokens other := by
  induction count generalizing cursor other with
  | zero => exact absurd enough (Nat.not_lt_zero _)
  | succ count ih =>
      obtain ⟨other, rfl⟩ : ∃ fewer, other = fewer + 1 := ⟨other - 1, by omega⟩
      unfold tokens
      cases advanced : advance cursor with
      | error error moved => rfl
      | ok value moved =>
          dsimp only
          by_cases finish : moved.token.kind = .finish
          · rw [if_pos finish, if_pos finish]
          · have shorter := advance_takes advanced finish
            rw [if_neg finish, if_neg finish, ih (Nat.lt_of_lt_of_le shorter (Nat.le_of_lt_succ enough))
              (Nat.lt_of_lt_of_le shorter (Nat.le_of_lt_succ enough'))]

theorem tokens_enough (enough : cursor.rest.length < count) : cursor.tokens count = cursor.stream :=
  tokens_settled enough (Nat.lt_succ_self _)

-- What the tokens from a step on are; the place a failed step leaves does not matter.
def streamFrom : EStateM.Result ParseError Cursor Unit → Except ParseError (List Token)
  | .error error _ => .error error
  | .ok _ moved => if moved.token.kind = .finish then .ok [] else moved.stream.map (moved.token :: ·)

theorem stream_step (cursor : Cursor) : cursor.stream = streamFrom (advance cursor) := by
  rw [stream, tokens]
  cases advanced : advance cursor with
  | error error moved => rfl
  | ok value moved =>
      dsimp only [streamFrom]
      by_cases finish : moved.token.kind = .finish
      · rw [if_pos finish, if_pos finish]
      · rw [if_neg finish, if_neg finish, tokens_enough (advance_takes advanced finish)]
        cases moved.stream <;> rfl

-- What no token holds of a text: nothing where blanks are tokens, and blanks elsewhere.
def Gap (cursor : Cursor) (between : List Char) : Prop :=
  if cursor.keepsBlanks ∧ cursor.dialect = .expression then between = [] else ∀ c ∈ between, Text.isBlank c

theorem gap_nil (cursor : Cursor) : cursor.Gap [] := by
  unfold Gap
  split
  · rfl
  · exact fun _ none => absurd none List.not_mem_nil

structure Reads (cursor : Cursor) (between : List Char) (moved : Cursor) : Prop where
  split : cursor.rest = between ++ (moved.token.text.toList ++ moved.rest)
  clear : cursor.Gap between
  placed : moved.token.position = cursor.offset + Text.byteLength between
  offset : moved.offset = moved.token.position + Text.byteLength moved.token.text.toList
  taking : moved.token.kind ≠ .finish → moved.token.text.toList ≠ []
  finish : moved.token.kind = .finish → moved.token.text.toList = [] ∧ moved.rest = []
  opening : moved.token.kind = .openParen → moved.token.text = "("
  gap : moved.Gap = cursor.Gap

theorem reads_of_advance (advanced : advance cursor = .ok () moved) : ∃ between, cursor.Reads between moved := by
  have whole := List.takeWhile_append_dropWhile (p := Text.isBlank) (l := cursor.rest)
  have blank := Expression.take_while_all Text.isBlank cursor.rest
  unfold advance at advanced
  dsimp only at advanced
  generalize cursor.rest.takeWhile Text.isBlank = blanks at advanced whole blank
  generalize cursor.rest.dropWhile Text.isBlank = visible at advanced whole
  by_cases kept : cursor.keepsBlanks ∧ cursor.dialect = .expression ∧ blanks ≠ []
  · rw [if_pos kept] at advanced
    cases advanced
    exact ⟨[], {
      split := by rw [String.toList_ofList, ← whole]; rfl
      clear := gap_nil cursor
      placed := rfl
      offset := by rw [String.toList_ofList]
      taking := fun _ => by rw [String.toList_ofList]; exact kept.2.2
      finish := fun same => by cases same
      opening := fun same => by cases same
      gap := rfl }⟩
  · rw [if_neg kept] at advanced
    have clear : cursor.Gap blanks := by
      unfold Gap
      split
      · rename_i keeps
        exact Classical.not_not.mp fun some => kept ⟨keeps.1, keeps.2, some⟩
      · exact blank
    cases visible with
    | nil =>
        rw [Dialect.scan_nil] at advanced
        cases advanced
        exact ⟨blanks, {
          split := whole.symm
          clear := clear
          placed := rfl
          offset := rfl
          taking := fun other => absurd rfl other
          finish := fun _ => ⟨rfl, rfl⟩
          opening := fun same => by cases same
          gap := rfl }⟩
    | cons c rest =>
        have splits := Dialect.scan_splits cursor.dialect c rest
        cases found : (cursor.dialect.scan (c :: rest)).outcome with
        | error error =>
            rw [found] at advanced
            cases advanced
        | ok kind =>
            rw [found] at advanced
            cases advanced
            obtain ⟨-, going, taking⟩ := splits.takes kind found
            exact ⟨blanks, {
              split := by rw [String.toList_ofList, splits.split, whole]
              clear := clear
              placed := rfl
              offset := by rw [String.toList_ofList]
              taking := fun _ => by rw [String.toList_ofList]; exact taking
              finish := fun same => absurd same going
              opening := fun same => congrArg String.ofList (splits.opening (found.trans (congrArg _ same)))
              gap := rfl }⟩

theorem laid_of_tokens (enough : cursor.rest.length < count) (read : cursor.tokens count = .ok tokens) :
    Laid cursor.Gap cursor.offset cursor.rest tokens := by
  induction count generalizing cursor tokens with
  | zero => exact absurd enough (Nat.not_lt_zero _)
  | succ count ih =>
      unfold Cursor.tokens at read
      cases advanced : advance cursor with
      | error error moved =>
          rw [advanced] at read
          cases read
      | ok value moved =>
          rw [advanced] at read
          obtain ⟨between, reads⟩ := reads_of_advance advanced
          dsimp only at read
          rw [reads.split]
          by_cases finish : moved.token.kind = .finish
          · rw [if_pos finish] at read
            cases read
            obtain ⟨empty, rest⟩ := reads.finish finish
            rw [empty, rest, List.append_nil, List.append_nil]
            exact .finish reads.clear
          · rw [if_neg finish] at read
            have shorter := advance_takes advanced finish
            cases others : moved.tokens count with
            | error error =>
                rw [others] at read
                cases read
            | ok others' =>
                rw [others] at read
                cases read
                have laid := ih (by omega) others
                rw [reads.gap, reads.offset] at laid
                exact .token reads.clear (reads.taking finish) reads.placed laid

theorem laid_of_stream (read : cursor.stream = .ok tokens) : Laid cursor.Gap cursor.offset cursor.rest tokens :=
  laid_of_tokens (Nat.lt_succ_self _) read

def bare (cursor : Cursor) : Cursor := { cursor with keepsBlanks := false }

def AtKeptBlanks (cursor : Cursor) : Prop :=
  cursor.keepsBlanks ∧ cursor.dialect = .expression ∧ cursor.rest.takeWhile Text.isBlank ≠ []

theorem token_visible (scanned : ¬ cursor.AtKeptBlanks) (advanced : advance cursor = .ok () moved) :
    moved.token.kind ≠ .whitespace := by
  unfold AtKeptBlanks at scanned
  unfold advance at advanced
  dsimp only at advanced
  rw [if_neg scanned] at advanced
  cases scan : cursor.dialect.scan (cursor.rest.dropWhile Text.isBlank) with
  | mk outcome taken rest =>
      rw [scan] at advanced
      cases outcome with
      | ok kind =>
          cases advanced
          exact Dialect.scan_visible scan
      | error error => cases advanced

end Cursor

section

variable {offset : Nat} {text : List Char} {tokens : List Token}

end

namespace Cursor

variable {text : String} {offset : Nat}

end Cursor

end QueryOptions
