import QueryOptions.Equality
import QueryOptions.Proofs.Context
import QueryOptions.Proofs.Derivation.Spans
import QueryOptions.Proofs.Token.Stream

set_option autoImplicit false

namespace QueryOptions

open Parse

def ParseError.unplaced : ParseError → ParseError
  | .invalidCharacter character _ => .invalidCharacter character 0
  | .unterminatedString _ => .unterminatedString 0
  | .invalidEscape sequence _ => .invalidEscape sequence 0
  | .invalidNumeric text _ => .invalidNumeric text 0
  | .digitExpected _ => .digitExpected 0
  | .typedNull _ => .typedNull 0
  | .expectedToken expected found _ => .expectedToken expected found 0
  | .keywordExpected keyword _ => .keywordExpected keyword 0
  | .expressionExpected _ => .expressionExpected 0
  | .unexpectedToken token _ => .unexpectedToken token 0
  | .invalidPath fault _ => .invalidPath fault 0
  | .emptyOptionList _ => .emptyOptionList 0
  | .unknownOption name _ => .unknownOption name 0
  | .duplicateOption name _ => .duplicateOption name 0
  | .invalidOptionValue option value _ => .invalidOptionValue option value 0
  | .unsupportedTransformation name _ => .unsupportedTransformation name 0
  | error => error

theorem unplaced_shift (bytes : Nat) (error : ParseError) : (error.shift bytes).unplaced = error.unplaced := by
  cases error <;> rfl

theorem positional_unplaced {piece : String} {error : Nat → ParseError} (positional : Positional piece error)
    (place place' : Nat) : (error place').unplaced = (error place).unplaced := by
  have moved (place : Nat) : (error place).unplaced = (error 0).unplaced := by
    rw [← unplaced_shift place (error 0), positional.shift, Nat.add_zero]
  rw [moved place', moved place]

namespace Cursor

variable {cursor other moved : Cursor} {lexemes : List Lexeme} {tokens : List Token} {α β : Type}

def Remaining (cursor : Cursor) (lexemes : List Lexeme) : Prop :=
  ∃ last, Spans cursor lexemes last ∧ last.token.lexeme = ⟨.finish, ""⟩ ∧ last.rest = []

theorem remaining_of_stream (read : cursor.stream = .ok tokens) :
    ∃ moved, advance cursor = .ok () moved ∧ moved.Remaining (tokens.map Token.lexeme) := by
  induction length : cursor.rest.length using Nat.strongRecOn generalizing cursor tokens with
  | ind length ih =>
      subst length
      rw [stream_step] at read
      cases advanced : advance cursor with
      | error error moved =>
          rw [advanced] at read
          cases read
      | ok _ moved =>
          rw [advanced] at read
          refine ⟨moved, rfl, ?_⟩
          dsimp only [streamFrom] at read
          by_cases finish : moved.token.kind = .finish
          · rw [if_pos finish] at read
            cases read
            obtain ⟨between, reads⟩ := reads_of_advance advanced
            obtain ⟨empty, rest⟩ := reads.finish finish
            refine ⟨moved, .refl moved, ?_, rest⟩
            unfold Token.lexeme
            rw [finish, String.toList_eq_nil_iff.mp empty]
          · rw [if_neg finish] at read
            cases others : moved.stream with
            | error error =>
                rw [others] at read
                cases read
            | ok further =>
                rw [others] at read
                cases read
                obtain ⟨between, advanced', last, spans, finished⟩ := ih _ (advance_takes advanced finish) others rfl
                exact ⟨last, .step finish advanced' spans, finished⟩

theorem advance_at_end (rest : cursor.rest = []) : ∃ moved, advance cursor = .ok () moved ∧ moved.Remaining [] := by
  obtain ⟨_, offset, token, dialect, keepsBlanks⟩ := cursor
  subst rest
  refine ⟨⟨[], offset, ⟨.finish, "", offset⟩, dialect, keepsBlanks⟩, ?_, _, .refl _, rfl, rfl⟩
  unfold advance
  dsimp only [List.takeWhile_nil, List.dropWhile_nil]
  rw [if_neg (by simp), Dialect.scan_nil]
  rfl

-- A step takes the first of the remaining lexemes. The end of a text is not stepped over.
theorem advance_remaining (remaining : cursor.Remaining lexemes) :
    ∃ moved, advance cursor = .ok () moved ∧ moved.Remaining lexemes.tail := by
  obtain ⟨last, spans, finish, rest⟩ := remaining
  cases spans with
  | refl => exact advance_at_end rest
  | step going advanced others => exact ⟨_, advanced, last, others, finish, rest⟩

theorem remaining_token (remaining : cursor.Remaining lexemes) : cursor.token.lexeme = lexemes.headD ⟨.finish, ""⟩ := by
  obtain ⟨last, spans, finish, rest⟩ := remaining
  cases spans with
  | refl => exact finish
  | step => rfl

theorem remaining_length (remaining : cursor.Remaining lexemes) : lexemes.length ≤ cursor.rest.length + 1 := by
  obtain ⟨last, spans, _⟩ := remaining
  exact spans_length spans

theorem remaining_finish (remaining : cursor.Remaining lexemes) (finish : cursor.token.kind = .finish) : cursor.rest = [] := by
  obtain ⟨last, spans, _, rest⟩ := remaining
  cases spans with
  | refl => exact rest
  | step going => exact absurd finish going

theorem remaining_going (remaining : cursor.Remaining lexemes) (going : cursor.token.kind ≠ .finish) : lexemes ≠ [] := by
  rintro rfl
  exact going (congrArg Lexeme.kind (remaining_token remaining))

end Cursor

inductive Agree {σ α : Type} (fine : σ → σ → Prop) :
    EStateM.Result ParseError σ α → EStateM.Result ParseError σ α → Prop where
  | ok (value : α) {after after' : σ} (both : fine after after') : Agree fine (.ok value after) (.ok value after')
  | error {error error' : ParseError} (after after' : σ) (same : error'.unplaced = error.unplaced) :
      Agree fine (.error error after) (.error error' after')

def Agreeing {σ α : Type} (twins : List Lexeme → σ → σ → Prop) (lexemes : List Lexeme)
    (p q : EStateM ParseError σ α) : Prop :=
  ∀ state other, twins lexemes state other →
    Agree (fun after after' => ∃ further, further <:+ lexemes ∧ twins further after after') (p state) (q other)

section

variable {σ α β : Type} {twins : List Lexeme → σ → σ → Prop} {lexemes : List Lexeme}
variable {p q : EStateM ParseError σ α}

theorem agree_of_imp {fine fine' : σ → σ → Prop} {result result' : EStateM.Result ParseError σ α}
    (agree : Agree fine result result') (still : ∀ after after', fine after after' → fine' after after') :
    Agree fine' result result' := by
  cases agree with
  | ok value both => exact .ok value (still _ _ both)
  | error after after' same => exact .error after after' same

theorem agree_further {front : List Lexeme} {result result' : EStateM.Result ParseError σ α}
    (agree : Agree (fun after after' => ∃ further, further <:+ front ∧ twins further after after') result result')
    (suffix : front <:+ lexemes) :
    Agree (fun after after' => ∃ further, further <:+ lexemes ∧ twins further after after') result result' :=
  agree_of_imp agree fun _ _ => Exists.imp fun _ => And.imp_left (·.trans suffix)

theorem agreeing_pure (value : α) : Agreeing twins lexemes (pure value) (pure value) :=
  fun _ _ same => .ok value ⟨lexemes, List.suffix_rfl, same⟩

theorem agreeing_throw {error error' : ParseError} (same : error'.unplaced = error.unplaced) :
    Agreeing twins lexemes (throw error : EStateM ParseError σ α) (throw error') := fun _ _ _ => .error _ _ same

theorem agreeing_bind {f g : α → EStateM ParseError σ β} (first : Agreeing twins lexemes p q)
    (second : ∀ value further, further <:+ lexemes → Agreeing twins further (f value) (g value)) :
    Agreeing twins lexemes (p >>= f) (q >>= g) := by
  intro state other same
  have agree := first state other same
  change Agree _ (EStateM.bind p f state) (EStateM.bind q g other)
  unfold EStateM.bind
  generalize p state = result at agree ⊢
  generalize q other = result' at agree ⊢
  cases agree with
  | ok value both =>
      obtain ⟨further, suffix, same'⟩ := both
      exact agree_further (second value further suffix _ _ same') suffix
  | error after after' same' => exact .error after after' same'

theorem agreeing_ite {c : Prop} [Decidable c] {p' q' : EStateM ParseError σ α}
    (yes : Agreeing twins lexemes p q) (no : Agreeing twins lexemes p' q') :
    Agreeing twins lexemes (if c then p else p') (if c then q else q') := by
  split
  · exact yes
  · exact no

end

namespace Cursor

structure Twins (lexemes : List Lexeme) (cursor other : Cursor) : Prop where
  here : cursor.Remaining lexemes
  there : other.Remaining lexemes

variable {cursor other : Cursor} {lexemes : List Lexeme} {α : Type}

theorem twins_token (twins : Twins lexemes cursor other) : other.token.lexeme = cursor.token.lexeme :=
  (remaining_token twins.there).trans (remaining_token twins.here).symm

theorem agreeing_get {f g : Cursor → Step α}
    (steps : ∀ cursor other, Twins lexemes cursor other → Agreeing Twins lexemes (f cursor) (g other)) :
    Agreeing Twins lexemes (get >>= f) (get >>= g) :=
  fun cursor other twins => steps cursor other twins cursor other twins

theorem agreeing_advance {step step' : Step α} (others : Agreeing Twins lexemes.tail step step') :
    Agreeing Twins lexemes (advance >>= fun _ => step) (advance >>= fun _ => step') := by
  intro cursor other twins
  obtain ⟨moved, advanced, here⟩ := advance_remaining twins.here
  obtain ⟨moved', advanced', there⟩ := advance_remaining twins.there
  rw [step_bind_done advanced, step_bind_done advanced']
  exact agree_further (others moved moved' ⟨here, there⟩) (List.tail_suffix lexemes)

theorem agreeing_expected (description : String) (twins : Twins lexemes cursor other) :
    Agreeing Twins lexemes (throw (cursor.expected description) : Step α) (throw (other.expected description)) := by
  obtain ⟨kind, text⟩ := Lexeme.mk.inj (twins_token twins)
  exact agreeing_throw (by simp only [expected, ParseError.unplaced, Token.describe, kind, text])

theorem is_name_of_lexeme {token token' : Token} (same : token'.lexeme = token.lexeme) :
    isName token' = isName token := congrArg Lexeme.isName same

theorem dotted_parts_agree (acceptStar : Bool) (parts parts' : Nat) (name : String) (enough : lexemes.length ≤ parts)
    (enough' : lexemes.length ≤ parts') :
    Agreeing Twins lexemes (dottedParts acceptStar parts name) (dottedParts acceptStar parts' name) := by
  induction parts generalizing parts' name lexemes with
  | zero =>
      obtain rfl := List.length_eq_zero_iff.mp (Nat.le_zero.mp enough)
      intro cursor other twins
      have stops (place : Cursor) (remaining : place.Remaining []) : place.token.kind ≠ .dot := fun dot => by
        cases dot.symm.trans (congrArg Lexeme.kind (remaining_token remaining))
      rw [dotted_parts_stop _ _ (stops cursor twins.here), dotted_parts_stop _ _ (stops other twins.there)]
      exact .ok name ⟨[], List.suffix_rfl, twins⟩
  | succ parts ih =>
      intro cursor other twins
      have kind : other.token.kind = cursor.token.kind := congrArg Lexeme.kind (twins_token twins)
      by_cases dot : cursor.token.kind = .dot
      · have some := List.length_pos_iff.mpr (remaining_going twins.here (by rw [dot]; decide))
        obtain ⟨parts', rfl⟩ : ∃ fewer, parts' = fewer + 1 := ⟨parts' - 1, by omega⟩
        rw [dotted_parts_succ, dotted_parts_succ, if_pos dot, if_pos (kind.trans dot)]
        refine agreeing_advance (agreeing_get fun onto onto' twins' => ?_) cursor other twins
        obtain ⟨kind', text'⟩ := Lexeme.mk.inj (twins_token twins')
        rw [is_name_of_lexeme (twins_token twins'), kind', text']
        refine agreeing_ite ?_ (agreeing_ite ?_ (agreeing_expected _ twins'))
        · exact agreeing_advance (ih _ _ (by simp only [List.length_tail]; omega)
            (by simp only [List.length_tail]; omega))
        · exact agreeing_advance (agreeing_pure _)
      · rw [dotted_parts_stop _ _ dot, dotted_parts_stop _ _ (kind ▸ dot)]
        exact .ok name ⟨lexemes, List.suffix_rfl, twins⟩

theorem dotted_name_agree (acceptStar : Bool) :
    Agreeing Twins lexemes (dottedName acceptStar) (dottedName acceptStar) := by
  refine agreeing_get fun cursor other twins => ?_
  obtain ⟨kind, text⟩ := Lexeme.mk.inj (twins_token twins)
  have here := remaining_length twins.here
  have there := remaining_length twins.there
  rw [is_name_of_lexeme (twins_token twins), kind, text]
  refine agreeing_ite ?_ (agreeing_ite ?_ (agreeing_expected _ twins))
  · exact agreeing_advance (dotted_parts_agree acceptStar _ _ _ (by simp only [List.length_tail]; omega)
      (by simp only [List.length_tail]; omega))
  · exact agreeing_advance (agreeing_pure _)

end Cursor

structure ParseState.Twins (lexemes : List Lexeme) (state other : ParseState) : Prop where
  cursor : Cursor.Twins lexemes state.cursor other.cursor
  scope : other.scope = state.scope
  depth : other.depth = state.depth
  links : other.links = state.links

def SameTokens : Relation := fun _ _ p q => ∀ lexemes, Agreeing ParseState.Twins lexemes p q

namespace SameTokens

open ParseState (Twins)

variable {lexemes : List Lexeme} {part : Part} {α β : Type} {settings : Settings} {state other : ParseState}

theorem of_bind {p q : Parse α} {f g : α → Parse β} (first : SameTokens part α p q)
    (second : ∀ value, SameTokens part β (f value) (g value)) : SameTokens part β (p >>= f) (q >>= g) :=
  fun lexemes => agreeing_bind (first lexemes) fun value further _ => second value further

theorem of_move {step : Cursor.Step α} (agree : ∀ lexemes, Agreeing Cursor.Twins lexemes step step) :
    SameTokens part α (move step) (move step) := by
  intro lexemes state other twins
  have agree := agree lexemes _ _ twins.cursor
  unfold move
  generalize step state.cursor = result at agree ⊢
  generalize step other.cursor = result' at agree ⊢
  cases agree with
  | ok value both =>
      obtain ⟨further, suffix, twins'⟩ := both
      exact .ok value ⟨further, suffix, twins', twins.scope, twins.depth, twins.links⟩
  | error after after' same => exact .error _ _ same

theorem advance_agrees (lexemes : List Lexeme) : Agreeing Cursor.Twins lexemes Cursor.advance Cursor.advance := by
  intro cursor other twins
  obtain ⟨moved, advanced, here⟩ := Cursor.advance_remaining twins.here
  obtain ⟨moved', advanced', there⟩ := Cursor.advance_remaining twins.there
  rw [advanced, advanced']
  exact .ok () ⟨lexemes.tail, List.tail_suffix lexemes, here, there⟩

theorem sequencing : Sequencing (fun _ _ _ => True) SameTokens where
  pure value _ := agreeing_pure value
  bind := of_bind
  current {_ _ f g} steps lexemes state other twins := by
    obtain ⟨kind, text⟩ := Lexeme.mk.inj (Cursor.twins_token twins.cursor)
    have token : other.cursor.token =
        ⟨state.cursor.token.kind, state.cursor.token.text, other.cursor.token.position⟩ := by
      rw [← kind, ← text]
    change Agree _ (f state.cursor.token state) (g other.cursor.token other)
    rw [token]
    exact steps _ _ _ _ trivial lexemes state other twins
  fail positional _ _ := agreeing_throw (positional_unplaced positional _ _)
  advance := of_move advance_agrees

theorem of_shared (step : Context.Step α) : SameTokens part α (shared settings step) (shared settings step) := by
  intro lexemes state other twins
  unfold shared
  rw [twins.scope, twins.depth]
  cases step ⟨settings, state.depth, state.scope⟩ with
  | ok value context => exact .ok value ⟨lexemes, List.suffix_rfl, twins.cursor, rfl, rfl, twins.links⟩
  | error error context => exact .error _ _ rfl

theorem of_closing {levels : ParseState → Nat} {p q : Parse α}
    (same : ∀ after after' : ParseState, after'.links = after.links → levels after' = levels after)
    (body : SameTokens part α p q) : SameTokens part α (closing settings levels p) (closing settings levels q) := by
  intro lexemes state other twins
  have agree := body lexemes state other twins
  unfold closing
  generalize p state = result at agree ⊢
  generalize q other = result' at agree ⊢
  cases agree with
  | @ok value after after' both =>
      obtain ⟨further, suffix, twins'⟩ := both
      have closes : SameTokens part Unit (leave settings (levels after)) (leave settings (levels after)) := of_shared _
      have left := agree_further (closes further _ _ twins') suffix
      dsimp only
      rw [same _ _ twins'.links]
      generalize leave settings (levels after) after = closed at left ⊢
      generalize leave settings (levels after) after' = closed' at left ⊢
      cases left with
      | ok _ both => exact .ok value both
      | error after after' same => exact .error after after' same
  | @error error error' after after' same =>
      dsimp only
      cases leave settings (levels after) after <;> cases leave settings (levels after') after' <;>
        exact .error _ _ same

theorem agree_map {fine fine' : ParseState → ParseState → Prop} {result result' : EStateM.Result ParseError ParseState α}
    {change change' : ParseState → ParseState} (agree : Agree fine result result')
    (changed : ∀ after after', fine after after' → fine' (change after) (change' after')) :
    Agree fine' (mapState change result) (mapState change' result') := by
  cases agree with
  | ok value both => exact .ok value (changed _ _ both)
  | error after after' same => exact .error _ _ same

theorem of_counting_links {p q : Parse α} (body : SameTokens .links α p q) :
    SameTokens .rule α (countingLinks p) (countingLinks q) := by
  intro lexemes state other twins
  rw [counting_links_by_map, counting_links_by_map]
  have agree := body lexemes { state with links := 0 } { other with links := 0 }
    ⟨twins.cursor, twins.scope, twins.depth, rfl⟩
  refine agree_map agree fun after after' => Exists.imp fun further => And.imp_right fun same => ?_
  exact ⟨same.cursor, same.scope, same.depth, twins.links⟩

theorem of_declaring (name : String) {p q : Parse α} (body : SameTokens .rule α p q) :
    SameTokens .rule α (declaring settings name p) (declaring settings name q) := by
  rw [declaring_by_map, declaring_by_map]
  refine of_bind (of_shared _) fun _ lexemes state other twins => ?_
  refine agree_map (body lexemes state other twins) fun after after' => Exists.imp fun further =>
    And.imp_right fun same => ?_
  exact ⟨same.cursor, congrArg (List.erase · name) same.scope, same.depth, same.links⟩

theorem agreeing_advance {p q : Parse α} (others : Agreeing Twins lexemes.tail p q) :
    Agreeing Twins lexemes (do advance; p : Parse α) (do advance; q : Parse α) := by
  intro state other twins
  obtain ⟨moved, advanced, here⟩ := Cursor.advance_remaining twins.cursor.here
  obtain ⟨moved', advanced', there⟩ := Cursor.advance_remaining twins.cursor.there
  rw [show (do advance; p : Parse α) state = _ from bind_done (advance_done advanced),
    show (do advance; q : Parse α) other = _ from bind_done (advance_done advanced')]
  exact agree_further (others _ _ ⟨⟨here, there⟩, twins.scope, twins.depth, twins.links⟩) (List.tail_suffix lexemes)

theorem separated_stop {separator : TokenKind} (item : Parse α) (count : Nat)
    (stops : state.cursor.token.kind ≠ separator) : separated separator item count state = .ok [] state := by
  cases count with
  | zero => rfl
  | succ count => exact congrFun (if_neg (by simpa using stops)) state

-- Each item has a separator before it, so there is count to spare on both sides.
theorem agreeing_separated {separator : TokenKind} {p q : Parse α} (item : SameTokens .rule α p q)
    (going : separator ≠ .finish) (count count' : Nat) (enough : lexemes.length ≤ count) (enough' : lexemes.length ≤ count') :
    Agreeing Twins lexemes (separated separator p count) (separated separator q count') := by
  induction count generalizing count' lexemes with
  | zero =>
      obtain rfl := List.length_eq_zero_iff.mp (Nat.le_zero.mp enough)
      intro state other twins
      have stops (place : Cursor) (remaining : place.Remaining []) : place.token.kind ≠ separator :=
        fun same => going (same.symm.trans (congrArg Lexeme.kind (Cursor.remaining_token remaining)))
      rw [separated_stop p _ (stops _ twins.cursor.here), separated_stop q _ (stops _ twins.cursor.there)]
      exact .ok [] ⟨[], List.suffix_rfl, twins⟩
  | succ count ih =>
      intro state other twins
      have kind : other.cursor.token.kind = state.cursor.token.kind :=
        congrArg Lexeme.kind (Cursor.twins_token twins.cursor)
      by_cases more : state.cursor.token.kind = separator
      · have some := List.length_pos_iff.mpr (Cursor.remaining_going twins.cursor.here (by rw [more]; exact going))
        obtain ⟨count', rfl⟩ : ∃ fewer, count' = fewer + 1 := ⟨count' - 1, by omega⟩
        have further : Agreeing Twins lexemes
            (do
              advance
              let first ← p
              let rest ← separated separator p count
              pure (first :: rest))
            (do
              advance
              let first ← q
              let rest ← separated separator q count'
              pure (first :: rest)) :=
          agreeing_advance <| agreeing_bind (item _) fun _ later suffix => by
            have shorter := suffix.length_le
            rw [List.length_tail] at shorter
            exact agreeing_bind (ih count' (by omega) (by omega)) fun _ _ _ => agreeing_pure _
        have same := further state other twins
        rw [show separated separator p (count + 1) state = _ from congrFun (if_pos (beq_iff_eq.mpr more)) state,
          show separated separator q (count' + 1) other = _ from
            congrFun (if_pos (beq_iff_eq.mpr (kind.trans more))) other]
        exact same
      · rw [separated_stop p _ more, separated_stop q _ (kind ▸ more)]
        exact .ok [] ⟨lexemes, List.suffix_rfl, twins⟩

-- A separator that is the end of the text can be met at the end only, where nothing is left
-- of either text.
theorem of_sep_by (separator : TokenKind) {p q : Parse α} (item : SameTokens .rule α p q) :
    SameTokens .rule (List α) (sepBy separator p) (sepBy separator q) := by
  refine of_bind item fun first lexemes state other twins => ?_
  have here := Cursor.remaining_length twins.cursor.here
  have there := Cursor.remaining_length twins.cursor.there
  have kind : other.cursor.token.kind = state.cursor.token.kind :=
    congrArg Lexeme.kind (Cursor.twins_token twins.cursor)
  change Agree _ ((do return first :: (← separated separator p (state.cursor.rest.length + 1)) : Parse (List α)) state)
    ((do return first :: (← separated separator q (other.cursor.rest.length + 1)) : Parse (List α)) other)
  by_cases more : state.cursor.token.kind = separator
  · by_cases finish : separator = .finish
    · rw [Cursor.remaining_finish twins.cursor.here (more.trans finish),
        Cursor.remaining_finish twins.cursor.there (kind.trans (more.trans finish))]
      exact agreeing_bind (sequencing.separated separator item 1 lexemes) (fun _ _ _ => agreeing_pure _) state other twins
    · exact agreeing_bind (agreeing_separated item finish _ _ here there) (fun _ _ _ => agreeing_pure _) state other twins
  · rw [bind_done (separated_stop p _ more), bind_done (separated_stop q _ (kind ▸ more))]
    exact .ok _ ⟨lexemes, List.suffix_rfl, twins⟩

theorem simulation : Simulation settings settings (fun _ _ _ => True) SameTokens where
  toSequencing := sequencing
  rule := id
  limit := ⟨settings.maxDepth, rfl⟩
  dottedName acceptStar := of_move fun _ => Cursor.dotted_name_agree acceptStar
  inScope name lexemes state other twins := by
    change Agree _ (.ok (state.scope.contains name) state) (.ok (other.scope.contains name) other)
    rw [twins.scope]
    exact .ok _ ⟨lexemes, List.suffix_rfl, twins⟩
  declaring := of_declaring
  tooDeep _ := agreeing_throw rfl
  recurse levels _ _ body := of_bind (of_shared _) fun _ => of_closing (fun _ _ _ => rfl) body
  chain body := of_bind (of_shared _) fun _ =>
    of_counting_links (of_closing (fun _ _ links => congrArg (· + 1) links) body)
  hold := of_bind (of_shared _) fun _ lexemes state other twins =>
    .ok () ⟨lexemes, List.suffix_rfl, twins.cursor, twins.scope, twins.depth, congrArg (· + 1) twins.links⟩
  sepBy := of_sep_by

theorem grammar_agrees (settings : Settings) {option : QueryOption} (plain : option ≠ .select ∧ option ≠ .expand)
    (levels : Nat) : SameTokens .rule _ (option.grammar settings levels) (option.grammar settings levels) := by
  have S : Simulation settings settings (fun _ _ _ => True) SameTokens := simulation
  cases option with
  | filter => exact of_bind (Expression.whole_related S.wording levels levels (.inl rfl)) fun _ => S.pure _
  | search => exact of_bind (Search.whole_related S.toLevelling levels levels (.inl rfl)) fun _ => S.pure _
  | orderBy => exact of_bind (Order.whole_related S.wording levels levels (.inl rfl)) fun _ => S.pure _
  | compute => exact of_bind (Compute.whole_related S.wording levels levels (.inl rfl)) fun _ => S.pure _
  | apply => exact of_bind (Apply.whole_related S.wording levels levels (.inl rfl)) fun _ => S.pure _
  | select => exact absurd rfl plain.1
  | expand => exact absurd rfl plain.2

end SameTokens

-- Two texts that read as the same tokens, wherever these stand and whatever blanks are
-- between them, are both accepted, as the same thing, or both refused, with the same error
-- but for its place. The options whose values are cut out of the text as they stand are
-- others.
theorem parse_of_same_tokens {settings : Settings} {option : QueryOption} {text text' : String} {tokens tokens' : List Token}
    (plain : option ≠ .select ∧ option ≠ .expand) (read : tokenize text option.dialect 0 = .ok tokens)
    (read' : tokenize text' option.dialect 0 = .ok tokens')
    (same : tokens'.map Token.lexeme = tokens.map Token.lexeme) :
    (parse settings option text').mapError ParseError.unplaced = (parse settings option text).mapError ParseError.unplaced := by
  obtain ⟨moved, advanced, here⟩ := Cursor.remaining_of_stream read
  obtain ⟨moved', advanced', there⟩ := Cursor.remaining_of_stream read'
  have agree := SameTokens.grammar_agrees settings plain settings.maxDepth (tokens.map Token.lexeme)
    { option.start text with cursor := moved } { option.start text' with cursor := moved' }
    ⟨⟨here, same ▸ there⟩, rfl, rfl, rfl⟩
  have began : advance (option.start text) = .ok () { option.start text with cursor := moved } := advance_done advanced
  have began' : advance (option.start text') = .ok () { option.start text' with cursor := moved' } :=
    advance_done advanced'
  rw [parse_by_steps, parse_by_steps]
  unfold QueryOption.parser
  rw [bind_done began, bind_done began']
  generalize option.grammar settings settings.maxDepth { option.start text with cursor := moved } = result at agree ⊢
  generalize option.grammar settings settings.maxDepth { option.start text' with cursor := moved' } = result' at agree ⊢
  cases agree with
  | ok value both => rfl
  | error after after' same => exact congrArg Except.error same

theorem open_key_in_both :
    tokenize "Name desc,(Age" .expression 0 =
        .ok [⟨.identifier, "Name", 0⟩, ⟨.identifier, "desc", 5⟩, ⟨.comma, ",", 9⟩, ⟨.openParen, "(", 10⟩,
          ⟨.identifier, "Age", 11⟩] ∧
      tokenize "Name\tdesc , ( Age  " .expression 0 =
        .ok [⟨.identifier, "Name", 0⟩, ⟨.identifier, "desc", 5⟩, ⟨.comma, ",", 10⟩, ⟨.openParen, "(", 12⟩,
          ⟨.identifier, "Age", 14⟩] ∧
      parse {} .orderBy "Name desc,(Age" = .error (.expectedToken "')'" "end of input" 14) ∧
      (parse {} .orderBy "Name\tdesc , ( Age  ").mapError ParseError.unplaced =
        .error (.expectedToken "')'" "end of input" 0) := by
  have read : tokenize "Name desc,(Age" .expression 0 =
      .ok [⟨.identifier, "Name", 0⟩, ⟨.identifier, "desc", 5⟩, ⟨.comma, ",", 9⟩, ⟨.openParen, "(", 10⟩,
        ⟨.identifier, "Age", 11⟩] := by decide +kernel
  have read' : tokenize "Name\tdesc , ( Age  " .expression 0 =
      .ok [⟨.identifier, "Name", 0⟩, ⟨.identifier, "desc", 5⟩, ⟨.comma, ",", 10⟩, ⟨.openParen, "(", 12⟩,
        ⟨.identifier, "Age", 14⟩] := by decide +kernel
  have refused : parse {} .orderBy "Name desc,(Age" = .error (.expectedToken "')'" "end of input" 14) := by
    decide +kernel
  refine ⟨read, read', refused, (parse_of_same_tokens (by decide) read read' (by rfl)).trans ?_⟩
  rw [refused]
  rfl

end QueryOptions
