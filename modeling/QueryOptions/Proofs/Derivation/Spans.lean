import QueryOptions.Proofs.Derivation.Basic
import QueryOptions.Proofs.Simulation.Basic
import QueryOptions.Proofs.Token.Split

set_option autoImplicit false

namespace QueryOptions

namespace Cursor

inductive Spans : Cursor → List Lexeme → Cursor → Prop where
  | refl (cursor : Cursor) : Spans cursor [] cursor
  | step {cursor between moved : Cursor} {lexemes : List Lexeme} (going : cursor.token.kind ≠ .finish)
      (advanced : advance cursor = .ok () between) (others : Spans between lexemes moved) :
      Spans cursor (cursor.token.lexeme :: lexemes) moved

variable {cursor between moved : Cursor} {lexeme : Lexeme} {lexemes front back : List Lexeme} {name : String}

theorem spans_single (going : cursor.token.kind ≠ .finish) (advanced : advance cursor = .ok () moved) :
    Spans cursor [cursor.token.lexeme] moved := .step going advanced (.refl moved)

theorem spans_append (first : Spans cursor front between) (second : Spans between back moved) :
    Spans cursor (front ++ back) moved := by
  induction first with
  | refl => exact second
  | step going advanced _ ih => exact .step going advanced (ih second)

theorem spans_nil (spans : Spans cursor [] moved) : moved = cursor := by
  cases spans
  rfl

theorem spans_cons (spans : Spans cursor (lexeme :: lexemes) moved) :
    cursor.token.lexeme = lexeme ∧ ∃ between, advance cursor = .ok () between ∧ Spans between lexemes moved := by
  cases spans with
  | step going advanced others => exact ⟨rfl, _, advanced, others⟩

theorem spans_split (spans : Spans cursor (front ++ back) moved) :
    ∃ between, Spans cursor front between ∧ Spans between back moved := by
  induction front generalizing cursor with
  | nil => exact ⟨cursor, .refl cursor, spans⟩
  | cons lexeme front ih =>
      cases spans with
      | step going advanced others =>
          obtain ⟨between, first, second⟩ := ih others
          exact ⟨between, .step going advanced first, second⟩

theorem spans_head (spans : Spans cursor lexemes moved) :
    ∀ first ∈ lexemes.head?, first = cursor.token.lexeme := by
  cases spans with
  | refl => exact fun _ none => by cases none
  | step => exact fun _ same => (Option.some.inj same).symm

theorem head_of_spans (spans : Spans cursor lexemes moved) (some : lexemes ≠ []) :
    lexemes.head? = .some cursor.token.lexeme := by
  cases spans with
  | refl => exact absurd rfl some
  | step => rfl

theorem advance_takes (advanced : advance cursor = .ok () moved) (going : moved.token.kind ≠ .finish) :
    moved.rest.length < cursor.rest.length := by
  have whole := congrArg List.length (List.takeWhile_append_dropWhile (p := Text.isBlank) (l := cursor.rest))
  rw [List.length_append] at whole
  unfold advance at advanced
  dsimp only at advanced
  split at advanced
  · rename_i kept
    cases advanced
    have some := List.length_pos_iff.mpr kept.2.2
    dsimp only
    omega
  · cases visible : cursor.rest.dropWhile Text.isBlank with
    | nil =>
        rw [visible, Dialect.scan_nil] at advanced
        cases advanced
        exact absurd rfl going
    | cons c rest =>
        rw [visible] at advanced whole
        have splits := Dialect.scan_splits cursor.dialect c rest
        split at advanced
        · rename_i kind found
          cases advanced
          have taking := List.length_pos_iff.mpr (splits.takes kind found).2.2
          have split := congrArg List.length splits.split
          rw [List.length_append] at split
          dsimp only
          omega
        · cases advanced

theorem advance_shortens (advanced : advance cursor = .ok () moved) : moved.rest.length ≤ cursor.rest.length := by
  by_cases finish : moved.token.kind = .finish
  · have visible := (@List.dropWhile_suffix _ cursor.rest Text.isBlank).length_le
    unfold advance at advanced
    dsimp only at advanced
    split at advanced
    · cases advanced
      exact visible
    · cases ahead : cursor.rest.dropWhile Text.isBlank with
      | nil =>
          rw [ahead, Dialect.scan_nil] at advanced
          cases advanced
          exact Nat.zero_le _
      | cons c rest =>
          rw [ahead] at advanced visible
          have split := congrArg List.length (Dialect.scan_splits cursor.dialect c rest).split
          rw [List.length_append] at split
          split at advanced
          · cases advanced
            dsimp only
            omega
          · cases advanced
  · exact Nat.le_of_lt (advance_takes advanced finish)

theorem spans_takes (spans : Spans cursor lexemes moved) (some : lexemes ≠ []) (going : moved.token.kind ≠ .finish) :
    moved.rest.length < cursor.rest.length := by
  induction spans with
  | refl => exact absurd rfl some
  | step _ advanced others ih =>
      cases others with
      | refl => exact advance_takes advanced going
      | step => exact Nat.lt_of_lt_of_le (ih (by simp) going) (advance_shortens advanced)

theorem spans_unique (first : Spans cursor front moved) (second : Spans cursor back moved) : front = back := by
  have circle {place : Cursor} {lexemes : List Lexeme} (spans : Spans place lexemes place) : lexemes = [] := by
    cases spans with
    | refl => rfl
    | step going advanced others =>
        exact absurd (spans_takes (.step going advanced others) (List.cons_ne_nil _ _) going) (Nat.lt_irrefl _)
  induction first generalizing back with
  | refl => exact (circle second).symm
  | step going advanced others ih =>
      cases second with
      | refl => exact circle (.step going advanced others)
      | step going' advanced' others' =>
          cases advanced.symm.trans advanced'
          rw [ih others']

theorem spans_length (spans : Spans cursor lexemes moved) : lexemes.length ≤ cursor.rest.length + 1 := by
  induction spans with
  | refl => exact Nat.zero_le _
  | step _ advanced others ih =>
      cases others with
      | refl => exact Nat.le_add_left _ _
      | step going =>
          have shorter := advance_takes advanced going
          simp only [List.length_cons] at ih ⊢
          omega

theorem step_bind_done {α β : Type} {step : Step α} {f : α → Step β} {value : α} (done : step cursor = .ok value between) :
    (step >>= f) cursor = f value between := by
  change EStateM.bind step f cursor = _
  unfold EStateM.bind
  rw [done]

theorem step_bind_ok {α β : Type} {step : Step α} {f : α → Step β} {value : β}
    (done : (step >>= f) cursor = .ok value moved) :
    ∃ first between, step cursor = .ok first between ∧ f first between = .ok value moved := by
  change EStateM.bind step f cursor = _ at done
  unfold EStateM.bind at done
  cases result : step cursor with
  | ok first between =>
      rw [result] at done
      exact ⟨first, between, rfl, done⟩
  | error error between =>
      rw [result] at done
      cases done

theorem name_going {token : Token} (named : isName token) : token.kind ≠ .finish := by
  intro finish
  simp [isName, finish] at named

variable {acceptStar : Bool}

theorem dotted_parts_succ (parts : Nat) (name : String) (cursor : Cursor) :
    dottedParts acceptStar (parts + 1) name cursor =
      if cursor.token.kind = .dot then
        (do
          advance
          let cursor ← get
          if isName cursor.token then
            advance
            dottedParts acceptStar parts (name ++ "." ++ cursor.token.text)
          else if cursor.token.kind = .star ∧ acceptStar then
            advance
            pure (name ++ ".*")
          else throw (cursor.expected "identifier") : Step String) cursor
      else .ok name cursor := by
  by_cases dot : cursor.token.kind = .dot
  · rw [if_pos dot]
    exact congrFun (if_pos dot) cursor
  · rw [if_neg dot]
    exact congrFun (if_neg dot) cursor

theorem star_going {token : Token} (stars : token.kind = .star) : token.kind ≠ .finish := by
  rw [stars]
  decide

theorem dotted_parts_sound (parts : Nat) (front : List Lexeme) (name : String) {whole : String}
    (before : Expression.Name front name) (done : dottedParts acceptStar parts name cursor = .ok whole moved) :
    ∃ back, Spans cursor back moved ∧ Expression.Starred acceptStar (front ++ back) whole := by
  induction parts generalizing front name cursor with
  | zero =>
      cases done
      exact ⟨[], .refl _, by rw [List.append_nil]; exact .name before⟩
  | succ parts ih =>
      rw [dotted_parts_succ] at done
      by_cases dot : cursor.token.kind = .dot
      · rw [if_pos dot] at done
        have going : cursor.token.kind ≠ .finish := by rw [dot]; decide
        obtain ⟨_, onto, advanced, done⟩ := step_bind_ok done
        obtain ⟨_, _, ⟨⟩, done⟩ := step_bind_ok done
        by_cases named : isName onto.token
        · rw [if_pos named] at done
          obtain ⟨_, past, advanced', done⟩ := step_bind_ok done
          have longer : Expression.Name (front ++ [cursor.token.lexeme, onto.token.lexeme])
              (name ++ "." ++ onto.token.text) := .dotted before dot named
          obtain ⟨back, spans, starred⟩ := ih _ _ longer done
          refine ⟨cursor.token.lexeme :: onto.token.lexeme :: back, ?_, by rwa [List.append_assoc] at starred⟩
          exact .step going advanced (.step (name_going named) advanced' spans)
        · rw [if_neg named] at done
          by_cases star : onto.token.kind = .star ∧ acceptStar
          · rw [if_pos star] at done
            obtain ⟨_, past, advanced', done⟩ := step_bind_ok done
            cases done
            exact ⟨_, .step going advanced (spans_single (star_going star.1) advanced'), .wildcard before dot star.1 star.2⟩
          · rw [if_neg star] at done
            cases done
      · rw [if_neg dot] at done
        cases done
        exact ⟨[], .refl _, by rw [List.append_nil]; exact .name before⟩

theorem dotted_name_sound (done : dottedName acceptStar cursor = .ok name moved) :
    ∃ lexemes, Spans cursor lexemes moved ∧ Expression.Starred acceptStar lexemes name := by
  by_cases named : isName cursor.token
  · replace done : (do
        advance
        dottedParts acceptStar (cursor.rest.length + 1) cursor.token.text : Step String) cursor = .ok name moved :=
      (congrFun (if_pos named) cursor).symm.trans done
    obtain ⟨_, between, advanced, done⟩ := step_bind_ok done
    obtain ⟨back, spans, starred⟩ := dotted_parts_sound _ [cursor.token.lexeme] _ (.single named) done
    exact ⟨_, .step (name_going named) advanced spans, starred⟩
  · replace done : (if cursor.token.kind = .star ∧ acceptStar then (do
        advance
        pure "*") else throw (cursor.expected "identifier") : Step String) cursor = .ok name moved :=
      (congrFun (if_neg named) cursor).symm.trans done
    by_cases star : cursor.token.kind = .star ∧ acceptStar
    · rw [if_pos star] at done
      obtain ⟨_, between, advanced, done⟩ := step_bind_ok done
      cases done
      exact ⟨_, spans_single (star_going star.1) advanced, .star star.1 star.2⟩
    · rw [if_neg star] at done
      cases done

theorem dotted_parts_stop (parts : Nat) (name : String) (stops : cursor.token.kind ≠ .dot) :
    dottedParts acceptStar parts name cursor = .ok name cursor := by
  cases parts with
  | zero => rfl
  | succ parts => rw [dotted_parts_succ, if_neg stops]

theorem dotted_parts_complete (spelled : Expression.Name lexemes name) (spare : Nat)
    (spans : Spans cursor lexemes moved) :
    isName cursor.token ∧ ∃ parts, spare ≤ parts ∧
      (do
        advance
        dottedParts acceptStar (spare + lexemes.length) cursor.token.text : Step String) cursor =
          dottedParts acceptStar parts name moved := by
  induction spelled generalizing moved spare with
  | single named =>
      obtain ⟨rfl, between, advanced, others⟩ := spans_cons spans
      obtain rfl := spans_nil others
      exact ⟨named, _, Nat.le_add_right _ _, step_bind_done advanced⟩
  | @dotted front name dot last before dots named ih =>
      obtain ⟨atDots, first, second⟩ := spans_split spans
      obtain ⟨rfl, onto, advanced, others⟩ := spans_cons second
      obtain ⟨rfl, past, advanced', others⟩ := spans_cons others
      obtain rfl := spans_nil others
      obtain ⟨start, parts, enough, same⟩ := ih (spare + 2) first
      obtain ⟨parts, rfl⟩ : ∃ fewer, parts = fewer + 1 := ⟨parts - 1, by omega⟩
      have atDot : atDots.token.kind = .dot := dots
      have following : isName onto.token := named
      have length : spare + (front ++ [atDots.token.lexeme, onto.token.lexeme]).length = spare + 2 + front.length := by
        simp only [List.length_append, List.length_cons, List.length_nil]
        omega
      refine ⟨start, parts, by omega, ?_⟩
      rw [length, same, dotted_parts_succ, if_pos atDot, step_bind_done advanced]
      refine (step_bind_done rfl).trans ?_
      rw [if_pos following]
      exact step_bind_done advanced'

theorem dotted_name_complete (spelled : Expression.Name lexemes name) (spans : Spans cursor lexemes moved)
    (stops : moved.token.kind ≠ .dot) : dottedName acceptStar cursor = .ok name moved := by
  have length := spans_length spans
  obtain ⟨named, parts, -, same⟩ := dotted_parts_complete spelled (cursor.rest.length + 1 - lexemes.length) spans
  rw [Nat.sub_add_cancel length, dotted_parts_stop _ _ stops] at same
  exact (congrFun (if_pos named) cursor).trans same

theorem starred_complete (starred : Expression.Starred true lexemes name) (spans : Spans cursor lexemes moved)
    (stops : moved.token.kind ≠ .dot) : dottedName true cursor = .ok name moved := by
  cases starred with
  | name spelled => exact dotted_name_complete spelled spans stops
  | star stars =>
      obtain ⟨rfl, between, advanced, others⟩ := spans_cons spans
      obtain rfl := spans_nil others
      have at_star : cursor.token.kind = .star := stars
      have unnamed : ¬ isName cursor.token := by simp [isName, at_star]
      refine (congrFun (if_neg unnamed) cursor).trans ((congrFun (if_pos ⟨at_star, rfl⟩) cursor).trans ?_)
      exact step_bind_done advanced
  | @wildcard front name dot star before dots stars =>
      obtain ⟨at_dot, first, second⟩ := spans_split spans
      obtain ⟨rfl, onto, advanced, others⟩ := spans_cons second
      obtain ⟨rfl, past, advanced', others⟩ := spans_cons others
      obtain rfl := spans_nil others
      have length : front.length + 2 ≤ cursor.rest.length + 1 := by
        have all := spans_length spans
        simpa using all
      obtain ⟨named, parts, enough, same⟩ := @dotted_parts_complete _ _ _ _ true before (cursor.rest.length + 1 - front.length) first
      obtain ⟨parts, rfl⟩ : ∃ fewer, parts = fewer + 1 := ⟨parts - 1, by omega⟩
      have dots' : at_dot.token.kind = .dot := dots
      have stars' : onto.token.kind = .star := stars
      have unnamed : ¬ isName onto.token := by simp [isName, stars']
      rw [Nat.sub_add_cancel (by omega), dotted_parts_succ, if_pos dots', step_bind_done advanced] at same
      refine (congrFun (if_pos named) cursor).trans (same.trans ((step_bind_done rfl).trans ?_))
      rw [if_neg unnamed, if_pos ⟨stars', rfl⟩]
      exact step_bind_done advanced'

end Cursor

end QueryOptions
