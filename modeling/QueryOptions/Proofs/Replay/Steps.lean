import QueryOptions.Proofs.Derivation.Complete
import QueryOptions.Proofs.Replay.Basic

set_option autoImplicit false

namespace QueryOptions

namespace Cursor

variable {cursor moved : Cursor} {name whole : String} {parts : Nat}

theorem dotted_parts_stops (enough : cursor.token.kind = .dot → cursor.rest.length < parts)
    (done : dottedParts false parts name cursor = .ok whole moved) : moved.token.kind ≠ .dot := by
  induction parts generalizing name cursor with
  | zero =>
      cases done
      exact fun dot => absurd (enough dot) (Nat.not_lt_zero _)
  | succ parts ih =>
      rw [dotted_parts_succ] at done
      by_cases dot : cursor.token.kind = .dot
      · rw [if_pos dot] at done
        obtain ⟨_, onto, advanced, done⟩ := step_bind_ok done
        obtain ⟨_, _, ⟨⟩, done⟩ := step_bind_ok done
        by_cases named : isName onto.token
        · rw [if_pos named] at done
          obtain ⟨_, past, advanced', done⟩ := step_bind_ok done
          refine ih (fun dot' => ?_) done
          have shorter := advance_takes advanced' (by rw [dot']; decide)
          have shorter' := advance_shortens advanced
          have enough := enough dot
          omega
        · rw [if_neg named, if_neg (by simp)] at done
          cases done
      · rw [if_neg dot] at done
        cases done
        exact dot

theorem dotted_name_stops (done : dottedName false cursor = .ok name moved) : moved.token.kind ≠ .dot := by
  by_cases named : isName cursor.token
  · replace done : (do
        advance
        dottedParts false (cursor.rest.length + 1) cursor.token.text : Step String) cursor = .ok name moved :=
      (congrFun (if_pos named) cursor).symm.trans done
    obtain ⟨_, between, advanced, done⟩ := step_bind_ok done
    exact dotted_parts_stops (fun _ => Nat.lt_succ_of_le (advance_shortens advanced)) done
  · replace done : (if cursor.token.kind = .star ∧ false = true then _ else throw (cursor.expected "identifier") : Step String)
        cursor = .ok name moved := (congrFun (if_neg named) cursor).symm.trans done
    rw [if_neg (by simp)] at done
    cases done

end Cursor

open Parse

variable {α β : Type} {starts : Lexeme → Prop} {alike alike' : Lexeme → Lexeme → Prop} {made : β → List String → Prop}
variable {settings : Settings} {kind : TokenKind} {item : Parse α} {f : Unit → Parse β} {state after : ParseState}

theorem replays_expect {made : Unit → List String → Prop} {description : String}
    (other : kind ≠ .identifier ∧ kind ≠ .finish ∧ kind ≠ .atSign) (makes : made () []) :
    Replays settings true starts alike made (expect kind description) := by
  refine replays_step .mark (fun first _ => first.kind = kind) (fun state _ after => ⟨expect_ok, fun ⟨found, done⟩ => ?_⟩)
    (fun _ _ _ found => found ▸ other.2)
    fun first _ _ found => ⟨rfl, fun _ same => same ▸ found, [], .mark (found ▸ other.1) .nil, makes⟩
  exact (expect_found found).trans done

theorem replays_expect_then {description : String} (other : kind ≠ .identifier ∧ kind ≠ .finish ∧ kind ≠ .atSign)
    (rest : Replays settings false Anywhere alike made (f ())) :
    Replays settings true starts alike made (expect kind description >>= f) := by
  have first : Replays settings true starts (fun _ _ => True) (fun _ names => names = []) (expect kind description) :=
    replays_expect other rfl
  have second (value : Unit) (names : List String) (none : names = []) :
      Replays settings false Anywhere alike (fun result more => made result (names ++ more)) (f value) := by
    rw [none]
    exact rest
  exact replays_bind first second (fun _ _ _ _ => trivial) fun _ _ _ => trivial

theorem replays_identifier (description : String) :
    Replays settings true starts alike (fun name names => names = [name]) (identifier description) := by
  have named {first : Lexeme} (word : first.kind = .identifier) : first.isName := by
    rw [Lexeme.isName, Cursor.isName, word]
  refine replays_step .name (fun first name => first.kind = .identifier ∧ name = first.text)
    (fun state name after => ⟨fun done => ?_, fun passed => ?_⟩)
    (fun _ _ _ fits => by rw [fits.1]; decide)
    fun first name _ fits => ⟨rfl, fun _ same => same ▸ fits, [name], ?_, rfl⟩
  · by_cases word : state.cursor.token.kind = .identifier
    · replace done : (do
          advance
          pure state.cursor.token.text : Parse String) state = .ok name after :=
        (congrFun (if_pos word) state).symm.trans done
      obtain ⟨_, between, advances, done⟩ := bind_ok done
      cases done
      exact ⟨⟨word, rfl⟩, advances⟩
    · exact absurd (identifier_walks done).1 word
  · obtain ⟨⟨word, same⟩, advances⟩ := passed
    refine (congrFun (if_pos word) state).trans ((bind_done advances).trans ?_)
    rw [same]
    rfl
  · rw [fits.2]
    exact Use.names_single (.single (named fits.1))

theorem replays_expect_keyword {made : Unit → List String → Prop} {keyword : String} (makes : made () []) :
    Replays settings true starts alike made (expectKeyword settings.ignoreCase keyword) := by
  refine replays_at_keyword (fun never => by cases never) fun seen => ?_
  refine replays_ite (fun found => replays_advance (fun first here => ?_) makes) fun _ =>
    replays_never fun _ _ _ _ done => by cases done
  exact .inl ⟨keyword, here.2.trans found⟩

theorem replays_dotted_name (undotted : ∀ x y, alike x y → x.kind ≠ .dot → y.kind ≠ .dot) :
    Replays settings true starts alike (fun name names => names = [name]) (dottedName false) := by
  intro state name after _ done
  obtain ⟨lexemes, ⟨spans, -⟩, spelled⟩ := dotted_name_walks done
  have moves {state after : ParseState} (done : dottedName false state = .ok name after) :
      Cursor.dottedName false state.cursor = .ok name after.cursor ∧ after = { state with cursor := after.cursor } := by
    unfold dottedName move at done
    cases read : Cursor.dottedName false state.cursor with
    | error error moved =>
        rw [read] at done
        cases done
    | ok value moved =>
        rw [read] at done
        cases done
        exact ⟨rfl, rfl⟩
  obtain ⟨read, kept⟩ := moves done
  refine ⟨lexemes.map Use.name, [name], lexemes, rfl, Use.names_single spelled, fun _ => Expression.name_ne_nil spelled,
    Use.admit_names lexemes, spans, Expression.name_aliased spelled, fun others cursor moved fits spans' behind => ?_⟩
  obtain rfl := Use.names_admitted fits
  have stops := undotted _ _ behind (Cursor.dotted_name_stops read)
  rw [kept]
  unfold dottedName move
  rw [Cursor.dotted_name_complete spelled spans' stops]

section

variable {separator : TokenKind} {written : α → List String} {uses : List Use} {lexemes : List Lexeme}

structure SeparatedAgain (settings : Settings) (alike : Lexeme → Lexeme → Prop) (separator : TokenKind) (item : Parse α)
    (state : ParseState) (uses : List Use) (lexemes : List Lexeme) (values : List α) (after : ParseState) : Prop where
  admitted : Use.Admit settings uses lexemes
  spans : state.cursor.Spans lexemes after.cursor
  named : ∀ lexeme ∈ lexemes, lexeme.kind ≠ .atSign
  again : ∀ others cursor moved count, (cursor.token.kind = separator → cursor.rest.length < count) →
    Use.Admit settings uses others → cursor.Spans others moved → alike after.cursor.token.lexeme moved.token.lexeme →
    separated separator item count { state with cursor := cursor } = .ok values { after with cursor := moved }

theorem separated_again_none (other : state.cursor.token.kind ≠ separator)
    (agree : ∀ x y, alike x y → (x.kind = separator ↔ y.kind = separator)) :
    SeparatedAgain settings alike separator item state [] [] [] state := by
  refine ⟨.nil, .refl _, List.forall_mem_nil _, fun others cursor moved count _ fits spans behind => ?_⟩
  cases fits
  rw [Cursor.spans_nil spans] at behind ⊢
  exact Expression.separated_stops count fun same => other ((agree _ _ behind).mpr same)

theorem separated_again (plain : separator ≠ .identifier ∧ separator ≠ .finish ∧ separator ≠ .atSign)
    (items : Replays settings true Anywhere alike (fun value names => names = written value) item)
    (covers : ∀ x y, Same settings x y → alike x y)
    (agree : ∀ x y, alike' x y → alike x y ∧ (x.kind = separator ↔ y.kind = separator)) {count : Nat} {values : List α}
    (enough : state.cursor.token.kind = separator → state.cursor.rest.length < count)
    (done : separated separator item count state = .ok values after) :
    ∃ uses lexemes, Use.Names uses (values.flatMap written) ∧
      SeparatedAgain settings alike' separator item state uses lexemes values after := by
  induction count generalizing state values with
  | zero =>
      cases done
      refine ⟨[], [], .nil, separated_again_none ?_ fun x y same => (agree x y same).2⟩
      exact fun same => absurd (enough same) (Nat.not_lt_zero _)
  | succ count ih =>
      by_cases marks : state.cursor.token.kind = separator
      · replace done : (do
            advance
            let first ← item
            let rest ← separated separator item count
            pure (first :: rest) : Parse (List α)) state = .ok values after :=
          (congrFun (if_pos (beq_of_eq marks)) state).symm.trans done
        obtain ⟨_, ready, advanced, done⟩ := bind_ok done
        obtain ⟨first, between, ran, done⟩ := bind_ok done
        obtain ⟨rest, last, ran', done⟩ := bind_ok done
        cases done
        obtain ⟨onto, stepped, rfl⟩ := advance_ok advanced
        obtain ⟨uses, names, front, rfl, used, some, own⟩ := items _ first between trivial ran
        -- Behind an item less is left to count than before it, here as elsewhere.
        have fewer {place onto middle : Cursor} {count : Nat} {own : List Lexeme} (some : own ≠ [])
            (stepped : Cursor.advance place = .ok () onto) (spans : onto.Spans own middle)
            (enough : place.rest.length < count + 1) (same : middle.token.kind = separator) :
            middle.rest.length < count := by
          have taking := Cursor.spans_takes spans some (by rw [same]; exact plain.2.1)
          have shorter := Cursor.advance_shortens stepped
          omega
        obtain ⟨uses', back, used', others⟩ := ih (fewer (some rfl) stepped own.spans (enough marks)) ran'
        have going : state.cursor.token.kind ≠ .finish := by rw [marks]; exact plain.2.1
        have kind : state.cursor.token.lexeme.kind = separator := marks
        refine ⟨.mark state.cursor.token.lexeme :: (uses ++ uses'), state.cursor.token.lexeme :: (front ++ back),
          .mark (kind ▸ plain.1) (Use.names_append used used'), .cons rfl (Use.admit_append own.admitted others.admitted),
          .step going stepped (Cursor.spans_append own.spans others.spans),
          List.forall_mem_cons.mpr ⟨kind ▸ plain.2.2, List.forall_mem_append.mpr ⟨own.named, others.named⟩⟩,
          fun _ cursor moved other enough' fits whole behind => ?_⟩
        obtain _ | ⟨mark', fits⟩ := fits
        obtain ⟨front', back', rfl, fits, fits'⟩ := Use.admit_split fits
        obtain ⟨mark, onto', stepped', ahead⟩ := Cursor.spans_cons whole
        obtain ⟨middle, here, there⟩ := Cursor.spans_split ahead
        have marks' : cursor.token.kind = separator := (congrArg Lexeme.kind (mark.trans mark')).trans marks
        have enough' := enough' marks'
        obtain ⟨other, rfl⟩ := Nat.exists_eq_succ_of_ne_zero (Nat.ne_zero_of_lt enough')
        have some' : front' ≠ [] := fun none =>
          some rfl (List.length_eq_zero_iff.mp (by rw [← own.admitted.length_eq, fits.length_eq, none]; rfl))
        have between' : alike between.cursor.token.lexeme middle.token.lexeme :=
          alike_of_spans others.admitted fits' others.spans there covers fun _ => (agree _ _ behind).1
        refine (congrFun (if_pos (beq_of_eq marks')) _).trans ((bind_done (advance_done stepped')).trans ?_)
        refine (bind_done (own.again front' onto' middle fits here between')).trans ?_
        exact bind_done (others.again back' middle moved other (fewer some' stepped' here enough') fits' there behind)
      · rw [Expression.separated_stops _ marks] at done
        cases done
        exact ⟨[], [], .nil, separated_again_none marks fun x y same => (agree x y same).2⟩

theorem replays_sep_by (plain : separator ≠ .identifier ∧ separator ≠ .finish ∧ separator ≠ .atSign)
    (items : Replays settings true Anywhere alike (fun value names => names = written value) item)
    (covers : ∀ x y, Same settings x y → alike x y)
    (agree : ∀ x y, alike' x y → alike x y ∧ (x.kind = separator ↔ y.kind = separator)) :
    Replays settings true starts alike' (fun values names => names = values.flatMap written) (sepBy separator item) := by
  have rest (first : α) (names : List String) (makes : names = written first) :
      Replays settings false Anywhere alike' (fun values more => names ++ more = values.flatMap written) (do
        let rest ← separated separator item ((← get).cursor.rest.length + 1)
        pure (first :: rest) : Parse (List α)) := by
    intro state values after _ done
    obtain ⟨_, _, ⟨⟩, done⟩ := bind_ok done
    obtain ⟨rest, last, ran, done⟩ := bind_ok done
    cases done
    obtain ⟨uses, lexemes, used, own⟩ := separated_again plain items covers agree (fun _ => Nat.lt_succ_self _) ran
    subst makes
    refine ⟨uses, _, lexemes, List.flatMap_cons.symm, used, nofun, own.admitted, own.spans, own.named,
      fun others cursor moved fits spans' behind => ?_⟩
    refine (bind_done rfl).trans (bind_done ?_)
    exact own.again others cursor moved _ (fun _ => Nat.lt_succ_self _) fits spans' behind
  exact replays_bind (replays_anywhere items) rest (fun _ x y same => (agree x y same).1) covers

theorem replays_sep_by_exact (plain : separator ≠ .identifier ∧ separator ≠ .finish ∧ separator ≠ .atSign)
    (items : Replays settings true Anywhere (Same settings) (fun value names => names = written value) item) :
    Replays settings true starts (Same settings) (fun values names => names = values.flatMap written)
      (sepBy separator item) :=
  replays_sep_by plain items (fun _ _ => id) fun _ _ same => ⟨same, by rw [same_kind same]⟩

end

end QueryOptions
