import QueryOptions.Proofs.Nested.Value

set_option autoImplicit false

namespace QueryOptions

open Parse

def ItemOption.given (options : NestedOptions) : ItemOption → Bool
  | filter => options.filter.isSome
  | orderBy => options.orderBy.isSome
  | top => options.top.isSome
  | skip => options.skip.isSome
  | count => options.count.isSome
  | search => options.search.isSome
  | select => options.select.isSome
  | compute => options.compute.isSome
  | expand => options.expand.isSome
  | levels => options.levels.isSome

def ParsedOption.itemOption? : ParsedOption → Option ItemOption
  | filter _ => some .filter
  | search _ => some .search
  | orderBy _ => some .orderBy
  | compute _ => some .compute
  | select _ => some .select
  | expand _ => some .expand
  | apply _ => none

namespace Items

variable {settings : Settings} {levels : Nat} {nested : ItemKind → String → Nat → Parse (List Item)}
variable {kind : ItemKind} {seen seen' : List ItemOption} {options options' others : NestedOptions}
variable {option item : ItemOption} {state after : ParseState}

theorem read_value_sets {value : String} {position : Nat}
    (done : readValue settings levels nested options option value position state = .ok options' after) :
    option.given options' ∧ (∀ other : ItemOption, other.given options → other.given options') ∧
      ∀ parsed : ParsedOption, parsed.itemOption? ≠ some option →
        readValue settings levels nested (parsed.into options) option value position state =
          .ok (parsed.into options') after := by
  cases option
  all_goals
    obtain ⟨field, between, ran, rest⟩ := bind_ok done
    cases rest
    refine ⟨rfl, fun other given => ?_, fun parsed different => ?_⟩
    · cases other <;> first | exact given | rfl
    · cases parsed <;> first | exact bind_done ran | exact absurd rfl different

theorem option_name_found {named : Cursor} (identifier : state.cursor.token.kind = .identifier)
    (found : kind.option? settings state.cursor.token.text = some option)
    (advanced : Cursor.advance state.cursor = .ok () named) (equal : named.token.kind = .equal)
    (fresh : option ∉ seen) : optionName settings kind seen state = .ok option { state with cursor := named } := by
  have named_ok : (if named.token.kind == .equal then
      if option ∈ seen then throw (.duplicateOption option.name state.cursor.token.position) else pure option
      else failExpected "'='" : Parse ItemOption) { state with cursor := named } =
        .ok option { state with cursor := named } := by
    rw [if_pos (beq_iff_eq.mpr equal), if_neg fresh]
    rfl
  change (if state.cursor.token.kind = .identifier then _ else _ : Parse ItemOption) state = _
  rw [if_pos identifier, found]
  exact (bind_done (advance_done advanced)).trans named_ok

-- The name of an option that is read. Of the options seen it matters only that it is not
-- among them.
structure Named (settings : Settings) (kind : ItemKind) (option : ItemOption) (state : ParseState) (named : Cursor) :
    Prop where
  advanced : Cursor.advance state.cursor = .ok () named
  equal : named.token.kind = .equal
  again : ∀ seen, option ∉ seen → optionName settings kind seen state = .ok option { state with cursor := named }

theorem option_name_parts (done : optionName settings kind seen state = .ok option after) :
    state.cursor.token.kind = .identifier ∧ kind.option? settings state.cursor.token.text = some option ∧ option ∉ seen ∧
      ∃ named, Cursor.advance state.cursor = .ok () named ∧ named.token.kind = .equal ∧
        after = { state with cursor := named } := by
  change (if state.cursor.token.kind = .identifier then _ else _ : Parse ItemOption) state = _ at done
  by_cases identifier : state.cursor.token.kind = .identifier
  · rw [if_pos identifier] at done
    cases found : kind.option? settings state.cursor.token.text with
    | none =>
        rw [found] at done
        cases done
    | some named =>
        rw [found] at done
        obtain ⟨_, between, stepped, rest⟩ := bind_ok done
        obtain ⟨moved, advanced, rfl⟩ := advance_ok stepped
        change (if moved.token.kind == .equal then _ else _ : Parse ItemOption) _ = _ at rest
        by_cases equal : moved.token.kind = .equal
        · rw [if_pos (beq_iff_eq.mpr equal)] at rest
          by_cases again : named ∈ seen
          · rw [if_pos again] at rest
            cases rest
          · rw [if_neg again] at rest
            cases rest
            exact ⟨identifier, rfl, again, moved, advanced, equal, rfl⟩
        · rw [if_neg (by simpa using equal)] at rest
          cases rest
  · rw [if_neg identifier] at done
    cases done

theorem option_name_ok (done : optionName settings kind seen state = .ok option after) :
    ∃ named, Named settings kind option state named ∧ option ∉ seen ∧ after = { state with cursor := named } := by
  obtain ⟨identifier, found, fresh, named, advanced, equal, rfl⟩ := option_name_parts done
  exact ⟨named, ⟨advanced, equal, fun _ => option_name_found identifier found advanced equal⟩, fresh, rfl⟩

theorem named_word {named : Cursor} (name : Named settings kind option state named) :
    state.cursor.token.kind = .identifier ∧ kind.option? settings state.cursor.token.text = some option := by
  obtain ⟨identifier, found, -⟩ := option_name_parts (name.again [] List.not_mem_nil)
  exact ⟨identifier, found⟩

structure Round (settings : Settings) (kind : ItemKind) (levels : Nat)
    (nested : ItemKind → String → Nat → Parse (List Item)) (options : NestedOptions) (option : ItemOption)
    (state : ParseState) (options' : NestedOptions) (found moved : Cursor) : Prop where
  read : ∃ named value position, Named settings kind option state named ∧
    Cursor.optionValue named = .ok (value, position) found ∧
    readValue settings levels nested options option value position { state with cursor := found } =
      .ok options' { state with cursor := found }
  advanced : Cursor.advance found = .ok () moved

variable {found moved : Cursor} {count : Nat}

theorem options_from_round (round : Round settings kind levels nested options option state options' found moved)
    (fresh : option ∉ seen) :
    optionsFrom settings kind levels nested (count + 1) seen options state =
      (if found.token.kind == .closeParen then pure options'
        else optionsFrom settings kind levels nested count (option :: seen) options' : Parse NestedOptions)
        { state with cursor := moved } := by
  obtain ⟨⟨named, value, position, name, cut, read⟩, advanced⟩ := round
  have valued : move Cursor.optionValue { state with cursor := named } =
      .ok (value, position) { state with cursor := found } := by
    unfold move
    rw [cut]
  have stepped : advance { state with cursor := found } = .ok () { state with cursor := moved } := advance_done advanced
  exact (bind_done (name.again seen fresh)).trans ((bind_done valued).trans ((bind_done read).trans (bind_done stepped)))

theorem options_from_ok (fits : NestedFits settings levels nested)
    (done : optionsFrom settings kind levels nested (count + 1) seen options state = .ok others after) :
    ∃ option options' found moved, Round settings kind levels nested options option state options' found moved ∧
      option ∉ seen := by
  obtain ⟨option, between, spelled, rest⟩ := bind_ok done
  obtain ⟨named, name, fresh, rfl⟩ := option_name_ok spelled
  obtain ⟨⟨value, position⟩, between, valued, rest⟩ := bind_ok rest
  unfold move at valued
  cases cut : Cursor.optionValue named with
  | error error found =>
      rw [cut] at valued
      cases valued
  | ok pair found =>
      rw [cut] at valued
      cases valued
      obtain ⟨options', between, read, rest⟩ := bind_ok rest
      have stays : Stays False { state with cursor := found }
          (readValue settings levels nested options option value position { state with cursor := found }) :=
        read_value_stays fits options option value position False.elim
      rw [read] at stays
      obtain rfl : between = _ := stays
      obtain ⟨_, between, looked, rest⟩ := bind_ok rest
      cases looked
      obtain ⟨_, _, stepped, -⟩ := bind_ok rest
      obtain ⟨moved, advanced, -⟩ := advance_ok stepped
      exact ⟨option, options', found, moved, ⟨⟨named, value, position, name, cut, read⟩, advanced⟩, fresh⟩

theorem options_from_given (fits : NestedFits settings levels nested) {other : ItemOption}
    (done : optionsFrom settings kind levels nested count seen options state = .ok others after)
    (given : other.given options) : other.given others := by
  induction count generalizing seen options state with
  | zero =>
      cases done
      exact given
  | succ count ih =>
      obtain ⟨option, options', found, moved, round, fresh⟩ := options_from_ok fits done
      rw [options_from_round round fresh] at done
      obtain ⟨named, value, position, -, -, read⟩ := round.read
      have kept := (read_value_sets read).2.1 other given
      by_cases last : found.token.kind = .closeParen
      · rw [if_pos (beq_iff_eq.mpr last)] at done
        cases done
        exact kept
      · rw [if_neg (by simpa using last)] at done
        exact ih done kept

theorem round_shrinks (lexed : Cursor.Lexed .expression state.cursor)
    (round : Round settings kind levels nested options option state options' found moved) :
    Cursor.Lexed .expression moved ∧ moved.rest.length < state.cursor.rest.length := by
  obtain ⟨⟨named, value, position, name, cut, -⟩, advanced⟩ := round
  have valueRead := option_value_read (steps_lexed lexed name.advanced) name.equal cut
  have rest := (rest_suffix lexed.blanks name.advanced).length_le
  have shorter := Cursor.ahead_shortens valueRead.lexed valueRead.going advanced
  have fits := valueRead.fits
  have within := moved.rest_le_ahead
  exact ⟨steps_lexed valueRead.lexed advanced, by omega⟩

-- Options that do not set the field of another option are read after it as they are without
-- it.
theorem options_from_into (fits : NestedFits settings levels nested) {parsed : ParsedOption}
    (same : parsed.itemOption? = some item) {count' : Nat}
    (done : optionsFrom settings kind levels nested count seen options state = .ok others after)
    (lexed : Cursor.Lexed .expression state.cursor) (enough : state.cursor.rest.length < count)
    (enough' : state.cursor.rest.length < count') (seeing : ∀ option ∈ seen', option ∈ seen ∨ option = item)
    (lacks : ¬ item.given others) :
    optionsFrom settings kind levels nested count' seen' (parsed.into options) state = .ok (parsed.into others) after := by
  -- By induction on the pieces of the run without the other option. Both runs have enough
  -- of them for the text, and the text gets shorter with every round.
  induction count generalizing seen seen' options state count' with
  | zero => exact absurd enough (Nat.not_lt_zero _)
  | succ count ih =>
      obtain ⟨fuel, rfl⟩ : ∃ fuel, count' = fuel + 1 := ⟨count' - 1, by omega⟩
      obtain ⟨option, options', found, moved, round, fresh⟩ := options_from_ok fits done
      obtain ⟨lexed', shorter⟩ := round_shrinks lexed round
      rw [options_from_round round fresh] at done
      obtain ⟨named, value, position, name, cut, read⟩ := round.read
      obtain ⟨given, -, apart⟩ := read_value_sets read
      -- What a round sets is still set at the end, so it is not the option in front.
      have still : option.given others := by
        by_cases last : found.token.kind = .closeParen
        · rw [if_pos (beq_iff_eq.mpr last)] at done
          cases done
          exact given
        · rw [if_neg (by simpa using last)] at done
          exact options_from_given fits done given
      have other : option ≠ item := by
        rintro rfl
        exact lacks still
      have fresh' : option ∉ seen' := fun member => (seeing option member).elim fresh other
      have round' : Round settings kind levels nested (parsed.into options) option state (parsed.into options')
          found moved :=
        ⟨⟨named, value, position, name, cut, apart parsed fun named => other
          (Option.some.inj (named.symm.trans same))⟩, round.advanced⟩
      rw [options_from_round round' fresh']
      by_cases last : found.token.kind = .closeParen
      · rw [if_pos (beq_iff_eq.mpr last)] at done ⊢
        cases done
        rfl
      · rw [if_neg (by simpa using last)] at done ⊢
        refine ih done lexed' (by dsimp only; omega) (by dsimp only; omega) fun option' member => ?_
        rcases List.mem_cons.mp member with first | earlier
        · exact .inl (List.mem_cons.mpr (.inl first))
        · exact (seeing option' earlier).imp (fun seen => List.mem_cons_of_mem _ seen) id

end Items

end QueryOptions
