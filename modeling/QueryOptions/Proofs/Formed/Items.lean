import QueryOptions.Proofs.Formed.Basic

set_option autoImplicit false

namespace QueryOptions

open Parse

variable {settings : Settings} {scope : List String} {fits : ParseState → Prop} {levels : Nat}

namespace Search

section

variable (C : Carried fits) {operand more : Parse Expr} {rest : Expr → Parse Expr} {left : Expr}

include C

theorem or_link_makes (operands : Makes fits operand Formed) (links : ∀ left, Formed left → Makes fits (rest left) Formed)
    (formed : Formed left) : Makes fits (orLink settings operand rest left) Formed := by
  refine makes_at_keyword fun _ => makes_ite (fun _ => ?_) fun _ => makes_pure formed
  refine makes_hold C (makes_advance C (makes_bind operands fun right formed' => links _ ?_))
  obtain ⟨tree, rfl⟩ := formed
  obtain ⟨tree', rfl⟩ := formed'
  exact ⟨.or tree tree', rfl⟩

theorem join_makes (operands : Makes fits operand Formed) (links : ∀ left, Formed left → Makes fits (rest left) Formed)
    (formed : Formed left) : Makes fits (join settings operand rest left) Formed := by
  refine makes_hold C (makes_bind operands fun right formed' => links _ ?_)
  obtain ⟨tree, rfl⟩ := formed
  obtain ⟨tree', rfl⟩ := formed'
  exact ⟨.and tree tree', rfl⟩

theorem and_link_makes (operands : Makes fits operand Formed) (links : ∀ left, Formed left → Makes fits (rest left) Formed)
    (formed : Formed left) : Makes fits (andLink settings operand rest left) Formed := by
  have joined : Makes fits (join settings operand rest left) Formed := join_makes C operands links formed
  have looked : Makes fits atOperand fun _ => True :=
    makes_at_kind fun _ => makes_at_kind fun _ => makes_at_keyword fun _ => makes_pure trivial
  refine makes_at_keyword fun _ => makes_ite (fun _ => makes_advance C joined) fun _ => ?_
  exact makes_bind looked fun _ _ => makes_ite (fun _ => joined) fun _ => makes_pure formed

theorem prefixes_makes (operands : Makes fits operand Formed) (others : Makes fits more Formed) :
    Makes fits (prefixes settings operand more) Formed := by
  refine makes_at_keyword fun _ => makes_ite (fun _ => ?_) fun _ => operands
  refine makes_hold C (makes_advance C (makes_map others fun operand formed => ?_))
  obtain ⟨tree, rfl⟩ := formed
  exact ⟨.not tree, rfl⟩

theorem operand_makes (inner : Makes fits more Formed) : Makes fits (Search.operand more) Formed := by
  refine makes_current fun token => makes_ite (fun _ => ?_) fun _ => makes_ite (fun _ => ?_) fun _ => makes_throw _
  · exact makes_advance C (makes_bind inner fun _ formed => makes_expect C (makes_pure formed))
  · exact makes_advance C (makes_pure ⟨.term _, rfl⟩)

end

structure Making (fits : ParseState → Prop) (settings : Settings) (levels : Nat) : Prop where
  disjunction : Makes fits (disjunction settings levels) Formed
  disjunctionTail : ∀ left, Formed left → Makes fits (disjunctionTail settings levels left) Formed
  conjunction : Makes fits (conjunction settings levels) Formed
  conjunctionTail : ∀ left, Formed left → Makes fits (conjunctionTail settings levels left) Formed
  negated : Makes fits (negated settings levels) Formed
  primary : Makes fits (primary settings levels) Formed

theorem making_zero (C : Carried fits) : Making fits settings 0 where
  disjunction := makes_too_deep
  disjunctionTail _ formed := or_link_makes C makes_too_deep (fun _ _ => makes_too_deep) formed
  conjunction := makes_too_deep
  conjunctionTail _ formed := and_link_makes C makes_too_deep (fun _ _ => makes_too_deep) formed
  negated := makes_too_deep
  primary := makes_too_deep

theorem making_succ (C : Carried fits) (below : Making fits settings levels) : Making fits settings (levels + 1) where
  disjunction := makes_chain C (makes_bind below.conjunction below.disjunctionTail)
  disjunctionTail _ formed := or_link_makes C below.conjunction below.disjunctionTail formed
  conjunction := makes_chain C (makes_bind (makes_chain C below.negated) below.conjunctionTail)
  conjunctionTail _ formed := and_link_makes C (makes_chain C below.negated) below.conjunctionTail formed
  negated := by
    cases levels with
    | zero => exact prefixes_makes C makes_too_deep makes_too_deep
    | succ levels => exact prefixes_makes C below.primary below.negated
  primary := makes_recurse C (operand_makes C below.disjunction)

theorem making (C : Carried fits) (settings : Settings) (levels : Nat) : Making fits settings levels := by
  induction levels with
  | zero => exact making_zero C
  | succ levels ih => exact making_succ C ih

theorem whole_makes (C : Carried fits) (levels : Nat) : Makes fits (whole settings levels) Formed :=
  makes_whole (making C settings levels).disjunction

end Search

namespace Items

structure OptionsFormed (settings : Settings) (scope : List String) (options : NestedOptions) : Prop where
  shared : options.toItemOptions.Formed settings scope
  select : ∀ items ∈ options.select, ∀ item ∈ items, item.Formed settings scope
  expand : ∀ items ∈ options.expand, ∀ item ∈ items, item.Formed settings scope
  levels : ∀ levels ∈ options.levels, levels.Formed

variable {nested : ItemKind → String → Nat → Parse (List Item)} {options : NestedOptions}

theorem options_formed_empty : OptionsFormed settings scope {} where
  shared := by constructor <;> simp
  select := by simp
  expand := by simp
  levels := by simp

theorem path_makes (kind : ItemKind) : Makes (OnText scope) (path settings kind) (PathFormed settings kind) :=
  makes_lettered fun _ _ _ _ done => path_sound done

theorem count_value_makes (option : ItemOption) (value : String) (position : Nat) :
    Makes (OnText scope) (countValue option value position) (· ≤ maxCount) := by
  unfold countValue
  cases read : unsigned? (Text.trim value.toList) with
  | none => exact makes_throw _
  | some count =>
      refine makes_pure ?_
      unfold unsigned? at read
      simp only [Option.ite_none_right_eq_some, Bool.and_eq_true, decide_eq_true_eq] at read
      obtain ⟨⟨-, bounded⟩, same⟩ := read
      cases same
      exact bounded

theorem levels_value_makes (option : ItemOption) (value : String) (position : Nat) :
    Makes (OnText scope) (levelsValue option value position) Levels.Formed := by
  unfold levelsValue
  refine makes_ite (fun _ => makes_pure trivial) fun _ => ?_
  exact makes_map (count_value_makes option value position) fun _ bounded => bounded

theorem bool_value_makes (option : ItemOption) (value : String) (position : Nat) :
    Makes (OnText scope) (boolValue option value position) fun _ => True := by
  unfold boolValue
  refine makes_ite (fun _ => makes_pure trivial) fun _ => ?_
  exact makes_ite (fun _ => makes_pure trivial) fun _ => makes_throw _

theorem within_makes {α : Type} {p : Parse α} {made : α → Prop} (text : String) (position : Nat)
    (inner : Makes (OnText scope) p made) : Makes (OnText scope) (within text .expression position p) made := by
  intro state value after fit done
  rw [within_by_map] at done
  obtain ⟨before, ran, rfl⟩ := map_state_ok done
  obtain ⟨_, between, advanced, read⟩ := bind_ok ran
  obtain ⟨moved, stepped, rfl⟩ := advance_ok advanced
  have plain : (Cursor.start text .expression position false).Plain .expression := ⟨rfl, rfl⟩
  obtain ⟨holds, fit'⟩ := inner { state with cursor := moved } value before ⟨on_lexeme_of_advance plain stepped, fit.scope⟩ read
  exact ⟨holds, fit.lexeme, fit'.scope⟩

theorem within_search_makes (text : String) (position : Nat) :
    Makes (OnText scope) (within text .search position (Search.whole settings levels)) Search.Formed := by
  have carried : Carried fun state => state.scope = scope := in_scope_carried
  refine makes_within (makes_advance carried (Search.whole_makes carried levels)) ?_ ?_
  · exact fun state fit => fit.scope
  · exact fun state after fit kept => ⟨fit.lexeme, kept⟩

def ListsMake (settings : Settings) (scope : List String) (nested : ItemKind → String → Nat → Parse (List Item)) : Prop :=
  ∀ kind value position, Makes (OnText scope) (nested kind value position) fun items =>
    ∀ item ∈ items, item.Formed settings scope kind

theorem read_value_makes (lists : ListsMake settings scope nested) (formed : OptionsFormed settings scope options)
    (option : ItemOption) (value : String) (position : Nat) :
    Makes (OnText scope) (readValue settings levels nested options option value position)
      (OptionsFormed settings scope) := by
  have given {α : Type} {holds : α → Prop} {value : α} (made : holds value) :
      ∀ other ∈ some value, holds other := fun other same => Option.some.inj same ▸ made
  have items {α : Type} {convert : Item → α} {holds : α → Prop} {list : List Item}
      (made : ∀ item ∈ list, holds (convert item)) : ∀ items ∈ some (list.map convert), ∀ item ∈ items, holds item :=
    @given _ (fun items => ∀ item ∈ items, holds item) _ (List.forall_mem_map.mpr made)
  cases option with
  | filter =>
      refine makes_bind (within_makes value position (makes_whole (expression_makes levels))) fun _ made => makes_pure ?_
      exact { formed with shared := { formed.shared with filter := given made } }
  | orderBy =>
      refine makes_bind (within_makes value position (Order.whole_makes levels)) fun _ made => makes_pure ?_
      exact { formed with shared := { formed.shared with orderBy := given made } }
  | top =>
      refine makes_bind (count_value_makes .top value position) fun _ made => makes_pure ?_
      exact { formed with shared := { formed.shared with top := given made } }
  | skip =>
      refine makes_bind (count_value_makes .skip value position) fun _ made => makes_pure ?_
      exact { formed with shared := { formed.shared with skip := given made } }
  | count =>
      refine makes_bind (bool_value_makes .count value position) fun _ _ => makes_pure ?_
      exact { formed with shared := { formed.shared with } }
  | search =>
      refine makes_bind (within_search_makes value position) fun _ made => makes_pure ?_
      exact { formed with shared := { formed.shared with search := given made } }
  | compute =>
      refine makes_bind (within_makes value position (Compute.whole_makes levels)) fun _ made => makes_pure ?_
      exact { formed with shared := { formed.shared with compute := given made } }
  | select =>
      refine makes_bind (lists .select value position) fun _ made => makes_pure ?_
      exact { formed with select := items made }
  | expand =>
      refine makes_bind (lists .expand value position) fun _ made => makes_pure ?_
      exact { formed with expand := items made }
  | levels =>
      refine makes_bind (levels_value_makes .levels value position) fun _ made => makes_pure ?_
      exact { formed with levels := given made }

theorem option_value_makes : Makes (OnText scope) (move Cursor.optionValue) fun _ => True := by
  intro state value after fit done
  unfold move at done
  cases read : Cursor.optionValue state.cursor with
  | error error moved =>
      rw [read] at done
      cases done
  | ok pair moved =>
      rw [read] at done
      cases done
      refine ⟨trivial, ?_, fit.scope⟩
      unfold Cursor.optionValue at read
      dsimp only at read
      split at read
      · cases read
      · split at read
        · rename_i advanced
          cases read
          have plain (rest : List Char) (offset : Nat) :
              Cursor.Plain .expression { state.cursor with rest := rest, offset := offset } :=
            ⟨fit.lexeme.plain.dialect, fit.lexeme.plain.blanks⟩
          exact on_lexeme_of_advance (plain _ _) advanced
        · cases read

theorem options_from_makes (lists : ListsMake settings scope nested) (kind : ItemKind) (count : Nat)
    (seen : List ItemOption) (formed : OptionsFormed settings scope options) :
    Makes (OnText scope) (optionsFrom settings kind levels nested count seen options)
      (OptionsFormed settings scope) := by
  induction count generalizing seen options with
  | zero => exact makes_pure formed
  | succ count ih =>
      have named : Makes (OnText scope) (optionName settings kind seen) fun _ => True := by
        refine makes_current fun key => makes_ite (fun _ => ?_) fun _ => makes_fail_expected _
        cases kind.option? settings key.text with
        | none => exact makes_throw _
        | some option =>
            refine makes_advance on_text_carried (makes_at_kind fun _ => makes_ite (fun _ => ?_) fun _ => ?_)
            · exact makes_ite (fun _ => makes_throw _) fun _ => makes_pure trivial
            · exact makes_fail_expected _
      refine makes_bind named fun option _ => makes_bind option_value_makes fun value _ => ?_
      refine makes_bind (read_value_makes lists formed option value.1 value.2) fun options formed' => ?_
      refine makes_at_kind fun _ => makes_advance on_text_carried (makes_ite (fun _ => makes_pure formed') fun _ => ?_)
      exact ih _ formed'

theorem options_makes (lists : ListsMake settings scope nested) (kind : ItemKind) :
    Makes (OnText scope) (Items.options settings kind levels nested) (OptionsFormed settings scope) := by
  refine makes_current fun _ => makes_expect on_text_carried (makes_at_kind fun _ => makes_ite (fun _ => makes_throw _) fun _ => ?_)
  intro state value after fit done
  exact options_from_makes lists kind _ [] options_formed_empty state value after fit done

theorem item_formed {kind : ItemKind} {path : List String} (spelled : PathFormed settings kind path)
    (formed : OptionsFormed settings scope options) : Item.Formed settings scope ⟨path, options⟩ kind := by
  cases kind with
  | select => exact .mk spelled formed.shared formed.select
  | expand => exact .mk spelled formed.shared formed.select formed.expand formed.levels

theorem list_makes (lists : ListsMake settings scope nested) (kind : ItemKind) :
    Makes (OnText scope) (list settings kind levels nested) fun items => ∀ item ∈ items, item.Formed settings scope kind := by
  have item : Makes (OnText scope) (item settings kind levels nested) (Item.Formed settings scope · kind) := by
    refine makes_bind (path_makes kind) fun path spelled => makes_at_kind fun _ => makes_ite (fun _ => ?_) fun _ => ?_
    · exact makes_bind (options_makes lists kind) fun options formed => makes_pure (item_formed spelled formed)
    · exact makes_pure (item_formed spelled options_formed_empty)
  refine makes_at_kind fun _ => makes_ite (fun _ => makes_pure (List.forall_mem_nil _)) fun _ => ?_
  exact makes_whole (makes_mono (makes_sep_by on_text_carried item) fun _ formed => formed.2)

theorem whole_makes (kind : ItemKind) (levels : Nat) :
    Makes (OnText scope) (whole settings kind levels) fun items => ∀ item ∈ items, item.Formed settings scope kind := by
  induction levels using Nat.strongRecOn generalizing kind with
  | _ levels ih =>
      rw [whole_by_inner]
      refine list_makes (fun list value position => ?_) kind
      unfold inner
      split
      · exact makes_too_deep
      · exact makes_recurse on_text_carried (within_makes value position (ih _ (by omega) list))

end Items

theorem grammar_makes (option : QueryOption) (levels : Nat) (other : option ≠ .search) :
    Makes (OnText scope) (option.grammar settings levels) (ParsedOption.Formed settings scope) := by
  cases option with
  | filter => exact makes_map (makes_whole (expression_makes levels)) fun _ formed => formed
  | search => exact absurd rfl other
  | orderBy => exact makes_map (Order.whole_makes levels) fun _ formed => formed
  | compute => exact makes_map (Compute.whole_makes levels) fun _ formed => formed
  | select => exact makes_map (Items.whole_makes .select levels) fun _ formed => List.forall_mem_map.mpr formed
  | expand => exact makes_map (Items.whole_makes .expand levels) fun _ formed => List.forall_mem_map.mpr formed
  | apply => exact makes_map (Apply.whole_makes levels) fun _ formed => formed

theorem parse_formed {option : QueryOption} {text : String} {parsed : ParsedOption}
    (accepted : parse settings option text = .ok parsed) : parsed.Formed settings Context.standing := by
  obtain ⟨after, done⟩ := parser_ok accepted
  obtain ⟨_, between, advanced, ran⟩ := bind_ok done
  obtain ⟨moved, stepped, rfl⟩ := advance_ok advanced
  by_cases search : option = .search
  · subst search
    have makes : Makes (fun _ => True) (QueryOption.search.grammar settings settings.maxDepth)
        (ParsedOption.Formed settings Context.standing) :=
      makes_map (Search.whole_makes ⟨fun _ _ => trivial, fun _ _ _ => trivial⟩ _) fun _ formed => formed
    exact (makes _ parsed after trivial ran).1
  · have plain : (option.start text).cursor.Plain .expression := by
      refine ⟨?_, rfl⟩
      cases option <;> first | rfl | exact absurd rfl search
    have fit : OnText Context.standing { option.start text with cursor := moved } :=
      ⟨on_lexeme_of_advance plain stepped, rfl⟩
    exact (grammar_makes option _ search _ parsed after fit ran).1

end QueryOptions
