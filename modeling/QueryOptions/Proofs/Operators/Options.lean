import QueryOptions.Equality
import QueryOptions.Proofs.Context
import QueryOptions.Proofs.Operators.Expression
import QueryOptions.Proofs.Reading.Items
import QueryOptions.Proofs.Simulation.Options

set_option autoImplicit false

namespace QueryOptions

open Parse Expression

variable {settings : Settings} {operators : List String} {good : Lexeme → Prop} {levels : Nat}

theorem plain_at_reserved (further : FurtherOperators settings operators) {word : String} (reserved : word ∈ reservedWords)
    (token : Token) (spelled : token.isKeyword settings.ignoreCase word) : Plain settings operators token.lexeme :=
  plain_of_reserved further reserved spelled

theorem demands_reserved (further : FurtherOperators settings operators) {last : Lexeme → Prop} {word : String}
    (reserved : word ∈ reservedWords) : Demands (Plain settings operators) last (expectKeyword settings.ignoreCase word) :=
  demands_expect_keyword (plain_at_reserved further reserved)

namespace Order

theorem demands_direction (further : FurtherOperators settings operators) :
    Demands (Plain settings operators) (Plain settings operators) (direction settings) := by
  refine demands_at_keyword (plain_at_reserved further (by decide)) ?_
  exact demands_at_keyword (plain_at_reserved further (by decide)) (demands_pure _)

theorem item_carried (further : FurtherOperators settings operators) (levels : Nat) :
    Carries (Plain settings operators) (item settings levels) (item (settings.withOperators operators) levels) :=
  carries_bind (carried further levels).expression (fun _ => carries_refl _) fun _ =>
    demands_bind (demands_direction further) fun _ => demands_pure _

theorem whole_carried (further : FurtherOperators settings operators) (levels : Nat) :
    Carries good (whole settings levels) (whole (settings.withOperators operators) levels) :=
  ended_carried (list_carried (by decide) (item_carried further levels))

end Order

namespace Compute

theorem demands_naming (further : FurtherOperators settings operators) {last : Lexeme → Prop} :
    Demands (Plain settings operators) last (naming settings) :=
  demands_bind (demands_reserved further (by decide)) fun _ => demands_anywhere

theorem item_carried (further : FurtherOperators settings operators) (levels : Nat) :
    Carries good (item settings levels) (item (settings.withOperators operators) levels) :=
  carries_bind (carried further levels).expression (fun _ => carries_refl _) fun _ =>
    demands_bind (demands_naming further) fun _ => demands_anywhere

theorem items_carried (further : FurtherOperators settings operators) (levels : Nat) :
    Carries (Plain settings operators) (items settings levels) (items (settings.withOperators operators) levels) :=
  list_carried (by decide) (item_carried further levels)

theorem whole_carried (further : FurtherOperators settings operators) (levels : Nat) :
    Carries good (whole settings levels) (whole (settings.withOperators operators) levels) :=
  ended_carried (items_carried further levels)

end Compute

namespace Apply

theorem demands_method (further : FurtherOperators settings operators) (expression : Expr) :
    Demands (Plain settings operators) (Plain settings operators) (method settings expression) := by
  refine demands_at_keyword (plain_at_reserved further (by decide)) ?_
  by_cases count : isVirtualCount expression
  · rw [if_pos count]
    exact demands_pure _
  · rw [if_neg count]
    exact demands_never fun _ _ _ done => by cases done

theorem aggregate_carried (further : FurtherOperators settings operators) (levels : Nat) :
    Carries good (aggregate settings levels) (aggregate (settings.withOperators operators) levels) :=
  carries_bind (carried further levels).expression (fun _ => carries_refl _) fun expression =>
    demands_bind (demands_method further expression) fun _ =>
      demands_bind (Compute.demands_naming further) fun _ => demands_anywhere

theorem aggregates_carried (further : FurtherOperators settings operators) (levels : Nat) :
    Carries (Plain settings operators) (aggregates settings levels) (aggregates (settings.withOperators operators) levels) :=
  carries_map _ (list_carried (by decide) (aggregate_carried further levels))

theorem filter_carried (further : FurtherOperators settings operators) (levels : Nat) :
    Carries (Plain settings operators) (filter settings levels) (filter (settings.withOperators operators) levels) :=
  carries_map _ (carried further levels).expression

theorem compute_carried (further : FurtherOperators settings operators) (levels : Nat) :
    Carries (Plain settings operators) (compute settings levels) (compute (settings.withOperators operators) levels) :=
  carries_map _ (Compute.items_carried further levels)

theorem grouping_property_carried (further : FurtherOperators settings operators) (levels : Nat) :
    Carries (Plain settings operators) (groupingProperty settings levels)
      (groupingProperty (settings.withOperators operators) levels) :=
  carries_then fun _ => carries_ite (carries_anywhere (carried further levels).path) (carries_refl _)

theorem parenthesized_carried {body body' : Parse Transformation} (bodies : Carries (Plain settings operators) body body') :
    Carries good (parenthesized body) (parenthesized body') :=
  carries_then fun _ => carries_then fun _ => closed_carried bodies fun _ => carries_refl _

section

variable {pipeline pipeline' : Parse (List Transformation)} (pipelines : Carries Anywhere pipeline pipeline')

include pipelines

theorem grouping_carried (further : FurtherOperators settings operators) (levels : Nat) :
    Carries (Plain settings operators) (grouping settings levels pipeline)
      (grouping (settings.withOperators operators) levels pipeline') := by
  refine carries_then fun _ => ?_
  refine closed_carried (list_carried (by decide) (grouping_property_carried further levels)) fun properties => ?_
  refine carries_then fun _ => carries_ite (carries_then fun _ => ?_) (carries_refl _)
  exact carries_map _ (carries_anywhere pipelines)

theorem transformation_with_carried (further : FurtherOperators settings operators) (levels : Nat) :
    Carries good (transformationWith settings levels pipeline)
      (transformationWith (settings.withOperators operators) levels pipeline') := by
  refine carries_then fun token => carries_ite ?_ (carries_refl _)
  refine carries_then fun _ => carries_ite (parenthesized_carried (aggregates_carried further levels)) ?_
  refine carries_then fun _ => carries_ite (parenthesized_carried (grouping_carried pipelines further levels)) ?_
  refine carries_then fun _ => carries_ite (parenthesized_carried (filter_carried further levels)) ?_
  exact carries_then fun _ => carries_ite (parenthesized_carried (compute_carried further levels)) (carries_refl _)

end

theorem transformation_carried (further : FurtherOperators settings operators) (levels : Nat) :
    Carries Anywhere (transformation settings levels) (transformation (settings.withOperators operators) levels) := by
  induction levels with
  | zero => exact too_deep_carried
  | succ levels ih =>
      exact recursion_carried 1 (transformation_with_carried (carries_sep_by (fun _ _ => trivial) ih) further levels)

theorem pipeline_carried (further : FurtherOperators settings operators) (levels : Nat) :
    Carries (Plain settings operators) (sepBy .slash (transformation settings levels))
      (sepBy .slash (transformation (settings.withOperators operators) levels)) :=
  list_carried (by decide) (carries_anywhere (transformation_carried further levels))

theorem whole_carried (further : FurtherOperators settings operators) (levels : Nat) :
    Carries good (whole settings levels) (whole (settings.withOperators operators) levels) :=
  ended_carried (pipeline_carried further levels)

end Apply

theorem search_carried (settings : Settings) (operators : List String) (levels : Nat) :
    Carries good (Search.whole settings levels) (Search.whole (settings.withOperators operators) levels) :=
  carries_of_eq (Search.whole_related (levelling_operators settings operators) levels levels (.inl rfl))

namespace Items

theorem segments_operators (kind : ItemKind) (fuel count : Nat) (last : Option String) :
    segments settings kind fuel count last = segments (settings.withOperators operators) kind fuel count last := by
  induction fuel generalizing count last with
  | zero => rfl
  | succ fuel ih =>
      unfold segments
      simp only [ih]
      rfl

theorem path_operators (kind : ItemKind) : path settings kind = path (settings.withOperators operators) kind :=
  funext fun state => congrFun (segments_operators kind (state.cursor.rest.length + 1) 0 none) state

def ListsCarry (nested nested' : ItemKind → String → Nat → Parse (List Item)) : Prop :=
  ∀ kind value position, Carries Anywhere (nested kind value position) (nested' kind value position)

section

variable {nested nested' : ItemKind → String → Nat → Parse (List Item)} (lists : ListsCarry nested nested')

include lists

theorem value_carried (further : FurtherOperators settings operators) (levels : Nat) (options : NestedOptions)
    (option : ItemOption) (value : String) (position : Nat) :
    Carries good (readValue settings levels nested options option value position)
      (readValue (settings.withOperators operators) levels nested' options option value position) := by
  cases option with
  | filter => exact carries_map _ (carries_within _ _ _ (Expression.whole_carried further levels))
  | orderBy => exact carries_map _ (carries_within _ _ _ (Order.whole_carried further levels))
  | search => exact carries_map _ (carries_within _ _ _ (search_carried settings operators levels))
  | compute => exact carries_map _ (carries_within _ _ _ (Compute.whole_carried further levels))
  | select => exact carries_map _ (carries_anywhere (lists .select value position))
  | expand => exact carries_map _ (carries_anywhere (lists .expand value position))
  | top | skip | count | levels => exact carries_refl _

theorem options_from_carried (further : FurtherOperators settings operators) (kind : ItemKind) (levels count : Nat)
    (seen : List ItemOption) (options : NestedOptions) :
    Carries good (optionsFrom settings kind levels nested count seen options)
      (optionsFrom (settings.withOperators operators) kind levels nested' count seen options) := by
  induction count generalizing seen options with
  | zero => exact carries_refl _
  | succ count ih =>
      refine carries_then fun option => carries_then fun value => ?_
      refine carries_bind (value_carried lists further levels options option value.1 value.2) (fun options' => ?_) fun _ =>
        demands_anywhere
      exact carries_then fun _ => carries_then fun _ => carries_ite (carries_refl _) (ih _ _)

theorem options_carried (further : FurtherOperators settings operators) (kind : ItemKind) (levels : Nat) :
    Carries good (options settings kind levels nested) (options (settings.withOperators operators) kind levels nested') := by
  refine carries_then fun token => carries_then fun _ => carries_then fun _ => carries_ite (carries_refl _) ?_
  exact carries_then fun state => options_from_carried lists further kind levels (state.cursor.rest.length + 1) [] {}

theorem item_carried (further : FurtherOperators settings operators) (kind : ItemKind) (levels : Nat) :
    Carries good (item settings kind levels nested) (item (settings.withOperators operators) kind levels nested') := by
  refine carries_bind (carries_of_eq (path_operators kind)) (fun path => ?_) fun _ => demands_anywhere
  exact carries_then fun _ => carries_ite (carries_map _ (options_carried lists further kind levels)) (carries_refl _)

theorem list_carried (further : FurtherOperators settings operators) (kind : ItemKind) (levels : Nat) :
    Carries good (list settings kind levels nested) (list (settings.withOperators operators) kind levels nested') := by
  refine carries_then fun _ => carries_ite (carries_refl _) ?_
  exact carries_bind (carries_sep_by (fun _ _ => trivial) (item_carried lists further kind levels))
    (fun _ => carries_refl _) fun _ => demands_anywhere

end

theorem whole_carried (further : FurtherOperators settings operators) (kind : ItemKind) (levels : Nat) :
    Carries good (whole settings kind levels) (whole (settings.withOperators operators) kind levels) := by
  induction levels using Nat.strongRecOn generalizing good kind with
  | ind levels ih =>
      rw [whole_by_inner, whole_by_inner]
      refine list_carried (fun list value position => ?_) further kind levels
      unfold inner
      by_cases few : levels < 8
      · rw [if_pos few]
        exact too_deep_carried
      · rw [if_neg few, if_neg few]
        exact recursion_carried 8 (carries_within _ _ _ (ih (levels - 8) (by omega) list))

end Items

theorem grammar_carried (further : FurtherOperators settings operators) (option : QueryOption) (levels : Nat) :
    Carries good (option.grammar settings levels) (option.grammar (settings.withOperators operators) levels) := by
  cases option with
  | filter => exact carries_map _ (Expression.whole_carried further levels)
  | search => exact carries_map _ (search_carried settings operators levels)
  | orderBy => exact carries_map _ (Order.whole_carried further levels)
  | compute => exact carries_map _ (Compute.whole_carried further levels)
  | select => exact carries_map _ (Items.whole_carried further .select levels)
  | expand => exact carries_map _ (Items.whole_carried further .expand levels)
  | apply => exact carries_map _ (Apply.whole_carried further levels)

-- Custom operators take nothing away. Whatever is accepted without any is accepted with them
-- as the same, if none of them is a word that can stand behind an expression; they may be the
-- names of built-in operators or of properties.
theorem accepted_with_operators {settings : Settings} {operators : List String} (bare : settings.customOperators = [])
    (spares : ∀ operator ∈ operators, ∀ word ∈ reservedWords, settings.matchesKeyword word operator = false)
    {option : QueryOption} {text : String} {parsed : ParsedOption} (accepted : parse settings option text = .ok parsed) :
    parse { settings with customOperators := operators } option text = .ok parsed := by
  obtain ⟨after, done⟩ := parser_ok accepted
  have carries : Carries Anywhere (option.parser settings) (option.parser (settings.withOperators operators)) :=
    carries_then fun _ => grammar_carried ⟨bare, spares⟩ option settings.maxDepth
  exact parse_of_ok (carries (option.start text) parsed after done trivial)

theorem property_names_as_operators :
    (∀ operator ∈ ["eq", "in", "mul", "add", "Orders"], ∀ word ∈ reservedWords,
      Settings.matchesKeyword { ignoreCase := true } word operator = false) ∧
    parse { ignoreCase := true } .expand "Orders($filter=eq EQ 2 or not add in (mul,1);$orderby=add MUL 2 Desc)" =
      .ok (.expand [⟨["Orders"], {
        filter := some (.binary .or
          (.binary .equal (.endPath "eq" none) (.literal .integerLiteral "2"))
          (.membership (.unary .not (.endPath "add" none))
            (.collection [.endPath "mul" none, .literal .integerLiteral "1"])))
        orderBy := some [⟨.binary .multiply (.endPath "add" none) (.literal .integerLiteral "2"), .descending⟩] },
        none, none, none⟩]) ∧
    parse { ignoreCase := true, customOperators := ["eq", "in", "mul", "add", "Orders"] } .expand
        "Orders($filter=eq EQ 2 or not add in (mul,1);$orderby=add MUL 2 Desc)" =
      parse { ignoreCase := true } .expand "Orders($filter=eq EQ 2 or not add in (mul,1);$orderby=add MUL 2 Desc)" := by
  have spares : ∀ operator ∈ ["eq", "in", "mul", "add", "Orders"], ∀ word ∈ reservedWords,
      Settings.matchesKeyword { ignoreCase := true } word operator = false := by decide
  have accepted : parse { ignoreCase := true } .expand
      "Orders($filter=eq EQ 2 or not add in (mul,1);$orderby=add MUL 2 Desc)" =
      .ok (.expand [⟨["Orders"], {
        filter := some (.binary .or
          (.binary .equal (.endPath "eq" none) (.literal .integerLiteral "2"))
          (.membership (.unary .not (.endPath "add" none))
            (.collection [.endPath "mul" none, .literal .integerLiteral "1"])))
        orderBy := some [⟨.binary .multiply (.endPath "add" none) (.literal .integerLiteral "2"), .descending⟩] },
        none, none, none⟩]) := by decide +kernel
  exact ⟨spares, accepted, (accepted_with_operators rfl spares accepted).trans accepted.symm⟩

end QueryOptions
