import QueryOptions.Apply.Grammar
import QueryOptions.Order
import QueryOptions.Proofs.Neutral
import QueryOptions.Proofs.Replay.Expression

set_option autoImplicit false

namespace QueryOptions

open Parse Expression

variable {settings : Settings} {levels : Nat} {starts : Lexeme → Prop} {alike : Lexeme → Lexeme → Prop}
variable {body : Parse Transformation} {pipeline : Parse (List Transformation)}

theorem replays_disjunction_exact : Replays settings true starts (Same settings) Alone (disjunction settings levels) :=
  replays_anywhere (replays_same (replays_disjunction settings levels) ends_alike_same)

theorem neutral_disjunction : Neutral settings .rule (disjunction settings levels) :=
  (Expression.related Neutral.simulation.toSimulation.wording levels levels (.inl rfl)).disjunction

namespace Order

structure EndsKey (settings : Settings) (lexeme : Lexeme) : Prop where
  expression : EndsExpression settings lexeme
  ascending : lexeme.isKeyword settings "asc" = false
  descending : lexeme.isKeyword settings "desc" = false

def EndsAlike (settings : Settings) (x y : Lexeme) : Prop := Same settings x y ∨ EndsKey settings x ∧ EndsKey settings y

theorem ends_alike_keyword {keyword : String} {x y : Lexeme}
    (bare : ∀ lexeme, EndsKey settings lexeme → lexeme.isKeyword settings keyword = false) (ends : EndsAlike settings x y) :
    x.isKeyword settings keyword = y.isKeyword settings keyword := by
  rcases ends with same | ⟨left, right⟩
  · exact same_keyword same keyword
  · rw [bare x left, bare y right]

theorem replays_direction :
    Replays settings false starts (EndsAlike settings) (fun _ names => names = []) (direction settings) := by
  refine replays_at_keyword (fun _ _ _ => ends_alike_keyword fun _ ends => ends.ascending) fun seen =>
    replays_ite (fun found => ?_) fun _ => ?_
  · exact replays_some (replays_advance_then (fun first here => .inl ⟨_, here.2.trans found⟩) (replays_pure rfl))
  · refine replays_at_keyword (fun _ _ _ => ends_alike_keyword fun _ ends => ends.descending) fun seen =>
      replays_ite (fun found => ?_) fun _ => replays_pure rfl
    exact replays_some (replays_advance_then (fun first here => .inl ⟨_, here.2.trans found⟩) (replays_pure rfl))

theorem replays_item :
    Replays settings true Anywhere (EndsAlike settings) (fun item names => names = item.names) (item settings levels) := by
  have behind (expression : Expr) (names : List String) (own : names = expression.names) :
      Replays settings false Anywhere (EndsAlike settings) (fun item more => names ++ more = item.names) (do
        let direction ← direction settings
        pure (⟨expression, direction⟩ : OrderItem)) := by
    refine replays_map (replays_made replays_direction fun direction more none => ?_) fun _ _ => .inl
    rw [none, List.append_nil, own, OrderItem.names]
  refine replays_bind (replays_disjunction settings levels) behind (fun _ x y same => ?_) ends_alike_same
  exact same.imp id fun ends => ⟨ends.1.expression, ends.2.expression⟩

end Order

namespace Compute

theorem replays_naming : Replays settings true starts alike (fun name names => names = [name]) (naming settings) := by
  have keyword : Replays settings true starts (Same settings) (fun _ names => names = [])
      (expectKeyword settings.ignoreCase "as") := replays_expect_keyword rfl
  refine replays_before keyword ?_
  rintro _ _ rfl
  exact replays_identifier _

theorem replays_item :
    Replays settings true starts alike (fun item names => names = item.names) (item settings levels) := by
  refine replays_before replays_disjunction_exact ?_
  rintro expression _ rfl
  have named : Replays settings true Anywhere (fun _ _ => True) (fun name names => names = [name]) (naming settings) :=
    replays_naming
  refine replays_weaken (replays_map (replays_made named fun name names own => ?_) fun _ _ _ => trivial) fun _ _ _ => trivial
  rw [own, ComputeItem.names]

theorem replays_items :
    Replays settings true starts (Same settings) (fun items names => names = items.flatMap ComputeItem.names)
      (items settings levels) :=
  replays_sep_by_exact (by decide) replays_item

end Compute

namespace Apply

theorem replays_method (expression : Expr) :
    Replays settings false starts (Same settings) (fun method names => names = method.names) (method settings expression) := by
  refine replays_at_keyword (fun _ _ _ same => same_keyword same _) fun seen => replays_ite (fun found => ?_) fun _ => ?_
  · refine replays_some (replays_advance_then (fun first here => .inl ⟨_, here.2.trans found⟩) (replays_some ?_))
    have name : Replays settings true Anywhere (Same settings) (fun name names => names = [name]) (dottedName false) :=
      replays_dotted_name fun _ _ same undotted => same_kind same ▸ undotted
    refine replays_map (replays_made name fun name names own => ?_) fun _ _ => id
    rw [own, AggregationMethod.names_of_name]
  · exact replays_ite (fun _ => replays_pure rfl) fun _ => replays_never fun _ _ _ _ done => by cases done

theorem replays_aggregate :
    Replays settings true starts alike (fun aggregate names => names = aggregate.names) (aggregate settings levels) := by
  refine replays_before replays_disjunction_exact ?_
  rintro expression _ rfl
  refine replays_before (replays_method expression) ?_
  rintro method _ rfl
  have named : Replays settings true Anywhere (fun _ _ => True) (fun name names => names = [name]) (Compute.naming settings) :=
    Compute.replays_naming
  refine replays_weaken (replays_map (replays_made named fun name names own => ?_) fun _ _ _ => trivial) fun _ _ _ => trivial
  rw [own, Aggregate.names]

theorem replays_grouping_property : Replays settings true starts (Same settings) Alone (groupingProperty settings levels) := by
  refine replays_at_kind nofun fun seen => replays_ite (fun _ => ?_) fun _ => replays_fail_expected _
  exact replays_anywhere (replays_same (replays_at settings levels).path ends_alike_same)

def Piped (transformations : List Transformation) (names : List String) : Prop :=
  names = Transformation.allNames transformations

def Transforms (transformation : Transformation) (names : List String) : Prop := names = transformation.names

theorem replays_grouping (groups : Replays settings true Anywhere (Same settings) Piped pipeline) :
    Replays settings true starts (Same settings) Transforms (grouping settings levels pipeline) := by
  refine replays_expect_then (by decide) (replays_some ?_)
  refine replays_before (replays_sep_by_exact (by decide) replays_grouping_property) ?_
  rintro properties _ rfl
  refine replays_expect_then (by decide) ?_
  refine replays_at_kind (fun _ _ _ same => by rw [same_kind same]) fun seen => replays_ite (fun comma => ?_) fun _ =>
    replays_pure rfl
  refine replays_some (replays_advance_then (fun first here => ?_) (replays_some ?_))
  · exact passed_of_kind (eq_of_beq (here.2.trans comma)) (by decide)
  · refine replays_map (replays_made groups fun children names own => ?_) fun _ _ => id
    rw [own, Transforms, Transformation.names]

theorem replays_parenthesized (inner : Replays settings true Anywhere (Same settings) Transforms body) :
    Replays settings true (fun first => ∃ word, first.isKeyword settings word) alike Transforms (parenthesized body) := by
  refine replays_advance_then (fun first word => .inl word) (replays_some ?_)
  refine replays_expect_then (by decide) (replays_some ?_)
  refine replays_before inner fun transformation names own => replays_expect_then (by decide) (replays_pure ?_)
  rwa [List.append_nil]

theorem replays_aggregates : Replays settings true starts (Same settings) Transforms (aggregates settings levels) := by
  refine replays_map (replays_made (replays_sep_by_exact (by decide) replays_aggregate) fun aggregates names own => ?_)
    fun _ _ => id
  rw [own, Transforms, Transformation.names]

def bodyAt (settings : Settings) (levels : Nat) (pipeline : Parse (List Transformation)) (lexeme : Lexeme) :
    Option (Parse Transformation) :=
  if lexeme.isKeyword settings "aggregate" then some (aggregates settings levels)
  else if lexeme.isKeyword settings "groupby" then some (grouping settings levels pipeline)
  else if lexeme.isKeyword settings "filter" then some (filter settings levels)
  else if lexeme.isKeyword settings "compute" then some (compute settings levels)
  else none

def transformationAt : Option (Parse Transformation) → Parse Transformation
  | some body => parenthesized body
  | none => fun state =>
      (if state.cursor.token.kind = .identifier then
        throw (.unsupportedTransformation state.cursor.token.text state.cursor.token.position)
      else failExpected "transformation" : Parse Transformation) state

theorem body_keyword {first : Lexeme} (names : bodyAt settings levels pipeline first = some body) :
    ∃ word, first.isKeyword settings word := by
  by_contra other
  simp [bodyAt, not_exists.mp other] at names

theorem body_word {first : Lexeme} (names : bodyAt settings levels pipeline first = some body) : first.kind = .identifier := by
  obtain ⟨word, spelled⟩ := body_keyword names
  exact keyword_word spelled

theorem body_same (x y : Lexeme) (same : Same settings x y) :
    bodyAt settings levels pipeline x = bodyAt settings levels pipeline y := by
  simp only [bodyAt, same_keyword same]

theorem transformation_at (state : ParseState) :
    transformationWith settings levels pipeline state =
      transformationAt (bodyAt settings levels pipeline state.cursor.token.lexeme) state := by
  by_cases word : state.cursor.token.kind = .identifier
  · refine (congrFun (if_pos word) state).trans ?_
    unfold bodyAt
    by_cases aggregate : state.cursor.token.lexeme.isKeyword settings "aggregate"
    · rw [if_pos aggregate]
      exact congrFun (if_pos aggregate) state
    rw [if_neg aggregate]
    refine (congrFun (if_neg aggregate) state).trans ?_
    by_cases groupby : state.cursor.token.lexeme.isKeyword settings "groupby"
    · rw [if_pos groupby]
      exact congrFun (if_pos groupby) state
    rw [if_neg groupby]
    refine (congrFun (if_neg groupby) state).trans ?_
    by_cases filters : state.cursor.token.lexeme.isKeyword settings "filter"
    · rw [if_pos filters]
      exact congrFun (if_pos filters) state
    rw [if_neg filters]
    refine (congrFun (if_neg filters) state).trans ?_
    by_cases computes : state.cursor.token.lexeme.isKeyword settings "compute"
    · rw [if_pos computes]
      exact congrFun (if_pos computes) state
    · rw [if_neg computes]
      exact (congrFun (if_neg computes) state).trans (congrFun (if_pos word) state).symm
  · cases names : bodyAt settings levels pipeline state.cursor.token.lexeme with
    | none => exact (congrFun (if_neg word) state).trans (congrFun (if_neg word) state).symm
    | some body => exact absurd (body_word names) word

theorem nameless_fails {state after : ParseState} {value : Transformation} : transformationAt none state ≠ .ok value after := by
  intro done
  by_cases word : state.cursor.token.kind = .identifier
  · cases (congrFun (if_pos word) state).symm.trans done
  · cases (congrFun (if_neg word) state).symm.trans done

theorem replays_body {first : Lexeme} (groups : Replays settings true Anywhere (Same settings) Piped pipeline)
    (names : bodyAt settings levels pipeline first = some body) :
    Replays settings true Anywhere (Same settings) Transforms body := by
  unfold bodyAt at names
  split at names
  · cases names
    exact replays_aggregates
  · split at names
    · cases names
      exact replays_grouping groups
    · split at names
      · cases names
        exact replays_map (replays_made replays_disjunction_exact fun _ _ own => own) fun _ _ => id
      · split at names
        · cases names
          exact replays_map (replays_made Compute.replays_items fun _ _ own => own) fun _ _ => id
        · cases names

theorem replays_transformation_with (groups : Replays settings true Anywhere (Same settings) Piped pipeline) :
    Replays settings true starts alike Transforms (transformationWith settings levels pipeline) := by
  rw [show transformationWith settings levels pipeline = _ from funext transformation_at]
  refine replays_look body_same nofun fun seen => ?_
  cases seen with
  | none => exact replays_never fun state _ value after => nameless_fails
  | some body =>
      by_cases met : ∃ first, bodyAt settings levels pipeline first = some body
      · obtain ⟨first, names⟩ := met
        exact replays_mono (replays_parenthesized (replays_body groups names)) fun first here => body_keyword here.2
      · exact replays_never fun state here => absurd ⟨_, here.2⟩ met

theorem replays_pipeline {item : Parse Transformation} (items : Replays settings true Anywhere (Same settings) Transforms item) :
    Replays settings true starts (Same settings) Piped (sepBy .slash item) :=
  replays_made (replays_sep_by_exact (by decide) items) fun transformations names own => by
    rw [Piped, own, Transformation.all_names_flat]

theorem replays_transformation (levels : Nat) :
    Replays settings true Anywhere alike Transforms (transformation settings levels) := by
  induction levels generalizing alike with
  | zero => exact replays_too_deep
  | succ levels ih =>
      have body : Replays settings true Anywhere (fun _ _ => True) Transforms (transformationWith settings levels
          (sepBy .slash (transformation settings levels))) := replays_transformation_with (replays_pipeline ih)
      exact replays_weaken (replays_recurse (fun _ _ _ => trivial) body) fun _ _ _ => trivial

theorem parenthesized_closes {state after : ParseState} {value : Transformation}
    (inner : Replays settings true Anywhere (Same settings) Transforms body)
    (word : state.cursor.token.kind = .identifier) (done : parenthesized body state = .ok value after) :
    ∃ own closing, closing.kind = .closeParen ∧ state.cursor.Spans (own ++ [closing]) after.cursor := by
  obtain ⟨_, named, advances, done⟩ := bind_ok done
  obtain ⟨_, opened, opens, done⟩ := bind_ok done
  obtain ⟨_, between, ran, done⟩ := bind_ok done
  obtain ⟨_, last, closes, ⟨⟩⟩ := bind_ok done
  obtain ⟨moved, advanced, rfl⟩ := advance_ok advances
  obtain ⟨opening, stepped⟩ := expect_ok opens
  obtain ⟨inside, advanced', rfl⟩ := advance_ok stepped
  obtain ⟨uses, names, own, -, -, -, reused⟩ := inner _ value between trivial ran
  obtain ⟨closing, stepped⟩ := expect_ok closes
  obtain ⟨moved', advanced'', rfl⟩ := advance_ok stepped
  have spans := Cursor.spans_append reused.spans (Cursor.spans_single (by rw [closing]; decide) advanced'')
  exact ⟨_ :: _ :: own, _, closing, .step (by rw [word]; decide) advanced (.step (by rw [opening]; decide) advanced' spans)⟩

theorem transformation_closes {state after : ParseState} {value : Transformation}
    (done : transformation settings levels state = .ok value after) :
    ∃ own closing, closing.kind = .closeParen ∧
      Again (fun _ _ => True) (transformation settings levels) state (own ++ [closing]) value after := by
  cases levels with
  | zero => cases done
  | succ levels =>
      obtain ⟨uses, names, lexemes, -, -, -, reused⟩ := replays_transformation (levels + 1) state value after trivial done
      obtain ⟨before, ran, same⟩ := recurse_ok done
      cases names : bodyAt settings levels (sepBy .slash (transformation settings levels)) state.cursor.token.lexeme with
      | none =>
          rw [transformation_at, show ParseState.cursor _ = state.cursor from rfl, names] at ran
          exact absurd ran nameless_fails
      | some body =>
          rw [transformation_at, show ParseState.cursor _ = state.cursor from rfl, names] at ran
          have groups := replays_body (replays_pipeline (replays_transformation levels)) names
          obtain ⟨own, closing, closes, spans⟩ := parenthesized_closes groups (by exact body_word names) ran
          rw [← same] at spans
          obtain rfl := Cursor.spans_unique reused.spans spans
          exact ⟨own, closing, closes, reused.same⟩

end Apply

end QueryOptions
