import QueryOptions.Proofs.Derivation.Path
import QueryOptions.Proofs.Derivation.Written
import QueryOptions.Proofs.Making
import QueryOptions.Proofs.Reading.Items
import QueryOptions.Proofs.Search.Render

set_option autoImplicit false

namespace QueryOptions

open Parse Expression

def Lettered (told : List Lexeme → Prop) : Prop := ∃ lexemes, (∀ lexeme ∈ lexemes, Scanned lexeme) ∧ told lexemes

def Alias (name : String) : Prop := ∃ lexeme, Scanned lexeme ∧ lexeme.kind = .identifier ∧ lexeme.text = name

section

variable (settings : Settings) (scope : List String)

def Expr.Formed (tree : Expr) : Prop := Lettered (Derives settings scope (.chain 0 tree))

def OrderItem.Formed (item : OrderItem) : Prop := item.expression.Formed settings scope

structure ComputeItem.Formed (item : ComputeItem) : Prop where
  expression : item.expression.Formed settings scope
  name : Alias item.name

inductive AggregationMethod.Formed (expression : Expr) : AggregationMethod → Prop where
  | named {name : String} (spelled : Lettered (Name · name)) : Formed expression (.ofName name)
  | virtualCount (counts : Apply.isVirtualCount expression) : Formed expression .virtualCount

structure Aggregate.Formed (aggregate : Aggregate) : Prop where
  expression : aggregate.expression.Formed settings scope
  method : aggregate.method.Formed aggregate.expression
  name : Alias aggregate.name

def Expr.GroupingProperty (tree : Expr) : Prop :=
  Lettered fun lexemes => (∀ first ∈ lexemes.head?, first.kind = .identifier) ∧ Derives settings scope (.path tree) lexemes

inductive Transformation.Formed : Transformation → Prop where
  | aggregate {aggregates : List Aggregate} (some : aggregates ≠ [])
      (each : ∀ aggregate ∈ aggregates, aggregate.Formed settings scope) : Formed (.aggregate aggregates)
  | groupBy {properties : List Expr} {children : List Transformation} (some : properties ≠ [])
      (each : ∀ property ∈ properties, property.GroupingProperty settings scope)
      (others : ∀ child ∈ children, Formed child) : Formed (.groupBy properties children)
  | filter {condition : Expr} (formed : condition.Formed settings scope) : Formed (.filter condition)
  | compute {items : List ComputeItem} (some : items ≠ []) (each : ∀ item ∈ items, item.Formed settings scope) :
      Formed (.compute items)

def Search.Formed (tree : Expr) : Prop := ∃ search : Search.Tree, search.expr = tree

structure ItemOptions.Formed (options : ItemOptions) : Prop where
  filter : ∀ tree ∈ options.filter, tree.Formed settings scope
  orderBy : ∀ items ∈ options.orderBy, items ≠ [] ∧ ∀ item ∈ items, item.Formed settings scope
  top : ∀ count ∈ options.top, count ≤ maxCount
  skip : ∀ count ∈ options.skip, count ≤ maxCount
  search : ∀ tree ∈ options.search, Search.Formed tree
  compute : ∀ items ∈ options.compute, items ≠ [] ∧ ∀ item ∈ items, item.Formed settings scope

def Items.PathFormed (kind : ItemKind) (path : List String) : Prop := Lettered (Items.Path settings kind 0 none path)

def Levels.Formed : Levels → Prop
  | .max => True
  | .count levels => levels ≤ maxCount

inductive SelectItem.Formed : SelectItem → Prop where
  | mk {path : List String} {options : ItemOptions} {select : Option (List SelectItem)}
      (spelled : Items.PathFormed settings .select path) (given : options.Formed settings scope)
      (selected : ∀ items, select = some items → ∀ item ∈ items, Formed item) : Formed ⟨path, options, select⟩

inductive ExpandItem.Formed : ExpandItem → Prop where
  | mk {path : List String} {options : ItemOptions} {select : Option (List SelectItem)}
      {expand : Option (List ExpandItem)} {levels : Option Levels}
      (spelled : Items.PathFormed settings .expand path) (given : options.Formed settings scope)
      (selected : ∀ items, select = some items → ∀ item ∈ items, item.Formed settings scope)
      (expanded : ∀ items, expand = some items → ∀ item ∈ items, Formed item)
      (repeated : ∀ count ∈ levels, count.Formed) : Formed ⟨path, options, select, expand, levels⟩

def Item.Formed (item : Item) : ItemKind → Prop
  | .select => item.toSelect.Formed settings scope
  | .expand => item.toExpand.Formed settings scope

def ParsedOption.Formed : ParsedOption → Prop
  | filter condition => condition.Formed settings scope
  | search condition => Search.Formed condition
  | orderBy items => items ≠ [] ∧ ∀ item ∈ items, item.Formed settings scope
  | compute items => items ≠ [] ∧ ∀ item ∈ items, item.Formed settings scope
  | select items => ∀ item ∈ items, item.Formed settings scope
  | expand items => ∀ item ∈ items, item.Formed settings scope
  | apply transformations => transformations ≠ [] ∧ ∀ transformation ∈ transformations, transformation.Formed settings scope

end

structure Cursor.OnLexeme (cursor : Cursor) : Prop where
  plain : cursor.Plain .expression
  scanned : cursor.token.kind ≠ .finish → Scanned cursor.token.lexeme

structure OnText (scope : List String) (state : ParseState) : Prop where
  lexeme : state.cursor.OnLexeme
  scope : state.scope = scope

variable {settings : Settings} {scope : List String} {α : Type} {p : Parse α}

theorem on_lexeme_of_advance {cursor moved : Cursor} (plain : cursor.Plain .expression)
    (advanced : Cursor.advance cursor = .ok () moved) : moved.OnLexeme := by
  obtain ⟨plain', kind, taken, scans, token⟩ := Cursor.scans_of_advance plain advanced
  have same : moved.token.kind = kind := congrArg Lexeme.kind token
  refine ⟨plain', fun going => ?_⟩
  rw [token]
  exact ⟨⟨_, taken, _, scans, rfl⟩, same ▸ going⟩

theorem on_text_carried : Carried (OnText scope) where
  advance fit advanced := ⟨on_lexeme_of_advance fit.lexeme.plain advanced, fit.scope⟩
  levels _ _ fit := ⟨fit.lexeme, fit.scope⟩

theorem in_scope_carried : Carried fun state => state.scope = scope where
  advance fit _ := fit
  levels _ _ fit := fit

theorem spans_scanned {cursor moved : Cursor} {lexemes : List Lexeme} (spans : cursor.Spans lexemes moved)
    (here : cursor.OnLexeme) : (∀ lexeme ∈ lexemes, Scanned lexeme) ∧ moved.OnLexeme := by
  induction spans with
  | refl => exact ⟨List.forall_mem_nil _, here⟩
  | step going advanced _ ih =>
      obtain ⟨scanned, there⟩ := ih (on_lexeme_of_advance here.plain advanced)
      exact ⟨List.forall_mem_cons.mpr ⟨here.scanned going, scanned⟩, there⟩

theorem makes_lettered {told : α → List Lexeme → Prop}
    (walks : ∀ state value after, state.scope = scope → p state = .ok value after →
      ∃ lexemes, Walks state lexemes after ∧ told value lexemes) :
    Makes (OnText scope) p fun value => Lettered (told value) := by
  intro state value after fit done
  obtain ⟨lexemes, walked, holds⟩ := walks state value after fit.scope done
  obtain ⟨scanned, there⟩ := spans_scanned walked.spans fit.lexeme
  exact ⟨⟨lexemes, scanned, holds⟩, there, walked.scope.trans fit.scope⟩

theorem identifier_makes (description : String) : Makes (OnText scope) (identifier description) Alias := by
  have spelled : Makes (OnText scope) (identifier description) fun name => Lettered fun lexemes =>
      ∃ lexeme ∈ lexemes, lexeme.kind = .identifier ∧ lexeme.text = name := by
    refine makes_lettered fun state name after _ done => ?_
    obtain ⟨named, same, walks⟩ := identifier_walks done
    exact ⟨_, walks, _, List.mem_singleton_self _, named, same.symm⟩
  refine makes_mono spelled fun name holds => ?_
  obtain ⟨lexemes, scanned, lexeme, member, named, same⟩ := holds
  exact ⟨lexeme, scanned lexeme member, named, same⟩

theorem dotted_name_makes : Makes (OnText scope) (dottedName false) fun name => Lettered (Name · name) :=
  makes_lettered fun _ _ _ _ done => dotted_name_walks done

theorem expression_makes (levels : Nat) :
    Makes (OnText scope) (disjunction settings levels) (Expr.Formed settings scope) := by
  refine makes_lettered fun state tree after kept done => ?_
  subst kept
  exact (sound settings levels).rule 0 (by decide) state tree after done

theorem makes_whole {made : α → Prop} {fits : ParseState → Prop} (first : Makes fits p made) :
    Makes fits (do let value ← p; expectEnd; pure value) made :=
  makes_bind first fun _ holds => makes_bind makes_expect_end fun _ _ => makes_pure holds

namespace Order

theorem item_makes (levels : Nat) : Makes (OnText scope) (item settings levels) (OrderItem.Formed settings scope) := by
  refine makes_bind (expression_makes levels) fun expression formed => ?_
  have direction : Makes (OnText scope) (direction settings) fun _ => True := by
    refine makes_at_keyword fun _ => makes_ite (fun _ => ?_) fun _ => makes_at_keyword fun _ => makes_ite (fun _ => ?_) fun _ => ?_
    · exact makes_advance on_text_carried (makes_pure trivial)
    · exact makes_advance on_text_carried (makes_pure trivial)
    · exact makes_pure trivial
  exact makes_bind direction fun _ _ => makes_pure formed

theorem whole_makes (levels : Nat) :
    Makes (OnText scope) (whole settings levels) fun items => items ≠ [] ∧ ∀ item ∈ items, item.Formed settings scope :=
  makes_whole (makes_sep_by on_text_carried (item_makes levels))

end Order

namespace Compute

theorem naming_makes : Makes (OnText scope) (naming settings) Alias := by
  have keyword : Makes (OnText scope) (expectKeyword settings.ignoreCase "as") fun _ => True :=
    makes_at_keyword fun _ => makes_ite (fun _ => makes_step on_text_carried) fun _ => makes_current fun _ => makes_throw _
  exact makes_bind keyword fun _ _ => identifier_makes _

theorem items_makes (levels : Nat) :
    Makes (OnText scope) (items settings levels) fun items => items ≠ [] ∧ ∀ item ∈ items, item.Formed settings scope := by
  refine makes_sep_by on_text_carried (makes_bind (expression_makes levels) fun expression formed => ?_)
  exact makes_bind naming_makes fun name aliased => makes_pure ⟨formed, aliased⟩

theorem whole_makes (levels : Nat) :
    Makes (OnText scope) (whole settings levels) fun items => items ≠ [] ∧ ∀ item ∈ items, item.Formed settings scope :=
  makes_whole (items_makes levels)

end Compute

namespace Apply

theorem aggregates_makes (levels : Nat) :
    Makes (OnText scope) (aggregates settings levels) (Transformation.Formed settings scope) := by
  have method (expression : Expr) :
      Makes (OnText scope) (method settings expression) (AggregationMethod.Formed expression) := by
    refine makes_at_keyword fun _ => makes_ite (fun _ => makes_advance on_text_carried ?_) fun _ => ?_
    · exact makes_map dotted_name_makes fun name spelled => .named spelled
    · exact makes_ite (fun counts => makes_pure (.virtualCount counts)) fun _ => makes_current fun _ => makes_throw _
  have item : Makes (OnText scope) (aggregate settings levels) (Aggregate.Formed settings scope) := by
    refine makes_bind (expression_makes levels) fun expression formed => makes_bind (method expression) fun _ done => ?_
    exact makes_bind Compute.naming_makes fun name aliased => makes_pure ⟨formed, done, aliased⟩
  exact makes_map (makes_sep_by on_text_carried item) fun aggregates formed => .aggregate formed.1 formed.2

theorem grouping_property_makes (levels : Nat) :
    Makes (OnText scope) (groupingProperty settings levels) (Expr.GroupingProperty settings scope) := by
  refine makes_lettered fun state tree after kept done => ?_
  subst kept
  change (if state.cursor.token.kind == .identifier then path settings levels else _ : Parse Expr) state = _ at done
  by_cases named : state.cursor.token.kind == .identifier
  · rw [if_pos named] at done
    obtain ⟨lexemes, walks, derives⟩ := (sound settings levels).path state tree after done
    refine ⟨lexemes, walks, fun first head => ?_, derives⟩
    rw [Cursor.spans_head walks.spans first head]
    exact eq_of_beq named
  · rw [if_neg named] at done
    cases done

theorem grouping_makes (levels : Nat) {pipeline : Parse (List Transformation)}
    (pipelines : Makes (OnText scope) pipeline fun children => ∀ child ∈ children, child.Formed settings scope) :
    Makes (OnText scope) (grouping settings levels pipeline) (Transformation.Formed settings scope) := by
  refine makes_expect on_text_carried ?_
  refine makes_bind (makes_sep_by on_text_carried (grouping_property_makes levels)) fun properties formed => ?_
  refine makes_expect on_text_carried (makes_at_kind fun _ => makes_ite (fun _ => ?_) fun _ => ?_)
  · refine makes_advance on_text_carried (makes_map pipelines fun children others => ?_)
    exact .groupBy formed.1 formed.2 others
  · exact makes_pure (.groupBy formed.1 formed.2 (List.forall_mem_nil _))

theorem parenthesized_makes {body : Parse Transformation}
    (bodies : Makes (OnText scope) body (Transformation.Formed settings scope)) :
    Makes (OnText scope) (parenthesized body) (Transformation.Formed settings scope) := by
  refine makes_advance on_text_carried (makes_expect on_text_carried (makes_bind bodies fun _ formed => ?_))
  exact makes_expect on_text_carried (makes_pure formed)

theorem transformation_makes (levels : Nat) :
    Makes (OnText scope) (transformation settings levels) (Transformation.Formed settings scope) := by
  induction levels with
  | zero => exact makes_too_deep
  | succ levels ih =>
      have children : Makes (OnText scope) (sepBy .slash (transformation settings levels))
          fun children => ∀ child ∈ children, child.Formed settings scope :=
        makes_mono (makes_sep_by on_text_carried ih) fun _ formed => formed.2
      have filter : Makes (OnText scope) (filter settings levels) (Transformation.Formed settings scope) :=
        makes_map (expression_makes levels) fun _ formed => .filter formed
      have compute : Makes (OnText scope) (compute settings levels) (Transformation.Formed settings scope) :=
        makes_map (Compute.items_makes levels) fun _ formed => .compute formed.1 formed.2
      refine makes_recurse on_text_carried (makes_current fun token => makes_ite (fun _ => ?_) fun _ => ?_)
      · refine makes_at_keyword fun _ => makes_ite (fun _ => parenthesized_makes (aggregates_makes levels)) fun _ => ?_
        refine makes_at_keyword fun _ => makes_ite (fun _ => parenthesized_makes (grouping_makes levels children)) fun _ => ?_
        refine makes_at_keyword fun _ => makes_ite (fun _ => parenthesized_makes filter) fun _ => ?_
        refine makes_at_keyword fun _ => makes_ite (fun _ => parenthesized_makes compute) fun _ => makes_throw _
      · exact makes_fail_expected _

theorem whole_makes (levels : Nat) :
    Makes (OnText scope) (whole settings levels) fun transformations =>
      transformations ≠ [] ∧ ∀ transformation ∈ transformations, transformation.Formed settings scope :=
  makes_whole (makes_sep_by on_text_carried (transformation_makes levels))

end Apply

end QueryOptions
