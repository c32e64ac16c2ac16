import QueryOptions.Proofs.Derivation.Brings
import QueryOptions.Proofs.Formed.Basic
import QueryOptions.Proofs.Rendering.Text

set_option autoImplicit false

namespace QueryOptions

open Parse Expression

-- The text of a value: before such an end it is made of lexemes that a rule brings the value for, however
-- many levels it has.
def Restores {α : Type} (rule : Nat → Parse α) (scope : List String) (ends : List Char → Prop)
    (follows : Lexeme → Prop) (text : List Char) (value : α) : Prop :=
  ∃ own, own ≠ [] ∧ Written ends text own ∧ ∀ levels, Brings (rule levels) scope follows value own

variable {α : Type} {settings : Settings} {scope : List String} {keyword : BinaryOperator → String}
variable {follows : Lexeme → Prop}

theorem restores_punctuated {item : Nat → Parse α} {ends : List Char → Prop} {separator : TokenKind} {mark : Char}
    {render : α → List Char} {values : List α} (some : values ≠ [])
    (each : ∀ value ∈ values, Restores item scope ends follows (render value) value)
    (marks : Text.isBlank mark = false ∧ punctuation? mark = .some separator ∧ separator ≠ .finish)
    (delimits : ∀ text, ends (mark :: text)) (between : ∀ lexeme : Lexeme, lexeme.kind = separator → follows lexeme) :
    Restores (fun levels => sepBy separator (item levels)) scope ends
      (fun lexeme => follows lexeme ∧ lexeme.kind ≠ separator) (punctuated mark (values.map render)) values := by
  have listed : ∃ own, own ≠ [] ∧ Written ends (punctuated mark (values.map render)) own ∧
      ∀ levels, Listed (Brings (item levels) scope follows) separator values own := by
    induction values with
    | nil => exact absurd rfl some
    | cons value values ih =>
        obtain ⟨front, going, written, brings⟩ := each value List.mem_cons_self
        by_cases none : values = []
        · subst none
          rw [List.map_singleton, punctuated_single]
          exact ⟨front, going, written, fun levels => .last (brings levels)⟩
        · obtain ⟨back, -, written', others⟩ := ih none fun other member => each other (List.mem_cons_of_mem _ member)
          have point := written_mark marks.1 marks.2.1 marks.2.2
          have behind := written_append point written' fun _ _ => trivial
          rw [List.map_cons, punctuated_further mark _ (by simpa using none)]
          exact ⟨_, by simp, written_append written behind fun tail _ => delimits _, fun levels =>
            .further (brings levels) rfl (others levels)⟩
  obtain ⟨own, going, written, listed⟩ := listed
  exact ⟨own, going, written, fun levels => Brings.of_sep_by (listed levels) between⟩

theorem restores_commas {item : Nat → Parse α} {render : α → List Char} {values : List α} (some : values ≠ [])
    (each : ∀ value ∈ values, Restores item scope Delimited follows (render value) value)
    (between : ∀ lexeme : Lexeme, lexeme.kind = .comma → follows lexeme) :
    Restores (fun levels => sepBy .comma (item levels)) scope Delimited
      (fun lexeme => follows lexeme ∧ lexeme.kind ≠ .comma) (punctuated ',' (values.map render)) values :=
  restores_punctuated some each (by decide) (delimited_mark (by decide)) between

theorem formed_rendered (fixed : Keywords keyword) (plain : settings.customOperators = [])
    (exact : settings.ignoreCase = false) {tree : Expr} (formed : tree.Formed settings scope) :
    ∃ own, Written Delimited (tree.render keyword) own ∧ Derives settings scope (.chain 0 tree) own := by
  obtain ⟨lexemes, scanned, derives⟩ := formed
  have bare := @derives_in settings {} plain.symm exact.symm _ _ _ derives
  obtain ⟨own, stands⟩ := derives_rendered fixed bare scanned
  exact ⟨own, stands.written, @derives_in {} settings plain exact _ _ _ stands.derives⟩

theorem expression_restores (fixed : Keywords keyword) (plain : settings.customOperators = [])
    (exact : settings.ignoreCase = false) {tree : Expr} (formed : tree.Formed settings scope) :
    Restores (disjunction settings) scope Delimited (EndsExpression settings) (tree.render keyword) tree := by
  obtain ⟨own, written, derives⟩ := formed_rendered fixed plain exact formed
  refine ⟨own, derives_ne_nil derives, written, fun levels state moved kept spans fits => ?_⟩
  have read : Yields (rule settings 0 levels) state tree moved :=
    rule_complete (complete (unambiguous_of_plain plain) derives) kept spans fits.stops
      ⟨fits.other.1, fits.other.2.1, fits.other.2.2⟩
  exact read

theorem restores_map {β : Type} {rule : Nat → Parse α} {ends : List Char → Prop} {text : List Char} {value : α}
    (restores : Restores rule scope ends follows text value) (f : α → β) :
    Restores (fun levels => do return f (← rule levels)) scope ends follows text (f value) := by
  obtain ⟨own, some, written, brings⟩ := restores
  exact ⟨own, some, written, fun levels => (brings levels).of_bind_pure f⟩

section

variable (fixed : Keywords keyword) (plain : settings.customOperators = []) (exact : settings.ignoreCase = false)

include fixed plain exact

theorem order_restores {item : OrderItem} (formed : item.Formed settings scope) :
    Restores (Order.item settings) scope Delimited follows (item.render keyword) item := by
  obtain ⟨expression, direction⟩ := item
  obtain ⟨own, some, written, brings⟩ := expression_restores fixed plain exact formed
  have directed : Written Parted direction.word.toList [⟨.identifier, direction.word⟩] :=
    written_plain_word (by cases direction <;> decide)
  have behind := written_append written_blank directed fun _ _ => trivial
  have whole := written_append written (written_weaken behind fun _ => parted_of_delimited) fun _ _ =>
    delimited_mark (by decide) _
  have ends : EndsExpression settings ⟨.identifier, direction.word⟩ := by
    cases direction <;> exact ends_expression_of_word (custom_none plain _) (by decide) (by decide)
  have reads : Brings (Order.direction settings) scope follows direction [⟨.identifier, direction.word⟩] := by
    cases direction with
    | ascending =>
        exact .of_keyword (keyword_spelled settings.ignoreCase "asc") (.of_advance (.of_pure _))
    | descending =>
        have other : Text.sameWord settings.ignoreCase "desc" "asc" = false := by
          cases settings.ignoreCase <;> decide
        exact .of_keyword other (.of_keyword (keyword_spelled settings.ignoreCase "desc") (.of_advance (.of_pure _)))
  refine ⟨_, by simp, whole, fun levels => .of_bind (brings levels) (reads.of_bind_pure _) (by simp) ?_⟩
  exact fun first head => Option.some.inj head ▸ ends

omit fixed plain exact in
theorem naming_written {name : String} (aliased : Alias name) :
    ∃ lexeme : Lexeme, lexeme.kind = .identifier ∧ lexeme.text = name ∧
      Written Parted (clause "as" name.toList) [⟨.identifier, "as"⟩, lexeme] := by
  obtain ⟨lexeme, scanned, named, rfl⟩ := aliased
  have word := written_name scanned (by simp [Lexeme.isName, Cursor.isName, named])
  exact ⟨lexeme, named, rfl, written_operation (by decide) word⟩

omit fixed plain exact in
theorem naming_brings {name : Lexeme} (named : name.kind = .identifier) :
    Brings (Compute.naming settings) scope follows name.text [⟨.identifier, "as"⟩, name] := by
  have keyword : Brings (expectKeyword settings.ignoreCase "as") scope (fun _ => True) () [⟨.identifier, "as"⟩] :=
    .of_keyword (keyword_spelled settings.ignoreCase "as") (.of_step _)
  exact .of_bind keyword (.of_identifier "alias" named) (by simp) fun _ _ => trivial

theorem compute_restores {item : ComputeItem} (formed : item.Formed settings scope) :
    Restores (Compute.item settings) scope Delimited follows (item.render keyword) item := by
  obtain ⟨own, some, written, brings⟩ := expression_restores fixed plain exact formed.expression
  obtain ⟨name, named, same, naming⟩ := naming_written formed.name
  have ends : EndsExpression settings ⟨.identifier, "as"⟩ := ends_expression_of_word (custom_none plain _) (by decide) (by decide)
  have whole := written_append written (written_weaken naming fun _ => parted_of_delimited) fun _ _ =>
    delimited_mark (by decide) _
  have reads := (naming_brings named : Brings (Compute.naming settings) scope follows _ _).of_bind_pure
    fun name => (⟨item.expression, name⟩ : ComputeItem)
  rw [same] at reads
  refine ⟨_, by simp, whole, fun levels => .of_bind (brings levels) reads (by simp) ?_⟩
  exact fun first head => Option.some.inj head ▸ ends

omit fixed plain exact in
theorem method_named {expression : Expr} {spelling : String} (spelled : Lettered (Name · spelling)) :
    ∃ names, Written Parted (clause "with" spelling.toList) (⟨.identifier, "with"⟩ :: names) ∧
      Brings (Apply.method settings expression) scope (fun lexeme => lexeme.kind ≠ .dot) (.ofName spelling)
        (⟨.identifier, "with"⟩ :: names) := by
  obtain ⟨lexemes, scanned, spells⟩ := spelled
  obtain ⟨names, written, spells', -⟩ := name_written spells scanned
  refine ⟨names, written_operation (by decide) written, ?_⟩
  refine .of_keyword (keyword_spelled settings.ignoreCase "with") (.of_advance ?_)
  exact Brings.of_bind_pure (.of_dotted_name spells' fun _ other => other) AggregationMethod.ofName

omit fixed exact in
theorem aggregate_behind {expression : Expr} {method : AggregationMethod} {name : String}
    (counting : method.Formed expression) (aliased : Alias name) :
    ∃ words, words ≠ [] ∧ (∀ first ∈ words.head?, EndsExpression settings first) ∧
      (method.text ++ clause "as" name.toList).head? = some ' ' ∧
      Written Delimited (method.text ++ clause "as" name.toList) words ∧
      Brings (do
        let method ← Apply.method settings expression
        let name ← Compute.naming settings
        pure (⟨expression, method, name⟩ : Aggregate)) scope follows ⟨expression, method, name⟩ words := by
  obtain ⟨lexeme, named, same, naming⟩ := naming_written aliased
  have ends {word : String} (listed : word ∈ ["with", "as"]) : EndsExpression settings ⟨.identifier, word⟩ := by
    have apart : ∀ word ∈ ["with", "as"], (∀ level < 5, apart (keywordsAt level) [word]) ∧
        Text.fold word ≠ Text.fold "in" := by decide
    exact ends_expression_of_word (custom_none plain _) (apart word listed).1 (apart word listed).2
  have delimited := written_weaken naming fun _ => parted_of_delimited
  have reads (method : AggregationMethod) :=
    (naming_brings named : Brings (Compute.naming settings) scope follows _ _).of_bind_pure
      fun name => (⟨expression, method, name⟩ : Aggregate)
  rw [same] at reads
  cases counting with
  | @named spelling spelled =>
      obtain ⟨names, worded, read⟩ := @method_named settings scope expression spelling spelled
      have both := written_append worded delimited fun _ _ => parted_mark (by decide) _
      rw [AggregationMethod.text_of_name]
      refine ⟨⟨.identifier, "with"⟩ :: names ++ [⟨.identifier, "as"⟩, lexeme], by simp, fun first head => ?_, rfl, both,
        .of_bind read (reads _) (by simp) fun first head => ?_⟩
      · exact Option.some.inj head ▸ ends (by simp)
      · rw [← Option.some.inj head]
        decide
  | virtualCount counts =>
      have other : Text.sameWord settings.ignoreCase "as" "with" = false := by
        cases settings.ignoreCase <;> decide
      have look (state : ParseState) (here : state.cursor.token.lexeme = ⟨.identifier, "as"⟩) :
          Apply.method settings expression state = .ok .virtualCount state := by
        obtain ⟨-, text⟩ := Lexeme.mk.inj here
        have bare : ¬ state.cursor.token.isKeyword settings.ignoreCase "with" := by simp [Token.isKeyword, text, other]
        exact (congrFun (if_neg bare) state).trans (congrFun (if_pos counts) state)
      refine ⟨[⟨.identifier, "as"⟩, lexeme], by simp, fun first head => ?_, rfl, delimited, .of_look look (reads _)⟩
      exact Option.some.inj head ▸ ends (by simp)

theorem aggregate_restores {aggregate : Aggregate} (formed : aggregate.Formed settings scope) :
    Restores (Apply.aggregate settings) scope Delimited follows (aggregate.render keyword) aggregate := by
  obtain ⟨expression, method, name⟩ := aggregate
  obtain ⟨own, some, written, brings⟩ := expression_restores fixed plain exact formed.expression
  obtain ⟨words, going, first, blank, written', brings'⟩ :=
    @aggregate_behind settings scope follows plain _ _ _ formed.method formed.name
  have starts (tail : List Char) : Delimited (method.text ++ clause "as" name.toList ++ tail) := by
    intro c head
    rw [List.head?_append, blank] at head
    rw [← Option.some.inj head]
    decide
  exact ⟨_, by simp [going], written_append written written' fun tail _ => starts tail, fun levels =>
    .of_bind (brings levels) brings' going first⟩

end

end QueryOptions
