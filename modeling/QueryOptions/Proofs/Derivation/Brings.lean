import QueryOptions.Proofs.Derivation.Spelling

set_option autoImplicit false

namespace QueryOptions

open Parse

inductive Listed {α : Type} (told : α → List Lexeme → Prop) (separator : TokenKind) : List α → List Lexeme → Prop where
  | last {value : α} {own : List Lexeme} (item : told value own) : Listed told separator [value] own
  | further {value : α} {values : List α} {front back : List Lexeme} {mark : Lexeme} (item : told value front)
      (separates : mark.kind = separator) (others : Listed told separator values back) :
      Listed told separator (value :: values) (front ++ mark :: back)

def Brings {α : Type} (p : Parse α) (scope : List String) (follows : Lexeme → Prop) (value : α) (own : List Lexeme) : Prop :=
  ∀ state moved, state.scope = scope → state.cursor.Spans own moved → follows moved.token.lexeme →
    Yields p state value moved

namespace Brings

variable {α β : Type} {p : Parse α} {f : α → Parse β} {scope : List String} {follows follows' : Lexeme → Prop}
variable {value : α} {result : β} {own front back : List Lexeme} {settings : Settings}

theorem weaken (brings : Brings p scope follows value own) (fewer : ∀ lexeme, follows' lexeme → follows lexeme) :
    Brings p scope follows' value own :=
  fun state moved kept spans fits => brings state moved kept spans (fewer _ fits)

theorem of_pure (value : α) : Brings (pure value) scope follows value [] := by
  intro state moved _ spans _
  obtain rfl := Cursor.spans_nil spans
  exact Yields.of_pure rfl

theorem of_bind (first : Brings p scope follows value front) (second : Brings (f value) scope follows' result back)
    (some : back ≠ []) (between : ∀ lexeme ∈ back.head?, follows lexeme) :
    Brings (p >>= f) scope follows' result (front ++ back) := by
  intro state moved kept spans fits
  obtain ⟨middle, here, there⟩ := Cursor.spans_split spans
  refine Yields.of_bind (first state middle kept here (between _ (Cursor.head_of_spans there some))) fun after at_middle kept' => ?_
  subst at_middle
  exact second after moved (kept'.trans kept) there fits

theorem of_bind_pure (first : Brings p scope follows value own) (f : α → β) :
    Brings (do return f (← p)) scope follows (f value) own := by
  intro state moved kept spans fits
  exact Yields.of_bind (first state moved kept spans fits) fun after there _ => Yields.of_pure there

theorem of_look {look : Parse β} {f : β → Parse α} {seen : β} {first : Lexeme} {others : List Lexeme}
    (looks : ∀ state, state.cursor.token.lexeme = first → look state = .ok seen state)
    (next : Brings (f seen) scope follows value (first :: others)) :
    Brings (look >>= f) scope follows value (first :: others) := by
  intro state moved kept spans fits
  exact Yields.of_run (bind_done (looks state (Cursor.spans_cons spans).1)) rfl (next state moved kept spans fits)

theorem of_current {f : Token → Parse α} {first : Lexeme} {others : List Lexeme}
    (next : ∀ token, token.lexeme = first → Brings (f token) scope follows value (first :: others)) :
    Brings (current >>= f) scope follows value (first :: others) :=
  fun state moved kept spans fits => Yields.of_run rfl rfl
    (next state.cursor.token (Cursor.spans_cons spans).1 state moved kept spans fits)

theorem of_kind_behind {kind : TokenKind} {f : Bool → Parse α} (other : ∀ lexeme, follows lexeme → lexeme.kind ≠ kind)
    (next : Brings (f false) scope follows value []) : Brings (atKind kind >>= f) scope follows value [] := by
  intro state moved kept spans fits
  have same := Cursor.spans_nil spans
  have differs : state.cursor.token.kind ≠ kind := other _ (same ▸ fits)
  exact Yields.of_kind (beq_eq_false_iff_ne.mpr differs) (next state moved kept spans fits)

theorem of_kind {kind : TokenKind} {f : Bool → Parse α} {first : Lexeme} {others : List Lexeme} {seen : Bool}
    (found : (first.kind == kind) = seen) (next : Brings (f seen) scope follows value (first :: others)) :
    Brings (atKind kind >>= f) scope follows value (first :: others) :=
  of_look (fun state same => by rw [← found, ← same]; rfl) next

theorem of_keyword {keyword : String} {ignoreCase : Bool} {f : Bool → Parse α} {first : Lexeme} {others : List Lexeme}
    {seen : Bool} (found : (first.kind == .identifier && Text.sameWord ignoreCase first.text keyword) = seen)
    (next : Brings (f seen) scope follows value (first :: others)) :
    Brings (atKeyword ignoreCase keyword >>= f) scope follows value (first :: others) :=
  of_look (fun state same => by rw [← found, ← same]; rfl) next

theorem of_advance {f : Unit → Parse α} {first : Lexeme} {others : List Lexeme}
    (next : Brings (f ()) scope follows value others) : Brings (advance >>= f) scope follows value (first :: others) := by
  intro state moved kept spans fits
  obtain ⟨-, between, advanced, rest⟩ := Cursor.spans_cons spans
  exact Yields.of_advance advanced (next { state with cursor := between } moved kept rest fits)

theorem of_step (first : Lexeme) : Brings advance scope follows () [first] := by
  have brings : Brings (advance >>= pure) scope follows () [first] := of_advance (of_pure ())
  rwa [bind_pure] at brings

theorem of_expect {kind : TokenKind} {description : String} {f : Unit → Parse α} {first : Lexeme} {others : List Lexeme}
    (found : first.kind = kind) (next : Brings (f ()) scope follows value others) :
    Brings (expect kind description >>= f) scope follows value (first :: others) := by
  intro state moved kept spans fits
  obtain ⟨same, between, advanced, rest⟩ := Cursor.spans_cons spans
  have here : state.cursor.token.kind = kind := (congrArg Lexeme.kind same).trans found
  exact Yields.of_expect here advanced (next { state with cursor := between } moved kept rest fits)

theorem of_recurse {levels : Nat} (inner : Brings p scope follows value own) :
    Brings (recurse settings levels p) scope follows value own :=
  fun state moved kept spans fits =>
    Yields.of_recurse (inner { state with depth := state.depth + levels } moved kept spans fits)

theorem of_identifier {name : Lexeme} (description : String) (named : name.kind = .identifier) :
    Brings (identifier description) scope follows name.text [name] := by
  intro state moved _ spans _
  obtain ⟨rfl, between, advanced, rest⟩ := Cursor.spans_cons spans
  obtain rfl := Cursor.spans_nil rest
  have read : identifier description state = .ok state.cursor.token.text { state with cursor := moved } :=
    (congrFun (if_pos named) state).trans (bind_done (advance_done advanced))
  exact .inl ⟨_, read, rfl, rfl⟩

theorem of_dotted_name {name : String} (spelled : Expression.Name own name)
    (undotted : ∀ lexeme, follows lexeme → lexeme.kind ≠ .dot) : Brings (dottedName false) scope follows name own := by
  intro state moved _ spans fits
  have read : dottedName false state = .ok name { state with cursor := moved } := by
    unfold dottedName move
    rw [Cursor.dotted_name_complete spelled spans (undotted _ fits)]
  exact .inl ⟨_, read, rfl, rfl⟩

section

variable {item : Parse α} {separator : TokenKind} {values : List α} {lexemes : List Lexeme}

theorem of_separated (listed : Listed (Brings item scope follows) separator values lexemes) (count : Nat)
    (between : ∀ lexeme : Lexeme, lexeme.kind = separator → follows lexeme) {state : ParseState} {moved : Cursor}
    {mark : Lexeme} (separates : mark.kind = separator) (kept : state.scope = scope)
    (spans : state.cursor.Spans (mark :: lexemes) moved) (enough : lexemes.length < count)
    (fits : follows moved.token.lexeme) (ends : moved.token.kind ≠ separator) :
    Yields (separated separator item count) state values moved := by
  induction listed generalizing count state mark with
  | @last value own item' =>
      obtain ⟨count, rfl⟩ := Nat.exists_eq_succ_of_ne_zero (Nat.ne_zero_of_lt enough)
      obtain ⟨rfl, ready, advanced, rest⟩ := Cursor.spans_cons spans
      refine Yields.of_kind (beq_of_eq separates) (Yields.of_advance advanced ?_)
      refine Yields.of_bind (item' { state with cursor := ready } moved kept rest fits) fun after there _ => ?_
      subst there
      exact Yields.of_run (bind_done (Expression.separated_stops count ends)) rfl (Yields.of_pure rfl)
  | @further value values front back mark' item' separates' _ ih =>
      obtain ⟨count, rfl⟩ := Nat.exists_eq_succ_of_ne_zero (Nat.ne_zero_of_lt enough)
      obtain ⟨rfl, ready, advanced, rest⟩ := Cursor.spans_cons spans
      obtain ⟨middle, here, there⟩ := Cursor.spans_split rest
      have next : middle.token.lexeme = mark' := (Cursor.spans_cons there).1
      refine Yields.of_kind (beq_of_eq separates) (Yields.of_advance advanced ?_)
      refine Yields.of_bind (item' { state with cursor := ready } middle kept here (next ▸ between _ separates'))
        fun after at_middle kept' => ?_
      subst at_middle
      have fewer : back.length < count := by
        rw [List.length_append, List.length_cons] at enough
        omega
      refine Yields.of_bind (ih count separates' (kept'.trans kept) there fewer) fun last there' _ => Yields.of_pure there'

theorem of_sep_by (listed : Listed (Brings item scope follows) separator values lexemes)
    (between : ∀ lexeme : Lexeme, lexeme.kind = separator → follows lexeme) :
    Brings (sepBy separator item) scope (fun lexeme => follows lexeme ∧ lexeme.kind ≠ separator) values lexemes := by
  intro state moved kept spans fits
  have behind {first : α} {others : List α} {after : ParseState}
      (rest : Yields (separated separator item (after.cursor.rest.length + 1)) after others moved) :
      Yields (do
        let others ← separated separator item ((← get).cursor.rest.length + 1)
        pure (first :: others) : Parse (List α)) after (first :: others) moved :=
    Yields.of_run (bind_done rfl) rfl (Yields.of_bind rest fun last there _ => Yields.of_pure there)
  cases listed with
  | last item' =>
      refine Yields.of_bind (item' state moved kept spans fits.1) fun after there _ => behind ?_
      subst there
      exact Yields.of_run (Expression.separated_stops _ fits.2) rfl (Yields.of_pure rfl)
  | @further value values front back mark item' separates others =>
      obtain ⟨middle, here, there⟩ := Cursor.spans_split spans
      have next : middle.token.lexeme = mark := (Cursor.spans_cons there).1
      refine Yields.of_bind (item' state middle kept here (next ▸ between _ separates)) fun after at_middle kept' => behind ?_
      subst at_middle
      have enough : back.length < after.cursor.rest.length + 1 := by
        have length := Cursor.spans_length there
        rwa [List.length_cons] at length
      exact of_separated others _ between separates (kept'.trans kept) there enough fits.1 fits.2

end

theorem parses {option : QueryOption} {text : String} {parsed : ParsedOption} {lexemes : List Lexeme}
    (dialect : option.dialect = .expression) (spelled : Spelled .expression text.toList lexemes)
    (brings : Brings (option.grammar settings settings.maxDepth) Context.standing (fun lexeme => lexeme.kind = .finish)
      parsed lexemes)
    (enough : 8 * (Text.byteLength text.toList + 1) ≤ settings.maxDepth) : parse settings option text = .ok parsed := by
  have plain : (option.start text).cursor.Plain .expression := ⟨dialect, rfl⟩
  obtain ⟨first, last, advanced, spans, finish⟩ := Cursor.spans_of_spelled spelled plain rfl
  have yields : Yields (option.parser settings) (option.start text) parsed last :=
    Yields.of_advance advanced (brings { option.start text with cursor := first } last rfl spans finish)
  exact parse_of_yields yields enough

theorem whole (brings : Brings p scope follows value own) (ends : ∀ lexeme : Lexeme, lexeme.kind = .finish → follows lexeme) :
    Brings (do let value ← p; expectEnd; pure value) scope (fun lexeme => lexeme.kind = .finish) value own := by
  intro state moved kept spans finish
  refine Yields.of_bind (brings state moved kept spans (ends _ finish)) fun after there _ => ?_
  subst there
  exact Yields.of_run (bind_done (congrFun (if_pos finish) after)) rfl (Yields.of_pure rfl)

end Brings

end QueryOptions
