import QueryOptions.Proofs.Hosts

set_option autoImplicit false

namespace QueryOptions

open Parse Expression

variable {settings : Settings} {levels level above : Nat} {tree : Expr} {text tail : List Char} {name : String}
variable {here there : List String → Cursor → Prop} {state after : ParseState}

structure Settings.Names (settings : Settings) (name : String) : Prop where
  single : tokenize name .expression 0 = .ok [⟨.identifier, name, 0⟩]
  operand : settings.matchesKeyword name "not" = false

namespace Settings.Names

variable (names : settings.Names name)

include names

theorem starts (parted : Parted tail) (next : Scannable tail) : Starts (name.toList ++ tail) ⟨.identifier, name⟩ tail :=
  .name (scanned_of_tokenize names.single) parted next

theorem bare : prefixAt settings ⟨.identifier, name⟩ = none := by
  have other : ¬ Lexeme.isKeyword settings "not" ⟨.identifier, name⟩ := Bool.eq_false_iff.mp names.operand
  exact (if_neg Bool.false_ne_true).trans (if_neg other)

end Settings.Names

def Expr.ofName (name : String) : Expr :=
  if Context.standing.contains name then .rangeVariable name else .endPath name none

theorem gets_looser (loose : level < 5) (tighter : Gets settings .rule levels (rule settings (level + 1) levels) here tree there)
    (stops : ∀ scope cursor, there scope cursor → Stops settings level cursor.token.lexeme) :
    Gets settings .rule (levels + 1) (rule settings level (levels + 1)) here tree there := by
  rw [rule_loose loose]
  change Gets settings .rule (levels + 1) (chain settings (body settings level levels)) _ _ _
  rw [body, if_pos loose]
  exact gets_chain_of tighter fun state holds _ => ⟨state, tail_stops (stops _ _ holds), holds, kept_same _ _⟩

theorem gets_alone (operand : Gets settings .rule levels (primary settings levels) here tree there)
    (bare : ∀ scope cursor, here scope cursor → prefixAt settings cursor.token.lexeme = none)
    (stops : ∀ scope cursor, there scope cursor → Stops settings level cursor.token.lexeme) (sum : level + above = 5) :
    Gets settings .rule (levels + above + 1) (rule settings level (levels + above + 1)) here tree there := by
  induction above generalizing level with
  | zero =>
      obtain rfl : level = 5 := sum
      rw [rule_tight (by decide), body, if_neg (by decide)]
      refine gets_chain (gets_of_rule fun state holds enough => ?_)
      rw [prefixed_at, bare _ _ holds]
      exact operand state holds enough
  | succ above ih =>
      have tighter := ih (fun scope cursor holds => stops_tighter (Nat.le_succ level) (stops scope cursor holds)) (by omega)
      exact gets_looser (by omega) tighter stops

theorem stops_at_end {cursor : Cursor} (on : cursor.Begins []) : Stops settings level cursor.token.lexeme :=
  stops_of_kind (by rw [show cursor.token.lexeme.kind = .finish from Cursor.begins_nil on]; decide)

theorem gets_whole (operand : Gets settings .rule levels (primary settings levels) here tree there)
    (bare : ∀ scope cursor, here scope cursor → prefixAt settings cursor.token.lexeme = none)
    (stops : ∀ scope cursor, there scope cursor → Stops settings 0 cursor.token.lexeme) :
    Gets settings .rule (levels + 6) (disjunction settings (levels + 6)) here tree there :=
  gets_alone operand bare stops rfl

theorem prefixed_of_rule (done : rule settings level levels state = .ok tree after) (sum : level + above = 5) :
    ∃ fewer first between, levels = fewer + above ∧
      prefixed settings fewer { state with depth := state.depth + above + 1, links := 0 } = .ok first between := by
  induction above generalizing level levels state tree after with
  | zero =>
      obtain rfl : level = 5 := sum
      rw [rule_tight (by decide), body, if_neg (by decide)] at done
      obtain ⟨before, ran, -⟩ := chain_ok done
      exact ⟨levels, tree, before, rfl, ran⟩
  | succ above ih =>
      have loose : level < 5 := by omega
      rw [rule_loose loose] at done
      obtain ⟨levels, rfl, done⟩ := below_ok done
      obtain ⟨_, ran, -⟩ := chain_ok done
      rw [body, if_pos loose] at ran
      obtain ⟨first, between, ran, -⟩ := bind_ok ran
      obtain ⟨fewer, operand, last, rfl, read⟩ := ih ran (by omega)
      refine ⟨fewer, operand, last, rfl, ?_⟩
      rwa [show state.depth + (above + 1) + 1 = state.depth + 1 + above + 1 by omega]

theorem gets_group (next : Scannable text) (after : Scannable tail)
    (inner : Gets settings .rule levels (disjunction settings levels) (At text) tree (At (')' :: tail))) :
    Gets settings .rule (levels + 1) (primary settings (levels + 1)) (At ('(' :: text)) tree (At tail) := by
  have opens : Starts ('(' :: text) ⟨.openParen, _⟩ text := .mark rfl rfl (by decide) next
  have closes : Starts (')' :: tail) ⟨.closeParen, _⟩ tail := .mark rfl rfl (by decide) after
  refine gets_recurse (gets_current fun scope cursor holds => ?_)
  rw [if_pos (show cursor.token.kind = .openParen from congrArg Lexeme.kind (opens.sees holds))]
  refine gets_advance (fun _ _ => opens.moves) (gets_bind inner ?_)
  exact gets_bind (gets_mark closes rfl _) (gets_pure tree)

theorem gets_path (starts : Starts text ⟨.identifier, name⟩ tail)
    (path : Gets settings .rule levels (path settings levels) (At text) tree there) :
    Gets settings .rule (levels + 1) (primary settings (levels + 1)) (At text) tree there := by
  refine gets_recurse (gets_current fun scope cursor holds => ?_)
  have word : cursor.token.kind = .identifier := congrArg Lexeme.kind (starts.sees holds)
  rw [if_neg (by rw [word]; decide), if_neg (by rw [word]; decide), if_neg (by rw [word]; decide), if_pos word]
  exact path

theorem finds_kind {kind : TokenKind} {seen : Bool}
    (sees : ∀ scope cursor, here scope cursor → (cursor.token.kind == kind) = seen) : Finds (atKind kind) here seen :=
  finds_of_token (f := fun token => token.kind == kind) (fun _ => rfl) sees

theorem gets_single_segment {inner : Parse Expr} {more : Expr → Parse Expr} {parent : Option Expr}
    (segment : Gets settings .rule levels (segment settings inner parent) here tree there)
    (stops : ∀ scope cursor, there scope cursor → cursor.token.kind ≠ .slash) :
    Gets settings .links levels (segments settings inner more parent) here tree there := by
  have ends : Finds (atKind .slash) there false := finds_kind fun scope cursor holds => beq_false_of_ne (stops scope cursor holds)
  exact gets_bind segment (gets_look ends (gets_pure tree))

structure Bounds (tail : List Char) : Prop where
  dot : ∀ moved : Cursor, moved.Begins tail → moved.token.kind ≠ .dot
  slash : ∀ moved : Cursor, moved.Begins tail → moved.token.kind ≠ .slash
  opening : ∀ moved : Cursor, moved.Begins tail → moved.token.kind ≠ .openParen

theorem bounds_of_kind {kind : TokenKind} (found : ∀ moved : Cursor, moved.Begins tail → moved.token.kind = kind)
    (other : kind ≠ .dot ∧ kind ≠ .slash ∧ kind ≠ .openParen) : Bounds tail where
  dot moved on := found moved on ▸ other.1
  slash moved on := found moved on ▸ other.2.1
  opening moved on := found moved on ▸ other.2.2

theorem gets_bare {inner : Parse Expr} (named : Starts (name.toList ++ tail) ⟨.identifier, name⟩ tail) (bounds : Bounds tail) :
    Gets settings .rule levels (segment settings inner none) (At (name.toList ++ tail)) (.ofName name) (At tail) := by
  have alone : Finds (atKind .openParen) (At tail) false :=
    finds_kind fun _ cursor holds => beq_false_of_ne (bounds.opening cursor holds.2)
  have known : Finds (inScope name) (At tail) (Context.standing.contains name) := by
    rintro state ⟨scope, -⟩
    rw [← scope]
    rfl
  refine gets_bind (gets_dotted_name named rfl bounds.dot) (gets_look alone (gets_look known ?_))
  unfold Expr.ofName
  cases Context.standing.contains name <;> exact gets_pure _

theorem gets_name (named : Starts (name.toList ++ tail) ⟨.identifier, name⟩ tail) (bounds : Bounds tail) :
    Gets settings .rule (levels + 2) (primary settings (levels + 2)) (At (name.toList ++ tail)) (.ofName name) (At tail) := by
  refine gets_path named (gets_chain ?_)
  rw [path_from_at]
  exact gets_single_segment (gets_bare named bounds) fun _ cursor holds => bounds.slash cursor holds.2

theorem filter_of_gets {written : String} (next : Scannable written.toList)
    (gets : Gets settings .rule settings.maxDepth (disjunction settings settings.maxDepth) (At written.toList) tree (At [])) :
    parse settings .filter written = .ok (.filter tree) := by
  refine parse_of_grammar rfl next fun cursor on => ?_
  have whole : Gets settings .rule settings.maxDepth (QueryOption.filter.grammar settings settings.maxDepth)
      (At written.toList) (.filter tree) (At []) := gets_map (gets_bind gets (gets_bind gets_end (gets_pure tree)))
  obtain ⟨after, ran, -, -⟩ := whole (.fresh cursor) ⟨rfl, on⟩ (Nat.zero_add _).le
  exact ⟨after, ran⟩

end QueryOptions
