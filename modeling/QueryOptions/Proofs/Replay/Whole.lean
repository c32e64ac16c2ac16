import Mathlib.Computability.Language
import QueryOptions.Proofs.Nested.Value
import QueryOptions.Proofs.Replay.Options
import QueryOptions.Proofs.Replay.Search

set_option autoImplicit false

namespace QueryOptions

open Parse

def Use.texts (settings : Settings) (dialect : Dialect) (uses : List Use) : Language Char :=
  {text | ∃ lexemes, Spelled dialect text lexemes ∧ Use.Admit settings uses lexemes}

def ParsedOption.names? : ParsedOption → Option (List String)
  | filter condition => some condition.names
  | search _ => some []
  | orderBy items => some (items.flatMap OrderItem.names)
  | compute items => some (items.flatMap ComputeItem.names)
  | apply transformations => some (Transformation.allNames transformations)
  | select _ | expand _ => none

section

variable {dialect : Dialect} {cursor first last : Cursor} {lexemes : List Lexeme}

theorem Cursor.spans_end (plain : cursor.Plain dialect) (advanced : advance cursor = .ok () first)
    (spans : first.Spans lexemes last) (finish : last.token.kind = .finish) : last.token.lexeme = ⟨.finish, ""⟩ := by
  induction spans generalizing cursor with
  | refl =>
      have blank := blank_of_finish plain advanced finish
      obtain ⟨-, kind, taken, scans, token⟩ := scans_of_advance plain advanced
      rw [blank, dialect.scan_nil] at scans
      obtain rfl : kind = .finish := (congrArg Lexeme.kind token).symm.trans finish
      obtain rfl : taken = [] := (congrArg Scan.taken scans).symm
      exact token
  | step _ advanced' _ ih => exact ih (scans_of_advance plain advanced).1 advanced' finish

end

variable {α : Type} {settings : Settings} {reads : Bool} {starts : Lexeme → Prop} {dialect : Dialect} {p : Parse α}
variable {made : α → List String → Prop} {state after : ParseState} {value : α} {text : String} {position levels : Nat}

theorem replays_expect_end {made : Unit → List String → Prop} (makes : made () []) :
    Replays settings false starts (Same settings) made expectEnd := by
  intro state _ after _ done
  obtain ⟨rfl, finish⟩ := expect_end_ok done
  refine ⟨[], [], [], makes, .nil, nofun, .nil, .refl _, List.forall_mem_nil _, fun others cursor moved fits spans same => ?_⟩
  cases fits
  rw [Cursor.spans_nil spans] at same ⊢
  exact congrFun (if_pos ((same_kind same).symm.trans finish)) _

theorem replays_to_end (body : Replays settings true Anywhere (Same settings) made p) :
    Replays settings true Anywhere (Same settings) made (do
      let value ← p
      expectEnd
      pure value) := by
  refine replays_then body (fun value names makes => ?_) fun _ _ => id
  have ended : Replays settings false Anywhere (Same settings) (fun _ more => more = []) expectEnd := replays_expect_end rfl
  have last (_ : Unit) (more : List String) (none : more = []) :
      Replays settings false Anywhere (Same settings) (fun result further => made result (names ++ (more ++ further)))
        (pure value) :=
    replays_pure (by rwa [none, List.append_nil, List.append_nil])
  exact replays_bind ended last (fun _ _ _ same => same) fun _ _ => id

theorem Expression.replays_whole : Replays settings true Anywhere (Same settings) Alone (whole settings levels) :=
  replays_to_end replays_disjunction_exact

theorem Search.replays_whole (folds : settings.ignoreCase = true) :
    Replays settings true Anywhere (Same settings) Nameless (whole settings levels) :=
  replays_to_end (replays_at folds settings levels).disjunction

theorem Order.replays_whole :
    Replays settings true Anywhere (Same settings) (fun items names => names = items.flatMap OrderItem.names)
      (whole settings levels) :=
  replays_to_end (replays_sep_by_exact (by decide) (replays_same replays_item fun _ _ => .inl))

theorem Compute.replays_whole :
    Replays settings true Anywhere (Same settings) (fun items names => names = items.flatMap ComputeItem.names)
      (whole settings levels) := replays_to_end replays_items

theorem Apply.replays_whole : Replays settings true Anywhere (Same settings) Piped (whole settings levels) :=
  replays_to_end (replays_pipeline (replays_transformation levels))

theorem replays_grammar (folds : settings.ignoreCase = true) {option : QueryOption}
    (flat : option ≠ .select ∧ option ≠ .expand) (levels : Nat) :
    Replays settings true Anywhere (Same settings) (fun parsed names => parsed.queryOption = option ∧ parsed.names? = some names)
      (option.grammar settings levels) := by
  have same (x y : Lexeme) : Same settings x y → Same settings x y := id
  cases option with
  | filter => exact replays_map (replays_made Expression.replays_whole fun _ _ own => ⟨rfl, congrArg some own.symm⟩) same
  | search => exact replays_map (replays_made (Search.replays_whole folds) fun _ _ none => ⟨rfl, congrArg some none.symm⟩) same
  | orderBy => exact replays_map (replays_made Order.replays_whole fun _ _ own => ⟨rfl, congrArg some own.symm⟩) same
  | compute => exact replays_map (replays_made Compute.replays_whole fun _ _ own => ⟨rfl, congrArg some own.symm⟩) same
  | apply => exact replays_map (replays_made Apply.replays_whole fun _ _ own => ⟨rfl, congrArg some own.symm⟩) same
  | select => exact absurd rfl flat.1
  | expand => exact absurd rfl flat.2

theorem words_again (replays : Replays settings true Anywhere (Same settings) made p) (finishes : Finishes p)
    (plain : state.cursor.Plain dialect) (done : (do advance; p : Parse α) state = .ok value after) :
    ∃ uses names, made value names ∧ Use.Names uses names ∧ state.cursor.rest ∈ Use.texts settings dialect uses ∧
      ∀ cursor : Cursor, cursor.Plain dialect → cursor.rest ∈ Use.texts settings dialect uses →
        ∃ moved, (do advance; p : Parse α) { state with cursor := cursor } = .ok value { after with cursor := moved } := by
  obtain ⟨_, between, stepped, ran⟩ := bind_ok done
  obtain ⟨first, advanced, rfl⟩ := advance_ok stepped
  obtain ⟨uses, names, lexemes, makes, named, -, reused⟩ := replays _ value after trivial ran
  have finish := finishes _ value after ran
  refine ⟨uses, names, makes, named, ⟨lexemes, Cursor.spelled_of_spans plain advanced reused.spans finish, reused.admitted⟩,
    fun cursor plain' other => ?_⟩
  obtain ⟨lexemes', spelled, fits⟩ := other
  obtain ⟨first', last', advanced', spans', finish'⟩ := Cursor.spans_of_spelled spelled plain' rfl
  refine ⟨last', (bind_done (advance_done advanced')).trans (reused.again lexemes' first' last' fits spans' ?_)⟩
  rw [Cursor.spans_end plain advanced reused.spans finish, Cursor.spans_end plain' advanced' spans' finish']
  exact same_refl _

theorem within_again (replays : Replays settings true Anywhere (Same settings) made p) (finishes : Finishes p)
    (done : within text dialect position p state = .ok value after) :
    ∃ uses names, made value names ∧ Use.Names uses names ∧ text.toList ∈ Use.texts settings dialect uses ∧
      ∀ other ∈ Use.texts settings dialect uses, within (String.ofList other) dialect position p state = .ok value after := by
  rw [within_by_map] at done
  obtain ⟨before, ran, rfl⟩ := map_state_ok done
  obtain ⟨uses, names, makes, named, member, again⟩ :=
    @words_again _ _ dialect _ _ { state with cursor := .start text dialect position false } _ _ replays finishes ⟨rfl, rfl⟩ ran
  refine ⟨uses, names, makes, named, member, fun other fits => ?_⟩
  rw [← String.toList_ofList (l := other)] at fits
  obtain ⟨moved, read⟩ := again (.start (String.ofList other) dialect position false) ⟨rfl, rfl⟩ fits
  rw [within_by_map, read]
  rfl

end QueryOptions
