import QueryOptions.Equality
import QueryOptions.Proofs.Formed.Items
import QueryOptions.Proofs.Rendering.Items

set_option autoImplicit false

namespace QueryOptions

open Parse

variable {settings : Settings} {keyword : BinaryOperator → String}

theorem parsed_query_option {option : QueryOption} {text : String} {parsed : ParsedOption}
    (accepted : parse settings option text = .ok parsed) : parsed.queryOption = option := by
  obtain ⟨after, done⟩ := parser_ok accepted
  obtain ⟨_, between, -, ran⟩ := bind_ok done
  cases option
  all_goals
    obtain ⟨_, _, -, rest⟩ := bind_ok ran
    cases rest
    rfl

section

variable (fixed : Keywords keyword) (plain : settings.customOperators = []) (exact : settings.ignoreCase = false)

include fixed plain exact

theorem formed_parses {parsed : ParsedOption} (formed : parsed.Formed settings Context.standing)
    (room : settings.Holds (parsed.render keyword)) :
    parse settings parsed.queryOption (String.ofList (parsed.render keyword)) = .ok parsed := by
  have inside {texts : List (List Char)} {text : List Char} (room : settings.Holds (punctuated ',' texts))
      (member : text ∈ texts) : settings.Holds text :=
    Nat.le_trans (Nat.mul_le_mul_left 8 (Nat.succ_le_succ (punctuated_bytes member))) room
  cases parsed with
  | filter condition => exact filter_text_parses fixed plain exact formed room
  | search condition => exact search_text_parses formed room
  | orderBy items => exact order_text_parses fixed plain exact formed.1 formed.2 room
  | compute items => exact compute_text_parses fixed plain exact formed.1 formed.2 room
  | select items =>
      exact select_text_parses fun item member =>
        select_restored fixed plain exact (formed item member) (inside room (List.mem_map_of_mem member))
  | expand items =>
      exact expand_text_parses fun item member =>
        expand_restored fixed plain exact (formed item member) (inside room (List.mem_map_of_mem member))
  | apply transformations => exact pipeline_text_parses fixed plain exact formed.1 formed.2 room

-- With a fixed keyword for each operator, no operators of its own and no regard to the limit, an accepted
-- option is parsed back from its text, under the same settings.
theorem parse_render {option : QueryOption} {text : String} {parsed : ParsedOption}
    (accepted : parse settings option text = .ok parsed) {limit : Nat}
    (enough : 8 * (Text.byteLength (parsed.render keyword) + 1) ≤ limit) :
    parse (settings.withDepth limit) option (String.ofList (parsed.render keyword)) = .ok parsed := by
  -- A limit that is high enough for the text that was accepted and for the one that is written.
  have lifted : parse (settings.withDepth (limit + 8 * (Text.byteLength text.toList + 1))) option text = .ok parsed :=
    parse_with_enough (show parse (settings.withDepth settings.maxDepth) _ _ = _ from accepted) (Nat.le_add_left _ _)
  have written := @formed_parses (settings.withDepth (limit + 8 * (Text.byteLength text.toList + 1))) keyword fixed plain
    exact parsed (parse_formed lifted) (Nat.le_trans enough (Nat.le_add_right _ _))
  rw [parsed_query_option accepted] at written
  exact parse_with_enough written (by rwa [String.toList_ofList])

end

def ParsedOption.spread : ParsedOption :=
  .expand [⟨["A", "$count"],
    { filter := some (.binary .equal (.endPath "x" none) (.literal .stringLiteral "';)'"))
      top := some 10
      search := some (.binary .and (.term "it's;") (.unary .not (.term "c"))) },
    none, some [⟨["*", "$ref"], {}, none, none, none⟩, ⟨["B"], {}, some [], none, some .max⟩], none⟩]

theorem spread_render :
    Keywords BinaryOperator.keyword ∧
      parse {} .expand "A/$count ($expand=*/$ref,B($levels=Max;$select=); $top= 10; $search=\"it's;\" NOT c; $filter=x eq ';)')" =
        .ok .spread ∧
      8 * (Text.byteLength (ParsedOption.spread.render BinaryOperator.keyword) + 1) ≤ 1024 ∧
      parse { maxDepth := 1024 } .expand
        "A/$count($filter=(x) eq (';)');$top=10;$search=(\"it's;\") AND (NOT (\"c\"));$expand=*/$ref,B($select=;$levels=max))" =
        .ok .spread := by
  have accepted : parse {} .expand
      "A/$count ($expand=*/$ref,B($levels=Max;$select=); $top= 10; $search=\"it's;\" NOT c; $filter=x eq ';)')" =
        .ok .spread := by decide +kernel
  have enough : 8 * (Text.byteLength (ParsedOption.spread.render BinaryOperator.keyword) + 1) ≤ 1024 := by decide +kernel
  have text : String.ofList (ParsedOption.spread.render BinaryOperator.keyword) =
      "A/$count($filter=(x) eq (';)');$top=10;$search=(\"it's;\") AND (NOT (\"c\"));$expand=*/$ref,B($select=;$levels=max))" := by
    decide +kernel
  have parsed := parse_render keywords_listed rfl rfl accepted enough
  rw [text] at parsed
  exact ⟨keywords_listed, accepted, enough, parsed⟩

end QueryOptions
