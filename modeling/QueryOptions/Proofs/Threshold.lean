import Mathlib.Data.Nat.Find
import QueryOptions.Proofs.Context
import QueryOptions.Proofs.Extension
import QueryOptions.Proofs.Reading.Items

set_option autoImplicit false

namespace QueryOptions

open Parse

def QueryOption.motion : QueryOption → Motion
  | .search => .search
  | _ => .raw

theorem motion_dialect (option : QueryOption) : option.motion.dialect = option.dialect := by
  cases option <;> rfl

theorem grammar_fits (settings : Settings) (option : QueryOption) (levels : Nat) :
    Fits option.motion settings .rule levels 8 (option.grammar settings levels) := by
  intro depth state lexed
  cases option with
  | filter => exact reads_map (Expression.whole_fits .raw settings levels depth state lexed)
  | search => exact reads_map (Search.whole_fits settings levels depth state lexed)
  | orderBy => exact reads_map (Order.whole_fits .raw settings levels depth state lexed)
  | compute => exact reads_map (Compute.whole_fits .raw settings levels depth state lexed)
  | select => exact reads_map (Items.whole_fits settings .select levels depth state lexed)
  | expand => exact reads_map (Items.whole_fits settings .expand levels depth state lexed)
  | apply => exact reads_map (Apply.whole_fits .raw settings levels depth state lexed)

variable {settings : Settings} {option : QueryOption} {text : String}

theorem parse_accounted {error : ParseError} (failed : parse settings option text = .error error) :
    Accounted settings.maxDepth error :=
  (Context.parse_with_ends option text settings.maxDepth (.ofSettings settings)).2 error
    ((parse_by_run settings option text).symm.trans failed)

theorem parse_with_depth {limit : Nat} (le : settings.maxDepth ≤ limit) :
    parse settings option text = .error (.depthExceeded settings.maxDepth) ∨
      parse (settings.withDepth limit) option text = parse settings option text := by
  have related : Extension 0 0 .rule _ (option.parser settings) (option.parser (settings.withDepth limit)) :=
    Extension.of_bind (Extension.of_move Cursor.advance_shifts) fun _ =>
      grammar_related (Extension.simulation (by exact le)) option (Extension.leaves le)
  have extended := related (option.start text)
  cases result : option.parser settings (option.start text) with
  | ok parsed after =>
      rw [result] at extended
      exact .inr ((parse_of_ok extended).trans (parse_of_ok result).symm)
  | error error after =>
      rw [result] at extended
      have failed := parse_of_error result
      have accounted := parse_accounted failed
      -- An error that depends on the levels can only be that they are used up.
      rcases extended with (balance | ⟨exceeded, same⟩) | ⟨after', same⟩
      · exact absurd balance accounted.balanced
      · rw [accounted.limited exceeded same] at same
        exact .inl (failed.trans (congrArg _ same))
      · rw [shift_none] at same
        exact .inr ((parse_of_error same).trans failed.symm)

-- Eight levels for each byte, and eight more, are not exceeded.
theorem parse_with_not_exceeded {context : Context} {levels : Nat} (opened : context.depth + levels ≤ context.settings.maxDepth)
    (enough : 8 * (Text.byteLength text.toList + 1) ≤ levels) (limit : Nat) (after : Context) :
    Context.parseWith option text levels context ≠ .error (.depthExceeded limit) after := by
  intro failed
  have bytes := Text.length_le_byteLength text.toList
  let state : ParseState :=
    { cursor := .start text option.dialect 0 false, scope := context.scope, depth := context.depth }
  have start : state.cursor = .start text option.motion.dialect 0 false := by rw [motion_dialect]
  have reads : Reads option.motion (Room context.settings levels 8 state) .rule 0 0 state
      (onText text option.dialect 0 context.scope (option.grammar context.settings levels) context.depth) :=
    start_reads (grammar_fits context.settings option levels) start
  unfold Context.parseWith at failed
  cases result : onText text option.dialect 0 context.scope (option.grammar context.settings levels) context.depth with
  | ok parsed after =>
      rw [result] at failed
      cases failed
  | error error after =>
      rw [result] at failed reads
      cases failed
      refine reads ⟨opened, ?_⟩ limit rfl
      change 8 * text.toList.length + 8 ≤ levels
      omega

theorem parse_not_exceeded (enough : 8 * (Text.byteLength text.toList + 1) ≤ settings.maxDepth) (limit : Nat) :
    parse settings option text ≠ .error (.depthExceeded limit) := by
  intro failed
  obtain ⟨after, exceeded⟩ := Context.step_of_error ((parse_by_run settings option text).symm.trans failed)
  exact parse_with_not_exceeded (Nat.le_of_eq (Nat.zero_add _)) enough limit after exceeded

-- For every text there is a limit on the depth, eight for each byte and eight more at most,
-- from which on the outcome is one and the same and not for want of levels. Every lower
-- limit is exceeded.
theorem parse_threshold (settings : Settings) (option : QueryOption) (text : String) :
    ∃ threshold outcome, threshold ≤ 8 * (Text.byteLength text.toList + 1) ∧
      (∀ limit, outcome ≠ .error (.depthExceeded limit)) ∧
      ∀ limit, (threshold ≤ limit → parse (settings.withDepth limit) option text = outcome) ∧
        (limit < threshold →
          parse (settings.withDepth limit) option text = .error (.depthExceeded limit)) := by
  -- The threshold is the least limit that is not exceeded. From there on a higher limit
  -- changes nothing; below it every limit is exceeded since the threshold is the least.
  classical
  have most (limit : Nat) : parse (settings.withDepth (8 * (Text.byteLength text.toList + 1))) option text ≠
      .error (.depthExceeded limit) := parse_not_exceeded (Nat.le_refl _) limit
  have enough : ∃ limit, parse (settings.withDepth limit) option text ≠ .error (.depthExceeded limit) := ⟨_, most _⟩
  have reached := Nat.find_spec enough
  refine ⟨Nat.find enough, parse (settings.withDepth (Nat.find enough)) option text, ?_, ?_, fun limit => ⟨?_, ?_⟩⟩
  · exact Nat.find_min' enough (most _)
  · intro limit failed
    have same := (parse_accounted failed).limited limit rfl
    rw [same] at failed
    exact reached failed
  · intro le
    have higher : parse (settings.withDepth (Nat.find enough)) option text =
        .error (.depthExceeded (Nat.find enough)) ∨
          parse (settings.withDepth limit) option text = parse (settings.withDepth (Nat.find enough)) option text :=
      parse_with_depth le
    exact higher.resolve_left reached
  · intro less
    exact Classical.not_not.mp (Nat.find_min enough less)

end QueryOptions
