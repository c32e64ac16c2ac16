import QueryOptions.Proofs.Derivation.Sound

set_option autoImplicit false

namespace QueryOptions

open Parse

def Makes (fits : ParseState → Prop) {α : Type} (p : Parse α) (made : α → Prop) : Prop :=
  ∀ state value after, fits state → p state = .ok value after → made value ∧ fits after

structure Carried (fits : ParseState → Prop) : Prop where
  advance : ∀ {state : ParseState} {moved : Cursor}, fits state → Cursor.advance state.cursor = .ok () moved →
    fits { state with cursor := moved }
  levels : ∀ {state : ParseState} (depth links : Nat), fits state → fits { state with depth := depth, links := links }

variable {fits fits' : ParseState → Prop} {α β : Type} {made made' : α → Prop} {built : β → Prop}
variable {settings : Settings} {p : Parse α} {f : α → Parse β}

theorem makes_pure {value : α} (holds : made value) : Makes fits (pure value) made := by
  intro state value' after fit done
  cases done
  exact ⟨holds, fit⟩

theorem makes_throw (error : ParseError) : Makes fits (throw error : Parse α) made :=
  fun _ _ _ _ done => by cases done

theorem makes_mono (makes : Makes fits p made) (implies : ∀ value, made value → made' value) : Makes fits p made' := by
  intro state value after fit done
  obtain ⟨holds, fit'⟩ := makes state value after fit done
  exact ⟨implies value holds, fit'⟩

theorem makes_bind (first : Makes fits p made) (second : ∀ value, made value → Makes fits (f value) built) :
    Makes fits (p >>= f) built := by
  intro state value after fit done
  obtain ⟨middle, between, ran, rest⟩ := bind_ok done
  obtain ⟨holds, fit'⟩ := first state middle between fit ran
  exact second middle holds between value after fit' rest

theorem makes_map {g : α → β} (first : Makes fits p made) (holds : ∀ value, made value → built (g value)) :
    Makes fits (do return g (← p)) built :=
  makes_bind first fun value made => makes_pure (holds value made)

theorem makes_ite {c : Prop} [Decidable c] {q : Parse α} (yes : c → Makes fits p made) (no : ¬ c → Makes fits q made) :
    Makes fits (if c then p else q) made := by
  split
  · rename_i holds
    exact yes holds
  · rename_i fails
    exact no fails

theorem makes_current {g : Token → Parse β} (next : ∀ token, Makes fits (g token) built) :
    Makes fits (current >>= g) built :=
  fun state value after fit done => next state.cursor.token state value after fit done

theorem makes_at_kind {kind : TokenKind} {g : Bool → Parse β} (next : ∀ found, Makes fits (g found) built) :
    Makes fits (atKind kind >>= g) built :=
  fun state value after fit done => next _ state value after fit done

theorem makes_at_keyword {ignoreCase : Bool} {keyword : String} {g : Bool → Parse β}
    (next : ∀ found, Makes fits (g found) built) : Makes fits (atKeyword ignoreCase keyword >>= g) built :=
  fun state value after fit done => next _ state value after fit done

theorem makes_fail_expected (description : String) : Makes fits (failExpected description : Parse α) made :=
  fun _ _ _ _ done => by cases done

theorem makes_too_deep : Makes fits (tooDeep settings : Parse α) made := makes_throw _

theorem makes_expect_end : Makes fits expectEnd fun _ => True :=
  makes_current fun _ => makes_ite (fun _ => makes_pure trivial) fun _ => makes_throw _

theorem makes_within {text : String} {dialect : Dialect} {offset : Nat} (inner : Makes fits' (do advance; p) made)
    (into : ∀ state, fits state → fits' { state with cursor := .start text dialect offset false })
    (back : ∀ state after, fits state → fits' after → fits { after with cursor := state.cursor }) :
    Makes fits (within text dialect offset p) made := by
  intro state value after fit done
  rw [within_by_map] at done
  obtain ⟨before, ran, rfl⟩ := map_state_ok done
  obtain ⟨holds, fit'⟩ := inner _ value before (into state fit) ran
  exact ⟨holds, back state before fit fit'⟩

section

variable (C : Carried fits)

include C

theorem makes_step : Makes fits advance fun _ => True := by
  intro state value after fit done
  obtain ⟨moved, advanced, rfl⟩ := advance_ok done
  exact ⟨trivial, C.advance fit advanced⟩

theorem makes_advance {g : Unit → Parse β} (next : Makes fits (g ()) built) : Makes fits (advance >>= g) built :=
  makes_bind (makes_step C) fun _ _ => next

theorem makes_expect {kind : TokenKind} {description : String} {g : Unit → Parse β} (next : Makes fits (g ()) built) :
    Makes fits (expect kind description >>= g) built := by
  have stepped : Makes fits (expect kind description) fun _ => True := by
    rw [expect_by_current]
    exact makes_current fun _ => makes_ite (fun _ => makes_step C) fun _ => makes_throw _
  exact makes_bind stepped fun _ _ => next

theorem fits_levels {state after : ParseState} (fit : fits state) (cursor : after.cursor = state.cursor)
    (scope : after.scope = state.scope) : fits after := by
  have carried := C.levels after.depth after.links fit
  rwa [← cursor, ← scope] at carried

theorem makes_recurse {levels : Nat} (body : Makes fits p made) : Makes fits (recurse settings levels p) made := by
  intro state value after fit done
  obtain ⟨before, ran, cursor, scope⟩ := recurse_kept done
  obtain ⟨holds, fit'⟩ := body _ value before (C.levels _ _ fit) ran
  exact ⟨holds, fits_levels C fit' cursor scope⟩

theorem makes_chain (body : Makes fits p made) : Makes fits (chain settings p) made := by
  intro state value after fit done
  obtain ⟨before, ran, cursor, scope⟩ := chain_kept done
  obtain ⟨holds, fit'⟩ := body _ value before (C.levels _ _ fit) ran
  exact ⟨holds, fits_levels C fit' cursor scope⟩

theorem makes_hold {g : Unit → Parse β} (next : Makes fits (g ()) built) : Makes fits (hold settings >>= g) built := by
  intro state value after fit done
  obtain ⟨_, held, holding, rest⟩ := bind_ok done
  rw [hold_ok holding] at rest
  exact next _ value after (C.levels _ _ fit) rest

theorem makes_separated {separator : TokenKind} (items : Makes fits p made) (count : Nat) :
    Makes fits (separated separator p count) fun values => ∀ value ∈ values, made value := by
  induction count with
  | zero => exact makes_pure (List.forall_mem_nil _)
  | succ count ih =>
      refine makes_at_kind fun _ => makes_ite (fun _ => makes_advance C ?_) fun _ => makes_pure (List.forall_mem_nil _)
      refine makes_bind items fun first holds => makes_bind ih fun rest others => ?_
      exact makes_pure (List.forall_mem_cons.mpr ⟨holds, others⟩)

theorem makes_sep_by {separator : TokenKind} (items : Makes fits p made) :
    Makes fits (sepBy separator p) fun values => values ≠ [] ∧ ∀ value ∈ values, made value := by
  intro state values after fit done
  obtain ⟨first, between, ran, done⟩ := bind_ok done
  obtain ⟨_, _, ⟨⟩, done⟩ := bind_ok done
  obtain ⟨rest, last, ran', done⟩ := bind_ok done
  cases done
  obtain ⟨holds, fit'⟩ := items state first between fit ran
  obtain ⟨others, fit''⟩ := makes_separated C items _ _ rest _ fit' ran'
  exact ⟨⟨List.cons_ne_nil _ _, List.forall_mem_cons.mpr ⟨holds, others⟩⟩, fit''⟩

end

end QueryOptions
