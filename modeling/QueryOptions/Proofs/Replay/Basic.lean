import QueryOptions.Proofs.Derivation.Sound
import QueryOptions.Proofs.Replay.Use

/-!
Runs that are repeated elsewhere. A run sees nothing of its text but the lexemes that it reads and the one
that it stops at, so it is the same from every other place with these lexemes, also where it stops at
another lexeme, as long as the looks at it cannot tell them apart. It is the same for other lexemes too if it
takes them for the same. Levels and links are those of the first run: what is repeated is neither deeper nor
shallower.
-/

set_option autoImplicit false

namespace QueryOptions

open Parse

-- A run that reads these lexemes, and does the same wherever they stand.
structure Again {α : Type} (alike : Lexeme → Lexeme → Prop) (p : Parse α) (state : ParseState) (lexemes : List Lexeme)
    (value : α) (after : ParseState) : Prop where
  spans : state.cursor.Spans lexemes after.cursor
  named : ∀ lexeme ∈ lexemes, lexeme.kind ≠ .atSign
  again : ∀ cursor moved, cursor.Spans lexemes moved → alike after.cursor.token.lexeme moved.token.lexeme →
    p { state with cursor := cursor } = .ok value { after with cursor := moved }

-- A run that takes these lexemes for these uses, and does the same for all lexemes that the uses admit.
structure Reused {α : Type} (settings : Settings) (alike : Lexeme → Lexeme → Prop) (p : Parse α) (state : ParseState)
    (uses : List Use) (lexemes : List Lexeme) (value : α) (after : ParseState) : Prop where
  admitted : Use.Admit settings uses lexemes
  spans : state.cursor.Spans lexemes after.cursor
  named : ∀ lexeme ∈ lexemes, lexeme.kind ≠ .atSign
  again : ∀ others cursor moved, Use.Admit settings uses others → cursor.Spans others moved →
    alike after.cursor.token.lexeme moved.token.lexeme → p { state with cursor := cursor } = .ok value { after with cursor := moved }

-- Runs that start at such lexemes are repeated before all lexemes alike; `reads` says whether they read a
-- lexeme in any case, and `made` what the names that they read have to do with the value.
def Replays (settings : Settings) (reads : Bool) (starts : Lexeme → Prop) (alike : Lexeme → Lexeme → Prop) {α : Type}
    (made : α → List String → Prop) (p : Parse α) : Prop :=
  ∀ state value after, starts state.cursor.token.lexeme → p state = .ok value after →
    ∃ uses names lexemes, made value names ∧ Use.Names uses names ∧ (reads → lexemes ≠ []) ∧
      Reused settings alike p state uses lexemes value after

def Anywhere (_ : Lexeme) : Prop := True

def Still {α : Type} (p : Parse α) : Prop :=
  ∀ state value after, p state = .ok value after → after.cursor = state.cursor ∧
    ∀ cursor, p { state with cursor := cursor } = .ok value { after with cursor := cursor }

variable {α β : Type} {reads reads' : Bool} {starts starts' : Lexeme → Prop} {alike alike' : Lexeme → Lexeme → Prop}
variable {settings limits : Settings} {p q : Parse α} {f : α → Parse β} {state after : ParseState} {value : α}
variable {uses : List Use} {lexemes lexemes' : List Lexeme} {made made' : α → List String → Prop}
variable {made₂ : β → List String → Prop}

theorem Reused.same (reused : Reused settings alike p state uses lexemes value after) :
    Again alike p state lexemes value after :=
  ⟨reused.spans, reused.named, fun cursor moved => reused.again lexemes cursor moved reused.admitted⟩

theorem alike_of_spans {place place' last last' : Cursor} (admitted : Use.Admit settings uses lexemes)
    (admitted' : Use.Admit settings uses lexemes') (spans : place.Spans lexemes last) (spans' : place'.Spans lexemes' last')
    (covers : ∀ x y, Same settings x y → alike x y)
    (ends : lexemes = [] → alike last.token.lexeme last'.token.lexeme) : alike place.token.lexeme place'.token.lexeme := by
  cases admitted with
  | nil =>
      cases admitted'
      rw [← Cursor.spans_nil spans, ← Cursor.spans_nil spans']
      exact ends rfl
  | cons here _ =>
      cases admitted' with
      | cons there _ =>
          rw [← (Cursor.spans_cons spans).1] at here
          rw [← (Cursor.spans_cons spans').1] at there
          exact covers _ _ ⟨_, here, there⟩

theorem replays_weaken (replays : Replays settings reads starts alike made p) (fewer : ∀ x y, alike' x y → alike x y) :
    Replays settings reads starts alike' made p := by
  intro state value after here done
  obtain ⟨uses, names, lexemes, makes, named, some, reused⟩ := replays state value after here done
  exact ⟨uses, names, lexemes, makes, named, some, { reused with
    again := fun others cursor moved fits spans' same => reused.again others cursor moved fits spans' (fewer _ _ same) }⟩

theorem replays_same (replays : Replays settings reads starts alike made p) (covers : ∀ x y, Same settings x y → alike x y) :
    Replays settings reads starts (Same settings) made p := replays_weaken replays covers

theorem replays_made (replays : Replays settings reads starts alike made p)
    (makes : ∀ value names, made value names → made' value names) : Replays settings reads starts alike made' p := by
  intro state value after here done
  obtain ⟨uses, names, lexemes, made, others⟩ := replays state value after here done
  exact ⟨uses, names, lexemes, makes value names made, others⟩

theorem replays_some (replays : Replays settings true starts alike made p) : Replays settings reads starts alike made p := by
  intro state value after here done
  obtain ⟨uses, names, lexemes, makes, named, some, reused⟩ := replays state value after here done
  exact ⟨uses, names, lexemes, makes, named, fun _ => some rfl, reused⟩

theorem replays_mono (replays : Replays settings reads starts alike made p) (fewer : ∀ first, starts' first → starts first) :
    Replays settings reads starts' alike made p :=
  fun state value after here done => replays state value after (fewer _ here) done

theorem replays_anywhere (replays : Replays settings reads Anywhere alike made p) :
    Replays settings reads starts alike made p :=
  fun state value after _ done => replays state value after trivial done

theorem replays_never (fails : ∀ state, starts state.cursor.token.lexeme → ∀ value after, p state ≠ .ok value after) :
    Replays settings reads starts alike made p :=
  fun state value after here done => absurd done (fails state here value after)

theorem replays_throw (error : ParseError) : Replays settings reads starts alike made (throw error : Parse α) :=
  replays_never fun _ _ _ _ done => by cases done

theorem replays_too_deep : Replays settings reads starts alike made (tooDeep limits : Parse α) := replays_throw _

theorem replays_fail_expected (description : String) :
    Replays settings reads starts alike made (failExpected description : Parse α) :=
  replays_never fun _ _ _ _ done => by cases done

theorem replays_pure (makes : made value []) : Replays settings false starts alike made (pure value) := by
  intro state value' after here done
  cases done
  refine ⟨[], [], [], makes, .nil, nofun, .nil, .refl _, List.forall_mem_nil _, fun others cursor moved fits spans _ => ?_⟩
  cases fits
  rw [Cursor.spans_nil spans]
  rfl

-- Where the second part reads a lexeme, the first one stops at the same lexeme again.
theorem replays_bind (first : Replays settings reads starts alike made p)
    (second : ∀ value names, made value names →
      Replays settings reads' Anywhere alike' (fun result more => made₂ result (names ++ more)) (f value))
    (agree : reads' = false → ∀ x y, alike' x y → alike x y) (covers : ∀ x y, Same settings x y → alike x y) :
    Replays settings (reads || reads') starts alike' made₂ (p >>= f) := by
  intro state value after here done
  obtain ⟨middle, between, ran, rest⟩ := bind_ok done
  obtain ⟨uses, names, front, makes, used, some, own⟩ := first state middle between here ran
  obtain ⟨uses', names', back, makes', used', some', own'⟩ := second middle names makes between value after trivial rest
  refine ⟨uses ++ uses', names ++ names', front ++ back, makes', Use.names_append used used', fun reading => ?_,
    Use.admit_append own.admitted own'.admitted, Cursor.spans_append own.spans own'.spans,
    List.forall_mem_append.mpr ⟨own.named, own'.named⟩, fun others cursor moved fits whole same => ?_⟩
  · rw [Ne, List.append_eq_nil_iff]
    exact fun none => (Bool.or_eq_true_iff.mp reading).elim (some · none.1) (some' · none.2)
  · obtain ⟨others, others', rfl, fits, fits'⟩ := Use.admit_split fits
    obtain ⟨middle', here', there'⟩ := Cursor.spans_split whole
    have blind : back = [] → reads' = false := fun none => Bool.eq_false_iff.mpr fun reading => some' reading none
    have between' : alike between.cursor.token.lexeme middle'.token.lexeme :=
      alike_of_spans own'.admitted fits' own'.spans there' covers fun none => agree (blind none) _ _ same
    exact (bind_done (own.again others cursor middle' fits here' between')).trans
      (own'.again others' middle' moved fits' there' same)

theorem replays_before (first : Replays settings reads starts (Same settings) made p)
    (second : ∀ value names, made value names →
      Replays settings true Anywhere alike (fun result more => made₂ result (names ++ more)) (f value)) :
    Replays settings true starts alike made₂ (p >>= f) := by
  have whole := replays_bind first second (fun no => by cases no) fun _ _ => id
  rwa [Bool.or_true] at whole

theorem replays_then (first : Replays settings true starts alike made p)
    (second : ∀ value names, made value names →
      Replays settings false Anywhere alike (fun result more => made₂ result (names ++ more)) (f value))
    (covers : ∀ x y, Same settings x y → alike x y) : Replays settings true starts alike made₂ (p >>= f) :=
  replays_bind first second (fun _ _ _ same => same) covers

theorem replays_map {f : α → β} (first : Replays settings reads starts alike (fun value names => made₂ (f value) names) p)
    (covers : ∀ x y, Same settings x y → alike x y) :
    Replays settings reads starts alike made₂ (do return f (← p)) := by
  have behind (value : α) (names : List String) (makes : made₂ (f value) names) :
      Replays settings false Anywhere alike (fun result more => made₂ result (names ++ more)) (pure (f value)) :=
    replays_pure (by rwa [List.append_nil])
  have whole := replays_bind first behind (fun _ _ _ same => same) covers
  rwa [Bool.or_false] at whole

-- A look at the current lexeme. It may stop the run there only if it is the same for lexemes alike.
theorem replays_look {view : Lexeme → α} {f : α → Parse β} (blind : ∀ x y, Same settings x y → view x = view y)
    (same : reads = false → ∀ x y, alike x y → view x = view y)
    (each : ∀ seen, Replays settings reads (fun first => starts first ∧ view first = seen) alike made₂ (f seen)) :
    Replays settings reads starts alike made₂ fun state => f (view state.cursor.token.lexeme) state := by
  intro state value after here done
  obtain ⟨uses, names, lexemes, makes, used, some, own⟩ := each _ state value after ⟨here, rfl⟩ done
  refine ⟨uses, names, lexemes, makes, used, some, { own with again := fun others cursor moved fits spans' behind => ?_ }⟩
  have stops : lexemes = [] → reads = false := fun none => Bool.eq_false_iff.mpr fun reading => some reading none
  have view' : view state.cursor.token.lexeme = view cursor.token.lexeme :=
    @alike_of_spans (view · = view ·) _ _ _ _ _ _ _ _ own.admitted fits own.spans spans' blind
      fun none => same (stops none) _ _ behind
  dsimp only
  rw [← view']
  exact own.again others cursor moved fits spans' behind

theorem replays_at_kind {kind : TokenKind} {f : Bool → Parse β}
    (same : reads = false → ∀ x y, alike x y → (x.kind == kind) = (y.kind == kind))
    (each : ∀ seen, Replays settings reads (fun first => starts first ∧ (first.kind == kind) = seen) alike made₂ (f seen)) :
    Replays settings reads starts alike made₂ (atKind kind >>= f) :=
  replays_look (fun _ _ same => by rw [same_kind same]) same each

theorem replays_at_keyword {keyword : String} {f : Bool → Parse β}
    (same : reads = false → ∀ x y, alike x y → x.isKeyword settings keyword = y.isKeyword settings keyword)
    (each : ∀ seen,
      Replays settings reads (fun first => starts first ∧ first.isKeyword settings keyword = seen) alike made₂ (f seen)) :
    Replays settings reads starts alike made₂ (atKeyword settings.ignoreCase keyword >>= f) :=
  replays_look (fun _ _ same => same_keyword same keyword) same each

theorem ite_last {c : Prop} [Decidable c] {q' : Parse α} (same : q state = q' state) :
    (if c then p else q) state = (if c then p else q') state := by
  by_cases holds : c
  · rw [if_pos holds, if_pos holds]
  · rw [if_neg holds, if_neg holds, same]

theorem replays_ite {c : Prop} [Decidable c] (yes : c → Replays settings reads starts alike made p)
    (no : ¬ c → Replays settings reads starts alike made q) : Replays settings reads starts alike made (if c then p else q) := by
  split
  · rename_i holds
    exact yes holds
  · rename_i fails
    exact no fails

theorem replays_step (use : Lexeme → Use) (fits : Lexeme → α → Prop)
    (ok : ∀ state value after,
      p state = .ok value after ↔ fits state.cursor.token.lexeme value ∧ advance state = .ok () after)
    (going : ∀ first value, starts first → fits first value → first.kind ≠ .finish ∧ first.kind ≠ .atSign)
    (own : ∀ first value, starts first → fits first value → (use first).Admits settings first ∧
      (∀ other, (use first).Admits settings other → fits other value) ∧ ∃ names, Use.Names [use first] names ∧ made value names) :
    Replays settings true starts alike made p := by
  intro state value after here done
  obtain ⟨fit, advances⟩ := (ok state value after).mp done
  obtain ⟨moved, advanced, rfl⟩ := advance_ok advances
  obtain ⟨on, unsigned⟩ := going _ value here fit
  obtain ⟨admits, again, names, used, makes⟩ := own _ value here fit
  refine ⟨[use state.cursor.token.lexeme], names, [state.cursor.token.lexeme], makes, used, fun _ => List.cons_ne_nil _ _,
    .cons admits .nil, Cursor.spans_single on advanced, List.forall_mem_singleton.mpr unsigned,
    fun others cursor moved' admitted spans _ => ?_⟩
  cases admitted with
  | cons here others =>
      cases others
      obtain ⟨first, between, advanced', rest⟩ := Cursor.spans_cons spans
      rw [Cursor.spans_nil rest]
      exact (ok { state with cursor := cursor } value _).mpr ⟨first ▸ again _ here, advance_done advanced'⟩

def Lexeme.Passed (settings : Settings) (lexeme : Lexeme) : Prop :=
  (∃ word, lexeme.isKeyword settings word) ∨ lexeme.kind ≠ .identifier ∧ lexeme.kind ≠ .finish ∧ lexeme.kind ≠ .atSign

theorem passed_of_kind {first : Lexeme} {kind : TokenKind} (same : first.kind = kind)
    (other : kind ≠ .identifier ∧ kind ≠ .finish ∧ kind ≠ .atSign) : first.Passed settings := .inr (same ▸ other)

theorem replays_advance {made : Unit → List String → Prop} (passed : ∀ first, starts first → first.Passed settings)
    (makes : made () []) : Replays settings true starts alike made advance := by
  intro state value after here done
  rcases passed _ here with ⟨word, spelled⟩ | ⟨other, finish, sign⟩
  · have step : Replays settings true (fun first => first.isKeyword settings word) alike made advance := by
      refine replays_step (fun _ => .keyword word) (fun _ _ => True) (fun _ _ _ => by simp)
        (fun first _ spelled _ => ?_) fun first _ spelled _ => ⟨spelled, fun _ _ => trivial, [], .keyword .nil, makes⟩
      rw [Expression.keyword_word spelled]
      decide
    exact step state value after spelled done
  · have step : Replays settings true (fun first => first.kind ≠ .identifier ∧ first.kind ≠ .finish ∧ first.kind ≠ .atSign)
        alike made advance :=
      replays_step .mark (fun _ _ => True) (fun _ _ _ => by simp) (fun _ _ here _ => here.2)
        fun _ _ here _ => ⟨rfl, fun _ _ => trivial, [], .mark here.1 .nil, makes⟩
    exact step state value after ⟨other, finish, sign⟩ done

theorem replays_advance_then {f : Unit → Parse β} (passed : ∀ first, starts first → first.Passed settings)
    (rest : Replays settings false Anywhere alike made₂ (f ())) : Replays settings true starts alike made₂ (advance >>= f) := by
  have first : Replays settings true starts (fun _ _ => True) (fun _ names => names = []) advance :=
    replays_advance passed rfl
  have second (value : Unit) (names : List String) (none : names = []) :
      Replays settings false Anywhere alike (fun result more => made₂ result (names ++ more)) (f value) := by
    rw [none]
    exact rest
  exact replays_bind first second (fun _ _ _ _ => trivial) fun _ _ _ => trivial

theorem replays_still (still : Still p) (rest : ∀ value, Replays settings reads starts alike made₂ (f value)) :
    Replays settings reads starts alike made₂ (p >>= f) := by
  intro state value after here done
  obtain ⟨middle, between, ran, done⟩ := bind_ok done
  obtain ⟨same, ran'⟩ := still state middle between ran
  rw [← same] at here
  obtain ⟨uses, names, lexemes, makes, used, some, own⟩ := rest middle between value after here done
  refine ⟨uses, names, lexemes, makes, used, some, own.admitted, same ▸ own.spans, own.named,
    fun others cursor moved fits spans' behind => ?_⟩
  exact (bind_done (ran' cursor)).trans (own.again others cursor moved fits spans' behind)

theorem still_shared (step : Context.Step α) : Still (shared settings step) := by
  intro state value after done
  unfold shared at done ⊢
  dsimp only
  cases ran : step ⟨settings, state.depth, state.scope⟩ with
  | error error context =>
      rw [ran] at done
      cases done
  | ok value context =>
      rw [ran] at done
      cases done
      exact ⟨rfl, fun _ => rfl⟩

theorem still_hold : Still (hold settings) := by
  intro state value after done
  obtain ⟨_, between, entered, held⟩ := bind_ok done
  obtain ⟨same, again⟩ := still_shared _ state _ between entered
  cases held
  exact ⟨same, fun cursor => bind_done (again cursor)⟩

theorem still_in_scope (name : String) : Still (inScope name) := by
  intro state value after done
  cases done
  exact ⟨rfl, fun _ => rfl⟩

theorem replays_around (into : ParseState → ParseState) (back : ParseState → ParseState → ParseState)
    (same : ∀ state, (into state).cursor = state.cursor)
    (into' : ∀ state cursor, into { state with cursor := cursor } = { into state with cursor := cursor })
    (back' : ∀ state after cursor moved, back { state with cursor := cursor } { after with cursor := moved } =
      { back state after with cursor := moved })
    (inner : Replays settings reads starts alike made p) :
    Replays settings reads starts alike made fun state => mapState (back state) (p (into state)) := by
  intro state value after here done
  obtain ⟨before, ran, rfl⟩ := map_state_ok done
  rw [← same state] at here
  obtain ⟨uses, names, lexemes, makes, used, some, own⟩ := inner _ value before here ran
  have kept : (back state before).cursor = before.cursor :=
    (congrArg ParseState.cursor (back' state before state.cursor before.cursor) :)
  refine ⟨uses, names, lexemes, makes, used, some, own.admitted, kept ▸ same state ▸ own.spans, own.named,
    fun others cursor moved fits spans' behind => ?_⟩
  rw [kept] at behind
  rw [into', own.again others cursor moved fits spans' behind]
  exact congrArg (EStateM.Result.ok value) (back' state before cursor moved)

theorem replays_declaring (name : String) (body : Replays settings reads Anywhere alike made p) :
    Replays settings reads starts alike made (declaring limits name p) := by
  rw [declaring_by_map]
  refine replays_still (still_shared _) fun _ => replays_anywhere ?_
  exact replays_around (fun state => state) (fun _ after => leaving name after) (fun _ => rfl) (fun _ _ => rfl)
    (fun _ _ _ _ => rfl) body

theorem replays_ok_iff (iff : ∀ state value after, p state = .ok value after ↔ q state = .ok value after)
    (replays : Replays settings reads starts alike made q) : Replays settings reads starts alike made p := by
  intro state value after here done
  obtain ⟨uses, names, lexemes, makes, used, some, own⟩ := replays state value after here ((iff state value after).mp done)
  exact ⟨uses, names, lexemes, makes, used, some, own.admitted, own.spans, own.named,
    fun others cursor moved fits spans' behind => (iff _ _ _).mpr (own.again others cursor moved fits spans' behind)⟩

theorem closing_ok_iff (count : ParseState → Nat) (body : Parse α) (state : ParseState) (value : α) (after : ParseState) :
    closing settings count body state = .ok value after ↔
      (do
        let value ← body
        (fun state => leave settings (count state) state : Parse Unit)
        pure value : Parse α) state = .ok value after := by
  unfold closing
  cases ran : body state with
  | error error before =>
      rw [show (body >>= _) state = .error error before by
        change EStateM.bind body _ state = _
        unfold EStateM.bind
        rw [ran]]
      dsimp only
      cases leave settings (count before) before <;> simp
  | ok first before =>
      rw [bind_done ran]
      change _ ↔ EStateM.bind _ _ before = _
      unfold EStateM.bind
      dsimp only
      cases leave settings (count before) before <;> rfl

theorem replays_closing {count : ParseState → Nat} (blind : ∀ state cursor, count { state with cursor := cursor } = count state)
    (covers : ∀ x y, Same settings x y → alike x y) (body : Replays settings reads starts alike made p) :
    Replays settings reads starts alike made (closing limits count p) := by
  refine replays_ok_iff (closing_ok_iff count p) ?_
  have still : Still (fun state => leave limits (count state) state : Parse Unit) := by
    intro state value after done
    obtain ⟨same, again⟩ := still_shared _ state value after done
    refine ⟨same, fun cursor => ?_⟩
    have left := again cursor
    rw [← blind state cursor] at left
    exact left
  have behind (value : α) (names : List String) (makes : made value names) :
      Replays settings false Anywhere alike (fun result more => made result (names ++ more)) (do
        (fun state => leave limits (count state) state : Parse Unit)
        pure value : Parse α) :=
    replays_still still fun _ => replays_pure (by rwa [List.append_nil])
  have whole := replays_bind body behind (fun _ _ _ same => same) covers
  rwa [Bool.or_false] at whole

theorem replays_recurse {levels : Nat} (covers : ∀ x y, Same settings x y → alike x y)
    (body : Replays settings reads starts alike made p) :
    Replays settings reads starts alike made (recurse limits levels p) :=
  replays_still (still_shared _) fun _ => replays_closing (fun _ _ => rfl) covers body

theorem replays_chain (covers : ∀ x y, Same settings x y → alike x y) (body : Replays settings reads starts alike made p) :
    Replays settings reads starts alike made (chain limits p) := by
  refine replays_still (still_shared _) fun _ => ?_
  rw [show countingLinks _ = _ from funext (counting_links_by_map _)]
  exact replays_around (fun state => { state with links := 0 }) (fun state after => { after with links := state.links })
    (fun _ => rfl) (fun _ _ => rfl) (fun _ _ _ _ => rfl) (replays_closing (fun _ _ => rfl) covers body)

end QueryOptions
