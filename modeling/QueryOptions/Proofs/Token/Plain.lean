import QueryOptions.Proofs.Guid
import QueryOptions.Proofs.Token.Crossing

set_option autoImplicit false

namespace QueryOptions

theorem plain_of_class {test : Char → Bool}
    (free : ['\'', '"', '(', ')', ';'].any test = false) {c : Char} (holds : test c) : isPlain c := by
  by_cases plain : isPlain c
  · exact plain
  · have listed : c ∈ ['\'', '"', '(', ')', ';'] := by
      rcases not_plain plain with (rfl | rfl) | rfl | rfl | rfl <;> decide
    exact absurd holds (List.any_eq_false.mp free c listed)

theorem digit_plain (c : Char) (digit : c.isDigit) : isPlain c := plain_of_class (by decide) digit

theorem hex_digit_plain (c : Char) (digit : Text.isHexDigit c) : isPlain c := plain_of_class (by decide) digit

theorem identifier_start_plain (c : Char) (start : Text.isIdentifierStart c) : isPlain c :=
  plain_of_class (by decide) start

theorem identifier_continue_plain (c : Char) (continues : Text.isIdentifierContinue c) : isPlain c :=
  plain_of_class (by decide) continues

theorem blank_plain (c : Char) (blank : Text.isBlank c) : isPlain c := plain_of_class (by decide) blank

theorem take_while_plain (test : Char → Bool) (plain : ∀ c, test c → isPlain c) (text : List Char) :
    ∀ c ∈ text.takeWhile test, isPlain c :=
  fun c member => plain c (List.all_eq_true.mp List.all_takeWhile _ member)

def PlainUpTo (text rest : List Char) : Prop := ∃ front, front ++ rest = text ∧ ∀ c ∈ front, isPlain c

namespace PlainUpTo

variable {text rest further : List Char}

theorem refl (text : List Char) : PlainUpTo text text := ⟨[], rfl, List.forall_mem_nil _⟩

theorem cons {c : Char} (plain : isPlain c) (others : PlainUpTo text rest) : PlainUpTo (c :: text) rest := by
  obtain ⟨front, rfl, simple⟩ := others
  exact ⟨c :: front, rfl, List.forall_mem_cons.mpr ⟨plain, simple⟩⟩

theorem trans (first : PlainUpTo text rest) (second : PlainUpTo rest further) : PlainUpTo text further := by
  obtain ⟨front, rfl, simple⟩ := first
  obtain ⟨between, rfl, simple'⟩ := second
  exact ⟨front ++ between, List.append_assoc .., List.forall_mem_append.mpr ⟨simple, simple'⟩⟩

theorem extend (plain : PlainUpTo text rest) (others : ∀ c ∈ rest, isPlain c) : ∀ c ∈ text, isPlain c := by
  obtain ⟨front, rfl, simple⟩ := plain
  exact List.forall_mem_append.mpr ⟨simple, others⟩

theorem all (plain : PlainUpTo text []) : ∀ c ∈ text, isPlain c :=
  plain.extend (List.forall_mem_nil _)

end PlainUpTo

namespace Calendar

theorem number_plain {least most value : Nat} {text rest : List Char}
    (read : number? least most text = some (value, rest)) : PlainUpTo text rest := by
  obtain ⟨digits, rfl, -, -, all⟩ := number_parts read
  exact ⟨digits, rfl, fun c member => digit_plain c (all c member)⟩

theorem char_plain {c : Char} {text rest : List Char} (plain : isPlain c)
    (read : char? c text = some rest) : PlainUpTo text rest := by
  rw [char_parts read]
  exact .cons plain (.refl _)

theorem year_plain {least : Nat} {year : Int} {text rest : List Char}
    (read : year? least text = some (year, rest)) : PlainUpTo text rest := by
  unfold year? at read
  split at read
  · obtain ⟨⟨value, after⟩, digits, same⟩ := Option.map_eq_some_iff.mp read
    cases same
    exact .cons (by decide) (number_plain digits)
  · obtain ⟨⟨value, after⟩, digits, same⟩ := Option.map_eq_some_iff.mp read
    cases same
    exact number_plain digits

theorem date_plain {leastYear least : Nat} {date : Date} {text rest : List Char}
    (read : date? leastYear least text = some (date, rest)) : PlainUpTo text rest := by
  simp only [date?, Option.bind_eq_bind, Option.bind_eq_some_iff, Prod.exists] at read
  obtain ⟨year, afterYear, years, afterDash, dash, month, afterMonth, months, afterSecond, second, day,
    afterDay, days, valid⟩ := read
  split at valid
  · cases valid
    exact (year_plain years).trans <| (char_plain (by decide) dash).trans <| (number_plain months).trans <|
      (char_plain (by decide) second).trans (number_plain days)
  · cases valid

theorem is_date_plain {text : List Char} (date : isDate text) : ∀ c ∈ text, isPlain c := by
  unfold isDate at date
  split at date
  · rename_i rest read
    rw [List.isEmpty_iff.mp date] at read
    exact (date_plain read).all
  · cases date

theorem fraction_plain {most : Nat} {text rest : List Char} (read : fraction? most text = some rest) :
    PlainUpTo text rest := by
  unfold fraction? at read
  split at read
  · obtain ⟨⟨value, after⟩, digits, rfl⟩ := Option.map_eq_some_iff.mp read
    exact .cons (by decide) (number_plain digits)
  · cases read
    exact .refl _

theorem clock_plain {leastHour leastMinute minutes : Nat} {text rest : List Char}
    (read : clock? leastHour leastMinute text = some (minutes, rest)) : PlainUpTo text rest := by
  simp only [clock?, Option.bind_eq_bind, Option.bind_eq_some_iff, Prod.exists] at read
  obtain ⟨hour, afterHour, hours, afterColon, colon, minute, afterMinute, minutes, valid⟩ := read
  split at valid
  · cases valid
    exact (number_plain hours).trans <| (char_plain (by decide) colon).trans (number_plain minutes)
  · cases valid

theorem second_plain {text rest : List Char} (read : second? text = some rest) : PlainUpTo text rest := by
  simp only [second?, Option.bind_eq_bind, Option.bind_eq_some_iff, Prod.exists] at read
  obtain ⟨afterColon, colon, second, afterSecond, seconds, valid⟩ := read
  split at valid
  · cases valid
    exact (char_plain (by decide) colon).trans (number_plain seconds)
  · cases valid

theorem is_time_of_day_plain {text : List Char} (time : isTimeOfDay text) : ∀ c ∈ text, isPlain c := by
  unfold isTimeOfDay at time
  split at time
  · rename_i read
    exact (clock_plain read).all
  · rename_i rest _ read
    obtain ⟨after, seconds, fraction⟩ := Option.bind_eq_some_iff.mp (eq_of_beq time)
    exact ((clock_plain read).trans <| (second_plain seconds).trans (fraction_plain fraction)).all
  · cases time

def OffsetMinutes.Plain (minutes : OffsetMinutes) : Prop :=
  ∀ text value rest, minutes.read text = some (value, rest) → PlainUpTo text rest

theorem strict_plain : OffsetMinutes.strict.Plain := by
  intro text value rest read
  obtain ⟨after, colon, digits⟩ := Option.bind_eq_some_iff.mp read
  exact (char_plain (by decide) colon).trans (number_plain digits)

theorem lenient_plain : OffsetMinutes.lenient.Plain := by
  intro text value rest read
  have colons : PlainUpTo text (text.dropWhile (· == ':')) :=
    ⟨text.takeWhile (· == ':'), List.takeWhile_append_dropWhile,
      take_while_plain _ (fun c same => by rw [eq_of_beq same]; decide) text⟩
  unfold OffsetMinutes.lenient at read
  dsimp only at read
  split at read
  · rename_i none
    cases read
    rwa [none] at colons
  · exact colons.trans (number_plain read)

theorem offset_plain {minutes : OffsetMinutes} (plain : minutes.Plain) {text : List Char} {offset : Int}
    (read : offset? minutes text = some offset) : ∀ c ∈ text, isPlain c := by
  unfold offset? at read
  split at read
  · exact List.forall_mem_nil _
  · rename_i sign rest
    split at read
    · rename_i universal
      split at read
      · rename_i finished
        rw [List.isEmpty_iff.mp finished]
        rcases universal with rfl | rfl <;> exact List.all_eq_true.mp (by decide)
      · cases read
    · split at read
      · rename_i signs
        simp only [Option.bind_eq_bind, Option.bind_eq_some_iff, Prod.exists] at read
        obtain ⟨hour, afterHour, hours, minute, afterMinute, digits, valid⟩ := read
        split at valid
        · rename_i whole
          rw [List.isEmpty_iff.mp whole.1] at digits
          refine (PlainUpTo.cons ?_ ((number_plain hours).trans (plain _ _ _ digits))).all
          rcases signs with rfl | rfl | rfl <;> decide
        · cases valid
      · cases read

theorem mark_plain {text rest : List Char} (read : (char? 'T' text <|> char? 't' text) = some rest) :
    PlainUpTo text rest := by
  cases upper : char? 'T' text with
  | some after =>
      rw [upper] at read
      cases read
      exact char_plain (by decide) upper
  | none =>
      rw [upper] at read
      exact char_plain (by decide) read

theorem is_full_date_time_plain {text : List Char} (point : isFullDateTime text) :
    ∀ c ∈ text, isPlain c := by
  obtain ⟨offset, read⟩ := Option.isSome_iff_exists.mp point
  simp only [Option.bind_eq_bind, Option.bind_eq_some_iff, Prod.exists] at read
  obtain ⟨year, afterYear, years, afterDash, dash, month, afterMonth, months, afterSecond, second, day,
    afterDay, days, afterMark, mark, minutes, afterClock, clock, afterSeconds, seconds, afterFraction,
    fraction, valid⟩ := read
  split at valid
  · have front := (number_plain years).trans <| (char_plain (by decide) dash).trans <|
      (number_plain months).trans <| (char_plain (by decide) second).trans <| (number_plain days).trans <|
      (mark_plain mark).trans <| (clock_plain clock).trans <| (second_plain seconds).trans <|
      fraction_plain fraction
    exact front.extend (offset_plain strict_plain valid)
  · cases valid

theorem is_short_date_time_plain {text : List Char} (point : isShortDateTime text) :
    ∀ c ∈ text, isPlain c := by
  obtain ⟨offset, read⟩ := Option.isSome_iff_exists.mp point
  simp only [Option.bind_eq_bind, Option.bind_eq_some_iff, Prod.exists] at read
  obtain ⟨date, afterDate, days, afterMark, mark, minutes, afterClock, clock, offset', zone, valid⟩ := read
  have front := (date_plain days).trans <| (char_plain (by decide) mark).trans (clock_plain clock)
  exact front.extend (offset_plain lenient_plain zone)

theorem is_date_time_offset_plain {text : List Char} (point : isDateTimeOffset text) :
    ∀ c ∈ text, isPlain c := by
  rcases Bool.or_eq_true_iff.mp point with full | short
  · exact is_full_date_time_plain full
  · exact is_short_date_time_plain short

end Calendar

theorem Guid.is_guid_plain {text : List Char} (guid : isGuid text) : ∀ c ∈ text, isPlain c := by
  intro c member
  rcases grouped_characters (is_guid_iff.mp guid) c member with hex | rfl
  · exact hex_digit_plain c hex
  · decide

def Scan.Plain (scan : Scan) : Prop := ∀ c ∈ scan.taken, isPlain c

namespace Numeral

def Plain (numeral : Numeral) : Prop := ∀ c ∈ numeral.text, isPlain c

theorem conclude_plain (kind : Option TokenKind) {taken : List Char} (rest : List Char)
    (plain : ∀ c ∈ taken, isPlain c) : (conclude kind taken rest).Plain := by
  cases kind <;> exact plain

theorem scan_suffix_plain {numeral : Numeral} (plain : numeral.Plain) (rest : List Char) :
    (scanSuffix numeral rest).Plain := by
  unfold scanSuffix
  split
  · split
    · rename_i c after suffix
      refine conclude_plain _ _ (List.forall_mem_append.mpr ⟨plain, ?_⟩)
      exact List.forall_mem_singleton.mpr (plain_of_class (by decide) suffix)
    · exact conclude_plain _ _ plain
  · exact conclude_plain _ _ plain

theorem digits_missing_plain {taken : List Char} (rest : List Char) (plain : ∀ c ∈ taken, isPlain c) :
    (digitsMissing taken rest).Plain := plain

theorem exponent_sign_plain (text : List Char) : ∀ c ∈ (exponentSign text).toList, isPlain c := by
  unfold exponentSign
  split
  · split
    · rename_i signs
      rcases signs with rfl | rfl <;> exact List.all_eq_true.mp (by decide)
    · exact List.forall_mem_nil _
  · exact List.forall_mem_nil _

theorem scan_exponent_plain {numeral : Numeral} (without : numeral.exponent = none) (plain : numeral.Plain)
    (rest : List Char) : (scanExponent numeral rest).Plain := by
  unfold scanExponent
  split
  · rename_i mark after
    split
    · rename_i marks
      have marked : isPlain mark := by rcases marks with rfl | rfl <;> decide
      have front : ∀ c ∈ numeral.text ++ mark :: (exponentSign after).toList, isPlain c :=
        List.forall_mem_append.mpr ⟨plain, List.forall_mem_cons.mpr ⟨marked, exponent_sign_plain after⟩⟩
      dsimp only
      split
      · exact digits_missing_plain _ front
      · refine scan_suffix_plain ?_ _
        rw [Plain, text_with_exponent _ _ without, Exponent.text, ← List.cons_append, ← List.append_assoc]
        exact List.forall_mem_append.mpr ⟨front, take_while_plain _ digit_plain _⟩
    · exact scan_suffix_plain plain _
  · exact scan_suffix_plain plain _

theorem scan_fraction_plain {numeral : Numeral} (integral : numeral.fraction = none)
    (without : numeral.exponent = none) (plain : numeral.Plain) (rest : List Char) :
    (scanFraction numeral rest).Plain := by
  unfold scanFraction
  split
  · rename_i point after
    split
    · rename_i same
      subst same
      dsimp only
      split
      · exact digits_missing_plain _ (List.forall_mem_append.mpr ⟨plain, List.all_eq_true.mp (by decide)⟩)
      · have longer : Plain { numeral with fraction := some (after.takeWhile Char.isDigit) } := by
          rw [Plain, text_with_fraction _ _ integral without]
          exact List.forall_mem_append.mpr
            ⟨plain, List.forall_mem_cons.mpr ⟨by decide, take_while_plain _ digit_plain _⟩⟩
        exact scan_exponent_plain (by exact without) longer _
    · exact scan_exponent_plain without plain _
  · exact scan_exponent_plain without plain _

theorem scan_plain (negative : Bool) (text : List Char) : (scan negative text).Plain := by
  refine scan_fraction_plain rfl rfl ?_ _
  rw [Plain, Numeral.text]
  have digits := take_while_plain _ digit_plain text
  cases negative with
  | false => simpa using digits
  | true => simpa [show isPlain '-' by decide] using digits

end Numeral

namespace Expression

theorem form_plain {run : List Char} {kind : TokenKind} (form : formKind? run = some kind) :
    ∀ c ∈ run, isPlain c := by
  unfold formKind? at form
  split at form
  · rename_i date
    exact Calendar.is_date_plain date
  · split at form
    · rename_i point
      exact Calendar.is_date_time_offset_plain point
    · split at form
      · rename_i guid
        exact Guid.is_guid_plain guid
      · split at form
        · rename_i time
          exact Calendar.is_time_of_day_plain time
        · cases form

theorem scan_digits_plain (negative : Bool) (text : List Char) : (scanDigits negative text).Plain := by
  unfold scanDigits
  dsimp only
  split
  · rename_i x digits
    split
    · rename_i mark
      have sign : ∀ c ∈ (if negative then ['-'] else []), isPlain c := by
        cases negative <;> exact List.all_eq_true.mp (by decide)
      refine List.forall_mem_append.mpr ⟨sign, List.forall_mem_cons.mpr ⟨by decide, ?_⟩⟩
      refine List.forall_mem_cons.mpr ⟨?_, take_while_plain _ hex_digit_plain _⟩
      rcases mark with rfl | rfl <;> decide
    · split
      · rename_i kind form
        exact form_plain form
      · exact Numeral.scan_plain negative _
  · split
    · rename_i kind form
      exact form_plain form
    · exact Numeral.scan_plain negative _

theorem scan_minus_plain (rest : List Char) : (scanMinus rest).Plain := by
  have minus (rest : List Char) : (Scan.token .minus ['-'] rest).Plain := by
    intro c member
    rw [List.mem_singleton.mp member]
    decide
  unfold scanMinus
  split
  · split
    · exact scan_digits_plain true _
    · split
      · dsimp only
        split
        · exact List.forall_mem_cons.mpr ⟨by decide, take_while_plain _ identifier_continue_plain _⟩
        · exact minus _
      · exact minus _
  · exact minus _

theorem dotted_tail_plain (text : List Char) : ∀ c ∈ (dottedTail text).1, isPlain c := by
  fun_induction dottedTail text with
  | case1 => exact List.forall_mem_nil _
  | case2 c rest continues tail after same ih =>
      rw [same] at ih
      exact List.forall_mem_cons.mpr ⟨identifier_continue_plain c continues, ih⟩
  | case3 c _ d after starts tail left same ih =>
      rw [same] at ih
      have dot : isPlain c := by
        rw [starts.1]
        decide
      exact List.forall_mem_cons.mpr ⟨dot, List.forall_mem_cons.mpr ⟨identifier_start_plain d starts.2, ih⟩⟩
  | case4 => exact List.forall_mem_nil _
  | case5 => exact List.forall_mem_nil _

theorem scan_annotation_plain (rest : List Char) : ( scanAnnotation rest).Plain := by
  have sign : ∀ c ∈ ['@'], isPlain c := List.all_eq_true.mp (by decide)
  unfold scanAnnotation
  split
  · exact sign
  · rename_i c after
    split
    · exact sign
    · split
      · rename_i start
        exact List.forall_mem_cons.mpr
          ⟨by decide, List.forall_mem_cons.mpr ⟨identifier_start_plain c start, dotted_tail_plain after⟩⟩
      · exact sign

end Expression

-- The raw scan passes what a token takes at any depth, unless the token is one that ends or
-- groups.
def Scan.Passed (text : List Char) (scan : Scan) : Prop :=
  ∀ kind, scan.outcome = .ok kind → kind.isBound = false → ∀ depth, Crosses depth text depth scan.rest

theorem passed_of_token (kind : TokenKind) {taken rest text : List Char} (split : taken ++ rest = text)
    (plain : ∀ c ∈ taken, isPlain c) : (Scan.token kind taken rest).Passed text := by
  intro _ _ _ depth
  rw [← split]
  exact .of_plain _ plain

theorem passed_of_plain {text : List Char} {scan : Scan} (splits : scan.Splits text) (plain : scan.Plain) :
    scan.Passed text := by
  intro kind _ _ depth
  rw [← splits.split]
  exact .of_plain _ plain

theorem passed_of_fault (error : ParseError) {taken rest text : List Char} :
    (Scan.fault error taken rest).Passed text := by
  intro _ same
  cases same

theorem passed_of_quoted (kind : TokenKind) {front : List Char} {quote : Char} (text : List Char)
    (quotes : quote = '\'' ∨ quote = '"') (plain : ∀ c ∈ front, isPlain c) :
    (Scan.quoted kind front quote (scanString quote text)).Passed (front ++ quote :: text) := by
  intro found outcome _ depth
  unfold Scan.quoted QuoteScan.fault? at outcome ⊢
  cases ending : (scanString quote text).ending with
  | closed => exact (Crosses.of_plain front plain).trans (.string quotes ending (.refl _ _))
  | unclosed => rw [ending] at outcome; cases outcome
  | badEscape sequence => rw [ending] at outcome; cases outcome

namespace Expression

theorem scan_word_passed {first : Char} (start : Text.isIdentifierStart first) (rest : List Char) :
    (scanWord first rest).Passed (first :: rest) := by
  have plain : ∀ c ∈ first :: rest.takeWhile Text.isIdentifierContinue, isPlain c :=
    List.forall_mem_cons.mpr
      ⟨identifier_start_plain first start, take_while_plain _ identifier_continue_plain rest⟩
  have word : first :: rest.takeWhile Text.isIdentifierContinue ++
      rest.dropWhile Text.isIdentifierContinue = first :: rest := by simp
  unfold scanWord
  dsimp only
  split
  · rename_i c tail after
    split
    · rename_i quote
      split
      · rename_i kind _
        have passed := passed_of_quoted kind tail (.inl quote) plain
        rwa [← after, word] at passed
      · exact passed_of_fault _
    · split
      · rename_i guid
        exact passed_of_token _ (run_split (first :: rest)) (Guid.is_guid_plain guid.2)
      · exact passed_of_token _ word plain
  · exact passed_of_token _ word plain

theorem punctuation_passed {c : Char} {kind : TokenKind} (found : punctuation? c = some kind)
    (rest : List Char) : (Scan.token kind [c] rest).Passed (c :: rest) := by
  unfold punctuation? at found
  split at found
  case h_15 => cases found
  all_goals
    cases found
    first
    | exact passed_of_token _ rfl (List.all_eq_true.mp (by decide))
    | exact fun kind same inner => by cases same; cases inner

theorem scan_passed (c : Char) (rest : List Char) : (scan (c :: rest)).Passed (c :: rest) := by
  have branch := branch_of_scan c rest
  generalize scan (c :: rest) = found at branch ⊢
  cases branch with
  | mark found => exact punctuation_passed found rest
  | minus sign =>
      subst sign
      exact passed_of_plain (scan_minus_splits rest) (scan_minus_plain rest)
  | string quotes => exact passed_of_quoted _ rest quotes (List.forall_mem_nil _)
  | dollar sign =>
      subst sign
      exact passed_of_token _ rfl (List.forall_mem_singleton.mpr (by decide))
  | word start => exact scan_word_passed start rest
  | number digit => exact passed_of_plain (scan_digits_splits false c rest digit) (scan_digits_plain false _)
  | annotated sign =>
      subst sign
      exact passed_of_plain (scan_annotation_splits rest) (scan_annotation_plain rest)
  | foreign => exact passed_of_fault _

end Expression

end QueryOptions
