import ContextCache.CommandLine.Seed
import ContextCache.Proofs.Text.Numerals

/-!
Contract: which texts stand for a seed.

A seed is a decimal numeral, or a hexadecimal one behind its radix mark. Underscores may stand
anywhere in the numeral, before the sign and behind the last digit too, but not in the mark.
What begins with the mark is never read as decimal.

Owns:
- the texts that stand for a seed, and the texts that a seed is written as;
- that reading a seed agrees with both.

Does not own: what a seed starts.
-/

set_option autoImplicit false

namespace ContextCache.CommandLine.Seed

/-! ### How seeds are written -/

/-- The text is the plain one with underscores put in anywhere. -/
inductive Underscored : List Char → List Char → Prop where
  | nil : Underscored [] []
  | keep (character : Char) {plain text : List Char} (rest : Underscored plain text) :
      Underscored (character :: plain) (character :: text)
  | insert {plain text : List Char} (rest : Underscored plain text) :
      Underscored plain ('_' :: text)

/-- Underscores apart, the text is an optional plus sign and one or more digits of the radix,
the most significant one first, that stand for the value. Letters may have either case. -/
def Literal (radix : Nat) (text : List Char) (value : Nat) : Prop :=
  ∃ (sign digits : List Char) (values : List Nat), Underscored (sign ++ digits) text ∧
    (sign = [] ∨ sign = ['+']) ∧ digits ≠ [] ∧
    digits.map Char.toLower = values.map Nat.digitChar ∧ (∀ digit ∈ values, digit < radix) ∧
    Nat.ofDigits radix values.reverse = value

/-- Behind a radix mark digits are hexadecimal, and without one they are decimal. -/
inductive Spells : List Char → Nat → Prop where
  | hexadecimal {mark : Char} {text : List Char} {value : Nat} (marked : mark = 'x' ∨ mark = 'X')
      (literal : Literal 16 text value) : Spells ('0' :: mark :: text) value
  | decimal {text : List Char} {value : Nat}
      (unmarked : ∀ mark rest, text = '0' :: mark :: rest → ¬ (mark = 'x' ∨ mark = 'X'))
      (literal : Literal 10 text value) : Spells text value

/-- Blanks apart, the text spells the seed. -/
def Denotes (raw : String) (seed : UInt64) : Prop :=
  ∃ front text back, raw.toList = front ++ text ++ back ∧
    (∀ character ∈ front, Text.isBlank character = true) ∧
    (∀ character ∈ back, Text.isBlank character = true) ∧ Spells text seed.toNat

/-- Underscores apart, the text has the digits of the value behind any number of zeros, with
letters of either case. -/
def Rendered (radix value : Nat) (text : List Char) : Prop :=
  ∃ zeros digits, Underscored digits text ∧
    digits.map Char.toLower = List.replicate zeros '0' ++ Nat.toDigits radix value

/-- The texts that a seed may be written as, in decimal or in hexadecimal digits. -/
inductive Renders (seed : UInt64) : List Char → Prop where
  | decimal {text : List Char} (rendered : Rendered 10 seed.toNat text) : Renders seed text
  | hexadecimal {mark : Char} {text : List Char} (marked : mark = 'x' ∨ mark = 'X')
      (rendered : Rendered 16 seed.toNat text) : Renders seed ('0' :: mark :: text)

variable {radix value zeros : Nat} {plain text digits : List Char} {character : Char}
  {raw : String} {seed : UInt64}

/-! ### Underscores -/

theorem underscored_withoutUnderscores (text : List Char) :
    Underscored (withoutUnderscores text) text := by
  induction text with
  | nil => exact .nil
  | cons character text inductionHypothesis =>
      unfold withoutUnderscores at inductionHypothesis ⊢
      by_cases underscore : character = '_'
      · subst underscore
        exact inductionHypothesis.insert
      · rw [List.filter_cons_of_pos (by simpa using underscore)]
        exact inductionHypothesis.keep character

/-- A text is found again under its underscores, if it has none of its own. -/
theorem Underscored.withoutUnderscores_eq (underscored : Underscored plain text)
    (clean : '_' ∉ plain) : withoutUnderscores text = plain := by
  induction underscored with
  | nil => rfl
  | keep character rest inductionHypothesis =>
      obtain ⟨differs, clean⟩ := List.ne_and_not_mem_of_not_mem_cons clean
      unfold withoutUnderscores at inductionHypothesis ⊢
      rw [List.filter_cons_of_pos (by simpa using differs.symm), inductionHypothesis clean]
  | insert rest inductionHypothesis => exact inductionHypothesis clean

theorem Underscored.mem (underscored : Underscored plain text) (member : character ∈ text) :
    character = '_' ∨ character ∈ plain := by
  induction underscored with
  | nil => exact absurd member List.not_mem_nil
  | keep first rest inductionHypothesis =>
      rcases List.mem_cons.mp member with rfl | later
      · exact Or.inr (List.mem_cons_self ..)
      · exact (inductionHypothesis later).imp_right (List.mem_cons_of_mem first)
  | insert rest inductionHypothesis =>
      rcases List.mem_cons.mp member with underscore | later
      · exact Or.inl underscore
      · exact inductionHypothesis later

theorem Underscored.ne_nil (underscored : Underscored plain text) (nonempty : plain ≠ []) :
    text ≠ [] := by
  cases underscored with
  | nil => exact nonempty
  | keep => exact List.cons_ne_nil _ _
  | insert => exact List.cons_ne_nil _ _

/-! ### Literals -/

theorem digit?_underscore (radix : Nat) : Text.digit? radix '_' = none := by
  simp [Text.digit?]

theorem underscore_notMem_numeral (numeral : Text.Numeral radix plain value) : '_' ∉ plain := by
  intro member
  rcases numeral.sign_or_digit member with sign | ⟨digit, found⟩
  · exact absurd sign (by decide)
  · rw [digit?_underscore] at found
    cases found

/-- A literal is a numeral with underscores put in. -/
theorem literal_iff (small : radix ≤ 16) :
    Literal radix text value ↔ ∃ plain, Underscored plain text ∧ Text.Numeral radix plain value := by
  constructor
  · rintro ⟨sign, digits, values, underscored, signed, nonempty, lowered, bounded, exactly⟩
    refine ⟨sign ++ digits, underscored, digits, values, ?_, nonempty,
      (Text.hasValues_iff small).mpr ⟨lowered, bounded⟩, exactly⟩
    rcases signed with rfl | rfl
    · exact Or.inl rfl
    · exact Or.inr rfl
  · rintro ⟨plain, underscored, digits, values, signed, nonempty, valued, exactly⟩
    obtain ⟨lowered, bounded⟩ := (Text.hasValues_iff small).mp valued
    rcases signed with rfl | rfl
    · exact ⟨[], plain, values, underscored, Or.inl rfl, nonempty, lowered, bounded, exactly⟩
    · exact ⟨['+'], digits, values, underscored, Or.inr rfl, nonempty, lowered, bounded, exactly⟩

theorem numeral_withoutUnderscores_iff (small : radix ≤ 16) :
    Text.Numeral radix (withoutUnderscores text) value ↔ Literal radix text value := by
  rw [literal_iff small]
  constructor
  · exact fun numeral => ⟨_, underscored_withoutUnderscores text, numeral⟩
  · rintro ⟨plain, underscored, numeral⟩
    rwa [underscored.withoutUnderscores_eq (underscore_notMem_numeral numeral)]

theorem Literal.underscore_sign_or_digit (literal : Literal radix text value) (small : radix ≤ 16)
    (member : character ∈ text) :
    character = '_' ∨ character = '+' ∨ ∃ digit, Text.digit? radix character = some digit := by
  obtain ⟨plain, underscored, numeral⟩ := (literal_iff small).mp literal
  exact (underscored.mem member).imp_right numeral.sign_or_digit

theorem Literal.dense (literal : Literal radix text value) (small : radix ≤ 16) :
    ∀ character ∈ text, Text.isBlank character = false := by
  intro character member
  rcases literal.underscore_sign_or_digit small member with rfl | rfl | ⟨digit, found⟩
  · decide
  · decide
  · exact Text.isBlank_of_digit? found

theorem Literal.ne_nil (literal : Literal radix text value) (small : radix ≤ 16) : text ≠ [] := by
  obtain ⟨plain, underscored, numeral⟩ := (literal_iff small).mp literal
  exact underscored.ne_nil numeral.ne_nil

/-- A decimal literal has no radix mark. -/
theorem Literal.unmarked (literal : Literal 10 text value) (mark : Char) (rest : List Char)
    (begins : text = '0' :: mark :: rest) : ¬ (mark = 'x' ∨ mark = 'X') := by
  intro marked
  have member : mark ∈ text := by
    rw [begins]
    exact List.mem_cons_of_mem _ (List.mem_cons_self ..)
  rcases literal.underscore_sign_or_digit (by decide) member with rfl | rfl | ⟨digit, found⟩
  · exact absurd marked (by decide)
  · exact absurd marked (by decide)
  · have decimal := Text.digit?_ten_iff.mp found
    rcases marked with rfl | rfl
    · exact absurd decimal.1 (by decide)
    · exact absurd decimal.1 (by decide)

/-- The digits of a number are a literal for it, however they are rendered. -/
theorem Rendered.literal (rendered : Rendered radix value text) (large : 1 < radix)
    (small : radix ≤ 16) : Literal radix text value := by
  obtain ⟨zeros, digits, underscored, lowered⟩ := rendered
  obtain ⟨values, valued, exactly⟩ := Text.hasValues_padded large small zeros value
  rw [← lowered, Text.hasValues_map_toLower_iff small] at valued
  have nonempty : digits ≠ [] := by
    rintro rfl
    have ended := (List.append_eq_nil_iff.mp lowered.symm).2
    exact Text.toDigits_ne_nil large value ended
  exact (literal_iff small).mpr
    ⟨digits, underscored, digits, values, Or.inl rfl, nonempty, valued, exactly⟩

/-! ### Spellings -/

/-- A text is taken apart as it is spelt. -/
theorem spells_iff :
    Spells text value ↔ Text.Numeral (radixAndDigits text).1
      (withoutUnderscores (radixAndDigits text).2) value := by
  constructor
  · intro spells
    cases spells with
    | hexadecimal marked literal =>
        have numeral := (numeral_withoutUnderscores_iff (by decide)).mpr literal
        rcases marked with rfl | rfl
        · exact numeral
        · exact numeral
    | decimal unmarked literal =>
        have numeral := (numeral_withoutUnderscores_iff (by decide)).mpr literal
        unfold radixAndDigits
        split
        · exact absurd (Or.inl rfl) (unmarked _ _ rfl)
        · exact absurd (Or.inr rfl) (unmarked _ _ rfl)
        · exact numeral
  · intro numeral
    unfold radixAndDigits at numeral
    split at numeral
    · exact .hexadecimal (Or.inl rfl) ((numeral_withoutUnderscores_iff (by decide)).mp numeral)
    · exact .hexadecimal (Or.inr rfl) ((numeral_withoutUnderscores_iff (by decide)).mp numeral)
    · have literal := (numeral_withoutUnderscores_iff (show 10 ≤ 16 by decide)).mp numeral
      exact .decimal literal.unmarked literal

theorem Spells.dense (spells : Spells text value) :
    ∀ character ∈ text, Text.isBlank character = false := by
  cases spells with
  | hexadecimal marked literal =>
      refine List.forall_mem_cons.mpr ⟨by decide, List.forall_mem_cons.mpr ⟨?_, ?_⟩⟩
      · rcases marked with rfl | rfl <;> decide
      · exact literal.dense (by decide)
  | decimal unmarked literal => exact literal.dense (by decide)

theorem Spells.ne_nil (spells : Spells text value) : text ≠ [] := by
  cases spells with
  | hexadecimal => exact List.cons_ne_nil _ _
  | decimal unmarked literal => exact literal.ne_nil (by decide)

theorem Renders.spells (renders : Renders seed text) : Spells text seed.toNat := by
  cases renders with
  | decimal rendered =>
      have literal := rendered.literal (by decide) (by decide)
      exact .decimal literal.unmarked literal
  | hexadecimal marked rendered =>
      exact .hexadecimal marked (rendered.literal (by decide) (by decide))

/-! ### Reading -/

theorem spells_trim_iff : Spells (Text.trim raw.toList) seed.toNat ↔ Denotes raw seed := by
  constructor
  · intro spells
    obtain ⟨front, back, exactly, before, after⟩ := Text.exists_eq_trim raw.toList
    exact ⟨front, _, back, exactly, before, after, spells⟩
  · rintro ⟨front, text, back, exactly, before, after, spells⟩
    rwa [exactly, Text.trim_of_dense spells.ne_nil spells.dense before after]

theorem readSeed_eq_ok_iff : readSeed raw = .ok seed ↔ Denotes raw seed := by
  rw [← spells_trim_iff, spells_iff]
  unfold readSeed
  obtain ⟨radix, digits⟩ := radixAndDigits (Text.trim raw.toList)
  dsimp only
  constructor
  · intro read
    split at read
    · next value accepted =>
        obtain ⟨numeral, bounded⟩ := Text.readNatural_eq_ok_iff.mp accepted
        have fits : value < UInt64.size := Nat.lt_of_le_pred (by decide) bounded
        cases read
        rwa [UInt64.toNat_ofNat_of_lt' fits]
    · cases read
  · intro numeral
    have bounded : seed.toNat ≤ maxSeed := Nat.le_pred_of_lt seed.toNat_lt_size
    rw [Text.readNatural_eq_ok_iff.mpr ⟨numeral, bounded⟩]
    dsimp only
    rw [UInt64.ofNat_toNat]

/-- Seeds are read exactly. A text is read as a seed exactly if it denotes it, blanks around it
apart: as a hexadecimal literal behind a radix mark, and otherwise as a decimal literal. Every
other text is refused. So a seed is read back however it is written, with any blanks around it,
zeros in front, letters of either case and underscores. -/
theorem seeds_are_read_exactly (raw : String) :
    (∀ seed, readSeed raw = .ok seed ↔ Denotes raw seed) ∧
      ((∃ fault, readSeed raw = .error fault) ↔ ∀ seed, ¬ Denotes raw seed) ∧
      ∀ seed front text back, raw.toList = front ++ text ++ back →
        (∀ character ∈ front, Text.isBlank character = true) →
        (∀ character ∈ back, Text.isBlank character = true) →
        Renders seed text → readSeed raw = .ok seed := by
  refine ⟨fun seed => readSeed_eq_ok_iff, ?_, ?_⟩
  · constructor
    · rintro ⟨fault, refused⟩ seed denotes
      rw [readSeed_eq_ok_iff.mpr denotes] at refused
      cases refused
    · intro nothing
      cases read : readSeed raw with
      | ok seed => exact absurd (readSeed_eq_ok_iff.mp read) (nothing seed)
      | error fault => exact ⟨fault, rfl⟩
  · intro seed front text back exactly before after renders
    exact readSeed_eq_ok_iff.mpr ⟨front, text, back, exactly, before, after, renders.spells⟩

/-- Zeros, letters of both cases and underscores between ideographic and other blanks. -/
theorem seeds_are_read_exactly_spaced :
    Renders 0xdeadbeef "0X00_dEaD__bEEf_".toList ∧
      readSeed "\u3000 0X00_dEaD__bEEf_\n" = .ok 0xdeadbeef := by
  have rendered : Rendered 16 (0xdeadbeef : UInt64).toNat "00_dEaD__bEEf_".toList :=
    ⟨2, _, underscored_withoutUnderscores _, by decide⟩
  have renders : Renders 0xdeadbeef "0X00_dEaD__bEEf_".toList := .hexadecimal (Or.inr rfl) rendered
  have before : ∀ character ∈ "\u3000 ".toList, Text.isBlank character = true :=
    List.all_eq_true.mp (by decide)
  have after : ∀ character ∈ "\n".toList, Text.isBlank character = true :=
    List.all_eq_true.mp (by decide)
  exact ⟨renders, (seeds_are_read_exactly _).2.2 _ _ _ _ (by decide) before after renders⟩

/-- The radix mark itself may not be broken. -/
example : readSeed "0_x10" = .error .invalidDigit := by
  decide

end ContextCache.CommandLine.Seed
