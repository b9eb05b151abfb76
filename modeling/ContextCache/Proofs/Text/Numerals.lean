import ContextCache.Text.Blank
import ContextCache.Text.Natural
import Mathlib.Data.List.TakeWhile
import Mathlib.Data.Nat.Digits.Defs

/-!
Contract: which texts stand for a number.

A numeral is an optional plus sign and one or more digits, however many of them are zeros at
the front. Reading accepts exactly the numerals whose value is within the limit, and returns
that value. Trimming takes away blanks, and nothing else, so a numeral may have blanks around
it and is found again without them.

Owns:
- which characters are digits, and numerals and their values in a radix;
- that reading agrees with them, and that a number's digits are a numeral for it, with any
  zeros in front and letters of either case;
- what trimming takes away.

Does not own: which numbers a setting or a seed may have.
-/

set_option autoImplicit false

namespace ContextCache.Text

/-- The characters are digits of the radix with these values. -/
def HasValues (radix : Nat) (digits : List Char) (values : List Nat) : Prop :=
  digits.map (digit? radix) = values.map some

/-- An optional plus sign and one or more digits, the most significant one first. -/
def Numeral (radix : Nat) (text : List Char) (value : Nat) : Prop :=
  ∃ digits values, (text = digits ∨ text = '+' :: digits) ∧ digits ≠ [] ∧
    HasValues radix digits values ∧ Nat.ofDigits radix values.reverse = value

variable {radix limit value : Nat} {text digits : List Char} {character : Char}

/-! ### Digits -/

theorem digit?_lt (found : digit? radix character = some value) : value < radix := by
  unfold digit? at found
  have within := (Option.filter_eq_some_iff.mp found).2
  simpa using within

theorem digit?_plus (radix : Nat) : digit? radix '+' = none := by
  simp [digit?]

/-- No blank is a digit. -/
theorem isBlank_of_digit? (found : digit? radix character = some value) :
    isBlank character = false := by
  unfold digit? at found
  have coded := (Option.filter_eq_some_iff.mp found).1
  unfold isBlank
  simp only [Bool.or_eq_false_iff, Bool.and_eq_false_iff, decide_eq_false_iff_not,
    beq_eq_false_iff_ne]
  split at coded
  · omega
  · split at coded
    · omega
    · split at coded
      · omega
      · cases coded

theorem hasValues_cons_iff {values : List Nat} :
    HasValues radix (character :: digits) values ↔
      ∃ first rest, values = first :: rest ∧ digit? radix character = some first ∧
        HasValues radix digits rest := by
  unfold HasValues
  rw [List.map_cons, eq_comm, List.map_eq_cons_iff]
  constructor
  · rintro ⟨first, rest, rfl, found, others⟩
    exact ⟨first, rest, rfl, found.symm, others.symm⟩
  · rintro ⟨first, rest, rfl, found, others⟩
    exact ⟨first, rest, rfl, found.symm, others.symm⟩

/-- The decimal digits are the ten ASCII ones. -/
theorem digit?_ten_iff :
    digit? 10 character = some value ↔ character.isDigit = true ∧ character.toNat - 48 = value := by
  have decimal : character.isDigit = true ↔ 48 ≤ character.toNat ∧ character.toNat ≤ 57 := by
    simp only [Char.isDigit, Bool.and_eq_true, decide_eq_true_eq, ge_iff_le, UInt32.le_iff_toNat_le]
    exact Iff.rfl
  rw [decimal]
  unfold digit?
  rw [Option.filter_eq_some_iff]
  split
  · next within =>
      simp only [Option.some.injEq, decide_eq_true_eq]
      omega
  · next outside =>
      split
      · simp only [Option.some.injEq, decide_eq_true_eq]
        omega
      · split
        · simp only [Option.some.injEq, decide_eq_true_eq]
          omega
        · simp [outside]

theorem hasValues_ten_iff {values : List Nat} :
    HasValues 10 digits values ↔ (∀ character ∈ digits, character.isDigit = true) ∧
      digits.map (fun character => character.toNat - 48) = values := by
  induction digits generalizing values with
  | nil => cases values <;> simp [HasValues]
  | cons character digits inductionHypothesis =>
      rw [hasValues_cons_iff, List.forall_mem_cons, List.map_cons]
      constructor
      · rintro ⟨first, rest, rfl, found, valued⟩
        obtain ⟨decimal, rfl⟩ := digit?_ten_iff.mp found
        obtain ⟨others, rfl⟩ := inductionHypothesis.mp valued
        exact ⟨⟨decimal, others⟩, rfl⟩
      · rintro ⟨⟨decimal, others⟩, rfl⟩
        exact ⟨_, _, rfl, digit?_ten_iff.mpr ⟨decimal, rfl⟩,
          inductionHypothesis.mpr ⟨others, rfl⟩⟩

/-- A character of a text that has values is a digit. -/
theorem HasValues.exists_digit? {values : List Nat} (valued : HasValues radix digits values)
    (member : character ∈ digits) : ∃ value, digit? radix character = some value := by
  have inside : digit? radix character ∈ values.map some := by
    rw [← show digits.map (digit? radix) = values.map some from valued]
    exact List.mem_map_of_mem member
  obtain ⟨value, -, found⟩ := List.mem_map.mp inside
  exact ⟨value, found.symm⟩

theorem HasValues.append {front back : List Char} {first second : List Nat}
    (before : HasValues radix front first) (after : HasValues radix back second) :
    HasValues radix (front ++ back) (first ++ second) := by
  unfold HasValues
  rw [List.map_append, List.map_append, before, after]

/-! ### Letters of either case -/

theorem toNat_toLower (character : Char) :
    character.toLower.toNat =
      if 65 ≤ character.toNat ∧ character.toNat ≤ 90 then character.toNat + 32
      else character.toNat := by
  have capital : character.val ≥ 'A'.val ∧ character.val ≤ 'Z'.val ↔
      65 ≤ character.toNat ∧ character.toNat ≤ 90 := by
    simp only [ge_iff_le, UInt32.le_iff_toNat_le]
    exact Iff.rfl
  unfold Char.toLower
  split
  · next large =>
      obtain ⟨-, bounded⟩ := capital.mp large
      rw [if_pos (capital.mp large)]
      show (character.toNat + 32) % 2 ^ 32 = character.toNat + 32
      omega
  · next small => rw [if_neg (mt capital.mpr small)]

theorem toNat_digitChar :
    ∀ value < 16, value.digitChar.toNat = if value < 10 then 48 + value else 87 + value := by
  decide

/-- The digits of a radix are the first ones of `0123456789abcdef`, in either case. -/
theorem digit?_eq_some_iff (small : radix ≤ 16) :
    digit? radix character = some value ↔
      value < radix ∧ character.toLower = value.digitChar := by
  unfold digit?
  rw [Option.filter_eq_some_iff, decide_eq_true_eq, and_comm]
  refine and_congr_right fun below => ?_
  rw [← Char.toNat_inj, toNat_toLower, toNat_digitChar value (Nat.lt_of_lt_of_le below small)]
  split
  · rw [Option.some.injEq]
    split_ifs <;> omega
  · split
    · rw [Option.some.injEq]
      split_ifs <;> omega
    · split
      · rw [Option.some.injEq]
        split_ifs <;> omega
      · simp only [reduceCtorEq, false_iff]
        split_ifs <;> omega

theorem hasValues_iff {values : List Nat} (small : radix ≤ 16) :
    HasValues radix digits values ↔ digits.map Char.toLower = values.map Nat.digitChar ∧
      ∀ value ∈ values, value < radix := by
  induction digits generalizing values with
  | nil => cases values <;> simp [HasValues]
  | cons character digits inductionHypothesis =>
      rw [hasValues_cons_iff, List.map_cons]
      constructor
      · rintro ⟨first, rest, rfl, found, valued⟩
        obtain ⟨below, lowered⟩ := (digit?_eq_some_iff small).mp found
        obtain ⟨others, bounded⟩ := inductionHypothesis.mp valued
        exact ⟨by rw [List.map_cons, lowered, others], List.forall_mem_cons.mpr ⟨below, bounded⟩⟩
      · rintro ⟨same, bounded⟩
        obtain ⟨first, rest, rfl, lowered, others⟩ := List.map_eq_cons_iff.mp same.symm
        obtain ⟨below, bounded⟩ := List.forall_mem_cons.mp bounded
        exact ⟨first, rest, rfl, (digit?_eq_some_iff small).mpr ⟨below, lowered.symm⟩,
          inductionHypothesis.mpr ⟨others.symm, bounded⟩⟩

theorem toLower_toLower (character : Char) : character.toLower.toLower = character.toLower := by
  rw [← Char.toNat_inj, toNat_toLower character.toLower, toNat_toLower character]
  split_ifs <;> omega

/-- Letters may have either case. -/
theorem hasValues_map_toLower_iff {values : List Nat} (small : radix ≤ 16) :
    HasValues radix (digits.map Char.toLower) values ↔ HasValues radix digits values := by
  have lowered : Char.toLower ∘ Char.toLower = Char.toLower := funext toLower_toLower
  rw [hasValues_iff small, hasValues_iff small, List.map_map, lowered]

/-! ### Reading -/

/-- Reading on agrees with the value of all digits together, as long as that is within the
limit. -/
theorem readDigits_eq_ok_iff {seen : Nat} (within : seen ≤ limit) :
    readDigits radix limit seen digits = .ok value ↔
      ∃ values, HasValues radix digits values ∧
        seen * radix ^ values.length + Nat.ofDigits radix values.reverse = value ∧
        value ≤ limit := by
  induction digits generalizing seen with
  | nil =>
      constructor
      · intro read
        cases read
        exact ⟨[], rfl, by simp, within⟩
      · rintro ⟨values, valued, rfl, -⟩
        rw [List.map_eq_nil_iff.mp (show values.map some = [] from Eq.symm valued)]
        simp [readDigits]
  | cons character digits inductionHypothesis =>
      unfold readDigits
      simp only [hasValues_cons_iff]
      cases found : digit? radix character with
      | none => simp
      | some first =>
          dsimp only
          have shifts : ∀ rest : List Nat,
              seen * radix ^ (first :: rest).length +
                  Nat.ofDigits radix (first :: rest).reverse =
                (seen * radix + first) * radix ^ rest.length +
                  Nat.ofDigits radix rest.reverse := by
            intro rest
            rw [Nat.ofDigits_reverse_cons, List.length_cons, Nat.pow_succ]
            ring
          split
          · next beyond =>
              constructor
              · intro read
                cases read
              · rintro ⟨values, ⟨other, rest, rfl, same, valued⟩, exactly, bounded⟩
                cases same
                rw [shifts rest] at exactly
                have positive : 0 < radix ^ rest.length :=
                  Nat.pow_pos (Nat.lt_of_le_of_lt (Nat.zero_le _) (digit?_lt found))
                have grows := Nat.le_mul_of_pos_right (seen * radix + first) positive
                omega
          · next below =>
              rw [inductionHypothesis (Nat.le_of_not_lt below)]
              constructor
              · rintro ⟨rest, valued, exactly, bounded⟩
                exact ⟨first :: rest, ⟨first, rest, rfl, rfl, valued⟩,
                  (shifts rest).trans exactly, bounded⟩
              · rintro ⟨values, ⟨other, rest, rfl, same, valued⟩, exactly, bounded⟩
                cases same
                exact ⟨rest, valued, (shifts rest).symm.trans exactly, bounded⟩

/-- Reading accepts exactly the numerals within the limit. -/
theorem readNatural_eq_ok_iff :
    readNatural radix limit text = .ok value ↔ Numeral radix text value ∧ value ≤ limit := by
  have reads : ∀ digits : List Char, readDigits radix limit 0 digits = .ok value ↔
      ∃ values, HasValues radix digits values ∧ Nat.ofDigits radix values.reverse = value ∧
        value ≤ limit := by
    intro digits
    rw [readDigits_eq_ok_iff (Nat.zero_le limit)]
    simp only [Nat.zero_mul, Nat.zero_add]
  -- A plus sign is no digit, so it can only be the sign.
  have unsigned : ∀ (rest : List Char) (values : List Nat),
      ¬ HasValues radix ('+' :: rest) values := by
    intro rest values valued
    obtain ⟨first, others, -, found, -⟩ := hasValues_cons_iff.mp valued
    rw [digit?_plus] at found
    cases found
  unfold readNatural
  split
  · constructor
    · intro read
      cases read
    · rintro ⟨⟨digits, values, rfl | signed, nonempty, -⟩, -⟩
      · exact absurd rfl nonempty
      · cases signed
  · constructor
    · intro read
      cases read
    · rintro ⟨⟨digits, values, rfl | signed, nonempty, valued, -⟩, -⟩
      · exact absurd valued (unsigned [] values)
      · cases signed
        exact absurd rfl nonempty
  · next digits unsignedOnly =>
      rw [reads]
      constructor
      · rintro ⟨values, valued, exactly, bounded⟩
        refine ⟨⟨digits, values, Or.inr rfl, ?_, valued, exactly⟩, bounded⟩
        rintro rfl
        exact unsignedOnly rfl
      · rintro ⟨⟨others, values, rfl | signed, nonempty, valued, exactly⟩, bounded⟩
        · exact absurd valued (unsigned digits values)
        · cases signed
          exact ⟨values, valued, exactly, bounded⟩
  · next nonempty signless unsignedText =>
      rw [reads]
      constructor
      · rintro ⟨values, valued, exactly, bounded⟩
        exact ⟨⟨text, values, Or.inl rfl, nonempty, valued, exactly⟩, bounded⟩
      · rintro ⟨⟨others, values, rfl | signed, -, valued, exactly⟩, bounded⟩
        · exact ⟨values, valued, exactly, bounded⟩
        · exact absurd signed (unsignedText others)

/-! ### Writing -/

theorem digit?_digitChar (small : radix ≤ 16) (below : value < radix) :
    digit? radix value.digitChar = some value := by
  have lowered : ∀ digit < 16, digit.digitChar.toLower = digit.digitChar := by decide
  exact (digit?_eq_some_iff small).mpr
    ⟨below, lowered value (Nat.lt_of_lt_of_le below small)⟩

/-- The digits of a number are digits that stand for it. -/
theorem hasValues_toDigits (large : 1 < radix) (small : radix ≤ 16) (value : Nat) :
    ∃ values, HasValues radix (Nat.toDigits radix value) values ∧
      Nat.ofDigits radix values.reverse = value := by
  induction value using Nat.strongRecOn with
  | ind value inductionHypothesis =>
      by_cases below : value < radix
      · refine ⟨[value], ?_, by simp⟩
        rw [Nat.toDigits_of_lt_base below]
        simp [HasValues, digit?_digitChar small below]
      · have shorter : value / radix < value := Nat.div_lt_self (by omega) large
        obtain ⟨values, valued, exactly⟩ := inductionHypothesis (value / radix) shorter
        have last : value % radix < radix := Nat.mod_lt _ (by omega)
        refine ⟨values ++ [value % radix], ?_, ?_⟩
        · rw [Nat.toDigits_of_base_le large (Nat.le_of_not_lt below)]
          exact valued.append (by simp [HasValues, digit?_digitChar small last])
        · rw [List.reverse_append, List.reverse_singleton, List.singleton_append,
            Nat.ofDigits_cons, exactly]
          exact Nat.mod_add_div value radix

/-- Zeros in front change nothing. -/
theorem hasValues_padded (large : 1 < radix) (small : radix ≤ 16) (zeros value : Nat) :
    ∃ values, HasValues radix (List.replicate zeros '0' ++ Nat.toDigits radix value) values ∧
      Nat.ofDigits radix values.reverse = value := by
  obtain ⟨values, valued, exactly⟩ := hasValues_toDigits large small value
  have zero : digit? radix '0' = some 0 :=
    (digit?_eq_some_iff small).mpr ⟨Nat.lt_of_succ_lt large, by decide⟩
  have padding : HasValues radix (List.replicate zeros '0') (List.replicate zeros 0) := by
    unfold HasValues
    rw [List.map_replicate, List.map_replicate, zero]
  refine ⟨List.replicate zeros 0 ++ values, padding.append valued, ?_⟩
  rw [List.reverse_append, List.reverse_replicate, Nat.ofDigits_append_replicate_zero, exactly]

theorem toDigits_ne_nil (large : 1 < radix) (value : Nat) : Nat.toDigits radix value ≠ [] := by
  rw [Nat.toDigits_eq_if large]
  split <;> simp

/-- The decimal digits of a number are a numeral for it. -/
theorem numeral_toString (value : Nat) : Numeral 10 (toString value).toList value := by
  obtain ⟨values, valued, exactly⟩ := @hasValues_toDigits 10 (by decide) (by decide) value
  have rendered : (toString value).toList = Nat.toDigits 10 value := Nat.toList_repr
  rw [rendered]
  exact ⟨_, values, Or.inl rfl, toDigits_ne_nil (by decide) value, valued, exactly⟩

/-! ### Blanks -/

/-- Trimming takes away blanks in front and behind, and nothing else. -/
theorem exists_eq_trim (text : List Char) :
    ∃ front back, text = front ++ trim text ++ back ∧
      (∀ character ∈ front, isBlank character = true) ∧
      ∀ character ∈ back, isBlank character = true := by
  let rest := text.dropWhile isBlank
  refine ⟨text.takeWhile isBlank, (rest.reverse.takeWhile isBlank).reverse, ?_, ?_, ?_⟩
  · have behind : trim text ++ (rest.reverse.takeWhile isBlank).reverse = rest := by
      rw [trim, ← List.reverse_append, List.takeWhile_append_dropWhile, List.reverse_reverse]
    rw [List.append_assoc, behind, List.takeWhile_append_dropWhile]
  · exact fun character member => List.mem_takeWhile_imp member
  · exact fun character member => List.mem_takeWhile_imp (List.mem_reverse.mp member)

theorem dropWhile_append_of_blank {front : List Char}
    (blank : ∀ character ∈ front, isBlank character = true) :
    (front ++ text).dropWhile isBlank = text.dropWhile isBlank := by
  induction front with
  | nil => rfl
  | cons first rest inductionHypothesis =>
      rw [List.cons_append, List.dropWhile_cons_of_pos (blank first (List.mem_cons_self ..))]
      exact inductionHypothesis fun character member =>
        blank character (List.mem_cons_of_mem _ member)

theorem dropWhile_eq_self_of_dense {back : List Char} (nonempty : text ≠ [])
    (dense : ∀ character ∈ text, isBlank character = false) :
    (text ++ back).dropWhile isBlank = text ++ back := by
  obtain ⟨first, rest, rfl⟩ := List.exists_cons_of_ne_nil nonempty
  rw [List.cons_append, List.dropWhile_cons_of_neg]
  rw [dense first (List.mem_cons_self ..)]
  decide

/-- A text without blanks is found again between blanks. -/
theorem trim_of_dense {front back : List Char} (nonempty : text ≠ [])
    (dense : ∀ character ∈ text, isBlank character = false)
    (before : ∀ character ∈ front, isBlank character = true)
    (after : ∀ character ∈ back, isBlank character = true) :
    trim (front ++ text ++ back) = text := by
  have denseReversed : ∀ character ∈ text.reverse, isBlank character = false :=
    fun character member => dense character (List.mem_reverse.mp member)
  have stops : text.reverse.dropWhile isBlank = text.reverse := by
    have found := @dropWhile_eq_self_of_dense text.reverse [] (by simpa using nonempty)
      denseReversed
    rwa [List.append_nil] at found
  unfold trim
  rw [List.append_assoc, dropWhile_append_of_blank before,
    dropWhile_eq_self_of_dense nonempty dense, List.reverse_append, dropWhile_append_of_blank
      (fun character member => after character (List.mem_reverse.mp member)), stops,
    List.reverse_reverse]

theorem Numeral.sign_or_digit (numeral : Numeral radix text value) (member : character ∈ text) :
    character = '+' ∨ ∃ digit, digit? radix character = some digit := by
  obtain ⟨digits, values, rfl | rfl, -, valued, -⟩ := numeral
  · exact Or.inr (valued.exists_digit? member)
  · rcases List.mem_cons.mp member with sign | inside
    · exact Or.inl sign
    · exact Or.inr (valued.exists_digit? inside)

theorem Numeral.dense (numeral : Numeral radix text value) :
    ∀ character ∈ text, isBlank character = false := by
  intro character member
  rcases numeral.sign_or_digit member with rfl | ⟨digit, found⟩
  · decide
  · exact isBlank_of_digit? found

theorem Numeral.ne_nil (numeral : Numeral radix text value) : text ≠ [] := by
  obtain ⟨digits, values, rfl | rfl, nonempty, -⟩ := numeral
  · exact nonempty
  · exact List.cons_ne_nil _ _

/-- The trimmed text is a numeral exactly if the whole text is one between blanks. -/
theorem numeral_trim_iff :
    Numeral radix (trim text) value ↔
      ∃ front numeral back, text = front ++ numeral ++ back ∧
        (∀ character ∈ front, isBlank character = true) ∧
        (∀ character ∈ back, isBlank character = true) ∧ Numeral radix numeral value := by
  constructor
  · intro numeral
    obtain ⟨front, back, exactly, before, after⟩ := exists_eq_trim text
    exact ⟨front, trim text, back, exactly, before, after, numeral⟩
  · rintro ⟨front, middle, back, rfl, before, after, numeral⟩
    rwa [trim_of_dense numeral.ne_nil numeral.dense before after]

end ContextCache.Text
