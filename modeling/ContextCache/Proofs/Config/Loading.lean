import ContextCache.Environment
import ContextCache.Proofs.Text.Numerals

/-!
Contract: which configuration an environment asks for.

A variable that is set stands for a number or for none; the text decides, and nothing else
does. Loading asks each setting for its number, and then the conditions on the whole
configuration. Where it fails, it names the first setting that has no number, or else the
first condition that does not hold.

Owns:
- the texts that a setting can be read from;
- the first condition that a configuration violates;
- that loading returns what is asked for, and otherwise the first fault.

Does not own: what a valid configuration is good for.
-/

set_option autoImplicit false

namespace ContextCache

/-! ### What a setting is asked to be -/

/-- The text is blanks, an optional plus sign, one or more decimal digits that stand for the
value, and blanks, and the setting can hold the value. -/
def Setting.Denotes (setting : Setting) (raw : String) (value : Nat) : Prop :=
  ∃ front sign digits back, raw.toList = front ++ (sign ++ digits) ++ back ∧
    (∀ character ∈ front, Text.isBlank character = true) ∧
    (sign = [] ∨ sign = ['+']) ∧ digits ≠ [] ∧
    (∀ character ∈ digits, character.isDigit = true) ∧
    (∀ character ∈ back, Text.isBlank character = true) ∧
    Nat.ofDigits 10 (digits.map fun character => character.toNat - 48).reverse = value ∧
    value ≤ setting.limit

/-- The value that the setting has by its variable, or by default where that is not set. -/
def Setting.Asked (lookup : String → Option String) (setting : Setting) (value : Nat) : Prop :=
  match lookup setting.variableName with
  | none => value = Config.standard.get setting
  | some raw => setting.Denotes raw value

/-- The first condition that the configuration violates is the one that the error reports. -/
inductive Config.Rejected (config : Config) : ConfigError → Prop where
  | initialPower (fails : ¬ config.initialEntries.isPowerOfTwo) :
      Rejected config (.notPowerOfTwo .initialEntries config.initialEntries)
  | maxPower (initial : config.initialEntries.isPowerOfTwo)
      (fails : ¬ config.maxEntries.isPowerOfTwo) :
      Rejected config (.notPowerOfTwo .maxEntries config.maxEntries)
  | probeLimit (initial : config.initialEntries.isPowerOfTwo)
      (max : config.maxEntries.isPowerOfTwo)
      (fails : ¬ (1 ≤ config.probeLimit ∧ config.probeLimit ≤ config.initialEntries)) :
      Rejected config (.probeLimit config.probeLimit config.initialEntries)
  | loadLimit (initial : config.initialEntries.isPowerOfTwo)
      (max : config.maxEntries.isPowerOfTwo)
      (probe : 1 ≤ config.probeLimit ∧ config.probeLimit ≤ config.initialEntries)
      (fails : ¬ (1 ≤ config.loadPercent ∧ config.loadPercent ≤ 100)) :
      Rejected config (.loadLimit config.loadPercent)
  | ordered (initial : config.initialEntries.isPowerOfTwo) (max : config.maxEntries.isPowerOfTwo)
      (probe : 1 ≤ config.probeLimit ∧ config.probeLimit ≤ config.initialEntries)
      (load : 1 ≤ config.loadPercent ∧ config.loadPercent ≤ 100)
      (fails : ¬ config.initialEntries ≤ config.maxEntries) :
      Rejected config (.maxBelowInitial config.initialEntries config.maxEntries)
  | bounded (initial : config.initialEntries.isPowerOfTwo) (max : config.maxEntries.isPowerOfTwo)
      (probe : 1 ≤ config.probeLimit ∧ config.probeLimit ≤ config.initialEntries)
      (load : 1 ≤ config.loadPercent ∧ config.loadPercent ≤ 100)
      (order : config.initialEntries ≤ config.maxEntries)
      (fails : ¬ config.maxEntries ≤ longestTable) :
      Rejected config (.maxTooLarge config.maxEntries)

namespace Setting

variable {lookup : String → Option String} {setting : Setting} {raw : String} {value : Nat}

/-! ### Reading one setting -/

theorem read?_eq_some_iff : setting.read? raw = some value ↔ setting.Denotes raw value := by
  have reads : setting.read? raw = some value ↔
      Text.readNatural 10 setting.limit (Text.trim raw.toList) = .ok value := by
    unfold read?
    cases Text.readNatural 10 setting.limit (Text.trim raw.toList) <;> simp
  rw [reads, Text.readNatural_eq_ok_iff, Text.numeral_trim_iff]
  constructor
  · rintro ⟨⟨front, numeral, back, exactly, before, after, digits, values, signed, nonempty,
      valued, stands⟩, bounded⟩
    obtain ⟨decimal, rfl⟩ := Text.hasValues_ten_iff.mp valued
    rcases signed with rfl | rfl
    · exact ⟨front, [], numeral, back, exactly, before, Or.inl rfl, nonempty, decimal, after,
        stands, bounded⟩
    · exact ⟨front, ['+'], digits, back, exactly, before, Or.inr rfl, nonempty, decimal, after,
        stands, bounded⟩
  · rintro ⟨front, sign, digits, back, exactly, before, signed, nonempty, decimal, after, stands,
      bounded⟩
    refine ⟨⟨front, sign ++ digits, back, exactly, before, after, digits, _, ?_, nonempty,
      Text.hasValues_ten_iff.mpr ⟨decimal, rfl⟩, stands⟩, bounded⟩
    rcases signed with rfl | rfl
    · exact Or.inl rfl
    · exact Or.inr rfl

/-- A number that a setting can hold is read back from its decimal digits. -/
theorem denotes_toString (bounded : value ≤ setting.limit) :
    setting.Denotes (toString value) value := by
  rw [← read?_eq_some_iff]
  unfold read?
  have numeral := Text.numeral_toString value
  have dense : Text.trim (toString value).toList = (toString value).toList := by
    have trimmed := @Text.trim_of_dense _ [] [] numeral.ne_nil numeral.dense (by simp) (by simp)
    rwa [List.nil_append, List.append_nil] at trimmed
  rw [dense, Text.readNatural_eq_ok_iff.mpr ⟨numeral, bounded⟩]

theorem asked_of_unset (unset : lookup setting.variableName = none) :
    setting.Asked lookup value ↔ value = Config.standard.get setting := by
  unfold Asked
  rw [unset]

theorem asked_of_set (set : lookup setting.variableName = some raw) :
    setting.Asked lookup value ↔ setting.read? raw = some value := by
  unfold Asked
  rw [set, read?_eq_some_iff]

theorem mem_all (setting : Setting) : setting ∈ all := by
  cases setting <;> decide

end Setting

namespace Config

variable {lookup : String → Option String} {config result : Config} {setting : Setting}
  {settings : List Setting} {raw : String} {error : ConfigError}

/-! ### Reading all settings -/

@[simp] theorem get_set (config : Config) (setting other : Setting) (value : Nat) :
    (config.set setting value).get other =
      if other = setting then value else config.get other := by
  cases setting <;> cases other <;> rfl

theorem eq_of_get_eq (same : ∀ setting, config.get setting = result.get setting) :
    config = result := by
  have initial := same .initialEntries
  have probe := same .probeLimit
  have load := same .loadPercent
  have max := same .maxEntries
  cases config
  cases result
  simp_all [get]

theorem overrideAll_cons_unset (unset : lookup setting.variableName = none) :
    overrideAll lookup (setting :: settings) config = overrideAll lookup settings config := by
  rw [overrideAll, unset]

theorem overrideAll_cons_read {value : Nat} (set : lookup setting.variableName = some raw)
    (reads : setting.read? raw = some value) :
    overrideAll lookup (setting :: settings) config =
      overrideAll lookup settings (config.set setting value) := by
  rw [overrideAll, set]
  dsimp only
  rw [reads]

theorem overrideAll_cons_unreadable (set : lookup setting.variableName = some raw)
    (fails : setting.read? raw = none) :
    overrideAll lookup (setting :: settings) config = .error (.unreadable setting raw) := by
  rw [overrideAll, set]
  dsimp only
  rw [fails]

/-- The settings that are gone through get what they are asked to be, and the others keep what
they have. -/
theorem overrideAll_eq_ok (distinct : settings.Nodup)
    (before : ∀ setting ∈ settings, config.get setting = standard.get setting)
    (asked : ∀ setting ∈ settings, setting.Asked lookup (result.get setting))
    (kept : ∀ setting, setting ∉ settings → result.get setting = config.get setting) :
    overrideAll lookup settings config = .ok result := by
  induction settings generalizing config with
  | nil =>
      have same : config = result :=
        eq_of_get_eq fun setting => (kept setting (List.not_mem_nil)).symm
      rw [overrideAll, same]
  | cons setting settings inductionHypothesis =>
      obtain ⟨fresh, distinct⟩ := List.nodup_cons.mp distinct
      have own := asked setting (List.mem_cons_self ..)
      have others := fun other member => asked other (List.mem_cons_of_mem setting member)
      cases found : lookup setting.variableName with
      | none =>
          rw [overrideAll_cons_unset found]
          refine inductionHypothesis distinct
            (fun other member => before other (List.mem_cons_of_mem _ member)) others ?_
          intro other outside
          by_cases same : other = setting
          · subst same
            rw [(Setting.asked_of_unset found).mp own]
            exact (before other (List.mem_cons_self ..)).symm
          · exact kept other (by simp [same, outside])
      | some raw =>
          rw [overrideAll_cons_read found ((Setting.asked_of_set found).mp own)]
          refine inductionHypothesis distinct ?_ others ?_
          · intro other member
            have differs : other ≠ setting := by
              rintro rfl
              exact fresh member
            rw [get_set, if_neg differs]
            exact before other (List.mem_cons_of_mem _ member)
          · intro other outside
            rw [get_set]
            split
            · next same => rw [same]
            · next differs => exact kept other (by simp [differs, outside])

/-- Settings that can all be read give a configuration that is what they are asked to be. -/
theorem exists_asked (readable : ∀ setting, ∃ value, Setting.Asked lookup setting value) :
    ∃ config : Config, ∀ setting, Setting.Asked lookup setting (config.get setting) := by
  obtain ⟨initial, askedInitial⟩ := readable .initialEntries
  obtain ⟨probe, askedProbe⟩ := readable .probeLimit
  obtain ⟨load, askedLoad⟩ := readable .loadPercent
  obtain ⟨max, askedMax⟩ := readable .maxEntries
  refine ⟨⟨initial, probe, load, max⟩, ?_⟩
  intro setting
  cases setting
  · exact askedInitial
  · exact askedProbe
  · exact askedLoad
  · exact askedMax

theorem overrideAll_all (asked : ∀ setting, Setting.Asked lookup setting (result.get setting)) :
    overrideAll lookup Setting.all standard = .ok result :=
  overrideAll_eq_ok (by decide) (fun _ _ => rfl) (fun setting _ => asked setting)
    (fun setting outside => absurd setting.mem_all outside)

/-- The first setting that cannot be read is reported, with its text as it is. -/
theorem overrideAll_eq_error_iff :
    overrideAll lookup settings config = .error error ↔
      ∃ passed setting rest raw, settings = passed ++ setting :: rest ∧
        (∀ earlier ∈ passed, ∃ value, earlier.Asked lookup value) ∧
        lookup setting.variableName = some raw ∧ setting.read? raw = none ∧
        error = .unreadable setting raw := by
  induction settings generalizing config with
  | nil => simp [overrideAll]
  | cons setting settings inductionHypothesis =>
      -- A setting that can be read is passed, and the rest decides.
      have passes : (∃ value, setting.Asked lookup value) → ∀ next : Config,
          overrideAll lookup (setting :: settings) config = overrideAll lookup settings next →
          (overrideAll lookup (setting :: settings) config = .error error ↔
            ∃ passed later rest raw, setting :: settings = passed ++ later :: rest ∧
              (∀ earlier ∈ passed, ∃ value, earlier.Asked lookup value) ∧
              lookup later.variableName = some raw ∧ later.read? raw = none ∧
              error = .unreadable later raw) := by
        intro readable next same
        rw [same, inductionHypothesis]
        constructor
        · rintro ⟨passed, later, rest, raw, rfl, earlier, set, fails, rfl⟩
          refine ⟨setting :: passed, later, rest, raw, rfl, ?_, set, fails, rfl⟩
          exact List.forall_mem_cons.mpr ⟨readable, earlier⟩
        · rintro ⟨passed, later, rest, raw, split, earlier, set, fails, rfl⟩
          cases passed with
          | nil =>
              cases split
              obtain ⟨value, asked⟩ := readable
              rw [Setting.asked_of_set set, fails] at asked
              cases asked
          | cons first passed =>
              cases split
              exact ⟨passed, later, rest, raw, rfl, (List.forall_mem_cons.mp earlier).2, set,
                fails, rfl⟩
      cases found : lookup setting.variableName with
      | none =>
          exact passes ⟨_, (Setting.asked_of_unset found).mpr rfl⟩ config
            (overrideAll_cons_unset found)
      | some raw =>
          cases read : setting.read? raw with
          | some value =>
              exact passes ⟨value, (Setting.asked_of_set found).mpr read⟩ _
                (overrideAll_cons_read found read)
          | none =>
              rw [overrideAll_cons_unreadable found read]
              constructor
              · intro same
                cases same
                exact ⟨[], setting, settings, raw, rfl, by simp, found, read, rfl⟩
              · rintro ⟨passed, later, rest, text, split, earlier, set, fails, rfl⟩
                cases passed with
                | nil =>
                    cases split
                    rw [found] at set
                    cases set
                    rfl
                | cons first passed =>
                    cases split
                    obtain ⟨value, asked⟩ := earlier setting (List.mem_cons_self ..)
                    rw [Setting.asked_of_set found, read] at asked
                    cases asked

/-! ### Checking the whole -/

/-- The check reports the first condition that is violated. -/
theorem validate_eq_error_iff : config.validate = .error error ↔ config.Rejected error := by
  constructor
  · intro rejected
    unfold validate at rejected
    split at rejected
    · next fails =>
        cases rejected
        exact .initialPower fails
    rename_i initial
    rw [Decidable.not_not] at initial
    split at rejected
    · next fails =>
        cases rejected
        exact .maxPower initial fails
    rename_i max
    rw [Decidable.not_not] at max
    split at rejected
    · next fails =>
        cases rejected
        exact .probeLimit initial max (by omega)
    have probe : 1 ≤ config.probeLimit ∧ config.probeLimit ≤ config.initialEntries := by omega
    split at rejected
    · next fails =>
        cases rejected
        exact .loadLimit initial max probe (by omega)
    have load : 1 ≤ config.loadPercent ∧ config.loadPercent ≤ 100 := by omega
    split at rejected
    · next fails =>
        cases rejected
        exact .ordered initial max probe load (by omega)
    have order : config.initialEntries ≤ config.maxEntries := by omega
    split at rejected
    · next fails =>
        cases rejected
        exact .bounded initial max probe load order (by omega)
    · cases rejected
  · intro rejected
    unfold validate
    cases rejected with
    | initialPower fails => rw [if_pos fails]
    | maxPower initial fails => rw [if_neg (not_not_intro initial), if_pos fails]
    | probeLimit initial max fails =>
        rw [if_neg (not_not_intro initial), if_neg (not_not_intro max), if_pos (by omega)]
    | loadLimit initial max probe fails =>
        rw [if_neg (not_not_intro initial), if_neg (not_not_intro max), if_neg (by omega),
          if_pos (by omega)]
    | ordered initial max probe load fails =>
        rw [if_neg (not_not_intro initial), if_neg (not_not_intro max), if_neg (by omega),
          if_neg (by omega), if_pos (by omega)]
    | bounded initial max probe load order fails =>
        rw [if_neg (not_not_intro initial), if_neg (not_not_intro max), if_neg (by omega),
          if_neg (by omega), if_neg (by omega), if_pos (by omega)]

/-! ### Loading -/

/-- All settings can be read, or there is a first one that cannot. -/
theorem readable_or_first (lookup : String → Option String) (settings : List Setting) :
    (∀ setting ∈ settings, ∃ value, Setting.Asked lookup setting value) ∨
      ∃ passed setting rest raw, settings = passed ++ setting :: rest ∧
        (∀ earlier ∈ passed, ∃ value, Setting.Asked lookup earlier value) ∧
        lookup setting.variableName = some raw ∧ setting.read? raw = none := by
  induction settings with
  | nil => exact Or.inl (by simp)
  | cons setting settings inductionHypothesis =>
      by_cases readable : ∃ value, Setting.Asked lookup setting value
      · rcases inductionHypothesis with all | ⟨passed, later, rest, raw, rfl, earlier, fails⟩
        · exact Or.inl (List.forall_mem_cons.mpr ⟨readable, all⟩)
        · exact Or.inr ⟨setting :: passed, later, rest, raw, rfl,
            List.forall_mem_cons.mpr ⟨readable, earlier⟩, fails⟩
      · right
        cases found : lookup setting.variableName with
        | none => exact absurd ⟨_, (Setting.asked_of_unset found).mpr rfl⟩ readable
        | some raw =>
            refine ⟨[], setting, settings, raw, rfl, by simp, found, ?_⟩
            cases read : setting.read? raw with
            | none => rfl
            | some value => exact absurd ⟨value, (Setting.asked_of_set found).mpr read⟩ readable

/-- Where every setting is asked to be something, the conditions decide. -/
theorem load_of_asked (asked : ∀ setting, Setting.Asked lookup setting (config.get setting)) :
    load lookup =
      match config.validate with
      | .error error => .error error
      | .ok () => .ok config := by
  unfold load
  rewrite [overrideAll_all asked]
  rfl

/-- Where some setting cannot be read, nothing else matters. -/
theorem load_of_unreadable (fails : overrideAll lookup Setting.all standard = .error error) :
    load lookup = .error error := by
  unfold load
  rw [fails]

/-- An environment asks for one configuration, or its first unreadable setting is reported. -/
theorem asked_or_unreadable (lookup : String → Option String) :
    (∃ config : Config, ∀ setting, Setting.Asked lookup setting (config.get setting)) ∨
      ∃ error, overrideAll lookup Setting.all standard = .error error := by
  rcases readable_or_first lookup Setting.all with
    readable | ⟨passed, setting, rest, raw, split, earlier, set, fails⟩
  · exact Or.inl (exists_asked fun setting => readable setting setting.mem_all)
  · exact Or.inr ⟨_, overrideAll_eq_error_iff.mpr
      ⟨passed, setting, rest, raw, split, earlier, set, fails, rfl⟩⟩

theorem load_eq_ok_iff :
    load lookup = .ok config ↔
      (∀ setting, Setting.Asked lookup setting (config.get setting)) ∧ config.Valid := by
  constructor
  · intro loaded
    rcases asked_or_unreadable lookup with ⟨asking, asked⟩ | ⟨error, fails⟩
    · rw [load_of_asked asked] at loaded
      split at loaded
      · cases loaded
      · next accepted =>
          cases loaded
          exact ⟨asked, validate_eq_ok_iff.mp accepted⟩
    · rw [load_of_unreadable fails] at loaded
      cases loaded
  · rintro ⟨asked, valid⟩
    rw [load_of_asked asked, validate_eq_ok_iff.mpr valid]

theorem load_eq_error_iff :
    load lookup = .error error ↔
      overrideAll lookup Setting.all standard = .error error ∨
        ∃ config : Config, (∀ setting, Setting.Asked lookup setting (config.get setting)) ∧
          config.Rejected error := by
  constructor
  · intro failed
    rcases asked_or_unreadable lookup with ⟨asking, asked⟩ | ⟨other, fails⟩
    · rw [load_of_asked asked] at failed
      split at failed
      · next rejected =>
          cases failed
          exact Or.inr ⟨asking, asked, validate_eq_error_iff.mp rejected⟩
      · cases failed
    · rw [load_of_unreadable fails] at failed
      cases failed
      exact Or.inl fails
  · rintro (fails | ⟨asking, asked, rejected⟩)
    · exact load_of_unreadable fails
    · rw [load_of_asked asked, validate_eq_error_iff.mpr rejected]

theorem Valid.get_le_limit (valid : config.Valid) (setting : Setting) :
    config.get setting ≤ setting.limit := by
  have probeFits := valid.probeFits
  have loadFits := valid.loadFits
  have ordered := valid.ordered
  have bounded : config.maxEntries ≤ 2 ^ 30 := valid.bounded
  have greatest : maxSize = 2 ^ 64 - 1 := rfl
  cases setting <;> simp only [get, Setting.limit] <;> omega

/-- Loading is exact, in every environment. It returns a configuration exactly if each setting
is what it is asked to be, by the text of its variable or else by default, and all conditions
hold. It fails exactly if there is a first setting whose text denotes nothing, which it reports
with the text as it is, or else with the first condition that what is asked for violates. So
the decimal texts of a valid configuration give it back, and the configuration in force is
always valid. -/
theorem loading_is_exact (lookup : String → Option String) :
    (∀ config, load lookup = .ok config ↔
        (∀ setting, Setting.Asked lookup setting (config.get setting)) ∧ config.Valid) ∧
      (∀ error, load lookup = .error error ↔
        (∃ passed setting rest raw, Setting.all = passed ++ setting :: rest ∧
          (∀ earlier ∈ passed, ∃ value, Setting.Asked lookup earlier value) ∧
          lookup setting.variableName = some raw ∧ (∀ value, ¬ setting.Denotes raw value) ∧
          error = .unreadable setting raw) ∨
        ∃ config : Config, (∀ setting, Setting.Asked lookup setting (config.get setting)) ∧
          config.Rejected error) ∧
      (∀ config : Config, config.Valid →
        (∀ setting, lookup setting.variableName = some (toString (config.get setting))) →
        load lookup = .ok config) ∧
      (effective lookup).Valid := by
  refine ⟨fun config => load_eq_ok_iff, ?_, ?_, ?_⟩
  · intro error
    have unreadable : ∀ (setting : Setting) (raw : String), setting.read? raw = none ↔
        ∀ value, ¬ setting.Denotes raw value := by
      intro setting raw
      rw [Option.eq_none_iff_forall_ne_some]
      exact forall_congr' fun value => not_congr Setting.read?_eq_some_iff
    rw [load_eq_error_iff, overrideAll_eq_error_iff]
    simp only [unreadable]
  · intro config valid rendered
    rw [load_eq_ok_iff]
    refine ⟨?_, valid⟩
    intro setting
    have denotes := Setting.denotes_toString (valid.get_le_limit setting)
    exact (Setting.asked_of_set (rendered setting)).mpr (Setting.read?_eq_some_iff.mpr denotes)
  · unfold effective
    split
    · next config loaded => exact (load_eq_ok_iff.mp loaded).2
    · exact valid_standard

/-- Blanks, signs and zeros in front are allowed, and what is not set stays as it is. -/
example :
    load (fun name =>
      if name = Setting.initialEntries.variableName then some "\u3000+0064\t"
      else if name = Setting.probeLimit.variableName then some " 8"
      else none) = .ok { initialEntries := 64, probeLimit := 8 } := by
  decide +kernel

end Config

end ContextCache
