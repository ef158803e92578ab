import Windmi.Utils.ConfigFile
import Windmi.Utils.Numerals
import Windmi.Web.WebServer

/-!
# The settings file

What `main` reads from the settings file before it starts the loop, and what
its settings callback writes there if the file can be opened.  The targets are
floats in the program and have six decimals in the file, which is enough for
any target of 16 degrees and above, and for any number of tenths.
-/

namespace Windmi.Utils

open Windmi.Core
open Windmi.Library
open Windmi.Web

attribute [local instance] byteOrder

/-! ## Reading -/

def Config.getDouble (config : Config) (key : String) (defaultValue : ℚ) :
    Double :=
  match config.values key with
  | none => .finite defaultValue
  | some text => (stod text).getD (.finite defaultValue)

/-- What `main` passes to `setInitialSettings`, if the targets are numbers. -/
def Config.initialSettings (config : Config) : Option Settings := do
  let dhwTarget ← (config.getDouble "ui.dhw_target" 45).single
  let heatingTarget ← (config.getDouble "ui.heating_target" 40).single
  return config.settings dhwTarget heatingTarget

/-! ## Bytes -/

/-- The bytes of a text that is put together from characters. -/
def toText (chars : List Char) : Text :=
  chars.map fun char => BitVec.ofNat 8 char.toNat

/-- The bytes of a string, as characters. -/
def ofText (text : Text) : String :=
  String.ofList (text.map fun byte => Char.ofNat byte.toNat)

/-- The configuration that the getters read. -/
def ConfigValues.config (values : ConfigValues) : Config where
  values key := (values.lookup (ascii key)).map ofText

/-! ## Writing -/

/-- `std::to_string` of a float. -/
def floatText (value : ℚ) : Text :=
  toText (Decimal.fixed 6 value)

/-- The assignments which the settings callback makes one by one. -/
def assignments (settings : Settings) : List (Text × Text) :=
  [(ascii "ui.working_mode", toText (Decimal.integer settings.workingMode)),
    (ascii "ui.priority", ascii settings.priority),
    (ascii "ui.dhw_target", floatText (toFloat settings.dhwTarget)),
    (ascii "ui.heating_target", floatText (toFloat settings.heatingTarget))]

/-- The configuration in memory and the settings file, if it exists. -/
structure SettingsStore where
  values : ConfigValues
  file : Option Text

/-- The configuration as `main` loads it. -/
def SettingsStore.load (file : Option Text) : SettingsStore where
  values := (ConfigValues.create.loadFromFile file).2
  file := file

/-- The settings callback of `main`, which ignores what `saveToFile` returns:
if the file cannot be opened it stays as it is. -/
def SettingsStore.settingsCallback (opens : Bool) (settings : Settings)
    (store : SettingsStore) : SettingsStore :=
  let values : ConfigValues := store.values.insertAll (assignments settings)
  { values := values
    file := if opens then some values.saveToFile else store.file }

/-- The settings with which a process starts that has loaded the file. -/
def SettingsStore.initialSettings (store : SettingsStore) : Option Settings :=
  store.values.config.initialSettings

/-! ## Targets that six decimals can hold -/

/-- The float of the target is one from 16 degrees on, or that of a number of
tenths. -/
def SixDecimals (target : ℚ) : Prop :=
  16 ≤ |target| ∨ ∃ raw : Word, toFloat target = toFloat (rawToTemp raw)

/-- A target that commands, registers or the program itself can set. -/
structure Printable (target : ℚ) : Prop where
  finite : |toFloat target| < 2 ^ 128
  decimals : SixDecimals target

/-- A float as it is when it has been written and read again. -/
def reread (value : ℚ) : ℚ :=
  toFloat (roundTo 53 (Decimal.fixedValue 6 value))

/-- A power of two from 16 on is written exactly. -/
theorem reread_of_power {sign exponent : ℤ} (unit : |sign| = 1)
    (large : 0 ≤ exponent) :
    reread (sign * 2 ^ exponent) = sign * 2 ^ exponent := by
  rcases Int.eq_ofNat_of_zero_le large with ⟨power, rfl⟩
  have written : Decimal.fixedValue 6 ((sign : ℚ) * 2 ^ (power : ℤ)) =
      sign * 2 ^ (power : ℤ) := by
    apply @Decimal.fixedValue_of_units 6 _ (sign * 2 ^ power * 10 ^ 6)
    push_cast
    rw [zpow_natCast]
    norm_num
  have double : roundTo 53 ((sign : ℚ) * 2 ^ (power : ℤ)) =
      sign * 2 ^ (power : ℤ) := roundTo_of_format (by rw [unit]; norm_num)
  have single : roundTo 24 ((sign : ℚ) * 2 ^ (power : ℤ)) =
      sign * 2 ^ (power : ℤ) := roundTo_of_format (by rw [unit]; norm_num)
  rw [reread, written, double]
  exact single

theorem reread_of_significand {multiple exponent : ℤ} {precision : ℕ}
    (large : 0 ≤ precision + exponent) (power : |multiple| = 2 ^ precision) :
    reread (multiple * 2 ^ exponent) = multiple * 2 ^ exponent := by
  rcases @mul_zpow_of_power multiple exponent precision power with
    ⟨same, unit⟩
  rw [same]
  exact reread_of_power unit large

/-- Six decimals and the double in between move a float by less than half the
distance to its neighbours. -/
theorem reread_of_between {multiple exponent : ℤ} (large : -19 ≤ exponent)
    (lower : 2 ^ 23 < |multiple|) (upper : |multiple| < 2 ^ 24) :
    reread (multiple * 2 ^ exponent) = multiple * 2 ^ exponent := by
  let value : ℚ := multiple * 2 ^ exponent
  let written := Decimal.fixedValue 6 value
  have unit : (2 : ℚ) ^ (-19 : ℤ) ≤ 2 ^ exponent :=
    zpow_le_zpow_right₀ one_le_two large
  norm_num at unit
  have decimals : |written - value| ≤ 1 / 2 / 10 ^ 6 :=
    Decimal.abs_fixedValue_sub_le 6 value
  have near : |written - value| < 2 ^ exponent / 2 := by
    apply lt_of_le_of_lt decimals
    norm_num
    linarith
  have double : |roundTo 53 written - written| ≤ ulp 53 written / 2 :=
    abs_roundTo_sub_le 53 written
  have place : ulp 53 written = 2 ^ exponent / 2 ^ 29 := by
    have single : ulp 24 written = 2 ^ exponent :=
      ulp_eq_of_near lower upper near
    rw [← single, ulp, ulp, ← zpow_natCast, ← zpow_sub₀ two_ne_zero]
    congr 1
    push_cast
    ring
  apply roundTo_eq_of_between lower upper
  calc |roundTo 53 written - value|
      ≤ |roundTo 53 written - written| + |written - value| :=
        abs_sub_le ..
    _ < 2 ^ exponent / 2 := by
        rw [place] at double
        norm_num at decimals double ⊢
        linarith

theorem reread_of_large {target : ℚ} (large : 16 ≤ |target|) :
    reread (toFloat target) = toFloat target := by
  have nonzero : target ≠ 0 := by
    rintro rfl
    norm_num at large
  have exponent : -19 ≤ Int.log 2 |target| + 1 - (24 : ℕ) := by
    have least : (4 : ℤ) ≤ Int.log 2 |target| := by
      rw [← Int.zpow_le_iff_le_log one_lt_two (abs_pos.mpr nonzero)]
      norm_num
      exact large
    push_cast
    linarith
  rcases exists_significand 23 nonzero with ⟨multiple, float, lower, upper⟩
  rw [show toFloat target = _ from float, ulp]
  generalize Int.log 2 |target| + 1 - (24 : ℕ) = place at exponent
  rcases lower.lt_or_eq with above | least
  · rcases upper.lt_or_eq with below | most
    · exact reread_of_between exponent above below
    · exact reread_of_significand (by push_cast; linarith) most
  · exact reread_of_significand (by push_cast; linarith) least.symm

/-- The tenths below 16 degrees. -/
theorem reread_of_tenths : ∀ tenths : Fin 320,
    reread (toFloat (((tenths : ℤ) - 160 : ℤ) / 10)) =
      toFloat (((tenths : ℤ) - 160 : ℤ) / 10) := by
  decide +kernel

/-- Such a target is read again as the float that was written. -/
theorem SixDecimals.reread {target : ℚ} (decimals : SixDecimals target) :
    reread (toFloat target) = toFloat target := by
  rcases decimals with large | ⟨raw, same⟩
  · exact reread_of_large large
  rw [same]
  by_cases large : 16 ≤ |rawToTemp raw|
  · exact reread_of_large large
  · have small : |rawToTemp raw| < 16 := not_le.mp large
    rw [rawToTemp, abs_lt] at small
    have above : -160 < raw.toInt := by
      have : (-160 : ℚ) < raw.toInt := by linarith [small.1]
      exact_mod_cast this
    have below : raw.toInt < 160 := by
      have : (raw.toInt : ℚ) < 160 := by linarith [small.2]
      exact_mod_cast this
    have found := reread_of_tenths ⟨(raw.toInt + 160).toNat, by omega⟩
    have same : (((raw.toInt + 160).toNat : ℤ) - 160 : ℤ) = raw.toInt := by
      omega
    rw [same] at found
    exact found

/-- What is written of a printable target gives its float again. -/
theorem Printable.single {target : ℚ} (printable : Printable target) :
    (Double.finite
      (roundTo 53 (Decimal.fixedValue 6 (toFloat target)))).single =
        some (toFloat target) := by
  have again : toFloat (roundTo 53 (Decimal.fixedValue 6 (toFloat target))) =
      toFloat target := printable.decimals.reread
  rw [Double.single, again, if_pos printable.finite]

/-! ## Texts as bytes -/

theorem ofText_toText {chars : List Char}
    (bytes : ∀ char ∈ chars, char.toNat < 256) :
    ofText (toText chars) = String.ofList chars := by
  have each : ∀ char ∈ chars,
      ((fun byte : Byte => Char.ofNat byte.toNat) ∘
        fun char => BitVec.ofNat 8 char.toNat) char = id char := by
    intro char member
    rw [Function.comp_apply, BitVec.toNat_ofNat,
      Nat.mod_eq_of_lt (bytes char member), Char.ofNat_toNat, id]
  rw [ofText, toText, List.map_map, List.map_congr_left each, List.map_id]

theorem isPlain_of_numeric {chars : List Char}
    (numeric : ∀ char ∈ chars, Numeric char) :
    (toText chars).all ConfigValues.isPlain = true := by
  have codes : ∀ code : Fin 13, ConfigValues.isPlain
      (BitVec.ofNat 8 (45 + code.val)) = true := by
    decide
  rw [List.all_eq_true]
  intro byte member
  rcases List.mem_map.mp member with ⟨char, inside, rfl⟩
  rcases toNat_of_numeric (numeric char inside) with ⟨least, most⟩
  have found := codes ⟨char.toNat - 45, by omega⟩
  rwa [Nat.add_sub_cancel' least] at found

theorem ofText_of_numeric {chars : List Char}
    (numeric : ∀ char ∈ chars, Numeric char) :
    ofText (toText chars) = String.ofList chars :=
  ofText_toText fun char member =>
    lt_of_le_of_lt (toNat_of_numeric (numeric char member)).2 (by decide)

/-! ## Settings -/

/-- Settings that the loop can have. -/
structure Storable (settings : Settings) : Prop where
  least : -2147483648 ≤ settings.workingMode
  most : settings.workingMode ≤ 2147483647
  priority : settings.priority = "dhw" ∨ settings.priority = "heating"
  dhw : Printable settings.dhwTarget
  heating : Printable settings.heatingTarget

/-- The targets as the floats that the program has. -/
def floats (settings : Settings) : Settings :=
  { settings with
    dhwTarget := toFloat settings.dhwTarget
    heatingTarget := toFloat settings.heatingTarget }

theorem Config.initialSettings_eq_some {config : Config}
    {initial : Settings} :
    config.initialSettings = some initial ↔ ∃ dhwTarget heatingTarget,
      (config.getDouble "ui.dhw_target" 45).single = some dhwTarget ∧
        (config.getDouble "ui.heating_target" 40).single =
            some heatingTarget ∧
          config.settings dhwTarget heatingTarget = initial := by
  simp only [Config.initialSettings, Option.bind_eq_bind,
    Option.bind_eq_some_iff, Option.pure_def, Option.some.injEq]
  grind

/-- What a configuration gives are floats already. -/
theorem floats_initialSettings {config : Config} {initial : Settings}
    (loaded : config.initialSettings = some initial) :
    floats initial = initial := by
  rcases Config.initialSettings_eq_some.mp loaded with
    ⟨dhwTarget, heatingTarget, dhw, heating, rfl⟩
  simp only [floats, Config.settings, (Double.single_eq_some dhw).1,
    (Double.single_eq_some heating).1]

/-- The keys of the settings are plain, and so are their values. -/
theorem assignments_plain {settings : Settings}
    (storable : Storable settings) : ∀ entry ∈ assignments settings,
      entry.1 ≠ [] ∧ entry.1.all ConfigValues.isPlain = true ∧
        entry.2.all ConfigValues.isPlain = true := by
  intro entry member
  have priority : (ascii settings.priority).all ConfigValues.isPlain =
      true := by
    rcases storable.priority with dhw | heating
    · rw [dhw]
      decide +kernel
    · rw [heating]
      decide +kernel
  have keys : ∀ key ∈ [ascii "ui.working_mode", ascii "ui.priority",
      ascii "ui.dhw_target", ascii "ui.heating_target"],
      key ≠ [] ∧ key.all ConfigValues.isPlain = true := by
    decide +kernel
  simp only [List.forall_mem_cons] at keys
  simp only [assignments, List.mem_cons, List.not_mem_nil, or_false] at member
  rcases keys with ⟨mode, priorityKey, dhw, heating, -⟩
  rcases member with rfl | rfl | rfl | rfl
  · exact ⟨mode.1, mode.2, isPlain_of_numeric (numeric_integer _)⟩
  · exact ⟨priorityKey.1, priorityKey.2, priority⟩
  · exact ⟨dhw.1, dhw.2, isPlain_of_numeric (numeric_fixed _)⟩
  · exact ⟨heating.1, heating.2, isPlain_of_numeric (numeric_fixed _)⟩

theorem loadable_of_plain {entry : Text × Text} (nonempty : entry.1 ≠ [])
    (key : entry.1.all ConfigValues.isPlain = true)
    (value : entry.2.all ConfigValues.isPlain = true) :
    ConfigValues.Loadable entry :=
  have inKey {byte : Byte} (member : byte ∈ entry.1) :=
    ConfigValues.of_all_isPlain key member
  have inValue {byte : Byte} (member : byte ∈ entry.2) :=
    ConfigValues.of_all_isPlain value member
  { nonempty := nonempty
    key := ConfigValues.solid_of_isPlain key
    value := ConfigValues.solid_of_isPlain value
    delimiter := fun member => (inKey member).2.2.1 rfl
    keyLine := fun member => (inKey member).2.2.2 rfl
    valueLine := fun member => (inValue member).2.2.2 rfl }

theorem assignments_nodup (settings : Settings) :
    ((assignments settings).map Prod.fst).Nodup := by
  show [ascii "ui.working_mode", ascii "ui.priority", ascii "ui.dhw_target",
    ascii "ui.heating_target"].Nodup
  decide +kernel

/-- The values which the getters find after the assignments. -/
theorem initialSettings_of_lookup {values : ConfigValues}
    {settings : Settings} (storable : Storable settings)
    (found : ∀ entry ∈ assignments settings,
      values.lookup entry.1 = some entry.2) :
    values.config.initialSettings = some (floats settings) := by
  simp only [assignments, List.forall_mem_cons] at found
  rcases found with ⟨mode, priority, dhw, heating, -⟩
  have texts : ofText (ascii settings.priority) = settings.priority := by
    rcases storable.priority with name | name
    · rw [name]
      decide +kernel
    · rw [name]
      decide +kernel
  have text {key : String} {value : Text}
      (assigned : values.lookup (ascii key) = some value) :
      values.config.values key = some (ofText value) := by
    show (values.lookup (ascii key)).map ofText = _
    rw [assigned]
    rfl
  have target {key : String} {printed default : ℚ}
      (printable : Printable printed)
      (assigned : values.lookup (ascii key) =
        some (floatText (toFloat printed))) :
      (values.config.getDouble key default).single =
        some (toFloat printed) := by
    rw [Config.getDouble, text assigned, floatText,
      ofText_of_numeric (numeric_fixed _)]
    simp only [stod_fixed printable.finite.le, Option.getD_some]
    exact printable.single
  have working : values.config.getInt "ui.working_mode" 3 =
      settings.workingMode := by
    rw [Config.getInt, text mode, ofText_of_numeric (numeric_integer _)]
    simp only [stoi_integer storable.least storable.most, Option.getD_some]
  have preferred : values.config.getString "ui.priority" "dhw" =
      settings.priority := by
    rw [Config.getString, text priority, Option.getD_some, texts]
  rw [Config.initialSettings, target storable.dhw dhw,
    target storable.heating heating]
  show some (Config.settings ..) = _
  rw [Config.settings, working, preferred]
  rfl

/-! ## The store -/

/-- Everything in the configuration can be loaded. -/
def SettingsStore.Loads (store : SettingsStore) : Prop :=
  ∀ entry ∈ store.values.entries, ConfigValues.Loadable entry

theorem SettingsStore.loads_load (file : Option Text) :
    (SettingsStore.load file).Loads := by
  cases file with
  | none => exact ConfigValues.loadable_create
  | some text =>
      unfold Loads load
      rw [ConfigValues.loadFromFile_eq]
      refine ConfigValues.loadable_insertAll ConfigValues.loadable_create
        fun entry member => ?_
      rcases List.mem_filterMap.mp member with ⟨line, inside, parsed⟩
      exact ConfigValues.loadable_of_parseLine
        (separator_not_mem_splitLines _ text line inside) parsed

section

variable {store : SettingsStore} {settings : Settings}

theorem SettingsStore.Loads.settingsCallback (loads : store.Loads)
    (opens : Bool) (storable : Storable settings) :
    (store.settingsCallback opens settings).Loads := by
  refine ConfigValues.loadable_insertAll loads fun entry member => ?_
  rcases assignments_plain storable entry member with ⟨nonempty, key, value⟩
  exact loadable_of_plain nonempty key value

/-- A restart after a callback that could open the file finds the settings of
that callback. -/
theorem SettingsStore.restart_settingsCallback (loads : store.Loads)
    (storable : Storable settings) :
    (SettingsStore.load
      (store.settingsCallback true settings).file).initialSettings =
        some (floats settings) := by
  have complete := loads.settingsCallback true storable
  apply initialSettings_of_lookup storable
  intro entry member
  show (ConfigValues.create.loadFromFile (some
    (store.settingsCallback true settings).values.saveToFile)).2.lookup
      entry.1 = _
  rw [ConfigValues.loadFromFile_saveToFile complete]
  apply SortedMap.lookup_insertAll_of_mem
  · exact (store.settingsCallback true settings).values.keys_nodup.sublist
      (List.filter_sublist.map Prod.fst)
  · refine List.mem_filter.mpr ⟨?_, ?_⟩
    · apply SortedMap.lookup_eq_some_iff.mp
      exact SortedMap.lookup_insertAll_of_mem _ (assignments_nodup settings)
        member
    · rw [decide_eq_true_eq]
      rintro ⟨byte, first, mark⟩
      have plain := (assignments_plain storable entry member).2.1
      exact (ConfigValues.of_all_isPlain plain
        (List.mem_of_mem_head? first)).2.1 mark

end

/-! ## Calls of the callback -/

/-- The store after calls of the callback, the last of which comes first;
`opens` says for each call whether the file can be opened then. -/
def SettingsStore.afterCalls (file : Option Text) (opens : Nat → Bool) :
    List Settings → SettingsStore
  | [] => SettingsStore.load file
  | settings :: earlier =>
      (afterCalls file opens earlier).settingsCallback (opens earlier.length)
        settings

/-- The settings of the last call that could open the file. -/
def lastSaved (opens : Nat → Bool) : List Settings → Option Settings
  | [] => none
  | settings :: earlier =>
      if opens earlier.length then some settings else lastSaved opens earlier

theorem SettingsStore.loads_afterCalls (file : Option Text)
    (opens : Nat → Bool) {calls : List Settings}
    (storable : ∀ each ∈ calls, Storable each) :
    (SettingsStore.afterCalls file opens calls).Loads := by
  induction calls with
  | nil => exact SettingsStore.loads_load file
  | cons settings earlier ih =>
      rw [List.forall_mem_cons] at storable
      exact (ih storable.2).settingsCallback _ storable.1

/-- Whatever was in the file before, a process that is started after any
callbacks has the settings of the last one which could open the file. -/
theorem SettingsStore.restart_afterCalls {file : Option Text}
    (opens : Nat → Bool) {calls : List Settings}
    (storable : ∀ each ∈ calls, Storable each) {initial : Settings}
    (loaded : (SettingsStore.load file).initialSettings = some initial) :
    (SettingsStore.load
      (SettingsStore.afterCalls file opens calls).file).initialSettings =
        some (floats ((lastSaved opens calls).getD initial)) := by
  induction calls with
  | nil =>
      have same : floats initial = initial := floats_initialSettings loaded
      rw [lastSaved, Option.getD_none, same]
      exact loaded
  | cons settings earlier ih =>
      rw [List.forall_mem_cons] at storable
      rw [afterCalls, lastSaved]
      cases opens earlier.length with
      | true =>
          exact restart_settingsCallback (loads_afterCalls file opens
            storable.2) storable.1
      | false => exact ih storable.2

end Windmi.Utils
