import LogShift.Proofs.Text
import LogShift.Proofs.Text.Utf8
import LogShift.Settings.Load
import Mathlib.Tactic.MkIffOfInductiveProp

/-! When settings are loaded: those of the file must be valid by themselves, and once they are, the
environment alone decides. -/
namespace LogShift

namespace Settings

/-- Every setting can be used. -/
@[mk_iff]
structure Valid (s : Settings) : Prop where
  logLevel : isOneOf s.general.logLevel logLevels = true
  logFormat : isOneOf s.general.logFormat logFormats = true
  startYear : ∀ y ∈ s.batch.startYear, BatchConfig.isFourDigitYear y = true
  now : ∀ t ∈ s.batch.now, BatchConfig.isFourDigitYear t.year = true
  maxLineLength : s.batch.maxLineLength ≠ 0

theorem validate_eq_ok_iff {s : Settings} : s.validate = .ok () ↔ s.Valid := by
  rw [valid_iff]
  cases hyear : s.batch.startYear with
  | none =>
    cases hnow : s.batch.now with
    | none => simp [validate, hyear, hnow, bind, ite_error_eq_ok_iff, pure, Except.pure]
    | some t => simp [validate, hyear, hnow, bind, ite_error_eq_ok_iff, pure, Except.pure]
  | some y =>
    cases hnow : s.batch.now with
    | none => simp [validate, hyear, hnow, bind, ite_error_eq_ok_iff, pure, Except.pure]
    | some t => simp [validate, hyear, hnow, bind, ite_error_eq_ok_iff, pure, Except.pure]

theorem valid_defaults : defaults.Valid :=
  validate_eq_ok_iff.mp rfl

/-- The log formats that pass the check are those that name a layout, so that valid settings always
direct the log. -/
theorem exists_logLayout_iff (s : GeneralSettings) :
    (∃ layout, logLayout s = .ok layout) ↔ isOneOf s.logFormat logFormats = true := by
  unfold logLayout isOneOf logFormats
  by_cases hjson : s.logFormat = "json".toList
  · simp [hjson]
  · by_cases hpretty : s.logFormat = "pretty".toList
    · simp [hpretty]
    · have hnone : ¬("json".toList = s.logFormat ∨ "pretty".toList = s.logFormat) := by
        rintro (h | h)
        · exact hjson h.symm
        · exact hpretty h.symm
      rw [if_neg hjson, if_neg hpretty]
      simpa using hnone

end Settings

namespace Environment

variable (env : Environment)

/-- A value in effect is read from the environment or stands already. -/
theorem overrideWith_congr {α : Type} (P : α → Prop) (key kind : String) (read : Text → Option α)
    {a b : α} (ha : P a) (hb : P b) :
    P (env.overrideWith key kind read a).1 ↔ P (env.overrideWith key kind read b).1 := by
  unfold overrideWith
  cases env.get? key with
  | none => exact iff_of_true ha hb
  | some value =>
    dsimp only
    cases read value with
    | none => exact iff_of_true ha hb
    | some c => exact Iff.rfl

/-- Over valid settings the environment alone decides whether the outcome is valid. -/
theorem valid_apply_iff {s t : Settings} (hs : s.Valid) (ht : t.Valid) :
    (env.apply s).1.Valid ↔ (env.apply t).1.Valid := by
  have hlevel := env.overrideWith_congr (Settings.isOneOf · Settings.logLevels = true)
    "LOGREBASE_GENERAL_LOG_LEVEL" "string" some hs.logLevel ht.logLevel
  have hformat := env.overrideWith_congr (Settings.isOneOf · Settings.logFormats = true)
    "LOGREBASE_GENERAL_LOG_FORMAT" "string" some hs.logFormat ht.logFormat
  have hyear := env.overrideWith_congr (fun o => ∀ y ∈ o, BatchConfig.isFourDigitYear y = true)
    "LOGREBASE_BATCH_START_YEAR" "i32" (fun t => (Decimal.signed? 32 t.trim).map some)
    hs.startYear ht.startYear
  have hnow := env.overrideWith_congr
    (fun o : Option Moment => ∀ t ∈ o, BatchConfig.isFourDigitYear t.year = true)
    "LOGREBASE_BATCH_NOW" "datetime" (fun t => (Moment.ofIso? t.trim).map some) hs.now ht.now
  have hlength := env.overrideWith_congr (· ≠ 0) "LOGREBASE_BATCH_MAX_LINE_LENGTH" "usize"
    (Decimal.unsigned? 64) hs.maxLineLength ht.maxLineLength
  rw [Settings.valid_iff, Settings.valid_iff]
  exact and_congr hlevel (and_congr hformat (and_congr hyear (and_congr hnow hlength)))

end Environment

namespace Settings

theorem parse_eq_ok_iff {t : Text} {s : Settings} :
    parse t = .ok s ↔ (Toml.read? t).bind ofToml? = some s := by
  unfold parse
  cases (Toml.read? t).bind ofToml? <;> simp

theorem load_encode (path t : Text) (env : Environment) :
    load path (.ok (Utf8.encode t)) env =
      (((parse t).mapError LoadError.config).bind fun file =>
        (file.validate.mapError LoadError.config).bind fun _ => .ok file).bind
          (underEnvironment env) := by
  have hload : load path (.ok (Utf8.encode t)) env =
      (ofBytes (Utf8.encode t)).bind (underEnvironment env) := rfl
  rw [hload, ofBytes, Utf8.decode?_encode]
  rfl

theorem underEnvironment_eq_ok_iff {env : Environment} {file s : Settings} :
    underEnvironment env file = .ok s ↔ s = (env.apply file).1 ∧ s.validate = .ok () := by
  simp only [underEnvironment, bind, bind_eq_ok_iff, mapError_eq_ok_iff, pure, Except.pure,
    Except.ok.injEq]
  constructor
  · intro h
    obtain ⟨_, hvalid, rfl⟩ := h
    exact ⟨rfl, hvalid⟩
  · intro h
    obtain ⟨rfl, hvalid⟩ := h
    exact ⟨(), hvalid, rfl⟩

theorem load_eq_ok_iff {path t : Text} {env : Environment} {s : Settings} :
    load path (.ok (Utf8.encode t)) env = .ok s ↔
      ∃ file, parse t = .ok file ∧ file.validate = .ok () ∧ s = (env.apply file).1 ∧
        s.validate = .ok () := by
  simp only [load_encode, bind_eq_ok_iff, mapError_eq_ok_iff, underEnvironment_eq_ok_iff,
    Except.ok.injEq]
  constructor
  · intro h
    obtain ⟨file, ⟨_, hparse, _, hvalid, rfl⟩, heffective⟩ := h
    exact ⟨_, hparse, hvalid, heffective⟩
  · intro h
    obtain ⟨file, hparse, hvalid, heffective⟩ := h
    exact ⟨file, ⟨file, hparse, (), hvalid, rfl⟩, heffective⟩

/-- The fault of a file comes before any variable is looked at. -/
theorem load_of_validate_error {path t : Text} {env : Environment} {file : Settings}
    {e : ConfigError} (hparse : parse t = .ok file) (h : file.validate = .error e) :
    load path (.ok (Utf8.encode t)) env = .error (.config e) := by
  have hfault : file.validate.mapError LoadError.config = .error (.config e) := by
    rw [h]
    rfl
  rw [load_encode, hparse]
  show ((file.validate.mapError LoadError.config).bind _).bind _ = _
  rw [hfault]
  rfl

/-- Settings are loaded exactly if the file can be read, is valid by itself, and is valid with the
environment in place. A file that is not valid is refused with its own fault, whatever the
environment; over a valid file the environment alone decides. -/
theorem load_spec (path t : Text) (env : Environment) :
    (∀ s, load path (.ok (Utf8.encode t)) env = .ok s ↔
      ∃ file, parse t = .ok file ∧ file.validate = .ok () ∧ s = (env.apply file).1 ∧
        s.validate = .ok ()) ∧
    (∀ file e, parse t = .ok file → file.validate = .error e →
      load path (.ok (Utf8.encode t)) env = .error (.config e)) ∧
    ∀ file, parse t = .ok file → file.validate = .ok () →
      ((∃ s, load path (.ok (Utf8.encode t)) env = .ok s) ↔
        (env.apply defaults).1.validate = .ok ()) := by
  refine ⟨fun s => load_eq_ok_iff, fun file e => load_of_validate_error, ?_⟩
  intro file hparse hvalid
  have hsame := env.valid_apply_iff (validate_eq_ok_iff.mp hvalid) valid_defaults
  rw [← validate_eq_ok_iff, ← validate_eq_ok_iff] at hsame
  rw [← hsame]
  constructor
  · intro h
    obtain ⟨s, h⟩ := h
    obtain ⟨file', hparse', -, rfl, heffective⟩ := load_eq_ok_iff.mp h
    rw [hparse] at hparse'
    cases hparse'
    exact heffective
  · intro heffective
    exact ⟨_, load_eq_ok_iff.mpr ⟨file, hparse, hvalid, rfl, heffective⟩⟩

/-- A valid file with one setting overridden and one variable that cannot be read; and a file that
is not valid under the same environment. -/
theorem load_spec_override :
    let path : Text := "logrebase.toml".toList
    let t : Text := "[general]\nlog_level = \"debug\"\n".toList
    let u : Text := "[batch]\nmax_line_length = 0\n".toList
    let env : Environment := [("LOGREBASE_GENERAL_LOG_LEVEL", "info".toList),
      ("LOGREBASE_BATCH_START_YEAR", "MMV".toList), ("LOGREBASE_BATCH_MAX_LINE_LENGTH", ['5'])]
    let loaded : Settings := { defaults with batch := ⟨none, none, 5⟩ }
    (∃ file, parse t = .ok file ∧ file.validate = .ok () ∧ (env.apply file).1 = loaded ∧
      load path (.ok (Utf8.encode t)) env = .ok loaded) ∧
    (env.apply defaults).1.validate = .ok () ∧
    ∃ file e, parse u = .ok file ∧ file.validate = .error e ∧
      load path (.ok (Utf8.encode u)) env = .error (.config e) := by
  intro path t u env loaded
  let file : Settings := { defaults with general := ⟨"debug".toList, "pretty".toList⟩ }
  let faulty : Settings := { defaults with batch := ⟨none, none, 0⟩ }
  have hparse : parse t = .ok file := parse_eq_ok_iff.mpr (by decide +kernel)
  have hvalid : file.validate = .ok () := rfl
  have heffective : (env.apply file).1 = loaded := by decide +kernel
  have hloaded : load path (.ok (Utf8.encode t)) env = .ok loaded :=
    ((load_spec path t env).1 loaded).mpr ⟨file, hparse, hvalid, heffective.symm, rfl⟩
  have henv := ((load_spec path t env).2.2 file hparse hvalid).mp ⟨loaded, hloaded⟩
  have hfaulty : parse u = .ok faulty := parse_eq_ok_iff.mpr (by decide +kernel)
  exact ⟨⟨file, hparse, hvalid, heffective, hloaded⟩, henv, faulty, _, hfaulty, rfl,
    (load_spec path u env).2.1 faulty _ hfaulty rfl⟩

/-- A file is refused for a level that the environment overrides with a valid one. -/
theorem load_refuses_overridden :
    let t : Text := "[general]\nlog_level = \"INFO\"\n".toList
    let env : Environment := [("LOGREBASE_GENERAL_LOG_LEVEL", "info".toList)]
    ∃ file, parse t = .ok file ∧ (env.apply file).1 = defaults ∧ defaults.validate = .ok () ∧
      load "logrebase.toml".toList (.ok (Utf8.encode t)) env =
        .error (.config (.invalidValue "general.log_level" (oneOfReason logLevels))) := by
  intro t env
  let file : Settings := { defaults with general := ⟨"INFO".toList, "pretty".toList⟩ }
  have hparse : parse t = .ok file := parse_eq_ok_iff.mpr (by decide +kernel)
  have heffective : (env.apply file).1 = defaults := by decide +kernel
  exact ⟨file, hparse, heffective, rfl, load_of_validate_error hparse rfl⟩

end Settings

end LogShift
