import SwimSets.Proofs.Settings

/-!
# Settings survive saving

**Theorem (`settings_survive_saving`).** Settings that are saved and that a report can honour are
the settings that hold from then on, and they are shown as the file has them. Settings that cannot
be honoured are refused, with the value that was saved named in the fault.

Saving writes the file that is read back as the same settings (`Config.load_render`), so what holds
then is decided on them alone (`World.settings_save`). This is so for every writer and reader that
keep to TOML, and for every level of logging that the writer quotes on one line.
-/

namespace SwimSets

namespace World

variable [Toml.Format] [Toml.Format.Lawful] {w : World} {c : Config}

/-- **The settings that hold after saving** are those that were saved, unless they are refused. -/
theorem settings_save {home : Text} (hhome : w.home = some home) (hsave : w.saveFault = none)
    (hread : w.configFault = none) (hpool : c.poolLength < 4294967296)
    (hdecimals : c.decimals < Toml.integerBound) (hlevel : c.LevelOnOneLine) :
    (w.save c).2.settings =
      match c.check with
      | .error f => .error (.invalidConfig (configFile home) f)
      | .ok () => .ok c := by
  have hcan : w.CanSave := ⟨by simp [hhome], hsave⟩
  cases hcheck : c.check <;>
    simp [save_of_canSave hcan, settings, configPath, configText, hhome, hread, Text.ofUtf8_toUtf8,
      Config.load_render hpool hdecimals hlevel, hcheck, bind, Except.bind, Except.mapError,
      Failure.ofConfig]

omit [Toml.Format.Lawful] in
/-- Settings that hold are shown by a run that is asked for them, and it leaves the world alone. -/
theorem run_showConfig_of_settings [Speller] [Ruler] {words : List Text} {verbose : Nat}
    (h : w.settings = .ok c) (hread : Invocation.read words = .ok ⟨verbose, .showConfig⟩) :
    w.run words = (Outcome.success c.render, w) := by
  simp only [run, hread, Request.perform, h]
  rfl

end World

/-- **Settings survive saving.** Where nothing stands in the way of saving and reading, and the
level of logging is quoted on one line, settings can be saved whatever the file held before. Those
that a report can honour are read back as they were saved, and they are shown as the text that was
saved. Those that it cannot honour are refused for the value that was saved. So no other settings
than those that were saved ever hold. -/
theorem settings_survive_saving [Speller] [Ruler] [Toml.Format] [Toml.Format.Lawful] (w : World)
    (c : Config) {home : Text} (hhome : w.home = some home) (hsave : w.saveFault = none)
    (hread : w.configFault = none) (hpool : c.poolLength < 4294967296)
    (hdecimals : c.decimals < Toml.integerBound) (hlevel : c.LevelOnOneLine) :
    let saved := (w.save c).2
    (w.save c).1 = .ok () ∧ saved.config = some c.render.toUtf8 ∧
    (0 < c.poolLength → c.decimals ≤ maxDecimals →
      saved.settings = .ok c ∧ saved.settings.map Config.render = .ok c.render ∧
      ∀ words verbose, Invocation.read words = .ok ⟨verbose, .showConfig⟩ →
        saved.run words = (Outcome.success c.render, saved)) ∧
    (c.poolLength = 0 → saved.settings = .error (.invalidConfig (configFile home) .zeroPool)) ∧
    (0 < c.poolLength → maxDecimals < c.decimals →
      saved.settings =
        .error (.invalidConfig (configFile home) (.tooManyDecimals c.decimals))) ∧
    ∀ c', saved.settings = .ok c' → c' = c := by
  intro saved
  have hcan : w.CanSave := ⟨by simp [hhome], hsave⟩
  have hsettings : saved.settings = _ :=
    World.settings_save hhome hsave hread hpool hdecimals hlevel
  have hdone := World.save_of_canSave hcan c
  refine ⟨congrArg Prod.fst hdone, congrArg (fun r => r.2.config) hdone, fun hpos hfew => ?_,
    fun hzero => ?_, fun hpos hmany => ?_, fun c' hc' => ?_⟩
  · rw [Config.check_of_valid hpos hfew] at hsettings
    refine ⟨hsettings, by rw [hsettings]; rfl, fun words verbose hread => ?_⟩
    exact World.run_showConfig_of_settings hsettings hread
  · rw [hsettings, Config.check_of_zeroPool hzero]
  · rw [hsettings, Config.check_of_tooManyDecimals hpos hmany]
  · rw [hsettings] at hc'
    cases hcheck : c.check with
    | error f => simp [hcheck] at hc'
    | ok u =>
      simp only [hcheck, Except.ok.injEq] at hc'
      exact hc'.symm

/-- Quotes and a backslash in the level, which stands between single quotes then, and a pool of no
length. -/
theorem settings_survive_saving_quotes :
    let w : World := ⟨some "/home/coach", none, none, none, .ok [], fun _ => .ok []⟩
    let c : Config := ⟨50, 2, .json, true, "swim=\"c:\\lanes\""⟩
    let empty : Config := { c with poolLength := 0 }
    (c.LevelOnOneLine ∧ (w.save c).1 = .ok () ∧ (w.save c).2.settings = .ok c) ∧
      (w.save empty).2.settings =
        .error (.invalidConfig "/home/coach/.config/swimtally/config.toml" .zeroPool) := by
  intro w c empty
  have hlevel : c.LevelOnOneLine :=
    ⟨c.logLevel, Toml.oneLine_quote (.inr (by decide +kernel))⟩
  obtain ⟨hdone, -, hvalid, -⟩ :=
    settings_survive_saving w c rfl rfl rfl (by decide) (by decide) hlevel
  have hempty := settings_survive_saving w empty rfl rfl rfl (by decide) (by decide) hlevel
  refine ⟨⟨hlevel, hdone, (hvalid (by decide) (by decide)).1⟩, ?_⟩
  rw [hempty.2.2.2.1 rfl]
  decide +kernel

end SwimSets
