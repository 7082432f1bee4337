import SwimSets.Command.Run
import SwimSets.Proofs.Encoding
import SwimSets.Proofs.Reloading
import SwimSets.Proofs.Tables
import SwimSets.Text.Spellings
import SwimSets.Text.Widths

/-!
# Who writes the file of settings

**Theorem (`config_written_only_by_permitted_init`).** In a series of runs, whatever they are asked
and whatever they find, the file of settings changes only in a run that is asked to write the
initial settings and that finds no file or is told to force it. Where settings can be saved such a
run ends well and leaves the text of the initial settings. From then on it is what is shown, and
reports use these settings. Every other run leaves the file as it was, whether it succeeds or fails.

**Turns.** A run of the series (`Turn`) brings its own words, standard input and files, and what
stands in the way of reading and saving settings; only the file of settings goes from one run to the
next (`World.after`).

**From one run to all.** What one run does to the file is said once (`run_config_cases`): nothing,
or a permitted writing. By induction over the series the file holds either what it held before all
of them or the initial settings (`after_config_cases`).
-/

namespace SwimSets

/-- The file that holds the initial settings. -/
def Config.initialFile : List UInt8 := Config.initialText.toUtf8

namespace World

variable {w : World} {words : List Text}

/-! ## The settings of the file -/

/-- The settings that hold: those that the file writes and a report can honour, or the initial ones
without a file. -/
def Holds [Toml.Format] (w : World) (c : Config) : Prop :=
  w.home ≠ none ∧
    match w.config with
    | none => c = Config.initial
    | some bytes => w.configFault = none ∧ ∃ t : Text, t.toUtf8 = bytes ∧ Config.load t = .ok c

theorem settings_eq_ok_iff [Toml.Format] {c : Config} : w.settings = .ok c ↔ w.Holds c := by
  obtain ⟨home, config, fault, -, -, -⟩ := w
  cases home with
  | none =>
    refine iff_of_false nofun ?_
    rintro ⟨hhome, -⟩
    exact hhome rfl
  | some home =>
    refine Iff.trans ?_ (and_iff_right nofun).symm
    cases config with
    | none => exact ⟨fun h => (Except.ok.inj h).symm, fun h => congrArg _ h.symm⟩
    | some bytes =>
      cases fault with
      | some reason => exact iff_of_false nofun fun h => nomatch h.1
      | none =>
        refine Iff.trans ?_ (and_iff_right rfl).symm
        simp only [← Text.ofUtf8_eq_ok_iff]
        cases hb : Text.ofUtf8 bytes with
        | error e =>
          simp [settings, configText, configPath, hb, bind, Except.bind, Except.mapError]
        | ok t =>
          cases hl : Config.load t <;>
            simp [settings, configText, configPath, hb, hl, bind, Except.bind, Except.mapError]

/-! ## Saving -/

/-- Settings can be saved: it is known where, and nothing stands in the way. -/
structure CanSave (w : World) : Prop where
  home : w.home ≠ none
  free : w.saveFault = none

section Saving

variable [Toml.Format]

theorem save_of_canSave (h : w.CanSave) (c : Config) :
    w.save c = (.ok (), { w with config := some c.render.toUtf8 }) := by
  obtain ⟨home, hhome⟩ := Option.ne_none_iff_exists'.1 h.home
  simp only [save, hhome, h.free]

theorem save_of_not_canSave (h : ¬ w.CanSave) (c : Config) : ∃ f, (w.save c).1 = .error f := by
  cases hhome : w.home with
  | none => exact ⟨.unknownHome, by simp only [save, hhome]⟩
  | some home =>
    cases hfault : w.saveFault with
    | none => exact absurd ⟨by simp [hhome], hfault⟩ h
    | some fault =>
      cases fault with
      | directory reason =>
        exact ⟨.noConfigDirectory (configDirectory home) reason, by
          simp only [save, hhome, hfault]⟩
      | file reason left =>
        exact ⟨.unwritableConfig (configFile home) reason, by simp only [save, hhome, hfault]⟩

/-- Saving changes nothing but the file of settings. -/
theorem home_save (w : World) (c : Config) : (w.save c).2.home = w.home := by
  unfold save
  split <;> simp_all

end Saving

section Settings

variable [Toml.Format] [Toml.Format.Lawful]

theorem settings_of_initialFile (hhome : w.home ≠ none) (hfault : w.configFault = none)
    (hc : w.config = some Config.initialFile) : w.settings = .ok Config.initial := by
  rw [settings_eq_ok_iff, Holds, hc]
  exact ⟨hhome, hfault, _, rfl, Config.load_initialText⟩

end Settings

/-! ## One run -/

/-- The words ask to write the initial settings, and no file stands in the way. -/
def PermitsInit (w : World) (words : List Text) : Prop :=
  ∃ verbose force, Invocation.read words = .ok ⟨verbose, .initConfig force⟩ ∧
    (w.config = none ∨ force = true)

section Runs

variable [Speller] [Ruler] [Toml.Format]

/-- A permitted writing is nothing but saving, where there is a home directory. -/
theorem run_of_permitsInit (h : w.PermitsInit words) {home : Text} (hhome : w.home = some home) :
    w.run words =
      (Outcome.ofResult ((w.save Config.initial).1.map fun _ =>
        "Wrote default config to ".toList ++ configFile home ++ ['\n']),
        (w.save Config.initial).2) := by
  obtain ⟨verbose, force, hread, hfree⟩ := h
  have hgo : (w.config.isSome && !force) = false := by
    rcases hfree with hnone | rfl
    · simp [hnone]
    · simp
  simp [run, hread, Request.perform, configPath, hhome, hgo]

theorem run_of_unknownHome (h : w.PermitsInit words) (hhome : w.home = none) :
    w.run words = (Failure.unknownHome.outcome, w) := by
  obtain ⟨verbose, force, hread, -⟩ := h
  simp [run, hread, Request.perform, configPath, hhome]

/-- A permitted writing where settings cannot be saved fails. -/
theorem code_of_not_canSave (h : w.PermitsInit words) (hsave : ¬ w.CanSave) :
    (w.run words).1.code = 1 := by
  cases hhome : w.home with
  | none =>
    rw [run_of_unknownHome h hhome]
    rfl
  | some home =>
    obtain ⟨f, hf⟩ := save_of_not_canSave hsave Config.initial
    rw [run_of_permitsInit h hhome, hf]
    rfl

/-- Every other run leaves the world as it was. -/
theorem run_of_not_permitsInit (h : ¬ w.PermitsInit words) : (w.run words).2 = w := by
  unfold run
  cases hread : Invocation.read words with
  | error stop => rfl
  | ok i =>
    obtain ⟨verbose, request⟩ := i
    cases request with
    | parse files overrides strict =>
      simp only [Request.perform]
      split <;> rfl
    | initConfig force =>
      have hstop : (w.config.isSome && !force) = true := by
        by_contra hgo
        refine h ⟨verbose, force, hread, ?_⟩
        cases hc : w.config <;> cases hf : force <;> simp_all
      simp only [Request.perform, hstop, if_true]
      split <;> rfl
    | showConfig | configPath | completions shell => rfl

/-- Asked to write the initial settings where there is a file, and not told to force it, a run
fails. -/
theorem run_init_of_isSome {verbose : Nat}
    (hread : Invocation.read words = .ok ⟨verbose, .initConfig false⟩) (hc : w.config.isSome) :
    (w.run words).1.code = 1 ∧ (w.run words).2 = w := by
  cases hhome : w.home <;> simp [run, hread, Request.perform, configPath, hhome, hc] <;> rfl

/-- No run moves the file of settings elsewhere. -/
theorem home_run (w : World) (words : List Text) : (w.run words).2.home = w.home := by
  by_cases h : w.PermitsInit words
  · cases hhome : w.home with
    | none => rw [run_of_unknownHome h hhome, hhome]
    | some home => rw [run_of_permitsInit h hhome, home_save, hhome]
  · rw [run_of_not_permitsInit h]

variable [Toml.Format.Lawful]

/-- A permitted writing where settings can be saved ends well and leaves the initial settings. -/
theorem run_of_canSave (h : w.PermitsInit words) (hsave : w.CanSave) :
    (w.run words).1.code = 0 ∧ (w.run words).2.config = some Config.initialFile := by
  obtain ⟨home, hhome⟩ := Option.ne_none_iff_exists'.1 hsave.home
  rw [run_of_permitsInit h hhome, save_of_canSave hsave, Config.render_initial]
  exact ⟨rfl, rfl⟩

/-- **What one run does to the file of settings.** -/
theorem run_config_cases (w : World) (words : List Text) :
    (w.PermitsInit words ∧
        (w.CanSave → (w.run words).2.config = some Config.initialFile)) ∨
      (¬ w.PermitsInit words ∧ (w.run words).2.config = w.config) := by
  by_cases h : w.PermitsInit words
  · exact .inl ⟨h, fun hsave => (run_of_canSave h hsave).2⟩
  · exact .inr ⟨h, by rw [run_of_not_permitsInit h]⟩

/-! ## Runs after the initial settings are written -/

section Initial

variable (hhome : w.home ≠ none) (hfault : w.configFault = none)
  (hc : w.config = some Config.initialFile)
include hhome hfault hc

theorem run_showConfig_of_initialFile {verbose : Nat}
    (hread : Invocation.read words = .ok ⟨verbose, .showConfig⟩) :
    (w.run words).1 = Outcome.success Config.initialText := by
  simp only [run, hread, Request.perform, settings_of_initialFile hhome hfault hc]
  rw [Except.map, Config.render_initial, Outcome.ofResult]

omit hhome hfault hc [Ruler] [Toml.Format.Lawful] in
/-- The sessions and how to report them depend on the file only through the settings. -/
theorem sessions_congr {w v : World} (hs : w.settings = v.settings) (hi : w.input = v.input)
    (hf : w.file = v.file) (names : List Text) (overrides : Overrides) :
    w.sessions names overrides = v.sessions names overrides := by
  have hsource : w.source = v.source := by
    funext n
    simp only [source, hi, hf]
  have hall : ∀ ns, w.sourcesOf ns = v.sourcesOf ns := by
    intro ns
    induction ns with
    | nil => rfl
    | cons n ns ih => rw [sourcesOf, sourcesOf, hsource, ih]
  simp only [sessions, sources, hs, hall]

theorem perform_parse_of_initialFile (files : List Text) (overrides : Overrides) (strict : Bool) :
    ((Request.parse files overrides strict).perform w).1 =
      ((Request.parse files overrides strict).perform { w with config := none }).1 := by
  have hnone : ({ w with config := none } : World).settings = .ok Config.initial := by
    rw [settings_eq_ok_iff]
    exact ⟨hhome, rfl⟩
  have hs := (settings_of_initialFile hhome hfault hc).trans hnone.symm
  simp only [Request.perform, sessions_congr hs rfl rfl files overrides]
  split <;> rfl

end Initial

end Runs

end World

/-! ## A series of runs -/

/-- A run of a series: what it is asked, and what it finds besides the file of settings. -/
structure Turn where
  words : List Text
  configFault : Option Text
  saveFault : Option SaveFault
  input : Except Text (List UInt8)
  file : Text → Except Text (List UInt8)

namespace World

/-- The world as the turn finds it. -/
def facing (w : World) (t : Turn) : World :=
  { w with
    configFault := t.configFault, saveFault := t.saveFault, input := t.input, file := t.file }

section Series

variable [Speller] [Ruler] [Toml.Format]

/-- The world that a series of runs leaves. -/
def after (w : World) : List Turn → World
  | [] => w
  | t :: ts => ((w.facing t).run t.words).2.after ts

/-- The runs of a series, each with the world that it finds. -/
def runs (w : World) : List Turn → List (World × Turn)
  | [] => []
  | t :: ts => (w.facing t, t) :: ((w.facing t).run t.words).2.runs ts

theorem home_after (w : World) (ts : List Turn) : (w.after ts).home = w.home := by
  induction ts generalizing w with
  | nil => rfl
  | cons t ts ih => exact (ih _).trans (home_run (w.facing t) t.words)

theorem home_of_mem_runs {w found : World} {t : Turn} {ts : List Turn}
    (h : (found, t) ∈ w.runs ts) : found.home = w.home := by
  induction ts generalizing w with
  | nil => cases h
  | cons u ts ih =>
    rcases List.mem_cons.1 h with heq | h
    · cases heq
      rfl
    · exact (ih h).trans (home_run (w.facing u) u.words)

variable [Toml.Format.Lawful]

/-- **The file after a series of runs** in which every permitted writing can be done. -/
theorem after_config_cases (w : World) (ts : List Turn)
    (hsave : ∀ found t, (found, t) ∈ w.runs ts → found.PermitsInit t.words → found.CanSave) :
    ((∃ found t, (found, t) ∈ w.runs ts ∧ found.PermitsInit t.words) ∧
        (w.after ts).config = some Config.initialFile) ∨
      ((∀ found t, (found, t) ∈ w.runs ts → ¬ found.PermitsInit t.words) ∧
        (w.after ts).config = w.config) := by
  induction ts generalizing w with
  | nil => exact .inr ⟨nofun, rfl⟩
  | cons t ts ih =>
    have hrest := ih ((w.facing t).run t.words).2 fun found u hmem =>
      hsave found u (List.mem_cons_of_mem _ hmem)
    rcases hrest with ⟨⟨found, u, hmem, hp⟩, hafter⟩ | ⟨hnone, hafter⟩
    · exact .inl ⟨⟨found, u, List.mem_cons_of_mem _ hmem, hp⟩, hafter⟩
    · rcases run_config_cases (w.facing t) t.words with ⟨hp, hwritten⟩ | ⟨hp, hsame⟩
      · have hfree := hsave _ t List.mem_cons_self hp
        exact .inl ⟨⟨_, t, List.mem_cons_self, hp⟩, hafter.trans (hwritten hfree)⟩
      · refine .inr ⟨fun found u hmem => ?_, hafter.trans hsame⟩
        rcases List.mem_cons.1 hmem with heq | hmem
        · cases heq
          exact hp
        · exact hnone found u hmem

end Series

end World

/-- **Only a permitted writing of the initial settings touches their file.** Of any run in any
series: if it changes the file then it is asked to write the initial settings and finds no file or
is told to force it; such a run ends well and leaves the text of the initial settings, unless
settings cannot be saved, and then it fails; without being told to force it, it fails where there is
a file and leaves it; and no other request, and no words that ask for nothing, change it. So the
file is what it was before a series without permitted writing, and after one with a permitted
writing, if every such writing could be done, it holds the initial settings. In the second case any
next run that can read the file shows that text when asked to, and reports as it would without a
file. -/
theorem config_written_only_by_permitted_init [Speller] [Ruler] [Toml.Format]
    [Toml.Format.Lawful] (w : World) (turns : List Turn) :
    (∀ found t, (found, t) ∈ w.runs turns →
      let ended := found.run t.words
      (ended.2.config ≠ found.config → found.PermitsInit t.words) ∧
      (found.PermitsInit t.words → found.CanSave →
        ended.1.code = 0 ∧ ended.2.config = some Config.initialFile) ∧
      (found.PermitsInit t.words → ¬ found.CanSave → ended.1.code = 1) ∧
      (∀ verbose, Invocation.read t.words = .ok ⟨verbose, .initConfig false⟩ →
        found.config ≠ none → ended.1.code = 1 ∧ ended.2.config = found.config) ∧
      ((∀ verbose force, Invocation.read t.words ≠ .ok ⟨verbose, .initConfig force⟩) →
        ended.2.config = found.config)) ∧
    ((∀ found t, (found, t) ∈ w.runs turns → ¬ found.PermitsInit t.words) →
      (w.after turns).config = w.config) ∧
    ((∃ found t, (found, t) ∈ w.runs turns ∧ found.PermitsInit t.words) →
      (∀ found t, (found, t) ∈ w.runs turns → found.PermitsInit t.words → found.CanSave) →
      (w.after turns).config = some Config.initialFile ∧
      ∀ next : Turn, next.configFault = none →
        let found := (w.after turns).facing next
        found.settings = .ok Config.initial ∧
        (∀ verbose, Invocation.read next.words = .ok ⟨verbose, .showConfig⟩ →
          (found.run next.words).1 = Outcome.success Config.initialText) ∧
        ∀ verbose files overrides strict,
          Invocation.read next.words = .ok ⟨verbose, .parse files overrides strict⟩ →
          (found.run next.words).1 =
            (({ found with config := none } : World).run next.words).1) := by
  refine ⟨?_, ?_, ?_⟩
  · rintro found t - ended
    have hcases := found.run_config_cases t.words
    refine ⟨fun hne => ?_, World.run_of_canSave, World.code_of_not_canSave,
      fun verbose hread hc => ?_, fun hother => ?_⟩
    · rcases hcases with ⟨hp, -⟩ | ⟨-, hsame⟩
      · exact hp
      · exact absurd hsame hne
    · obtain ⟨hcode, hsame⟩ :=
        World.run_init_of_isSome hread (Option.isSome_iff_ne_none.mpr hc)
      exact ⟨hcode, congrArg World.config hsame⟩
    · rcases hcases with ⟨⟨verbose, force, hread, -⟩, -⟩ | ⟨-, hsame⟩
      · exact absurd hread (hother verbose force)
      · exact hsame
  · intro hnone
    rcases w.after_config_cases turns fun found t hmem hp => absurd hp (hnone found t hmem)
      with ⟨⟨found, t, hmem, hp⟩, -⟩ | ⟨-, h⟩
    · exact absurd hp (hnone found t hmem)
    · exact h
  · rintro ⟨found, t, hmem, hp⟩ hsave
    have hc : (w.after turns).config = some Config.initialFile := by
      rcases w.after_config_cases turns hsave with ⟨-, h⟩ | ⟨hnone, -⟩
      · exact h
      · exact absurd hp (hnone found t hmem)
    have hafter : (w.after turns).home ≠ none := by
      rw [World.home_after, ← World.home_of_mem_runs hmem]
      exact (hsave found t hmem hp).home
    refine ⟨hc, fun next hnext => ?_⟩
    intro found
    have hhome : found.home ≠ none := hafter
    have hfault : found.configFault = none := hnext
    refine ⟨World.settings_of_initialFile hhome hfault hc, fun verbose hread => ?_, ?_⟩
    · exact World.run_showConfig_of_initialFile hhome hfault hc hread
    · intro verbose files overrides strict hread
      simp only [World.run, hread]
      exact World.perform_parse_of_initialFile hhome hfault hc files overrides strict

/-- A file that holds no settings is kept by a run that is not told to force it and replaced by one
that is. What is there then is shown, and a report is that of a user without a file. -/
theorem config_replaced_by_force :
    let w : World :=
      ⟨some "/home/coach", some (Text.toUtf8 "pool = 50"), none, none, .ok [], fun _ => .ok []⟩
    let turn (words : List Text) : Turn :=
      ⟨words, none, none, .ok [], fun _ => .ok (Text.toUtf8 "4 x 100m fc")⟩
    let init := turn ["config", "init"]
    let forced := turn ["config", "init", "--force"]
    let shown := turn ["config", "show"]
    let report := turn ["parse", "monday.txt"]
    let text : Text :=
      "[report]\npool_length = 25\ndecimals = 0\nformat = \"text\"\n".toList ++
        "show_lines = false\n\n[log]\nlevel = \"warn\"\n".toList
    let kept := (w.facing init).run init.words
    let written := (kept.2.facing forced).run forced.words
    let left := w.after [init, forced]
    kept.1.code = 1 ∧ kept.2.config = w.config ∧
      written.1.code = 0 ∧ written.2.config = some text.toUtf8 ∧
      left.config = some text.toUtf8 ∧
      ((left.facing shown).run shown.words).1 = Outcome.success text ∧
      ((left.facing report).run report.words).1 =
        (({ left.facing report with config := none } : World).run report.words).1 := by
  intro w turn init forced shown report text kept written left
  have htext : text = Config.initialText := by decide +kernel
  have hinit : Invocation.read init.words = .ok ⟨0, .initConfig false⟩ := by decide +kernel
  have hforced : Invocation.read forced.words = .ok ⟨0, .initConfig true⟩ := by decide +kernel
  have hshow : Invocation.read shown.words = .ok ⟨0, .showConfig⟩ := by decide +kernel
  have hreport : Invocation.read report.words =
      .ok ⟨0, .parse ["monday.txt"] ⟨none, false, none, none⟩ false⟩ := by decide +kernel
  obtain ⟨hone, -, hseries⟩ := config_written_only_by_permitted_init w [init, forced]
  have hfirst : (w.facing init, init) ∈ w.runs [init, forced] := List.mem_cons_self
  have hsecond : (kept.2.facing forced, forced) ∈ w.runs [init, forced] :=
    List.mem_cons_of_mem _ List.mem_cons_self
  have hpermits : (kept.2.facing forced).PermitsInit forced.words := ⟨0, true, hforced, .inr rfl⟩
  have hsave : ∀ found t, (found, t) ∈ w.runs [init, forced] → found.PermitsInit t.words →
      found.CanSave := by
    intro found t hmem _
    refine ⟨by rw [World.home_of_mem_runs hmem]; nofun, ?_⟩
    simp only [World.runs, List.mem_cons, Prod.mk.injEq, List.not_mem_nil, or_false] at hmem
    rcases hmem with ⟨rfl, -⟩ | ⟨rfl, -⟩ <;> rfl
  have hkept := (hone _ _ hfirst).2.2.2.1 0 hinit nofun
  have hwritten := (hone _ _ hsecond).2.1 hpermits (hsave _ _ hsecond hpermits)
  obtain ⟨hleft, hnext⟩ := hseries ⟨_, _, hsecond, hpermits⟩ hsave
  rw [htext]
  refine ⟨hkept.1, hkept.2, hwritten.1, hwritten.2, hleft, ?_, ?_⟩
  · exact (hnext shown rfl).2.1 0 hshow
  · exact (hnext report rfl).2.2 0 _ _ _ hreport

end SwimSets
