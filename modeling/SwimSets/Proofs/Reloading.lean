import Mathlib.Tactic.Common
import SwimSets.Config

/-!
# Settings are read back from their file

The settings are written as a document of two tables (`Config.sections`), so whoever keeps to TOML
reads them back as these tables with all their keys. No default applies then, because a default
stands only where a key is left out (`readReport_entries`), and no value is out of range. What is
read back is thus what was written (`Config.read_render`), and whether it is honoured is decided on
it alone (`Config.load_render`).

The level of logging may be any text that is quoted on one line (`Config.LevelOnOneLine`), whichever
quotes it stands in. The names of the forms of report are letters, which are quoted in one way only.
So the file of the initial settings is one and the same text for every writer
(`Config.render_initial`).
-/

namespace SwimSets

/-! ## Letters in quotes -/

namespace Toml

variable {t : Text}

/-- A letter stands for itself between double quotes. -/
theorem piece_letter {c : Char} (h : isAsciiLetter c = true) : Piece [c] c := by
  simp only [isAsciiLetter, Bool.or_eq_true, Bool.and_eq_true, decide_eq_true_eq, Char.le_def,
    UInt32.le_iff_toNat_le] at h
  have hcodes : ('a' : Char).val.toNat = 97 ∧ ('z' : Char).val.toNat = 122 ∧
      ('A' : Char).val.toNat = 65 ∧ ('Z' : Char).val.toNat = 90 := by decide
  have hcode : c.toNat = c.val.toNat := rfl
  refine .plain ?_ ?_ ?_
  · simp only [isPrintable, Bool.or_eq_true, Bool.and_eq_true, decide_eq_true_eq, bne_iff_ne]
    omega
  · rintro rfl
    revert h
    decide
  · rintro rfl
    revert h
    decide

theorem body_letters (h : ∀ c ∈ t, isAsciiLetter c = true) : Body t t := by
  induction t with
  | nil => exact .nil
  | cons c t ih =>
    obtain ⟨hc, ht⟩ := List.forall_mem_cons.1 h
    exact .cons (piece_letter hc) (ih ht)

variable [Format] [Format.Lawful]

theorem writes_quote_letters (h : ∀ c ∈ t, isAsciiLetter c = true) :
    Writes (Format.quote t) (.text t) := by
  rw [Format.Lawful.quote_letters t h]
  exact .text (.basic (body_letters h))

theorem writes_quote_oneLine {u : Text} (h : OneLine (Format.quote t) u) :
    Writes (Format.quote t) (.text t) := by
  have hu := Format.Lawful.quote_oneLine t u h
  exact .text (hu ▸ h)

end Toml

theorem OutputFormat.letters_name (f : OutputFormat) : ∀ c ∈ f.name, isAsciiLetter c = true := by
  cases f <;> decide

theorem OutputFormat.ofName_name (f : OutputFormat) : OutputFormat.ofName f.name = some f := by
  cases f <;> rfl

namespace Config

open Toml

/-- The level of logging is quoted on one line. -/
def LevelOnOneLine [Format] (c : Config) : Prop := ∃ u, OneLine (Format.quote c.logLevel) u

variable {c : Config}

/-! ## Reading the tables -/

theorem slotOr_some {α : Type} (default : α) (f : Value → Option α) (v : Value) :
    slotOr default f (some v) = f v := by
  rw [slotOr]

/-- A value that is there is read, and the default does not matter. -/
theorem slotOr_natBelow {n bound : Nat} (h : n < bound) (default : Nat) :
    slotOr default (natBelow bound) (some (.integer n)) = some n := by
  simp [slotOr, natBelow, h]

/-- The entries of the table `report`. -/
def reportEntries (c : Config) : Entries :=
  [("pool_length", .integer c.poolLength), ("decimals", .integer c.decimals),
    ("format", .text c.format.name), ("show_lines", .boolean c.showLines)]

/-- Every key of the table is there, so no default stands. -/
theorem readReport_entries (d : Config) (hpool : c.poolLength < 4294967296)
    (hdecimals : c.decimals < integerBound) :
    readReport d (.table c.reportEntries) = some { c with logLevel := d.logLevel } := by
  have hslots : slots ["pool_length", "decimals", "format", "show_lines"]
      (.table c.reportEntries) =
      some [some (.integer c.poolLength), some (.integer c.decimals), some (.text c.format.name),
        some (.boolean c.showLines)] := rfl
  have hformat : slotOr d.format formatOf (some (.text c.format.name)) = some c.format :=
    c.format.ofName_name
  rw [readReport, hslots, Option.bind_eq_bind, Option.bind_some]
  simp only [slotOr_natBelow hpool, slotOr_natBelow hdecimals, hformat, Option.bind_eq_bind,
    Option.bind_some]
  rfl

theorem readLog_entries (d : Config) (level : Text) :
    readLog d (.table [("level", .text level)]) = some { d with logLevel := level } := by
  rfl

/-! ## What can be honoured -/

theorem check_of_valid (hpool : 0 < c.poolLength) (hdecimals : c.decimals ≤ maxDecimals) :
    c.check = .ok () := by
  rw [check, checkPool, if_neg (by omega), checkDecimals, if_neg (by omega)]
  rfl

theorem check_of_zeroPool (hpool : c.poolLength = 0) : c.check = .error .zeroPool := by
  rw [check, checkPool, if_pos hpool]
  rfl

theorem check_of_tooManyDecimals (hpool : 0 < c.poolLength) (hdecimals : maxDecimals < c.decimals) :
    c.check = .error (.tooManyDecimals c.decimals) := by
  rw [check, checkPool, if_neg (by omega), checkDecimals, if_pos hdecimals]
  rfl

theorem letters_initial : ∀ x ∈ initial.logLevel, isAsciiLetter x = true := by decide

/-! ## The file as a document -/

section Writing

variable [Format] [Format.Lawful]

/-- The settings as two tables. -/
def sections (c : Config) (hpool : c.poolLength < integerBound)
    (hdecimals : c.decimals < integerBound)
    (hlevel : Writes (Format.quote c.logLevel) (.text c.logLevel)) : List Section :=
  [{ name := "report"
     bare := rfl
     settings :=
      [⟨"pool_length", rfl, Text.ofNat c.poolLength, .integer c.poolLength, .integer hpool⟩,
        ⟨"decimals", rfl, Text.ofNat c.decimals, .integer c.decimals, .integer hdecimals⟩,
        ⟨"format", rfl, Format.quote c.format.name, .text c.format.name,
          writes_quote_letters c.format.letters_name⟩,
        ⟨"show_lines", rfl, boolText c.showLines, .boolean c.showLines, .boolean _⟩]
     distinct := by
      show ["pool_length".toList, "decimals".toList, "format".toList, "show_lines".toList].Nodup
      decide },
   { name := "log"
     bare := rfl
     settings := [⟨"level", rfl, Format.quote c.logLevel, .text c.logLevel, hlevel⟩]
     distinct := by simp }]

theorem render_eq_document (hpool : c.poolLength < integerBound)
    (hdecimals : c.decimals < integerBound)
    (hlevel : Writes (Format.quote c.logLevel) (.text c.logLevel)) :
    c.render = document (c.sections hpool hdecimals hlevel) := by
  have happend : ∀ head head' e₁ e₂ e₃ e₄ e₅ : Text,
      head ++ e₁ ++ e₂ ++ e₃ ++ e₄ ++ '\n' :: head' ++ e₅ =
        (head ++ (e₁ ++ (e₂ ++ (e₃ ++ (e₄ ++ []))))) ++ ['\n'] ++ (head' ++ (e₅ ++ [])) := by
    intros
    simp
  exact happend "[report]\n" "[log]\n" _ _ _ _ _

/-- **The settings are read back from their file.** -/
theorem read_render (hpool : c.poolLength < 4294967296) (hdecimals : c.decimals < integerBound)
    (hlevel : c.LevelOnOneLine) : read c.render = some c := by
  have hrange : c.poolLength < integerBound := by
    rw [integerBound]
    omega
  obtain ⟨u, hu⟩ := hlevel
  have hwrites := writes_quote_oneLine hu
  have hread : Format.read c.render =
      some ((c.sections hrange hdecimals hwrites).map Section.table) := by
    rw [render_eq_document hrange hdecimals hwrites]
    refine Format.Lawful.read_document _ ?_
    show ["report".toList, "log".toList].Nodup
    decide
  have htables : (c.sections hrange hdecimals hwrites).map Section.table =
      [("report".toList, .table c.reportEntries),
        ("log".toList, .table [("level", .text c.logLevel)])] := rfl
  have hfound : ∀ a b : Value,
      List.lookup "report".toList [("report".toList, a), ("log".toList, b)] = some a ∧
        List.lookup "log".toList [("report".toList, a), ("log".toList, b)] = some b :=
    fun a b => ⟨rfl, rfl⟩
  rw [read, hread, htables, Option.bind_eq_bind, Option.bind_some, (hfound _ _).1, (hfound _ _).2,
    slotOr_some, readReport_entries initial hpool hdecimals, Option.bind_eq_bind, Option.bind_some,
    slotOr_some, readLog_entries]

/-- What is read back is honoured or refused as it was before it was saved. -/
theorem load_render (hpool : c.poolLength < 4294967296) (hdecimals : c.decimals < integerBound)
    (hlevel : c.LevelOnOneLine) :
    load c.render =
      match c.check with
      | .error f => .error (.invalid f)
      | .ok () => .ok c := by
  cases hcheck : c.check <;> simp only [load, read_render hpool hdecimals hlevel, hcheck]

/-! ## The initial settings -/

/-- The text of the initial settings. -/
def initialText : Text :=
  "[report]
pool_length = 25
decimals = 0
format = \"text\"
show_lines = false

[log]
level = \"warn\"
"

/-- **The initial settings are written as that text.** -/
theorem render_initial : initial.render = initialText := by
  have hquotes : ∀ format level : Text, Format.quote initial.format.name = format →
      Format.quote initial.logLevel = level →
      initial.render = "[report]\n".toList ++ entryLine "pool_length" "25" ++
        entryLine "decimals" "0" ++ entryLine "format" format ++
        entryLine "show_lines" "false" ++ "\n[log]\n".toList ++ entryLine "level" level := by
    rintro _ _ rfl rfl
    rfl
  refine (hquotes _ _ (Format.Lawful.quote_letters _ initial.format.letters_name)
    (Format.Lawful.quote_letters _ letters_initial)).trans ?_
  decide +kernel

/-- The initial settings are read back from that text. -/
theorem load_initialText : load initialText = .ok initial := by
  have hlevel : initial.LevelOnOneLine := by
    rw [LevelOnOneLine, Format.Lawful.quote_letters _ letters_initial]
    exact ⟨_, .basic (body_letters letters_initial)⟩
  have hload := load_render (by decide) (by decide) hlevel
  have hcheck : initial.check = .ok () := rfl
  rwa [hcheck, render_initial] at hload

end Writing

end Config

end SwimSets
