import SwimSets.Session.Line

/-!
# Totals per stroke and activity

A table with a row for each stroke and a column for each activity. It is only ever filled by
adding contributions one after another, in the order of the lines, to cells that start at zero; so
a cell is the sum, from the left, of the distances that belong to it.
-/

namespace SwimSets

/-- The totals of one stroke. -/
structure ActivityTotals (D : Type) where
  swim : D
  drill : D
  kick : D
  pull : D
  deriving DecidableEq, Repr

namespace ActivityTotals

variable {D : Type}

/-- The cell of an activity. -/
def get (r : ActivityTotals D) : Activity → D
  | .swim => r.swim
  | .drill => r.drill
  | .kick => r.kick
  | .pull => r.pull

/-- The row with the cell of an activity changed. -/
def modify (r : ActivityTotals D) (a : Activity) (f : D → D) : ActivityTotals D :=
  match a with
  | .swim => { r with swim := f r.swim }
  | .drill => { r with drill := f r.drill }
  | .kick => { r with kick := f r.kick }
  | .pull => { r with pull := f r.pull }

/-- The row with the same number in each cell. -/
def fill (d : D) : ActivityTotals D := ⟨d, d, d, d⟩

theorem get_modify (r : ActivityTotals D) (a b : Activity) (f : D → D) :
    (r.modify a f).get b = if b = a then f (r.get a) else r.get b := by
  cases a <;> cases b <;> rfl

theorem get_fill (d : D) (a : Activity) : (fill d).get a = d := by cases a <;> rfl

end ActivityTotals

/-- The totals of a session. -/
structure Totals (D : Type) where
  frontCrawl : ActivityTotals D
  backstroke : ActivityTotals D
  breaststroke : ActivityTotals D
  butterfly : ActivityTotals D
  individualMedley : ActivityTotals D
  swimmersChoice : ActivityTotals D
  deriving DecidableEq, Repr

namespace Totals

variable {D : Type}

/-- The row of a stroke. -/
def row (t : Totals D) : Stroke → ActivityTotals D
  | .frontCrawl => t.frontCrawl
  | .backstroke => t.backstroke
  | .breaststroke => t.breaststroke
  | .butterfly => t.butterfly
  | .individualMedley => t.individualMedley
  | .swimmersChoice => t.swimmersChoice

/-- The cell of a stroke and an activity. -/
def get (t : Totals D) (s : Stroke) (a : Activity) : D := (t.row s).get a

/-- The table with the row of a stroke changed. -/
def modifyRow (t : Totals D) (s : Stroke) (f : ActivityTotals D → ActivityTotals D) : Totals D :=
  match s with
  | .frontCrawl => { t with frontCrawl := f t.frontCrawl }
  | .backstroke => { t with backstroke := f t.backstroke }
  | .breaststroke => { t with breaststroke := f t.breaststroke }
  | .butterfly => { t with butterfly := f t.butterfly }
  | .individualMedley => { t with individualMedley := f t.individualMedley }
  | .swimmersChoice => { t with swimmersChoice := f t.swimmersChoice }

theorem row_modifyRow (t : Totals D) (s u : Stroke) (f : ActivityTotals D → ActivityTotals D) :
    (t.modifyRow s f).row u = if u = s then f (t.row s) else t.row u := by
  cases s <;> cases u <;> rfl

variable [Metres D]

/-- The table of zeros. -/
def zero : Totals D :=
  let r := ActivityTotals.fill ((0 : Nat) : D)
  ⟨r, r, r, r, r, r⟩

theorem get_zero (s : Stroke) (a : Activity) : (zero : Totals D).get s a = ((0 : Nat) : D) := by
  cases s <;> cases a <;> rfl

/-- The table with a contribution added to its cell. -/
def add (t : Totals D) (c : Contribution D) : Totals D :=
  t.modifyRow c.stroke fun r => r.modify c.activity (· + c.distance)

/-- A contribution changes its own cell only. -/
theorem get_add (t : Totals D) (c : Contribution D) (s : Stroke) (a : Activity) :
    (t.add c).get s a =
      if s = c.stroke ∧ a = c.activity then t.get s a + c.distance else t.get s a := by
  unfold get add
  rw [row_modifyRow]
  by_cases hs : s = c.stroke
  · subst hs
    rw [if_pos rfl, ActivityTotals.get_modify]
    by_cases ha : a = c.activity <;> simp [ha]
  · simp [hs]

/-- The table with contributions added one after another. -/
def addAll (t : Totals D) (cs : List (Contribution D)) : Totals D := cs.foldl add t

/-- The totals of lines. -/
def ofLines (ls : List (ParsedLine D)) : Totals D :=
  ls.foldl (fun t l => t.addAll l.contributions) zero

/-- The whole distance in a stroke. -/
def strokeTotal (t : Totals D) (s : Stroke) : D := Metres.sum (Activity.all.map (t.get s))

/-- The whole distance in an activity. -/
def activityTotal (t : Totals D) (a : Activity) : D :=
  Metres.sum (Stroke.all.map fun s => t.get s a)

/-- The cells in canonical order, row by row. -/
def cells (t : Totals D) : List (Contribution D) :=
  Stroke.all.flatMap fun s => Activity.all.map fun a => ⟨s, a, t.get s a⟩

/-- The whole distance. -/
def total (t : Totals D) : D := Metres.sum (t.cells.map (·.distance))

/-- The cells that are not zero, in canonical order. -/
def nonzero (t : Totals D) : List (Contribution D) :=
  t.cells.filter fun c => !Metres.isZero c.distance

end Totals

end SwimSets
