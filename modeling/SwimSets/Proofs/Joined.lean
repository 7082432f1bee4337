import SwimSets.Proofs.Seams

/-!
# Searching two texts put together

**Two texts** (`Scanner.hitsFrom_append`). If the scanner stops at the seam, the occurrences in
both texts are those in the one and then those in the other, further on.

**One text in which nothing is found** (`Scanner.FailsThrough`). Put before another text it moves
the occurrences there (`Scanner.hits_behind`); put behind, it leaves them as they are
(`Scanner.hits_before`). Blanking out the occurrences goes the same way.
-/

namespace SwimSets

/-- The stretch, `k` characters further on. -/
def Span.moved (s : Span) (k : Nat) : Span := ⟨s.start + k, s.stop + k⟩

/-- The occurrence, `k` characters further on. -/
def Hit.moved {α : Type} (h : Hit α) (k : Nat) : Hit α := ⟨h.value, h.span.moved k⟩

namespace Scanner

variable {α : Type} {s : Scanner α} {u v : Text}

/-! ## Texts in which nothing is found -/

/-- The scanner fails at each place of `u` with `v` behind it. -/
def FailsThrough (u v : Text) (s : Scanner α) : Prop :=
  ∀ b, b <:+ u → b ≠ [] → Fails (b ++ v) s

theorem FailsThrough.tail {x : Char} (h : FailsThrough (x :: u) v s) : FailsThrough u v s :=
  fun b hb => h b (hb.trans (List.suffix_cons x u))

theorem FailsThrough.head {x : Char} (h : FailsThrough (x :: u) v s) : Fails (x :: (u ++ v)) s :=
  h (x :: u) List.suffix_rfl (List.cons_ne_nil x u)

/-- A scanner fails at each place of a text without the characters that it can begin with. -/
theorem OpensWith.failsThrough {p : Char → Bool} (ho : OpensWith p s) (hu : ∀ x ∈ u, p x = false)
    (v : Text) : FailsThrough u v s := by
  intro b hb hne
  obtain ⟨x, b, rfl⟩ := List.exists_cons_of_ne_nil hne
  exact ho.fails (hu x (hb.subset List.mem_cons_self))

/-- Nothing is listed in a text at whose places the scanner fails. -/
theorem hitsFrom_of_failsThrough (h : FailsThrough u v s) (pos : Nat) (q : Option Char) :
    hitsFrom s pos 0 q (u ++ v) = hitsFrom s (pos + u.length) 0 (u.getLast?.or q) v := by
  induction u generalizing pos q with
  | nil => rfl
  | cons x u ih =>
    rw [List.cons_append, hitsFrom, h.head q]
    dsimp only
    rw [ih h.tail, getLast?_cons_or, List.length_cons, Nat.add_right_comm, Nat.add_assoc]

theorem blankFrom_of_failsThrough (h : FailsThrough u v s) (q : Option Char) :
    blankFrom s 0 q (u ++ v) = u ++ blankFrom s 0 (u.getLast?.or q) v := by
  induction u generalizing q with
  | nil => rfl
  | cons x u ih =>
    rw [List.cons_append, blankFrom, h.head q]
    dsimp only
    rw [ih h.tail, getLast?_cons_or, List.cons_append]

/-- A text that is read as a whole makes one space. -/
theorem blankFrom_of_reads {x : Char} {q q' : Option Char} {a : α}
    (h : s ⟨q, x :: (u ++ v)⟩ = some (a, ⟨q', v⟩)) :
    blankFrom s 0 q (x :: (u ++ v)) = ' ' :: blankFrom s 0 ((x :: u).getLast?.or q) v := by
  have passed (u : Text) (p : Option Char) :
      blankFrom s u.length p (u ++ v) = blankFrom s 0 (u.getLast?.or p) v := by
    induction u generalizing p with
    | nil => rfl
    | cons y u ih =>
      rw [List.cons_append, List.length_cons, blankFrom, ih, getLast?_cons_or]
  rw [blankFrom, h]
  dsimp only
  rw [List.length_append, Nat.add_sub_cancel, passed, getLast?_cons_or]

/-- A text that is read as a whole is the first occurrence. -/
theorem hitsFrom_of_reads {x : Char} {q q' : Option Char} {a : α}
    (h : s ⟨q, x :: (u ++ v)⟩ = some (a, ⟨q', v⟩)) (pos : Nat) :
    hitsFrom s pos 0 q (x :: (u ++ v)) = ⟨a, pos, pos + u.length + 1⟩ ::
      hitsFrom s (pos + u.length + 1) 0 ((x :: u).getLast?.or q) v := by
  have passed (u : Text) (pos : Nat) (p : Option Char) :
      hitsFrom s pos u.length p (u ++ v) = hitsFrom s (pos + u.length) 0 (u.getLast?.or p) v := by
    induction u generalizing pos p with
    | nil => rfl
    | cons y u ih =>
      rw [List.cons_append, List.length_cons, hitsFrom, ih, getLast?_cons_or, Nat.add_right_comm,
        Nat.add_assoc]
  rw [hitsFrom, h]
  dsimp only
  rw [List.length_append, Nat.add_sub_cancel, passed, getLast?_cons_or, Nat.add_right_comm]

/-! ## Two texts -/

theorem hitsFrom_moved (s : Scanner α) (t : Text) (pos skip k : Nat) (q : Option Char) :
    hitsFrom s (pos + k) skip q t = (hitsFrom s pos skip q t).map (·.moved k) := by
  induction t generalizing pos skip q with
  | nil => rfl
  | cons x r ih =>
    cases skip with
    | succ n => rw [hitsFrom, hitsFrom, Nat.add_right_comm, ih]
    | zero =>
      rw [hitsFrom, hitsFrom]
      cases s ⟨q, x :: r⟩ with
      | none =>
        dsimp only
        rw [Nat.add_right_comm, ih]
      | some found =>
        obtain ⟨a, d⟩ := found
        dsimp only
        rw [List.map_cons, ← ih, Nat.add_right_comm pos 1 k]
        simp only [Hit.moved, Span.moved]
        congr 3
        omega

/-- The occurrences in two texts are those in the one and then those in the other. -/
theorem hitsFrom_append (pos : Nat) {k : Nat} (hk : k ≤ u.length) {q : Option Char}
    (h : ∀ i < u.length, AlikeAt v s (Cursor.advance ⟨q, u⟩ i)) :
    hitsFrom s pos k q (u ++ v) =
      hitsFrom s pos k q u ++ hitsFrom s (pos + u.length) 0 (u.getLast?.or q) v := by
  induction u generalizing pos k q with
  | nil =>
    obtain rfl : k = 0 := Nat.le_zero.1 hk
    rfl
  | cons x r ih =>
    obtain ⟨hx, hr⟩ := forall_place_cons.1 h
    have later {n : Nat} (hn : n ≤ r.length) : hitsFrom s (pos + 1) n (some x) (r ++ v) =
        hitsFrom s (pos + 1) n (some x) r ++
          hitsFrom s (pos + (x :: r).length) 0 ((x :: r).getLast?.or q) v := by
      rw [ih (pos + 1) hn hr, getLast?_cons_or, List.length_cons, Nat.add_right_comm,
        Nat.add_assoc]
    cases k with
    | succ n => simpa only [List.cons_append, hitsFrom] using later (by simpa using hk)
    | zero =>
      replace hx : s ⟨q, x :: (r ++ v)⟩ = (s ⟨q, x :: r⟩).map fun e => (e.1, e.2.before v) := hx
      rw [List.cons_append, hitsFrom, hitsFrom, hx]
      cases s ⟨q, x :: r⟩ with
      | none => exact later (Nat.zero_le _)
      | some found =>
        obtain ⟨a, d⟩ := found
        simp only [Option.map_some, Cursor.length_sub_before, List.cons_append]
        rw [later (Nat.sub_le ..)]

theorem blankFrom_append {k : Nat} (hk : k ≤ u.length) {q : Option Char}
    (h : ∀ i < u.length, AlikeAt v s (Cursor.advance ⟨q, u⟩ i)) :
    blankFrom s k q (u ++ v) =
      blankFrom s k q u ++ blankFrom s 0 (u.getLast?.or q) v := by
  induction u generalizing k q with
  | nil =>
    obtain rfl : k = 0 := Nat.le_zero.1 hk
    rfl
  | cons x r ih =>
    obtain ⟨hx, hr⟩ := forall_place_cons.1 h
    have later {n : Nat} (hn : n ≤ r.length) : blankFrom s n (some x) (r ++ v) =
        blankFrom s n (some x) r ++ blankFrom s 0 ((x :: r).getLast?.or q) v := by
      rw [ih hn hr, getLast?_cons_or]
    cases k with
    | succ n => simpa only [List.cons_append, blankFrom] using later (by simpa using hk)
    | zero =>
      replace hx : s ⟨q, x :: (r ++ v)⟩ = (s ⟨q, x :: r⟩).map fun e => (e.1, e.2.before v) := hx
      rw [List.cons_append, blankFrom, blankFrom, hx]
      cases s ⟨q, x :: r⟩ with
      | none => simp only [Option.map_none, List.cons_append, later (Nat.zero_le _)]
      | some found =>
        obtain ⟨a, d⟩ := found
        simp only [Option.map_some, Cursor.length_sub_before, List.cons_append]
        rw [later (Nat.sub_le ..)]

theorem hitsFrom_afresh (h : StartsAfresh s) {q : Option Char} (hq : q.any isWordChar = false)
    (pos : Nat) (t : Text) : hitsFrom s pos 0 q t = hitsFrom s pos 0 none t := by
  cases t with
  | nil => rfl
  | cons x r => rw [hitsFrom, hitsFrom, h q _ hq]

theorem blankFrom_afresh (h : StartsAfresh s) {q : Option Char} (hq : q.any isWordChar = false)
    (t : Text) : blankFrom s 0 q t = blankOut s t := by
  cases t with
  | nil => rfl
  | cons x r => rw [blankOut, blankFrom, blankFrom, h q _ hq]

/-! ## A text put before or behind -/

/-- Behind a text in which nothing is found, everything is found further on. -/
theorem hits_behind (h : StartsAfresh s) (hu : u.getLast?.any isWordChar = false)
    (hf : FailsThrough u v s) : s.hits (u ++ v) = (s.hits v).map (·.moved u.length) := by
  rw [hits, hitsFrom_of_failsThrough hf, Option.or_none, hitsFrom_afresh h hu, hits,
    hitsFrom_moved]

theorem occursIn_behind (h : StartsAfresh s) (hu : u.getLast?.any isWordChar = false)
    (hf : FailsThrough u v s) : s.occursIn (u ++ v) = s.occursIn v := by
  rw [occursIn, occursIn, hits_behind h hu hf, List.isEmpty_map]

theorem blankOut_behind (h : StartsAfresh s) (hu : u.getLast?.any isWordChar = false)
    (hf : FailsThrough u v s) : s.blankOut (u ++ v) = u ++ s.blankOut v := by
  rw [blankOut, blankFrom_of_failsThrough hf, Option.or_none, blankFrom_afresh h hu]

/-- Before a text in which nothing is found, and into which nothing runs, everything is found as
before. -/
theorem hits_before (h : StopsAt v s) (hf : FailsThrough v [] s) (u : Text) :
    s.hits (u ++ v) = s.hits u := by
  have hv := hitsFrom_of_failsThrough hf (0 + u.length) (u.getLast?.or none)
  rw [List.append_nil] at hv
  rw [hits, hitsFrom_append 0 (Nat.zero_le _) fun i _ => h _, hv]
  exact List.append_nil _

theorem occursIn_before (h : StopsAt v s) (hf : FailsThrough v [] s) (u : Text) :
    s.occursIn (u ++ v) = s.occursIn u := by
  rw [occursIn, occursIn, hits_before h hf]

theorem blankOut_before (h : StopsAt v s) (hf : FailsThrough v [] s) (u : Text) :
    s.blankOut (u ++ v) = s.blankOut u ++ v := by
  have hv := blankFrom_of_failsThrough hf (u.getLast?.or none)
  rw [List.append_nil] at hv
  rw [blankOut, blankFrom_append (Nat.zero_le _) fun i _ => h _, hv, blankFrom, List.append_nil,
    blankOut]

end Scanner

end SwimSets
