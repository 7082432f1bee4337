import Mathlib.Algebra.Group.Nat.Defs
import SwimSets.Proofs.Words
import SwimSets.Report.Amount

/-!
# How the digits of a distance are grouped

**Theorem (`digits_grouped`).** A distance in a report is its fixed-point text with commas put in.
They stand between groups of three digits, counted from the point, and nowhere else: the first group
has one to three digits, and neither sign nor decimal places have a comma. What is no finite number
has none at all.

**Groups** (`DigitGroups`). The digits before the point. They are grouped from the left, but counted
from the right: when a digit is put before others, these are grouped already, and their number tells
whether it starts a group of its own (`exists_digitGroups`).

**Fixed-point texts.** A sign, digits, and decimal places behind a point (`DecimalPlaces`). Only the
digits are grouped (`groupFixed_signed`).
-/

namespace SwimSets

/-! ## Digits of a number -/

theorem isDigit_of_mem_ofNat {n : Nat} {c : Char} (h : c ∈ Text.ofNat n) : c.isDigit = true :=
  Nat.isDigit_of_mem_toDigits (by decide) (by decide) h

theorem length_ofNat_le_iff {n k : Nat} (hk : 0 < k) : (Text.ofNat n).length ≤ k ↔ n < 10 ^ k :=
  Nat.length_toDigits_le_iff (by decide) hk

theorem length_ofNat_pos (n : Nat) : 0 < (Text.ofNat n).length := Nat.length_toDigits_pos

/-- The digits of a part below `10 ^ places`, with zeros before them. -/
theorem length_part {n places : Nat} (h : 0 < places) :
    (List.replicate (places - (Text.ofNat (n % Nat.pow 10 places)).length) '0' ++
      Text.ofNat (n % Nat.pow 10 places)).length = places := by
  have hle : (Text.ofNat (n % Nat.pow 10 places)).length ≤ places :=
    (length_ofNat_le_iff h).mpr (Nat.mod_lt n (Nat.pow_pos (by decide)))
  rw [List.length_append, List.length_replicate]
  omega

/-- The decimal places of a fixed-point text: that many digits behind a point, if there are any. -/
structure DecimalPlaces (places : Nat) (part : Text) : Prop where
  none : places = 0 → part = []
  some : 0 < places → ∃ ds, part = '.' :: ds ∧ ds.length = places ∧ ∀ c ∈ ds, c.isDigit = true

namespace DecimalPlaces

variable {places : Nat} {part : Text}

theorem cases (h : DecimalPlaces places part) : part = [] ∨ ∃ ds, part = '.' :: ds := by
  rcases Nat.eq_zero_or_pos places with h0 | hpos
  · exact .inl (h.none h0)
  · obtain ⟨ds, hds, -⟩ := h.some hpos
    exact .inr ⟨ds, hds⟩

theorem mem (h : DecimalPlaces places part) {c : Char} (hc : c ∈ part) :
    c = '.' ∨ c.isDigit = true := by
  rcases Nat.eq_zero_or_pos places with h0 | hpos
  · rw [h.none h0] at hc
    cases hc
  · obtain ⟨ds, rfl, -, hds⟩ := h.some hpos
    exact (List.mem_cons.mp hc).imp_right (hds c)

theorem length_eq (h : DecimalPlaces places part) :
    part.length = if places = 0 then 0 else places + 1 := by
  rcases Nat.eq_zero_or_pos places with h0 | hpos
  · rw [h.none h0, if_pos h0, List.length_nil]
  · obtain ⟨ds, rfl, hlen, -⟩ := h.some hpos
    rw [if_neg (Nat.ne_of_gt hpos), List.length_cons, hlen]

end DecimalPlaces

/-- A whole number of units is written in digits and decimal places. -/
theorem exists_decimalPlaces (n places : Nat) : ∃ part, DecimalPlaces places part ∧
    pointed n places = Text.ofNat (n / Nat.pow 10 places) ++ part := by
  by_cases h0 : places = 0
  · refine ⟨[], ⟨fun _ => rfl, fun hpos => absurd h0 (Nat.ne_of_gt hpos)⟩, ?_⟩
    simp [pointed, h0]
  · have hpos := Nat.pos_of_ne_zero h0
    refine ⟨'.' :: (List.replicate (places - (Text.ofNat (n % Nat.pow 10 places)).length) '0' ++
      Text.ofNat (n % Nat.pow 10 places)), ⟨fun h => absurd h h0, fun _ => ⟨_, rfl,
        length_part hpos, fun c hc => ?_⟩⟩, ?_⟩
    · rcases List.mem_append.mp hc with hc | hc
      · rw [(List.mem_replicate.mp hc).2]
        rfl
      · exact isDigit_of_mem_ofNat hc
    · simp [pointed, h0]

/-! ## Groups of digits -/

/-- Digits in groups of three, but for the first group. -/
structure DigitGroups where
  first : Text
  rest : List Text
  first_pos : 0 < first.length
  first_le : first.length ≤ 3
  rest_length : ∀ g ∈ rest, g.length = 3
  isDigit : ∀ g ∈ first :: rest, ∀ c ∈ g, c.isDigit = true

namespace DigitGroups

/-- The digits one after another. -/
def digits (g : DigitGroups) : Text := (g.first :: g.rest).flatten

/-- The groups with a comma between each two. -/
def text (g : DigitGroups) : Text := Text.join [','] (g.first :: g.rest)

theorem length_digits (g : DigitGroups) :
    g.digits.length = g.first.length + 3 * g.rest.length := by
  have hrest : ∀ gs : List Text, (∀ h ∈ gs, h.length = 3) → gs.flatten.length = 3 * gs.length := by
    intro gs hgs
    induction gs with
    | nil => rfl
    | cons h gs ih =>
      rw [List.forall_mem_cons] at hgs
      rw [List.flatten_cons, List.length_append, hgs.1, ih hgs.2, List.length_cons]
      omega
  rw [digits, List.flatten_cons, List.length_append, hrest g.rest g.rest_length]

end DigitGroups

/-- **Digits are put in groups of three from the right.** -/
theorem exists_digitGroups {t : Text} (hne : t ≠ []) (ht : ∀ c ∈ t, c.isDigit = true) :
    ∃ g : DigitGroups, g.digits = t ∧ g.text = groupThousands t := by
  induction t with
  | nil => exact absurd rfl hne
  | cons c r ih =>
    obtain ⟨hc, hr⟩ := List.forall_mem_cons.mp ht
    have hsingle := List.forall_mem_singleton (p := fun d : Char => d.isDigit = true).mpr hc
    by_cases hnil : r = []
    · subst hnil
      exact ⟨⟨[c], [], Nat.one_pos, Nat.le_of_ble_eq_true rfl, List.forall_mem_nil _,
        List.forall_mem_singleton.mpr hsingle⟩, rfl, rfl⟩
    obtain ⟨g, rfl, htext⟩ := ih hnil hr
    have hlen := g.length_digits
    have hpos := g.first_pos
    have hle := g.first_le
    rw [groupThousands, ← htext]
    by_cases h3 : g.digits.length % 3 = 0
    · -- The digits behind are full groups, so this one starts a group.
      have hfull : g.first.length = 3 := by omega
      refine ⟨⟨[c], g.first :: g.rest, Nat.one_pos, Nat.le_of_ble_eq_true rfl,
        List.forall_mem_cons.mpr ⟨hfull, g.rest_length⟩,
        List.forall_mem_cons.mpr ⟨hsingle, g.isDigit⟩⟩, rfl, ?_⟩
      rw [if_pos (by simp [h3, hnil])]
      rfl
    · have hshort : g.first.length + 1 ≤ 3 := by omega
      refine ⟨⟨c :: g.first, g.rest, Nat.succ_pos _, hshort, g.rest_length,
        List.forall_mem_cons.mpr ⟨List.forall_mem_cons.mpr ⟨hc, g.isDigit _ List.mem_cons_self⟩,
          (List.forall_mem_cons.mp g.isDigit).2⟩⟩, rfl, ?_⟩
      rw [if_neg (by simp [h3])]
      exact Text.join_cons_cons [','] c g.first g.rest

/-- Without its commas a grouped text is what it was. -/
theorem filter_groupThousands (t : Text) :
    (groupThousands t).filter (· != ',') = t.filter (· != ',') := by
  induction t with
  | nil => rfl
  | cons c r ih =>
    rw [groupThousands]
    split_ifs
    · rw [List.filter_cons, List.filter_cons_of_neg (by decide), ih, List.filter_cons]
    · rw [List.filter_cons, ih, List.filter_cons]

theorem filter_groupFixed (t : Text) :
    (groupFixed t).filter (· != ',') = t.filter (· != ',') := by
  have hunsigned : ∀ r : Text, (groupThousands (r.takeWhile fun c => !(c == '.')) ++
      r.dropWhile fun c => !(c == '.')).filter (· != ',') = r.filter (· != ',') := by
    intro r
    rw [List.filter_append, filter_groupThousands, ← List.filter_append,
      List.takeWhile_append_dropWhile]
  unfold groupFixed
  split
  · rw [List.filter_cons, hunsigned, List.filter_cons]
  · exact hunsigned t

/-! ## Fixed-point texts -/

theorem ne_of_isDigit {c d : Char} (h : c.isDigit = true) (hd : d.isDigit = false) : c ≠ d := by
  rintro rfl
  simp [hd] at h

/-- Only the digits before the point are grouped. -/
theorem groupFixed_signed (negative : Bool) {ds part : Text} (hne : ds ≠ [])
    (hds : ∀ c ∈ ds, c.isDigit = true) (hpart : part = [] ∨ ∃ r, part = '.' :: r) :
    groupFixed (signed negative (ds ++ part)) = signed negative (groupThousands ds ++ part) := by
  have hpoint : ∀ c ∈ ds, (!(c == '.')) = true := by
    intro c hc
    simpa using ne_of_isDigit (hds c hc) (by decide)
  have hstop : part.takeWhile (fun c => !(c == '.')) = [] ∧
      part.dropWhile (fun c => !(c == '.')) = part := by
    obtain rfl | ⟨r, rfl⟩ := hpart
    · exact ⟨rfl, rfl⟩
    · exact ⟨rfl, rfl⟩
  have htake : (ds ++ part).takeWhile (fun c => !(c == '.')) = ds := by
    rw [List.takeWhile_append_of_pos hpoint, hstop.1, List.append_nil]
  have hdrop : (ds ++ part).dropWhile (fun c => !(c == '.')) = part := by
    rw [List.dropWhile_append_of_pos hpoint, hstop.2]
  cases negative with
  | true => rw [signed, if_pos rfl, groupFixed, htake, hdrop, signed, if_pos rfl]
  | false =>
    rw [signed, if_neg Bool.false_ne_true, signed, if_neg Bool.false_ne_true]
    obtain ⟨d, r, rfl⟩ := List.exists_cons_of_ne_nil hne
    unfold groupFixed
    dsimp only
    split
    · rename_i heq
      exact absurd (List.cons.inj heq).1 (ne_of_isDigit (hds d List.mem_cons_self) (by decide))
    · rw [htake, hdrop]

namespace Double

/-- What is written of a finite double: its sign, digits and decimal places. -/
theorem exists_fixed (negative : Bool) (m : Nat) (q : Int) (places : Nat) :
    ∃ ds part, ds ≠ [] ∧ (∀ c ∈ ds, c.isDigit = true) ∧ DecimalPlaces places part ∧
      (finite negative m q).fixed places = signed negative (ds ++ part) := by
  obtain ⟨part, hpart, heq⟩ := exists_decimalPlaces
    (divEven ((scaleTwo m q).1 * Nat.pow 10 places) (scaleTwo m q).2) places
  exact ⟨_, part, List.ne_nil_of_length_pos (length_ofNat_pos _),
    fun c => isDigit_of_mem_ofNat, hpart, congrArg (signed negative) heq⟩

/-- No fixed-point text has a comma. -/
theorem comma_not_mem_fixed (d : Double) (places : Nat) : ',' ∉ d.fixed places := by
  have hsigned {negative : Bool} {t : Text} (h : ',' ∉ t) : ',' ∉ signed negative t := by
    cases negative
    · exact h
    · exact List.not_mem_cons_of_ne_of_not_mem (by decide) h
  cases d with
  | nan => exact of_decide_eq_true rfl
  | infinite negative => exact hsigned (by decide)
  | finite negative m q =>
    obtain ⟨ds, part, -, hds, hpart, heq⟩ := exists_fixed negative m q places
    rw [heq]
    refine hsigned fun hmem => ?_
    rcases List.mem_append.mp hmem with hc | hc
    · exact absurd (hds _ hc) (by decide)
    · exact absurd (hpart.mem hc) (by decide)

end Double

/-- **The digits of a distance are grouped in threes.** Without its commas a distance in a report is
its fixed-point text. Commas stand between the groups of its digits before the point, and nowhere
else; what is no finite number has none. -/
theorem digits_grouped (distance : Float) (decimals : Nat) :
    (amount distance decimals).filter (· != ',') = (Double.ofFloat distance).fixed decimals ∧
      match Double.ofFloat distance with
      | .nan => amount distance decimals = "NaN".toList
      | .infinite negative => amount distance decimals = signed negative "inf".toList
      | .finite negative _ _ => ∃ (g : DigitGroups) (part : Text), DecimalPlaces decimals part ∧
          (Double.ofFloat distance).fixed decimals = signed negative (g.digits ++ part) ∧
          amount distance decimals = signed negative (g.text ++ part) := by
  rw [amount]
  refine ⟨?_, ?_⟩
  · rw [filter_groupFixed, List.filter_eq_self]
    intro c hc
    have hne : c ≠ ',' := fun he => (Double.ofFloat distance).comma_not_mem_fixed decimals (he ▸ hc)
    simpa using hne
  · cases Double.ofFloat distance with
    | nan => rfl
    | infinite negative => cases negative <;> rfl
    | finite negative m q =>
      obtain ⟨ds, part, hne, hds, hpart, heq⟩ := Double.exists_fixed negative m q decimals
      obtain ⟨g, rfl, htext⟩ := exists_digitGroups hne hds
      refine ⟨g, part, hpart, heq, ?_⟩
      rw [heq, groupFixed_signed negative hne hds hpart.cases, htext]

end SwimSets
