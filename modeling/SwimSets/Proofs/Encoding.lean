import SwimSets.Text.Utf8
import Mathlib.Tactic.Common

/-!
# Texts and bytes are read back into each other

**Theorem (`ofUtf8_eq_ok_iff`).** Bytes are read as the text `t` exactly when they are the bytes
that `t` is written as. So bytes that are refused are the bytes of no text, and no text is written
in two ways.

Writer and reader meet in `Form`: the four forms of a character, each with the bounds on its bytes
and the code that they carry. What the writer writes is a form (`form_encode`), every form is what
the writer writes (`Form.eq_encode`), and the reader takes exactly the forms
(`Form.ofUtf8From_append`, `exists_form`).
-/

namespace SwimSets.Text

/-! ## Bytes as numbers -/

theorem isContinuation_iff (b : UInt8) : isContinuation b ↔ 128 ≤ b.toNat ∧ b.toNat ≤ 191 := by
  simp [isContinuation, UInt8.le_iff_toNat_le]

theorem startsThree_iff (a b : UInt8) :
    startsThree a b ↔
      (a.toNat = 224 ∧ 160 ≤ b.toNat ∧ b.toNat ≤ 191) ∨
      (a.toNat = 237 ∧ 128 ≤ b.toNat ∧ b.toNat ≤ 159) ∨
      (225 ≤ a.toNat ∧ a.toNat ≤ 239 ∧ a.toNat ≠ 237 ∧ 128 ≤ b.toNat ∧ b.toNat ≤ 191) := by
  simp [startsThree, isContinuation_iff, UInt8.le_iff_toNat_le, ← UInt8.toNat_inj, and_assoc,
    or_assoc]

theorem startsFour_iff (a b : UInt8) :
    startsFour a b ↔
      (a.toNat = 240 ∧ 144 ≤ b.toNat ∧ b.toNat ≤ 191) ∨
      (a.toNat = 244 ∧ 128 ≤ b.toNat ∧ b.toNat ≤ 143) ∨
      (241 ≤ a.toNat ∧ a.toNat ≤ 243 ∧ 128 ≤ b.toNat ∧ b.toNat ≤ 191) := by
  simp [startsFour, isContinuation_iff, UInt8.le_iff_toNat_le, ← UInt8.toNat_inj, and_assoc,
    or_assoc]

theorem char_valid (c : Char) : c.toNat < 55296 ∨ (57343 < c.toNat ∧ c.toNat < 1114112) :=
  c.valid

/-- A number that is a code is the code of its character. -/
theorem toNat_ofNat_of_valid {n : Nat} (h : n < 55296 ∨ (57343 < n ∧ n < 1114112)) :
    (Char.ofNat n).toNat = n := by
  unfold Char.ofNat
  rw [dif_pos h]
  exact UInt32.toNat_ofNatLT

/-! ## The forms of a character -/

/-- The bytes are one of the four forms, and the code that they carry is the character's. -/
inductive Form (x : Char) : List UInt8 → Prop where
  /-- A byte below 80. -/
  | one {a : UInt8} (ha : a.toNat < 128) (hx : x.toNat = a.toNat) : Form x [a]
  /-- A lead byte and one continuation byte. -/
  | two {a b : UInt8} (ha : 194 ≤ a.toNat ∧ a.toNat ≤ 223) (hb : isContinuation b)
      (hx : x.toNat = a.toNat % 32 * 64 + continuationBits b) : Form x [a, b]
  /-- A lead byte and two continuation bytes. -/
  | three {a b c : UInt8} (hab : startsThree a b) (hc : isContinuation c)
      (hx : x.toNat = (a.toNat % 16 * 64 + continuationBits b) * 64 + continuationBits c) :
      Form x [a, b, c]
  /-- A lead byte and three continuation bytes. -/
  | four {a b c d : UInt8} (hab : startsFour a b) (hc : isContinuation c) (hd : isContinuation d)
      (hx : x.toNat = ((a.toNat % 8 * 64 + continuationBits b) * 64 + continuationBits c) * 64 +
        continuationBits d) : Form x [a, b, c, d]

/-- What a character is written as, with the code as a number. -/
theorem encode_eq (x : Char) :
    String.utf8EncodeChar x =
      if x.toNat ≤ 127 then [UInt8.ofNat x.toNat]
      else if x.toNat ≤ 2047 then
        [UInt8.ofNat (x.toNat / 64 % 32 + 192), UInt8.ofNat (x.toNat % 64 + 128)]
      else if x.toNat ≤ 65535 then
        [UInt8.ofNat (x.toNat / 4096 % 16 + 224), UInt8.ofNat (x.toNat / 64 % 64 + 128),
          UInt8.ofNat (x.toNat % 64 + 128)]
      else
        [UInt8.ofNat (x.toNat / 262144 % 8 + 240), UInt8.ofNat (x.toNat / 4096 % 64 + 128),
          UInt8.ofNat (x.toNat / 64 % 64 + 128), UInt8.ofNat (x.toNat % 64 + 128)] :=
  rfl

theorem form_encode (x : Char) : Form x (String.utf8EncodeChar x) := by
  have hv := char_valid x
  rw [encode_eq]
  by_cases h1 : x.toNat ≤ 127
  · rw [if_pos h1]
    exact .one (by simp; omega) (by simp; omega)
  rw [if_neg h1]
  by_cases h2 : x.toNat ≤ 2047
  · rw [if_pos h2]
    exact .two (by simp; omega) (by simp [isContinuation_iff]; omega)
      (by simp [continuationBits]; omega)
  rw [if_neg h2]
  by_cases h3 : x.toNat ≤ 65535
  · rw [if_pos h3]
    exact .three (by simp [startsThree_iff]; omega) (by simp [isContinuation_iff]; omega)
      (by simp [continuationBits]; omega)
  rw [if_neg h3]
  exact .four (by simp [startsFour_iff]; omega) (by simp [isContinuation_iff]; omega)
    (by simp [isContinuation_iff]; omega) (by simp [continuationBits]; omega)

theorem Form.eq_encode {x : Char} {l : List UInt8} (h : Form x l) :
    l = String.utf8EncodeChar x := by
  rw [encode_eq]
  cases h with
  | one ha hx =>
    rw [if_pos (by omega), hx, UInt8.ofNat_toNat]
  | two ha hb hx =>
    rw [isContinuation_iff] at hb
    simp only [continuationBits] at hx
    rw [if_neg (by omega), if_pos (by omega)]
    simp [← UInt8.toNat_inj]
    omega
  | three hab hc hx =>
    rw [startsThree_iff] at hab
    rw [isContinuation_iff] at hc
    simp only [continuationBits] at hx
    rw [if_neg (by omega), if_neg (by omega), if_pos (by omega)]
    simp [← UInt8.toNat_inj]
    omega
  | four hab hc hd hx =>
    rw [startsFour_iff] at hab
    rw [isContinuation_iff] at hc hd
    simp only [continuationBits] at hx
    rw [if_neg (by omega), if_neg (by omega), if_neg (by omega)]
    simp [← UInt8.toNat_inj]
    omega

/-! ## The reader takes the forms -/

theorem isLeadOfTwo_iff (a : UInt8) : 0xC2 ≤ a && a ≤ 0xDF ↔ 194 ≤ a.toNat ∧ a.toNat ≤ 223 := by
  simp [UInt8.le_iff_toNat_le]

theorem lt_0x80_iff (a : UInt8) : a < 0x80 ↔ a.toNat < 128 := by
  simp [UInt8.lt_iff_toNat_lt]

/-- Reading a form gives its character and goes on behind it. -/
theorem Form.ofUtf8From_append {x : Char} {l : List UInt8} (h : Form x l) (pos : Nat)
    (r : List UInt8) :
    ofUtf8From pos (l ++ r) = (ofUtf8From (pos + l.length) r).map (x :: ·) := by
  have hx' : Char.ofNat x.toNat = x := Char.ofNat_toNat x
  cases h with
  | one ha hx =>
    simp only [List.cons_append, List.nil_append]
    rw [ofUtf8From.eq_def]
    simp only
    rw [if_pos (by rwa [lt_0x80_iff]), ← hx, hx']
    rfl
  | two ha hb hx =>
    simp only [List.cons_append, List.nil_append]
    rw [ofUtf8From.eq_def]
    simp only
    rw [if_neg (by rw [lt_0x80_iff]; omega), if_pos]
    · rw [← hx, hx']
      rfl
    · rw [Bool.and_eq_true, isLeadOfTwo_iff]
      exact ⟨ha, hb⟩
  | three hab hc hx =>
    have hab' := hab
    rw [startsThree_iff] at hab'
    simp only [List.cons_append, List.nil_append]
    rw [ofUtf8From.eq_def]
    simp only
    rw [if_neg (by rw [lt_0x80_iff]; omega), if_neg, if_pos (by simp [hab, hc]), ← hx,
      hx']
    · rfl
    · rw [Bool.and_eq_true, isLeadOfTwo_iff]
      omega
  | four hab hc hd hx =>
    have hab' := hab
    rw [startsFour_iff] at hab'
    simp only [List.cons_append, List.nil_append]
    rw [ofUtf8From.eq_def]
    simp only
    rw [if_neg (by rw [lt_0x80_iff]; omega), if_neg, if_neg,
      if_pos (by simp [hab, hc, hd]), ← hx, hx']
    · rfl
    · rw [Bool.and_eq_true, startsThree_iff]
      omega
    · rw [Bool.and_eq_true, isLeadOfTwo_iff]
      omega

theorem map_cons_eq_ok {ε : Type} {e : Except ε Text} {y : Char} {t : Text}
    (h : e.map (y :: ·) = .ok t) : ∃ u, t = y :: u ∧ e = .ok u := by
  cases e with
  | error e => cases h
  | ok u =>
    cases h
    exact ⟨u, rfl, rfl⟩

/-- Bytes that are read are none, or a form of the first character and bytes that are read as the
others. -/
theorem exists_form {pos : Nat} {bytes : List UInt8} {t : Text}
    (h : ofUtf8From pos bytes = .ok t) :
    (bytes = [] ∧ t = []) ∨ ∃ l r x u, bytes = l ++ r ∧ t = x :: u ∧ Form x l ∧
      ofUtf8From (pos + l.length) r = .ok u := by
  rw [ofUtf8From.eq_def] at h
  split at h
  · cases h
    exact .inl ⟨rfl, rfl⟩
  right
  rename_i a r
  split_ifs at h with ha
  · obtain ⟨u, rfl, hu⟩ := map_cons_eq_ok h
    rw [lt_0x80_iff] at ha
    exact ⟨[a], r, _, u, rfl, rfl, .one ha (toNat_ofNat_of_valid (by omega)), hu⟩
  rw [lt_0x80_iff] at ha
  split at h
  · cases h
  rename_i b r
  split_ifs at h with hab
  · obtain ⟨u, rfl, hu⟩ := map_cons_eq_ok h
    rw [Bool.and_eq_true, isLeadOfTwo_iff] at hab
    refine ⟨[a, b], r, _, u, rfl, rfl, .two hab.1 hab.2 (toNat_ofNat_of_valid ?_), hu⟩
    simp only [continuationBits]
    omega
  split at h
  · cases h
  rename_i c r
  split_ifs at h with habc
  · obtain ⟨u, rfl, hu⟩ := map_cons_eq_ok h
    rw [Bool.and_eq_true] at habc
    refine ⟨[a, b, c], r, _, u, rfl, rfl, .three habc.1 habc.2 (toNat_ofNat_of_valid ?_), hu⟩
    have hs := habc.1
    rw [startsThree_iff] at hs
    simp only [continuationBits]
    omega
  split at h
  · cases h
  rename_i d r
  split_ifs at h with habcd
  obtain ⟨u, rfl, hu⟩ := map_cons_eq_ok h
  rw [Bool.and_eq_true, Bool.and_eq_true] at habcd
  refine ⟨[a, b, c, d], r, _, u, rfl, rfl,
    .four habcd.1.1 habcd.1.2 habcd.2 (toNat_ofNat_of_valid ?_), hu⟩
  have hs := habcd.1.1
  rw [startsFour_iff] at hs
  simp only [continuationBits]
  omega

/-! ## Whole texts -/

theorem toUtf8_cons (x : Char) (t : Text) :
    toUtf8 (x :: t) = String.utf8EncodeChar x ++ toUtf8 t :=
  List.flatMap_cons

theorem ofUtf8From_toUtf8 (t : Text) (pos : Nat) : ofUtf8From pos t.toUtf8 = .ok t := by
  induction t generalizing pos with
  | nil => rfl
  | cons x t ih =>
    rw [toUtf8_cons, (form_encode x).ofUtf8From_append, ih]
    rfl

theorem toUtf8_of_ofUtf8From {t : Text} {pos : Nat} {bytes : List UInt8}
    (h : ofUtf8From pos bytes = .ok t) : t.toUtf8 = bytes := by
  induction t generalizing pos bytes with
  | nil =>
    obtain ⟨rfl, -⟩ | ⟨l, r, x, u, -, hu, -⟩ := exists_form h
    · rfl
    · cases hu
  | cons x t ih =>
    obtain ⟨-, hx⟩ | ⟨l, r, x, u, rfl, ⟨⟩, hl, hr⟩ := exists_form h
    · cases hx
    · rw [toUtf8_cons, ih hr, hl.eq_encode]

/-- Bytes are read as a text exactly when they are the bytes of that text. -/
theorem ofUtf8_eq_ok_iff {bytes : List UInt8} {t : Text} :
    ofUtf8 bytes = .ok t ↔ t.toUtf8 = bytes := by
  constructor
  · exact toUtf8_of_ofUtf8From
  · rintro rfl
    exact ofUtf8From_toUtf8 t 0

theorem ofUtf8_toUtf8 (t : Text) : ofUtf8 t.toUtf8 = .ok t :=
  ofUtf8_eq_ok_iff.mpr rfl

/-- Bytes are refused exactly when they are the bytes of no text. -/
theorem ofUtf8_eq_error_iff {bytes : List UInt8} :
    (∃ e, ofUtf8 bytes = .error e) ↔ ∀ t : Text, t.toUtf8 ≠ bytes := by
  constructor
  · rintro ⟨e, he⟩ t ht
    rw [← ht, ofUtf8_toUtf8] at he
    cases he
  · intro h
    cases hb : ofUtf8 bytes with
    | error e => exact ⟨e, rfl⟩
    | ok t => exact absurd (ofUtf8_eq_ok_iff.mp hb) (h t)

end SwimSets.Text
