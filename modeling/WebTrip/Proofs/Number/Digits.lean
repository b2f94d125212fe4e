import WebTrip.Proofs.Number.DecimalValue

/-!
# Reading digits

The digits of a text go through the stages of a `Reading`: a mantissa without limits in a short
text, a narrow and then a wide one in a long text, and none at all once all places are taken. What
comes out does not depend on the stages. It is the number that the digits spell, or a rounding of it
where it is not a decimal, and a failure only where the number is too large for the mantissa.

## Main definitions

- `numeral`: the number that digits spell behind a number that is already there
- `Decimal.Reading.Room`: what is known of a reading to which more digits are to come
- `Decimal.Reads`: what a number of some sign and magnitude is read as

## Main statements

- `Decimal.Reading.readOn_digit`: what happens on one digit
- `Decimal.Reading.readOn_take`, `Decimal.Reading.readOn_overflow`: digits that there is room for,
  and digits before the point that there is no room for
- `Decimal.Reading.roundOn_reads`: what a number is rounded to
- `Decimal.Reading.readOn_fraction`: the digits behind the point, however many
-/

namespace WebTrip

/-! ## §1 Digits -/

/-- The character of a digit. -/
def digitChar (d : Fin 10) : Char :=
  Char.ofNat (0x30 + d)

/-- The characters of digits. -/
def digitChars (ds : List (Fin 10)) : List Char :=
  ds.map digitChar

/-- The number that digits spell behind the digits of a number. -/
def numeral (n : ℕ) (ds : List (Fin 10)) : ℕ :=
  ds.foldl (fun n (d : Fin 10) => n * 10 + d) n

@[simp]
theorem numeral_nil (n : ℕ) : numeral n [] = n := rfl

@[simp]
theorem numeral_cons (n : ℕ) (d : Fin 10) (ds : List (Fin 10)) :
    numeral n (d :: ds) = numeral (n * 10 + d) ds := rfl

theorem numeral_append (n : ℕ) (ds es : List (Fin 10)) :
    numeral n (ds ++ es) = numeral (numeral n ds) es := by
  simp only [numeral, List.foldl_append]

/-- Digits behind a number move it to the left and fill up what comes free. -/
theorem numeral_eq (n : ℕ) (ds : List (Fin 10)) :
    numeral n ds = n * 10 ^ ds.length + numeral 0 ds := by
  induction ds generalizing n with
  | nil => simp
  | cons d ds ih =>
    rw [numeral_cons, ih, numeral_cons, ih (0 * 10 + d), List.length_cons]
    ring

theorem numeral_lt (ds : List (Fin 10)) : numeral 0 ds < 10 ^ ds.length := by
  induction ds with
  | nil => simp
  | cons d ds ih =>
    have hd : (d : ℕ) * 10 ^ ds.length ≤ 9 * 10 ^ ds.length :=
      Nat.mul_le_mul_right _ (by omega)
    rw [numeral_cons, zero_mul, zero_add, numeral_eq, List.length_cons, pow_succ]
    omega

/-- Zeros behind a number multiply it with a power of ten. -/
theorem numeral_replicate_zero (n k : ℕ) : numeral n (List.replicate k 0) = n * 10 ^ k := by
  induction k generalizing n with
  | zero => simp
  | succ k ih =>
    rw [List.replicate_succ, numeral_cons, ih]
    show (n * 10 + 0) * 10 ^ k = n * 10 ^ (k + 1)
    ring

theorem le_numeral (n : ℕ) (ds : List (Fin 10)) : n ≤ numeral n ds := by
  rw [numeral_eq]
  have : n * 1 ≤ n * 10 ^ ds.length := Nat.mul_le_mul_left n (Nat.one_le_pow _ _ (by omega))
  omega

namespace Decimal

theorem digit?_digitChar (d : Fin 10) : digit? (digitChar d) = some d.val := by
  revert d
  decide

variable {r : Reading} {limited : Bool} {left : ℕ}

namespace Reading

/-! ## §2 One digit -/

/-- What is known of a reading before the next digit, and that at most `left` digits are still to
come. -/
inductive Room (r : Reading) : (limited : Bool) → (left : ℕ) → Prop where
  /-- A short text has room for all its digits. -/
  | short {read left : ℕ} : r.stage = .narrow → r.mantissa < 10 ^ read → r.scale ≤ read →
      read + left ≤ 17 → Room r false left
  | narrow {left : ℕ} : r.stage = .narrow → r.mantissa < narrowLimit →
      (r.point = true → r.scale < 28) → Room r true left
  | wide {left : ℕ} : r.stage = .wide → r.mantissa < 2 ^ 96 →
      (r.point = true → r.scale < 28) → Room r true left
  | full {left : ℕ} {skips : Bool} : r.stage = .full skips → r.mantissa < 2 ^ 96 →
      r.point = true → r.scale = 28 → Room r true left

theorem Room.mantissa_lt (h : r.Room limited left) : r.mantissa < 2 ^ 96 := by
  cases h with
  | @short read _ _ hm _ hleft =>
    have : 10 ^ read ≤ 10 ^ 17 := Nat.pow_le_pow_right (by omega) (by omega)
    omega
  | narrow _ hm => exact hm.trans (by decide)
  | wide _ hm => exact hm
  | full _ hm => exact hm

theorem Room.scale_le (h : r.Room limited left) (hp : r.point = true) : r.scale ≤ 28 := by
  cases h with
  | short _ _ hk hleft => omega
  | narrow _ _ hk => exact (hk hp).le
  | wide _ _ hk => exact (hk hp).le
  | full _ _ _ hk => exact hk.le

/-- **One digit.** Behind the point, a digit that there is no room for is rounded on; before it,
such a digit is a failure. All other digits are taken, and there is room again. -/
theorem readOn_digit (h : r.Room limited (left + 1)) (d : Fin 10) (rest : List Char) :
    r.readOn limited (digitChar d :: rest) =
        (if r.point = true ∧ (r.scale = 28 ∨ 2 ^ 96 ≤ r.mantissa * 10 + d) then
          checkRest rest (r.roundOn d)
        else if 2 ^ 96 ≤ r.mantissa * 10 + d then .error .tooManyDigits
        else (r.push limited d).readOn limited rest) := by
  have hdigit := digit?_digitChar d
  cases h with
  | @short read _ hstage hm hk hleft =>
    -- seventeen digits are far from both limits
    have hpow : 10 ^ read * 10 ≤ 10 ^ 17 := by
      rw [← pow_succ]
      exact Nat.pow_le_pow_right (by omega) (by omega)
    have hfits : ¬ 2 ^ 96 ≤ r.mantissa * 10 + d := by omega
    have hscale : r.scale ≠ 28 := by omega
    simp [readOn, hstage, hdigit, hfits, hscale]
  | narrow hstage hm hk =>
    have hfits : ¬ 2 ^ 96 ≤ r.mantissa * 10 + d := by
      simp only [narrowLimit] at hm
      omega
    have hscale : ¬ (r.point = true ∧ r.scale = 28) := fun ⟨hp, hfull⟩ => (hk hp).ne hfull
    simp [readOn, hstage, hdigit, hfits, hscale]
  | wide hstage hm hk =>
    have hscale : ¬ (r.point = true ∧ r.scale = 28) := fun ⟨hp, hfull⟩ => (hk hp).ne hfull
    by_cases hfits : 2 ^ 96 ≤ r.mantissa * 10 + d
    · simp [readOn, hstage, hdigit, hfits]
    · simp [readOn, hstage, hdigit, hfits, hscale]
  | full hstage hm hp hk => simp [readOn, hstage, hdigit, hp, hk]

/-- In a long text the places decide where the next digit goes, and then the mantissa. -/
theorem room_push_limited {d : Fin 10} (hk : r.point = true → r.scale < 28)
    (hfits : r.mantissa * 10 + d < 2 ^ 96) : (r.push true d).Room true left := by
  by_cases hlast : r.point = true ∧ 28 ≤ r.scale + 1
  · have hscale : (r.push true d).scale = r.scale + 1 := if_pos hlast.1
    have hstage : (r.push true d).stage = .full (r.stage == .wide) := by
      simp [Reading.push, hlast]
    have := hk hlast.1
    exact .full hstage hfits hlast.1 (by omega)
  · have hplaces : (r.push true d).point = true → (r.push true d).scale < 28 := by
      intro hp
      have hscale : (r.push true d).scale = r.scale + 1 := if_pos hp
      have : ¬ 28 ≤ r.scale + 1 := fun h => hlast ⟨hp, h⟩
      omega
    have hstage : (r.push true d).stage =
        if r.stage == .wide || narrowLimit ≤ r.mantissa * 10 + d then .wide else .narrow := by
      have hnotFull : ¬ (r.point = true ∧ 28 ≤ (r.push true d).scale) := fun ⟨hp, h⟩ =>
        absurd (hplaces hp) (not_lt.mpr h)
      simp only [Reading.push] at hnotFull
      simp [Reading.push, hnotFull]
    by_cases hwide : r.stage = .wide ∨ narrowLimit ≤ r.mantissa * 10 + d
    · exact .wide (by simp [hstage, hwide]) hfits hplaces
    · have hstage : (r.push true d).stage = .narrow := by simp [hstage, hwide]
      exact .narrow hstage (not_le.mp (not_or.mp hwide).2) hplaces

/-- After a digit that was taken there is room again. -/
theorem Room.push (h : r.Room limited (left + 1)) {d : Fin 10}
    (hscale : ¬ (r.point = true ∧ r.scale = 28)) (hfits : r.mantissa * 10 + d < 2 ^ 96) :
    (r.push limited d).Room limited left := by
  cases h with
  | @short read _ hstage hm hk hleft =>
    have hmantissa : r.mantissa * 10 + d < 10 ^ (read + 1) := by
      rw [pow_succ]
      omega
    have hplaces : (r.push false d).scale ≤ read + 1 := by
      simp only [Reading.push]
      split_ifs <;> omega
    exact .short rfl hmantissa hplaces (by omega)
  | narrow _ _ hk => exact room_push_limited hk hfits
  | wide _ _ hk => exact room_push_limited hk hfits
  | full hstage hm hp hk => exact absurd ⟨hp, hk⟩ hscale

/-! ## §3 Many digits -/

/-- A reading after more digits, all of them taken. -/
def take (limited : Bool) (r : Reading) (ds : List (Fin 10)) : Reading :=
  ds.foldl (fun r (d : Fin 10) => r.push limited d) r

@[simp]
theorem take_cons (d : Fin 10) (ds : List (Fin 10)) :
    r.take limited (d :: ds) = (r.push limited d).take limited ds := rfl

@[simp]
theorem take_negative (ds : List (Fin 10)) : (r.take limited ds).negative = r.negative := by
  induction ds generalizing r with
  | nil => rfl
  | cons d ds ih => exact ih

@[simp]
theorem take_mantissa (ds : List (Fin 10)) :
    (r.take limited ds).mantissa = numeral r.mantissa ds := by
  induction ds generalizing r with
  | nil => rfl
  | cons d ds ih => exact ih

@[simp]
theorem take_point (ds : List (Fin 10)) : (r.take limited ds).point = r.point := by
  induction ds generalizing r with
  | nil => rfl
  | cons d ds ih => exact ih

theorem take_scale (hp : r.point = false) (ds : List (Fin 10)) :
    (r.take limited ds).scale = r.scale := by
  induction ds generalizing r with
  | nil => rfl
  | cons d ds ih =>
    have hpush : (r.push limited d).point = false := hp
    rw [take_cons, ih hpush]
    simp [Reading.push, hp]

theorem take_scale_of_point (hp : r.point = true) (ds : List (Fin 10)) :
    (r.take limited ds).scale = r.scale + ds.length := by
  induction ds generalizing r with
  | nil => rfl
  | cons d ds ih =>
    have hpush : (r.push limited d).point = true := hp
    have hscale : (r.push limited d).scale = r.scale + 1 := if_pos hp
    rw [take_cons, ih hpush, hscale, List.length_cons]
    omega

theorem take_started (ds : List (Fin 10)) :
    (r.take limited ds).started = (r.started || !ds.isEmpty) := by
  induction ds generalizing r with
  | nil => simp [take]
  | cons d ds ih =>
    rw [take_cons, ih]
    simp [Reading.push]

/-- Digits that there is room for are taken one after the other. -/
theorem readOn_take {ds : List (Fin 10)} (h : r.Room limited (ds.length + left))
    (hplaces : r.point = true → r.scale + ds.length ≤ 28)
    (hfits : numeral r.mantissa ds < 2 ^ 96) (rest : List Char) :
    (r.take limited ds).Room limited left ∧
      r.readOn limited (digitChars ds ++ rest) = (r.take limited ds).readOn limited rest := by
  induction ds generalizing r with
  | nil => exact ⟨by simpa [take] using h, rfl⟩
  | cons d ds ih =>
    have h : r.Room limited (ds.length + left + 1) := by
      rwa [List.length_cons, Nat.add_right_comm] at h
    have hscale : ¬ (r.point = true ∧ r.scale = 28) := by
      rintro ⟨hp, hk⟩
      have := hplaces hp
      rw [List.length_cons] at this
      omega
    have hstep : r.mantissa * 10 + d < 2 ^ 96 := (le_numeral _ ds).trans_lt hfits
    have hplaces' : (r.push limited d).point = true →
        (r.push limited d).scale + ds.length ≤ 28 := by
      intro hp
      have := hplaces hp
      have hpush : (r.push limited d).scale = r.scale + 1 := if_pos hp
      rw [List.length_cons] at this
      omega
    -- the digit is taken and leaves room, so that the next ones find the same state of things
    obtain ⟨hroom, hread⟩ := ih (h.push hscale hstep) hplaces' hfits
    refine ⟨hroom, ?_⟩
    have hround : ¬ (r.point = true ∧ (r.scale = 28 ∨ 2 ^ 96 ≤ r.mantissa * 10 + d)) := by
      rintro ⟨hp, hk | hlarge⟩
      · exact hscale ⟨hp, hk⟩
      · exact absurd hstep (not_lt.mpr hlarge)
    rw [digitChars, List.map_cons, List.cons_append, readOn_digit h, if_neg hround,
      if_neg (not_le.mpr hstep)]
    exact hread

/-- Before the point, digits that there is no room for are a failure. -/
theorem readOn_overflow {ds : List (Fin 10)} (h : r.Room limited (ds.length + left))
    (hp : r.point = false) (hlarge : 2 ^ 96 ≤ numeral r.mantissa ds) (rest : List Char) :
    r.readOn limited (digitChars ds ++ rest) = .error .tooManyDigits := by
  induction ds generalizing r with
  | nil => exact absurd h.mantissa_lt (not_lt.mpr hlarge)
  | cons d ds ih =>
    have h : r.Room limited (ds.length + left + 1) := by
      rwa [List.length_cons, Nat.add_right_comm] at h
    rw [digitChars, List.map_cons, List.cons_append, readOn_digit h, if_neg (by simp [hp])]
    split_ifs with hstep
    · rfl
    · exact ih (h.push (by simp [hp]) (not_le.mp hstep)) hp hlarge

/-! ## §4 Rounding -/

theorem finish_eq (hs : r.started = true) (hm : r.mantissa < 2 ^ 96) (hk : r.scale ≤ 28) :
    r.finish = .ok ⟨r.negative, r.mantissa, r.scale, hm, hk⟩ := by
  unfold finish make?
  rw [if_pos hs, dif_pos ⟨hm, hk⟩]

end Reading

/-- The magnitude from which on numbers are rounded to more than 96 bits. -/
def tooLarge : ℚ := 2 ^ 96 - 1 / 2

/-- What a number with some sign and magnitude is read as: a rounding of it, or nothing if it is too
large. -/
inductive Reads (negative : Bool) (q : ℚ) : Except ReadError Decimal → Prop where
  | ok {d : Decimal} : q < tooLarge → d.negative = negative → d.Rounds q → Reads negative q (.ok d)
  | error {e : ReadError} : tooLarge ≤ q → Reads negative q (.error e)

theorem add_lt_tooLarge {m : ℕ} (hm : m < 2 ^ 96) {t : ℚ} (ht : t < 1 / 2) : m + t < tooLarge := by
  have : (m : ℚ) + 1 ≤ 2 ^ 96 := by exact_mod_cast hm
  rw [tooLarge]
  linarith

/-- No decimal is too large. -/
theorem lt_tooLarge_of_isDecimal {q : ℚ} (h : IsDecimal q) : |q| < tooLarge := by
  obtain ⟨m, k, hm, -, habs⟩ := h
  have hmantissa : (m : ℚ) + 0 < tooLarge := add_lt_tooLarge hm (by norm_num)
  have hquotient : (m : ℚ) / 10 ^ k ≤ m :=
    div_le_self (by positivity) (one_le_pow₀ (by norm_num))
  rw [habs]
  linarith

theorem div_pow_lt_tooLarge {x : ℚ} (hnonneg : 0 ≤ x) (h : x < tooLarge) (k : ℕ) :
    x / 10 ^ k < tooLarge :=
  (div_le_self hnonneg (one_le_pow₀ (by norm_num))).trans_lt h

namespace Reading

/-- A reading is finished with the number that it has come to. -/
theorem finish_reads_self (hs : r.started = true) (hm : r.mantissa < 2 ^ 96) (hk : r.scale ≤ 28) :
    Reads r.negative (r.mantissa / 10 ^ r.scale) r.finish := by
  have hsmall : (r.mantissa : ℚ) < tooLarge := by
    simpa using add_lt_tooLarge hm (by norm_num : (0 : ℚ) < 1 / 2)
  rw [finish_eq hs hm hk]
  exact .ok (div_pow_lt_tooLarge (by positivity) hsmall _) rfl (.of_eq rfl)

section Rounding

variable {d : Fin 10} {t : ℚ}

/-- A rest of less than a half is left out. -/
theorem finish_reads_down (hs : r.started = true) (hm : r.mantissa < 2 ^ 96) (hk : r.scale ≤ 28)
    (hnonneg : 0 ≤ t) (hhalf : t < 1 / 2)
    (hexact : 0 < t → ¬ IsDecimal ((r.mantissa + t) / 10 ^ r.scale))
    (hfull : r.scale = 28 ∨ 7 * 10 ^ 27 ≤ r.mantissa) :
    Reads r.negative ((r.mantissa + t) / 10 ^ r.scale) r.finish := by
  have hsmall : r.mantissa + t < tooLarge := add_lt_tooLarge hm hhalf
  rw [finish_eq hs hm hk]
  refine .ok (div_pow_lt_tooLarge (by positivity) hsmall _) rfl
    ⟨fun hdecimal => ?_, abs_div_sub_div_le ?_, fun _ => hfull⟩
  · obtain rfl : t = 0 := le_antisymm (not_lt.mp fun hpos => hexact hpos hdecimal) hnonneg
    rw [add_zero, magnitude]
  · rw [abs_le]
    constructor <;> linarith

/-- A rest of a half or more adds one to the mantissa. -/
theorem finish_reads_up (hs : r.started = true) (hm : r.mantissa + 1 < 2 ^ 96) (hk : r.scale ≤ 28)
    (hhalf : 1 / 2 ≤ t) (hlt : t < 1)
    (hexact : ¬ IsDecimal ((r.mantissa + t) / 10 ^ r.scale))
    (hfull : r.scale = 28 ∨ 7 * 10 ^ 27 ≤ r.mantissa + 1) :
    Reads r.negative ((r.mantissa + t) / 10 ^ r.scale)
      { r with mantissa := r.mantissa + 1 }.finish := by
  have hsmall : r.mantissa + t < tooLarge := by
    have : ((r.mantissa + 1 : ℕ) : ℚ) + 0 < tooLarge := add_lt_tooLarge hm (by norm_num)
    push_cast at this
    linarith
  rw [finish_eq (r := { r with mantissa := r.mantissa + 1 }) hs hm hk]
  refine .ok (div_pow_lt_tooLarge (by positivity) hsmall _) rfl
    ⟨fun hdecimal => absurd hdecimal hexact, abs_div_sub_div_le ?_, fun _ => hfull⟩
  push_cast
  rw [abs_le]
  constructor <;> linarith

/-- Where one more is the limit, a place is given up. -/
theorem finish_reads_limit (hs : r.started = true) (hm : r.mantissa = 2 ^ 96 - 1)
    (hk : r.scale ≤ 28) (hplace : r.scale ≠ 0) (hhalf : 1 / 2 ≤ t) (hlt : t < 1)
    (hexact : ¬ IsDecimal ((r.mantissa + t) / 10 ^ r.scale)) :
    Reads r.negative ((r.mantissa + t) / 10 ^ r.scale)
      { r with mantissa := (r.mantissa + 5) / 10, scale := r.scale - 1 }.finish := by
  have hmq : (r.mantissa : ℚ) = 2 ^ 96 - 1 := by
    rw [hm]
    norm_num
  have hquotient : (r.mantissa + 5) / 10 = 7922816251426433759354395034 := by omega
  have hpow : (10 ^ r.scale : ℚ) = 10 * 10 ^ (r.scale - 1) := by
    rw [← pow_succ', Nat.sub_add_cancel (by omega)]
  have hsmall : (r.mantissa + t) / 10 < tooLarge := by
    rw [hmq, tooLarge]
    linarith
  rw [hpow, ← div_div] at hexact ⊢
  rw [hquotient, finish_eq
    (r := { r with mantissa := 7922816251426433759354395034, scale := r.scale - 1 })
    hs (by norm_num) ((Nat.sub_le _ _).trans hk)]
  refine .ok (div_pow_lt_tooLarge (by positivity) hsmall _) rfl
    ⟨fun hdecimal => absurd hdecimal hexact, abs_div_sub_div_le ?_, fun _ => .inr (by norm_num)⟩
  rw [hmq, abs_le]
  push_cast
  constructor <;> linarith

/-- **Rounding.** The digits of a number that there is no room for, with the first of which it is
rounded, stand for a part `t` of its last unit. -/
theorem roundOn_reads (hs : r.started = true) (hm : r.mantissa < 2 ^ 96) (hk : r.scale ≤ 28)
    (hlow : (d : ℚ) ≤ t * 10) (hhigh : t * 10 < d + 1)
    (hfull : r.scale = 28 ∨ 2 ^ 96 ≤ r.mantissa * 10 + d) :
    Reads r.negative ((r.mantissa + t) / 10 ^ r.scale) (r.roundOn d) := by
  have hnonneg : 0 ≤ t := by
    have : (0 : ℚ) ≤ d := by positivity
    linarith
  have hlt : t < 1 := by
    have : (d : ℚ) + 1 ≤ 10 := by exact_mod_cast d.isLt
    linarith
  have hexact : 0 < t → ¬ IsDecimal ((r.mantissa + t) / 10 ^ r.scale) := by
    intro hpos
    refine not_isDecimal hpos hlt (hfull.imp_right fun h => ?_)
    have : (2 ^ 96 : ℚ) ≤ r.mantissa * 10 + d := by exact_mod_cast h
    linarith
  have hmantissa : r.scale = 28 ∨ 7 * 10 ^ 27 ≤ r.mantissa := by omega
  unfold roundOn
  by_cases hdown : (d : ℕ) < 5
  · have hhalf : t < 1 / 2 := by
      have : (d : ℚ) + 1 ≤ 5 := by exact_mod_cast hdown
      linarith
    rw [if_pos hdown]
    exact finish_reads_down hs hm hk hnonneg hhalf hexact hmantissa
  · have hhalf : 1 / 2 ≤ t := by
      have : (5 : ℚ) ≤ d := by exact_mod_cast not_lt.mp hdown
      linarith
    have hexact := hexact (by linarith)
    rw [if_neg hdown]
    by_cases hup : r.mantissa + 1 < 2 ^ 96
    · rw [if_pos hup]
      exact finish_reads_up hs hup hk hhalf hlt hexact (hmantissa.imp_right Nat.le_succ_of_le)
    · -- one more is the limit itself
      have hmax : r.mantissa = 2 ^ 96 - 1 := by omega
      rw [if_neg hup]
      by_cases hzero : r.scale = 0
      · rw [if_pos hzero]
        refine .error ?_
        have : (r.mantissa : ℚ) + 1 = 2 ^ 96 := by
          rw [hmax]
          norm_num
        rw [hzero, pow_zero, div_one, tooLarge]
        linarith
      · rw [if_neg hzero]
        exact finish_reads_limit hs hmax hk hzero hhalf hlt hexact

end Rounding

/-! ## §5 Fractions -/

theorem checkRest_digitChars (ds : List (Fin 10)) (result : Except ReadError Decimal) :
    checkRest (digitChars ds) result = result := by
  have hnone : (digitChars ds).find? (fun c => (digit? c).isNone && c != '_') = none := by
    rw [List.find?_eq_none]
    intro c hc
    obtain ⟨d, -, rfl⟩ := List.mem_map.mp hc
    simp [digit?_digitChar]
  rw [checkRest, hnone]

/-- All digits that there is no room for count, though only the first of them is looked at. -/
theorem roundOn_numeral {d : Fin 10} (ds : List (Fin 10)) (hs : r.started = true)
    (hm : r.mantissa < 2 ^ 96) (hk : r.scale ≤ 28)
    (hfull : r.scale = 28 ∨ 2 ^ 96 ≤ r.mantissa * 10 + d) :
    Reads r.negative (numeral r.mantissa (d :: ds) / 10 ^ (r.scale + (d :: ds).length))
      (r.roundOn d) := by
  -- together they are this part of the last unit
  set t : ℚ := numeral 0 (d :: ds) / 10 ^ (ds.length + 1) with ht
  have hquotient : (numeral r.mantissa (d :: ds) : ℚ) / 10 ^ (r.scale + (d :: ds).length) =
      (r.mantissa + t) / 10 ^ r.scale := by
    rw [numeral_eq, ht, List.length_cons, pow_add 10 r.scale]
    push_cast
    field_simp
  have hten : t * 10 = d + numeral 0 ds / 10 ^ ds.length := by
    rw [ht, numeral_cons, zero_mul, zero_add, numeral_eq, pow_succ]
    push_cast
    field_simp
  have hnonneg : (0 : ℚ) ≤ numeral 0 ds / 10 ^ ds.length := by positivity
  have hlt : (numeral 0 ds : ℚ) / 10 ^ ds.length < 1 := by
    rw [div_lt_one (by positivity)]
    exact_mod_cast numeral_lt ds
  rw [hquotient]
  apply roundOn_reads hs hm hk _ _ hfull
  · linarith
  · linarith

/-- **Fractions.** The digits behind the point are read as the number that they make together with
what has been read before, however many they are. -/
theorem readOn_fraction {ds : List (Fin 10)} (h : r.Room limited ds.length)
    (hp : r.point = true)
    (hs : r.started = true ∨ ds ≠ [] ∧ r.mantissa = 0 ∧ r.scale = 0) :
    Reads r.negative (numeral r.mantissa ds / 10 ^ (r.scale + ds.length))
      (r.readOn limited (digitChars ds)) := by
  induction ds generalizing r with
  | nil =>
    have hs : r.started = true := hs.resolve_right fun hempty => hempty.1 rfl
    exact finish_reads_self hs h.mantissa_lt (h.scale_le hp)
  | cons d ds ih =>
    rw [digitChars, List.map_cons, readOn_digit h]
    by_cases hround : r.scale = 28 ∨ 2 ^ 96 ≤ r.mantissa * 10 + d
    · -- nothing is rounded on the first digit of a text
      have hs : r.started = true := by
        rcases hs with hs | ⟨-, hm, hk⟩
        · exact hs
        · omega
      have hreads := roundOn_numeral ds hs h.mantissa_lt (h.scale_le hp) hround
      rw [if_pos ⟨hp, hround⟩]
      exact (checkRest_digitChars ds (r.roundOn d)).symm ▸ hreads
    · -- a digit that is taken belongs to the number that has been read before the others
      have hfits : r.mantissa * 10 + d < 2 ^ 96 := not_le.mp fun h => hround (.inr h)
      rw [if_neg fun hfull => hround hfull.2, if_neg (not_le.mpr hfits)]
      have hroom := h.push (fun hfull => hround (.inl hfull.2)) hfits
      have hscale : (r.push limited d).scale = r.scale + 1 := if_pos hp
      have hlength : r.scale + (d :: ds).length = (r.push limited d).scale + ds.length := by
        rw [hscale, List.length_cons]
        omega
      rw [hlength]
      exact ih hroom hp (.inl rfl)

/-! ## §6 Signs and points -/

/-- The point is passed over once. -/
theorem readOn_point (h : r.Room limited left) (hp : r.point = false) (rest : List Char) :
    r.readOn limited ('.' :: rest) = { r with point := true }.readOn limited rest := by
  have hdigit : digit? '.' = none := by decide
  cases h with
  | short hstage => simp [readOn, hstage, hdigit, hp]
  | narrow hstage => simp [readOn, hstage, hdigit, hp]
  | wide hstage => simp [readOn, hstage, hdigit, hp]
  | full _ _ hpoint => rw [hp] at hpoint; cases hpoint

/-- Behind the point there is as much room as before it. -/
theorem Room.point (h : r.Room limited left) (hp : r.point = false) (hk : r.scale = 0) :
    Room { r with point := true } limited left := by
  have hplaces : r.scale < 28 := by omega
  cases h with
  | short hstage hm hscale hleft => exact .short hstage hm hscale hleft
  | narrow hstage hm => exact .narrow hstage hm fun _ => hplaces
  | wide hstage hm => exact .wide hstage hm fun _ => hplaces
  | full _ _ hpoint => rw [hp] at hpoint; cases hpoint

end Reading

end Decimal

end WebTrip
