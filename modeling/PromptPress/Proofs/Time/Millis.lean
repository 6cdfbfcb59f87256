import PromptPress.Proofs.Number.Bounds
import PromptPress.Time.Moment

/-!
# Moments of counted milliseconds

Milliseconds are divided down to seconds in floating point before they become a moment, and rounding must
not carry the last of them over the end of the calendar. It does not: every count of milliseconds whose
moment lies in the years that can be written has a moment (`exists_momentOfMillis`).
-/

namespace PromptPress.Time

open Binary64

variable {millis : Int} {num den seconds parts micros : Nat} {negative : Bool}

/-- Milliseconds in a day. -/
def dayMillis : Int := 24 * 60 * 60 * 1000

/-- A count of milliseconds since 1970 that lies in the years from 1 to 9999. -/
structure InCalendar (millis : Int) : Prop where
  ge : -(epochDay * dayMillis) ≤ millis
  lt : millis < ((Date.mk yearLimit 1 1).day - epochDay) * dayMillis

instance : DecidablePred InCalendar := fun millis =>
  decidable_of_iff (-(epochDay * dayMillis) ≤ millis ∧
      millis < ((Date.mk yearLimit 1 1).day - epochDay) * dayMillis)
    ⟨fun h => ⟨h.1, h.2⟩, fun h => ⟨h.ge, h.lt⟩⟩

/-! ### Fractions of a second -/

/-- A number of parts of a second, of 1024 each, is represented, also when it is counted in smaller units. -/
theorem isRepresented_parts (h : parts < 2 ^ 53) : IsRepresented (parts / 1024) := by
  have hscale : (parts / 1024 : ℚ) = parts * 2 ^ (-10 : Int) := by norm_num [div_eq_mul_inv]
  rw [hscale]
  exact isRepresented_mul_zpow h (by decide) (by decide)

/-- A bound for a fraction of a second is a bound for its microseconds. -/
theorem exists_micros (limit : Nat) (hden : 0 < den) (hparts : parts ≤ 1024)
    (hlimit : parts * 1000000 ≤ limit * 1024) (h : (num / den : ℚ) ≤ parts / 1024) :
    ∃ micros : Nat, micros ≤ limit ∧
      ((ofRatio negative num den).mulNat 1000000).round? =
        some (if negative then -(micros : Int) else micros) := by
  have hproduct : (parts / 1024 * (1000000 : Nat) : ℚ) = (parts * 1000000 : Nat) / 1024 := by
    push_cast
    ring
  have hle : ((parts * 1000000 : Nat) / 1024 : ℚ) ≤ limit := by
    rw [div_le_iff₀ (by norm_num)]
    exact_mod_cast hlimit
  refine IsUpTo.round? ?_ (hproduct.trans_le hle)
  refine (isUpTo_ofRatio hden (isRepresented_parts (by omega)) h).mulNat ?_
  rw [hproduct]
  exact isRepresented_parts (by omega)

/-- A quotient up to some seconds and a part of one has fewer whole seconds, or its fraction is bounded by
the part. -/
theorem div_lt_or_fraction_le (hden : 0 < den) (hparts : parts < 1024)
    (h : (num / den : ℚ) ≤ (seconds * 1024 + parts : Nat) / 1024) :
    num / den < seconds ∨
      num / den = seconds ∧ ((num % den : Nat) / den : ℚ) ≤ (parts : Nat) / 1024 := by
  have hden' : (0 : ℚ) < den := by exact_mod_cast hden
  have hsplit : (num / den : ℚ) = (num / den : Nat) + (num % den : Nat) / den := by
    rw [eq_comm, add_div' _ _ _ hden'.ne', div_left_inj' hden'.ne']
    exact_mod_cast Nat.div_add_mod' num den
  have hbound : ((seconds * 1024 + parts : Nat) / 1024 : ℚ) = seconds + parts / 1024 := by
    push_cast
    ring
  rw [hsplit, hbound] at h
  have hpart : (parts / 1024 : ℚ) < 1 := by
    rw [div_lt_one (by norm_num)]
    exact_mod_cast hparts
  have hnonneg : (0 : ℚ) ≤ (num % den : Nat) / den := by positivity
  have hle : num / den ≤ seconds := by
    have hlt : ((num / den : Nat) : ℚ) < seconds + 1 := by linarith
    exact Nat.lt_succ_iff.mp (by exact_mod_cast hlt)
  refine hle.lt_or_eq.imp_right fun heq => ⟨heq, ?_⟩
  rw [heq] at h
  linarith

/-! ### Microseconds -/

theorem microsOfMillis_eq
    (hseconds : (ofRatio (millis < 0) millis.natAbs 1000).toRatio? = some (negative, num, den))
    (hmicros : ((ofRatio negative (num % den) den).mulNat 1000000).round? =
      some (if negative then -(micros : Int) else micros)) :
    microsOfMillis millis =
      if negative then -((num / den * 1000000 + micros : Nat) : Int)
      else (num / den * 1000000 + micros : Nat) := by
  simp only [microsOfMillis, hseconds, hmicros, second, Option.getD_some]
  push_cast
  split_ifs <;> ring

/-- A bound in seconds and parts of a second is a bound for the microseconds. -/
theorem exists_microsOfMillis (millis : Int) (seconds parts limit : Nat)
    (hseconds : seconds < 2 ^ 42) (hparts : parts < 1024) (hlimit : parts * 1000000 ≤ limit * 1024)
    (h : millis.natAbs * 1024 ≤ (seconds * 1024 + parts) * 1000) :
    ∃ micros : Nat, micros ≤ seconds * 1000000 + limit ∧
      microsOfMillis millis = if millis < 0 then -(micros : Int) else micros := by
  have hbound : (millis.natAbs / (1000 : Nat) : ℚ) ≤ (seconds * 1024 + parts : Nat) / 1024 := by
    rw [div_le_div_iff₀ (by norm_num) (by norm_num)]
    exact_mod_cast h
  have hrounded : IsUpTo (millis < 0) _ (ofRatio (millis < 0) millis.natAbs 1000) :=
    isUpTo_ofRatio (by norm_num) (isRepresented_parts (by omega)) hbound
  obtain ⟨num, den, hratio, hden, hvalue⟩ := hrounded.toRatio?
  obtain hearlier | ⟨hlast, hfraction⟩ := div_lt_or_fraction_le hden hparts hvalue
  · have hfraction : ((num % den : Nat) / den : ℚ) ≤ (1024 : Nat) / 1024 := by
      rw [Nat.cast_ofNat, div_self (by norm_num), div_le_one (by exact_mod_cast hden)]
      exact_mod_cast (Nat.mod_lt num hden).le
    obtain ⟨micros, hmicros, heq⟩ := exists_micros 1000000 hden le_rfl (by norm_num) hfraction
    refine ⟨num / den * 1000000 + micros, ?_, by simpa using microsOfMillis_eq hratio heq⟩
    linarith only [Nat.succ_le_of_lt hearlier, hmicros, Nat.zero_le limit]
  · obtain ⟨micros, hmicros, heq⟩ := exists_micros limit hden hparts.le hlimit hfraction
    refine ⟨num / den * 1000000 + micros, ?_, by simpa using microsOfMillis_eq hratio heq⟩
    rw [hlast]
    gcongr

/-- **Every count of milliseconds in the calendar has a moment.** -/
theorem exists_momentOfMillis (h : InCalendar millis) : ∃ m, momentOfMillis millis = .ok m := by
  have hge : -62135596800000 ≤ millis := h.ge
  have hlt : millis < 253402300800000 := h.lt
  have hrange : -62135596800000000 ≤ microsOfMillis millis ∧
      microsOfMillis millis < 253402300800000000 := by
    by_cases hneg : millis < 0
    · obtain ⟨micros, hmicros, heq⟩ := exists_microsOfMillis millis 62135596800 0 0
        (by norm_num) (by norm_num) (by norm_num) (by omega)
      rw [if_pos hneg] at heq
      omega
    · -- the last millisecond of a second is less than 1023 parts of it
      obtain ⟨micros, hmicros, heq⟩ := exists_microsOfMillis millis 253402300799 1023 999999
        (by norm_num) (by norm_num) (by norm_num) (by omega)
      rw [if_neg hneg] at heq
      omega
  refine ⟨_, if_pos ?_⟩
  rw [Moment.isInRange, Bool.and_eq_true, decide_eq_true_eq, decide_eq_true_eq]
  have hepoch : epochDay * wholeDay = 62135596800000000 := rfl
  have hlimit : clockLimit = 315537897600000000 := rfl
  dsimp only
  omega

end PromptPress.Time
