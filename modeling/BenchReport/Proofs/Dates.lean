import BenchReport.Calendar
import Mathlib.Data.Int.Notation
import Mathlib.Data.List.Basic

namespace BenchReport.Date

variable {d k q j s y : ℕ} {n n' : ℤ}

section Years

def yearOf (d : ℕ) : ℕ := (d - d / 1460 + d / 36524 - d / 146096) / 365

def daysBefore (y : ℕ) : ℕ := 365 * y + y / 4 - y / 100

def dayAt (k q j s : ℕ) : ℕ := 36524 * k + 1461 * q + 365 * j + s

/-- The last day of a period of four years is one that a century has only if it is the last of a cycle. -/
structure Fits (k q j s : ℕ) : Prop where
  century : k < 4
  period : q < 25
  year : j < 4
  day : s < 366
  leap : s = 365 → j = 3
  leapCentury : s = 365 → q = 24 → k = 3

lemma exists_dayAt (hd : d < 146097) : ∃ k q j s, Fits k q j s ∧ d = dayAt k q j s := by
  let k := min (d / 36524) 3
  let q := (d - 36524 * k) / 1461
  let j := min ((d - 36524 * k - 1461 * q) / 365) 3
  have h : k < 4 ∧ q < 25 ∧ j < 4 ∧ d - 36524 * k - 1461 * q - 365 * j < 366 ∧
      (d - 36524 * k - 1461 * q - 365 * j = 365 → j = 3) ∧
      (d - 36524 * k - 1461 * q - 365 * j = 365 → q = 24 → k = 3) ∧
      d = dayAt k q j (d - 36524 * k - 1461 * q - 365 * j) := by
    simp only [k, q, j, dayAt]
    omega
  obtain ⟨hk, hq, hj, hs, hleap, hlast, hd⟩ := h
  exact ⟨k, q, j, _, ⟨hk, hq, hj, hs, hleap, hlast⟩, hd⟩

lemma yearOf_dayAt (h : Fits k q j s) : yearOf (dayAt k q j s) = 100 * k + 4 * q + j := by
  obtain ⟨hk, hq, hj, hs, hleap, hlast⟩ := h
  have hc : dayAt k q j s / 36524 = k + dayAt k q j s / 146096 := by
    rw [dayAt]
    rcases Nat.lt_or_ge (1461 * q + 365 * j + s) 36524 with hlt | hge
    · rw [Nat.div_eq_of_lt (b := 146096) (by omega)]
      omega
    · obtain rfl : k = 3 := hlast (by omega) (by omega)
      omega
  -- of the days that end a period of four years, how many are in front of this one
  have hl : dayAt k q j s / 1460 = 25 * k + q + (24 * k + q + 365 * j + s) / 1460 := by
    rw [dayAt]
    omega
  have hle : (24 * k + q + 365 * j + s) / 1460 ≤ s := by omega
  have hlt : s < 365 + (24 * k + q + 365 * j + s) / 1460 := by omega
  rw [yearOf, hc, hl, dayAt]
  generalize (24 * k + q + 365 * j + s) / 1460 = e at *
  generalize (36524 * k + 1461 * q + 365 * j + s) / 146096 = f at *
  omega

lemma exists_of_lt_cycle (hd : d < 146097) :
    yearOf d < 400 ∧ ∃ s < 366, d = daysBefore (yearOf d) + s := by
  obtain ⟨k, q, j, s, h, rfl⟩ := exists_dayAt hd
  rw [yearOf_dayAt h]
  obtain ⟨hk, hq, hj, hs, -, -⟩ := h
  refine ⟨by omega, s, hs, ?_⟩
  rw [daysBefore, dayAt]
  omega

end Years

section Months

def ofMarch (year : ℤ) (s : ℕ) : Date :=
  let m := (5 * s + 2) / 153
  let day := s - (153 * m + 2) / 5 + 1
  if m < 10 then ⟨year, m + 3, day⟩ else ⟨year + 1, m - 9, day⟩

lemma ofMarch_inj {s s' : ℕ} {y y' : ℤ} (hs : s < 366) (hs' : s' < 366) (h : ofMarch y s = ofMarch y' s') :
    y = y' ∧ s = s' := by
  simp only [ofMarch] at h
  split_ifs at h
  all_goals
    injection h
    omega

end Months

lemma ofDay_eq (n : ℤ) : ∃ (c : ℤ) (y s : ℕ), y < 400 ∧ s < 366 ∧ n = c * 146097 + daysBefore y + s ∧
    ofDay n = ofMarch (y + c * 400) s := by
  let d := (n - n.fdiv 146097 * 146097).toNat
  have hn : n = n.fdiv 146097 * 146097 + d := by
    simp only [d, Int.fdiv_eq_ediv_of_nonneg n (by decide : (0 : ℤ) ≤ 146097)]
    omega
  have hd : d < 146097 := by
    simp only [d, Int.fdiv_eq_ediv_of_nonneg n (by decide : (0 : ℤ) ≤ 146097)]
    omega
  obtain ⟨hy, s, hs, hds⟩ := exists_of_lt_cycle hd
  have hyday : d - daysBefore (yearOf d) = s := by omega
  refine ⟨n.fdiv 146097, yearOf d, s, hy, hs, by omega, ?_⟩
  rw [← hyday]
  rfl

lemma ofDay_injective : Function.Injective ofDay := by
  intro n n' h
  obtain ⟨c, y, s, hy, hs, rfl, hn⟩ := ofDay_eq n
  obtain ⟨c', y', s', hy', hs', rfl, hn'⟩ := ofDay_eq n'
  rw [hn, hn'] at h
  obtain ⟨hyear, rfl⟩ := ofMarch_inj hs hs' h
  obtain ⟨rfl, rfl⟩ : c = c' ∧ y = y' := by omega
  rfl

end BenchReport.Date
