import UrjaSetu.Domain.Enums

/-!
The interval and the local day of `app/domain/policies/community_energy.py`, and
the channels of a simulated interval there and in `household_energy.py`.

The physical models are floating point: the powers they arrive at, rounded to
four decimals, are inputs here.
-/

namespace UrjaSetu.Domain.Policies.CommunityEnergy

/-- `timedelta(minutes=15)` in microseconds. -/
def INTERVAL : ℤ := 900000000

def DAY : ℤ := 86400000000

/-- The offset of `Asia/Kolkata` from UTC, in force since 1945. -/
def IST : ℤ := 19800000000

/-- `moment.astimezone(IST).date()`, as a count of days. -/
def localDate (moment : Instant) : ℤ := (moment + IST) / DAY

/-- Midnight of the local day after `moment`, as an instant. -/
def tomorrow (moment : Instant) : Instant := (localDate moment + 1) * DAY - IST

/-! ## Simulated intervals -/

/-- The measured channels of one interval. -/
structure IntervalData where
  generationKw : ℚ
  loadKw : ℚ
  gridImportKw : ℚ
  gridExportKw : ℚ
  generationKwh : ℚ
  loadKwh : ℚ
  gridImportKwh : ℚ
  gridExportKwh : ℚ
deriving DecidableEq, Repr

/-- A quarter of an hour at these powers. -/
def quarterHour (generation load gridImport gridExport : ℚ) : IntervalData where
  generationKw := generation
  loadKw := load
  gridImportKw := gridImport
  gridExportKw := gridExport
  generationKwh := generation / 4
  loadKwh := load / 4
  gridImportKwh := gridImport / 4
  gridExportKwh := gridExport / 4

/-- The end of `community_energy.profile`, for the rounded generation and
demand. -/
def profile (generation demand : ℚ) : IntervalData :=
  quarterHour generation demand (max (demand - generation) 0) (max (generation - demand) 0)

/-- The end of `household_energy.interval`, for the rounded means of generation,
load and export: the rounding is reconciled at the power boundary. -/
def interval (generation load meanExport : ℚ) : IntervalData :=
  let gridExport := max (max meanExport (generation - load)) 0
  quarterHour generation load (load + gridExport - generation) gridExport

theorem profile_nonneg (generation demand : ℚ) :
    0 ≤ (profile generation demand).gridImportKwh ∧
      0 ≤ (profile generation demand).gridExportKwh := by
  constructor
  · exact div_nonneg (le_max_right _ _) (by norm_num)
  · exact div_nonneg (le_max_right _ _) (by norm_num)

theorem interval_nonneg (generation load meanExport : ℚ) :
    0 ≤ (interval generation load meanExport).gridImportKwh ∧
      0 ≤ (interval generation load meanExport).gridExportKwh := by
  have covers : generation - load ≤ max (max meanExport (generation - load)) 0 :=
    (le_max_right _ _).trans (le_max_left _ _)
  constructor
  · apply div_nonneg _ (by norm_num)
    show 0 ≤ load + max (max meanExport (generation - load)) 0 - generation
    linarith
  · exact div_nonneg (le_max_right _ _) (by norm_num)

end UrjaSetu.Domain.Policies.CommunityEnergy
