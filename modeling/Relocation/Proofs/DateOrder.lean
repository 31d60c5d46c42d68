import Mathlib.Order.Lattice
import Relocation.Date

/-! The days of the calendar are in one line: by year, then by month, then by day. -/

namespace Relocation.Date

theorem le_iff {d e : Date} : d ≤ e ↔ d.year < e.year ∨
    (d.year = e.year ∧ (d.month < e.month ∨ (d.month = e.month ∧ d.day ≤ e.day))) := by
  have hle : d ≤ e ↔ d.onOrBefore e = true := Iff.rfl
  simp [hle, onOrBefore]

theorem ext {d e : Date} (hyear : d.year = e.year) (hmonth : d.month = e.month)
    (hday : d.day = e.day) : d = e := by
  cases d
  cases e
  simp_all

instance : LinearOrder Date where
  le_refl d := by
    rw [le_iff]
    omega
  le_trans d e f := by
    simp only [le_iff]
    omega
  le_antisymm d e h h' := by
    rw [le_iff] at h h'
    exact ext (by omega) (by omega) (by omega)
  le_total d e := by
    simp only [le_iff]
    omega
  toDecidableLE := inferInstance
  toDecidableEq := inferInstance

end Relocation.Date
