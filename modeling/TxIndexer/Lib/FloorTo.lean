import Mathlib.Algebra.Order.Ring.Int
import Mathlib.Data.Int.Init
import Mathlib.Tactic.Linarith

/-!
# Buckets of equal width

The line is cut into half-open buckets of one width, one of which begins at a given offset.
`floorTo` is where the bucket of a point begins. Buckets of a multiple of the width, cut at one
of the cuts, are unions of the finer ones, so a point may be taken to its coarse bucket by way of
its fine one.
-/

namespace TxIndexer.Lib

/-- The start of the bucket that holds `t`. -/
def floorTo (width offset t : Int) : Int := t - (t - offset) % width

variable {width offset t t' b : Int}

theorem floorTo_le (h : 0 < width) : floorTo width offset t ≤ t := by
  have hmod := Int.emod_nonneg (t - offset) (ne_of_gt h)
  unfold floorTo
  omega

theorem lt_floorTo_add (h : 0 < width) : t < floorTo width offset t + width := by
  have hmod := Int.emod_lt_of_pos (t - offset) h
  unfold floorTo
  omega

theorem dvd_floorTo_sub (width offset t : Int) : width ∣ floorTo width offset t - offset := by
  have hdvd : width ∣ (t - offset) - (t - offset) % width := Int.dvd_self_sub_emod
  unfold floorTo
  rwa [sub_right_comm] at hdvd

/-- The bucket of a point is the one that holds it. -/
theorem floorTo_eq_iff (h : 0 < width) :
    floorTo width offset t = b ↔ width ∣ b - offset ∧ b ≤ t ∧ t < b + width := by
  constructor
  · rintro rfl
    exact ⟨dvd_floorTo_sub width offset t, floorTo_le h, lt_floorTo_add h⟩
  · rintro ⟨hdvd, hle, hlt⟩
    have hmod : (t - offset) % width = t - b := by
      have hsplit : t - offset = (t - b) + (b - offset) := by omega
      rw [hsplit, Int.add_emod, Int.emod_eq_zero_of_dvd hdvd, add_zero, Int.emod_emod,
        Int.emod_eq_of_lt (by omega) (by omega)]
    unfold floorTo
    omega

theorem floorTo_mono (h : 0 < width) (hle : t ≤ t') :
    floorTo width offset t ≤ floorTo width offset t' := by
  obtain ⟨q, hq⟩ := dvd_floorTo_sub width offset t
  obtain ⟨q', hq'⟩ := dvd_floorTo_sub width offset t'
  have hlow : floorTo width offset t ≤ t := floorTo_le h
  have hhigh : t' < floorTo width offset t' + width := lt_floorTo_add h
  by_contra hlt
  have hqs : q' + 1 ≤ q := by
    by_contra hqs
    have hle' : q ≤ q' := by omega
    have hmul := mul_le_mul_of_nonneg_left hle' h.le
    omega
  have hmul := mul_le_mul_of_nonneg_left hqs h.le
  rw [mul_add, mul_one] at hmul
  omega

/-- A coarse bucket is a union of fine ones. -/
theorem floorTo_floorTo {width' offset' : Int} (h : 0 < width) (h' : 0 < width')
    (hwidth : width ∣ width') (hoffset : width ∣ offset' - offset) :
    floorTo width' offset' (floorTo width offset t) = floorTo width' offset' t := by
  rw [floorTo_eq_iff h']
  refine ⟨dvd_floorTo_sub width' offset' t, ?_, ?_⟩
  · -- the start of the coarse bucket starts a fine bucket too
    have hstart : floorTo width offset (floorTo width' offset' t) = floorTo width' offset' t := by
      rw [floorTo_eq_iff h]
      refine ⟨?_, le_rfl, by omega⟩
      have hdvd := Int.dvd_add (dvd_trans hwidth (dvd_floorTo_sub width' offset' t)) hoffset
      rwa [sub_add_sub_cancel] at hdvd
    rw [← hstart]
    exact floorTo_mono h (floorTo_le h')
  · exact lt_of_le_of_lt (floorTo_le h) (lt_floorTo_add h')

end TxIndexer.Lib
