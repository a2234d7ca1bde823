import Toolpath.Proofs.Comparison
import Toolpath.Proofs.Motion.Step
import Toolpath.Proofs.Session.Failure
import Toolpath.Settings.Load
import Toolpath.Settings.Override
import Toolpath.Voxel.Build

/-! What valid settings are good for. What is no number passes for a length, and is the only thing
that can go wrong with one. -/

namespace Toolpath

namespace VoxelGrid

lemma build_misconfigured_iff (store : Store) (tools : ToolTable) (v : Settings.Voxels)
    (refuses : Nat → Bool) :
    (∃ p, (build store tools v refuses).1 = .error (.misconfigured p)) ↔
      ¬ (0.0 < v.cellWidth ∧ 0.0 < v.cellHeight) := by
  rw [build, CellSize.ofSettings]
  by_cases h : 0.0 < v.cellWidth ∧ 0.0 < v.cellHeight
  · rw [if_pos (by simpa using h)]
    dsimp only
    split <;> simp [h]
  · rw [if_neg (by simpa using h)]
    exact iff_of_true ⟨_, rfl⟩ h

end VoxelGrid

namespace Settings

variable {s : Settings}

/-- The lengths that a machine or a grid divides by are not found to be too small. -/
structure Checked (s : Settings) : Prop where
  arcSegmentLength : ¬ s.parser.arcSegmentLength ≤ 0.0
  cellWidth : ¬ s.voxel.cellWidth ≤ 0.0
  cellHeight : ¬ s.voxel.cellHeight ≤ 0.0

lemma validate_eq_ok (h : s.complaint? = none) : s.validate = .ok () := by rw [validate, h]

lemma of_ite_eq_none {c : Prop} [Decidable c] {e : SettingsError} {rest : Option SettingsError}
    (h : (if c then some e else rest) = none) : ¬ c ∧ rest = none := by
  split at h
  · cases h
  · next hc => exact ⟨hc, h⟩

lemma checked_of_validate (h : s.validate = .ok ()) : s.Checked := by
  rw [validate] at h
  split at h
  · cases h
  · next hc =>
    rw [complaint?] at hc
    obtain ⟨harc, hc⟩ := of_ite_eq_none hc
    -- the checks from here to the cells are about other settings
    iterate 4 replace hc := (of_ite_eq_none hc).2
    split at hc
    · cases hc
    · split at hc
      · cases hc
      · obtain ⟨hcell, -⟩ := of_ite_eq_none hc
        simp only [Bool.or_eq_true, decide_eq_true_eq, not_or] at hcell
        exact ⟨harc, hcell.1, hcell.2⟩

theorem failures_of_validate (h : s.validate = .ok ()) :
    (∀ style, (∃ m, Machine.ofSettings s style = .ok m) ↔ ¬ s.parser.arcSegmentLength.isNaN) ∧
    (∀ store tools refuses,
      (∃ p, (VoxelGrid.build store tools s.voxel refuses).1 = .error (.misconfigured p)) ↔
        s.voxel.cellWidth.isNaN ∨ s.voxel.cellHeight.isNaN) ∧
    ∀ text e, Interpretation.ofText s text = .error e → e = .emptyInput ∨
      s.parser.arcSegmentLength.isNaN ∧
        e = .misconfigured (.arc (.segmentLengthNotPositive s.parser.arcSegmentLength)) := by
  obtain ⟨harc, hwidth, hheight⟩ := checked_of_validate h
  refine ⟨fun style => ?_, fun store tools refuses => ?_, fun text e he => ?_⟩
  · rw [Machine.ofSettings, Machine.exists_ofTools_iff, or_iff_left harc]
  · rw [VoxelGrid.build_misconfigured_iff, zero_lt_iff_not_le, zero_lt_iff_not_le,
      or_iff_left hwidth, or_iff_left hheight, ← not_or, not_not]
  · rcases Interpretation.explains_of_ofText he with rfl | ⟨style, hm⟩
    · exact Or.inl rfl
    · by_cases hnan : s.parser.arcSegmentLength.isNaN
      · rw [Machine.ofSettings, Machine.ofTools_eq_error (Or.inl hnan)] at hm
        exact Or.inr ⟨hnan, (Except.error.inj hm).symm⟩
      · obtain ⟨m, hok⟩ :=
          Machine.exists_ofTools_iff.mpr (mt (or_iff_left harc).mp hnan)
        rw [Machine.ofSettings, hok] at hm
        cases hm

theorem failures_of_validate_infinite :
    let s : Settings := { parser.arcSegmentLength := 1.0 / 0.0, voxel.cellWidth := 1.0 / 0.0 }
    s.validate = .ok () ∧ (∀ style, ∃ m, Machine.ofSettings s style = .ok m) ∧
      (∀ store tools refuses,
        ¬ ∃ p, (VoxelGrid.build store tools s.voxel refuses).1 = .error (.misconfigured p)) ∧
      ∀ text e, Interpretation.ofText s text = .error e → e = .emptyInput := by
  intro s
  have hvalid : s.validate = .ok () := validate_eq_ok (by decide +kernel)
  have harc : ¬ s.parser.arcSegmentLength.isNaN := by decide
  have hcells : ¬ (s.voxel.cellWidth.isNaN ∨ s.voxel.cellHeight.isNaN) := by decide
  obtain ⟨hmachine, hgrid, htext⟩ := failures_of_validate hvalid
  refine ⟨hvalid, fun style => (hmachine style).mpr harc, fun store tools refuses => ?_,
    fun text e he => ?_⟩
  · rw [hgrid]
    exact hcells
  · exact (htext text e he).resolve_right fun h => harc h.1

theorem ofToml_nan_fails :
    let text := "[parser]\narc_segment_length = nan\n\n[voxel]\ncell_width = nan\n".toList
    let nan : Float := 0.0 / 0.0
    let s : Settings := { parser.arcSegmentLength := nan, voxel.cellWidth := nan }
    let fault : Fault := .misconfigured (.arc (.segmentLengthNotPositive nan))
    ofToml text = .ok s ∧ s.validate = .ok () ∧
      (∀ style, Machine.ofSettings s style = .error fault) ∧
      Interpretation.ofText s "G1 X1 E1\n".toList = .error fault ∧
      ∀ store tools, ∃ p, (VoxelGrid.build store tools s.voxel).1 = .error (.misconfigured p) := by
  intro text nan s fault
  have hread : (Toml.read? text).bind (ofDocument? .toml) = some s := by decide +kernel
  have hcomplaint : s.complaint? = none := by decide +kernel
  have hmachine style : Machine.ofSettings s style = .error fault :=
    Machine.ofTools_eq_error (Or.inl (by decide)) _ style
  have hblank : ¬ Text.isBlankLine "G1 X1 E1\n".toList := by decide +kernel
  refine ⟨?_, validate_eq_ok hcomplaint, hmachine,
    Interpretation.ofText_eq_error hmachine hblank, fun store tools => ?_⟩
  · rw [ofToml, hread]
    dsimp only
    rw [checked, hcomplaint]
  · rw [VoxelGrid.build_misconfigured_iff]
    decide

end Settings
end Toolpath
