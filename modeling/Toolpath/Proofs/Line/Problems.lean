import Toolpath.Proofs.Line.Workplace

/-! The problems of a line, in the order in which they are met: words that are malformed, codes that
are unsupported, a tool that there is not, a workplace that there is not, an arc without a circle. -/

namespace Toolpath

def Arc.failure? (a : Arc) (r : ArcResolution) : Option (GeometryError Float) :=
  match a.expand r with
  | .error e => some e
  | .ok _ => none

namespace State

def supportedCodes : List Nat :=
  [0, 10, 20, 30, 100, 110, 170, 180, 190, 200, 210, 280, 530, 540, 550, 560, 570, 580, 590, 591,
    592, 593, 900, 910, 920]

lemma isSome_ofCode? (code : Nat) :
    (MotionMode.ofCode? code).isSome ↔ code ∈ [0, 10, 20, 30] := by
  unfold MotionMode.ofCode?
  split <;> simp_all

lemma isSome_workplaceOf? (code : Nat) :
    (workplaceOf? code).isSome ↔ code ∈ [540, 550, 560, 570, 580, 590, 591, 592, 593] := by
  unfold workplaceOf?
  split <;> simp_all

lemma isKnownCode_eq (code : Nat) : isKnownCode code = decide (code ∈ supportedCodes) := by
  have hperm : supportedCodes.Perm ([0, 10, 20, 30] ++
      ([540, 550, 560, 570, 580, 590, 591, 592, 593] ++ plainCodes)) := by decide
  rw [Bool.eq_iff_iff, decide_eq_true_iff, hperm.mem_iff, List.mem_append, List.mem_append,
    isKnownCode, Bool.or_eq_true, Bool.or_eq_true, isSome_ofCode?, isSome_workplaceOf?,
    List.contains_iff_mem, or_assoc]

end State

namespace Instruction

variable (i : Instruction)

def unsupported : List Nat := (i.codes 'G').filter (· ∉ State.supportedCodes)

def tool? : Option Int :=
  if (i.codes 'G').isEmpty && (i.codes 'M').all (· == 60) then
    (i.get? 'T').map (roundFloat .truncate .signed64)
  else none

def place? : Option Int :=
  if i.hasCode 'G' 100 && i.has 'L' then some (Machine.roundWord (i.getD 'P')) else none

def strayTool? (size : Nat) : Option Int := i.tool?.filter fun t => t < 0 ∨ size ≤ t

def strayPlace? : Option Int := i.place?.filter fun p => p < 0 ∨ 9 < p

end Instruction

namespace Machine

variable (m : Machine) (i : Instruction) (stamp : Stamp)

def arc? : Option Arc :=
  let along (clockwise : Bool) : Arc := {
    start := m.state.machine
    target := m.state.target i (i.hasCode 'G' 530)
    plane := m.state.plane
    center := m.arcCenter i
    clockwise }
  if i.hasCode 'G' 100 && i.has 'L' || i.hasCode 'G' 280 then none
  else
    match m.motion? i with
    | some .arcClockwise => some (along true)
    | some .arcCounter => some (along false)
    | some .rapid | some .linear | none => none

def arcFailure? : Option (GeometryError Float) :=
  ((m.prepare i stamp).arc? i).bind (·.failure? m.resolution)

def unsupported : List Fault :=
  i.unsupported.map fun code => .recoverable stamp.line (.unsupportedCode code)

def misselected : List Fault :=
  (i.strayTool? m.tools.size).toList.map fun t =>
    .misconfigured (.toolAdjusted t (m.tools.resolve t).index)

def misplaced : List Fault := i.strayPlace?.toList.map fun p => .misconfigured (.noWorkplace p)

def degenerate : List Fault := (m.arcFailure? i stamp).toList.map (.degenerate stamp.line)

/-- The problems that the words of a line raise, all but the malformed ones. -/
def raised : List Fault :=
  unsupported i stamp ++ (m.misselected i ++ (misplaced i ++ m.degenerate i stamp))

def problems (line : List Char) : List Fault :=
  if isNoted line then malformed line stamp ++ m.raised (instruction line) stamp else []

end Machine

lemma Diagnostics.recordAll_append (d : Diagnostics) (fs gs : List Fault) :
    d.recordAll (fs ++ gs) = (d.recordAll fs).recordAll gs := List.foldl_append

namespace Machine

variable (m : Machine) (i : Instruction) (stamp : Stamp)

/-! What each stage of a line adds to the list of problems. -/

lemma diagnostics_setTool (index : Nat) : (m.setTool index).diagnostics = m.diagnostics := by
  rw [setTool]
  split <;> rfl

lemma diagnostics_enterFeed : (m.enterFeed i).diagnostics = m.diagnostics := by
  rw [enterFeed]
  split
  · rw [setFeedRate]
    split <;> rfl
  · rfl

lemma diagnostics_enterModes :
    (m.enterModes i stamp).diagnostics = m.diagnostics.recordAll (unsupported i stamp) := by
  have hfilter : (i.codes 'G').filter (!State.isKnownCode ·) = i.unsupported := by
    simp only [State.isKnownCode_eq, Instruction.unsupported, decide_not]
  rw [enterModes, hfilter]
  rfl

lemma diagnostics_applyM (code : Nat) : (m.applyM i code).diagnostics = m.diagnostics := by
  unfold applyM
  split
  · split <;> rfl
  · split <;> rfl
  · rfl
  · rw [mixColors]
    split
    · rfl
    · split <;> rfl
  · exact diagnostics_setTool ..
  · rfl

lemma diagnostics_foldl_applyM (codes : List Nat) :
    (codes.foldl (applyM i) m).diagnostics = m.diagnostics :=
  List.foldlRecOn (motive := fun n : Machine => n.diagnostics = m.diagnostics) codes _ rfl
    fun n hn code _ => (n.diagnostics_applyM i code).trans hn

lemma diagnostics_selectTool (requested : Int) :
    (m.selectTool requested).diagnostics =
      if requested < 0 ∨ (m.tools.size : Int) ≤ requested then
        m.diagnostics.record (.misconfigured (.toolAdjusted requested (m.tools.resolve requested).index))
      else m.diagnostics := by
  have hadjusted : (m.tools.resolve requested).adjusted =
      decide (requested < 0 ∨ (m.tools.size : Int) ≤ requested) := by
    rw [ToolTable.resolve]
    split
    · next h => simp [h]
    · next h =>
      have hle : (m.tools.size : Int) ≤ requested ↔ m.tools.size ≤ requested.toNat := by omega
      simp only [h, false_or, hle]
  rw [selectTool, diagnostics_setTool, hadjusted]
  simp only [decide_eq_true_eq]
  split <;> rfl

lemma diagnostics_enterTool :
    (m.enterTool i).diagnostics = m.diagnostics.recordAll (m.misselected i) := by
  rw [enterTool, misselected, Instruction.strayTool?, Instruction.tool?]
  cases hcodes : (i.codes 'G').isEmpty && (i.codes 'M').all (· == 60) with
  | false =>
    cases i.get? 'T' with
    | none => rfl
    | some tool => rfl
  | true =>
    cases i.get? 'T' with
    | none => rfl
    | some tool =>
      dsimp only [if_true, Option.map_some]
      rw [if_pos rfl, if_pos rfl, diagnostics_selectTool, Option.filter_some]
      simp only [decide_eq_true_eq]
      split <;> rfl

lemma diagnostics_prepare :
    (m.prepare i stamp).diagnostics =
      m.diagnostics.recordAll (unsupported i stamp ++ m.misselected i) := by
  have hrig : ((i.codes 'M').foldl (applyM i) ((m.enterFeed i).enterModes i stamp)).rig = m.rig :=
    (unworded_rig.steady _).foldl_applyM
      ((unworded_rig.steady _).enterModes ((unworded_rig.steady _).enterFeed rfl) stamp) _
  have htools := congrArg Rig.tools hrig
  dsimp only [rig] at htools
  rw [prepare_eq, diagnostics_enterTool, misselected, htools, ← misselected,
    diagnostics_foldl_applyM, diagnostics_enterModes, diagnostics_enterFeed,
    Diagnostics.recordAll_append]

lemma diagnostics_setWorkplaceOffset (h : i.SetsWorkplace) :
    (m.setWorkplaceOffset i).diagnostics = m.diagnostics.recordAll (misplaced i) := by
  have hplace : i.place? = some (roundWord (i.getD 'P')) := by
    rw [Instruction.place?, h.code, h.slot]
    rfl
  rw [misplaced, Instruction.strayPlace?, hplace, Option.filter_some, setWorkplaceOffset]
  dsimp only
  generalize roundWord (i.getD 'P') = p
  by_cases hp : 0 ≤ p ∧ p ≤ 9
  · obtain ⟨w, hw, -⟩ := exists_workplace? m.state.workplace hp
    have hinside : ¬ (p < 0 ∨ 9 < p) := by omega
    rw [hw, if_neg (by simpa using hinside)]
    rfl
  · have houtside : p < 0 ∨ 9 < p := by omega
    rw [workplace?_eq_none hp, if_pos (by simpa using houtside)]
    rfl

lemma diagnostics_trackLayer (z : Float) : (m.trackLayer z).1.diagnostics = m.diagnostics := by
  rw [trackLayer]
  split <;> rfl

lemma diagnostics_draw (k : Stroke) (start : Point) (points : List Point) (z : Float) :
    (m.draw k start points z).1.diagnostics = m.diagnostics := by
  unfold draw
  cases k.depositing with
  | true => exact diagnostics_trackLayer m z
  | false => rfl

lemma diagnostics_straightMove (mode : MotionMode) (target : Point) :
    (m.straightMove i mode target stamp).1.diagnostics = m.diagnostics := by
  rw [straightMove]
  split
  · rfl
  · split
    · exact diagnostics_draw ..
    · split
      · exact diagnostics_draw ..
      · rfl

lemma diagnostics_arcMove (mode : MotionMode) (target : Point) :
    (m.arcMove i mode target stamp).1.diagnostics = m.diagnostics.recordAll
      ((Arc.failure? ⟨m.state.machine, target, m.state.plane, m.arcCenter i, mode = .arcClockwise⟩
        m.resolution).toList.map (.degenerate stamp.line)) := by
  rw [arcMove, Arc.failure?]
  dsimp only
  generalize Arc.expand _ _ = points
  cases points with
  | error e => rfl
  | ok points =>
    cases points with
    | none => rfl
    | some points =>
      dsimp only
      split
      · exact diagnostics_draw ..
      · rfl

lemma diagnostics_act :
    (m.execute i stamp).1.diagnostics =
      (m.prepare i stamp).diagnostics.recordAll (misplaced i ++ m.degenerate i stamp) := by
  have hresolution : (m.prepare i stamp).resolution = m.resolution :=
    (congrArg Rig.resolution (unworded_rig.prepare m i stamp) :)
  rw [degenerate, arcFailure?, ← hresolution]
  by_cases hplace : i.SetsWorkplace
  · rw [execute_workplace m hplace, diagnostics_setWorkplaceOffset _ i hplace, arc?, hplace.code,
      hplace.slot]
    exact congrArg _ (List.append_nil _).symm
  · have hcode (code : Nat) : (i.codes 'G').contains code = i.hasCode 'G' code := rfl
    have hnot : (i.hasCode 'G' 100 && i.has 'L') = false := Bool.eq_false_iff.mpr fun h =>
      hplace ⟨(Bool.and_eq_true_iff.mp h).1, (Bool.and_eq_true_iff.mp h).2⟩
    rw [misplaced, Instruction.strayPlace?, Instruction.place?, execute, arc?]
    simp only [hcode, hnot, Bool.false_or, Bool.false_eq_true, if_false]
    generalize m.prepare i stamp = ready
    split
    · rfl
    · cases ready.motion? i with
      | none => rfl
      | some mode =>
        cases mode with
        | rapid => exact diagnostics_straightMove ..
        | linear => exact diagnostics_straightMove ..
        | arcClockwise => exact diagnostics_arcMove ..
        | arcCounter => exact diagnostics_arcMove ..

lemma diagnostics_execute :
    (m.execute i stamp).1.diagnostics = m.diagnostics.recordAll (m.raised i stamp) := by
  rw [diagnostics_act, diagnostics_prepare, ← Diagnostics.recordAll_append, List.append_assoc, raised]

variable {m i} in
lemma arc?_congr {m' : Machine} (h : m.state.kinematics = m'.state.kinematics) :
    m.arc? i = m'.arc? i := by
  have hk : { m with state := m.state.kinematics }.arc? i =
      { m' with state := m'.state.kinematics }.arc? i := by
    rw [h]
    rfl
  exact hk

lemma raised_recordAll (faults : List Fault) :
    (m.recordAll faults).raised i stamp = m.raised i stamp := by
  have hk : ((m.recordAll faults).prepare i stamp).state.kinematics =
      (m.prepare i stamp).state.kinematics := by
    rw [kinematics_prepare, kinematics_prepare]
    rfl
  have harc : (m.recordAll faults).arcFailure? i stamp = m.arcFailure? i stamp := by
    rw [arcFailure?, arcFailure?, arc?_congr hk]
    rfl
  rw [raised, degenerate, harc]
  rfl

lemma raised_nil : m.raised {} stamp = [] := by
  have hmotion (n : Machine) : n.arc? {} = none := rfl
  rw [raised, degenerate, arcFailure?, hmotion]
  rfl

lemma diagnostics_annotate (line : List Char) : (m.annotate line).diagnostics = m.diagnostics := by
  rw [annotate]
  dsimp only
  split <;> rfl

lemma instruction_of_isEmpty {line : List Char} (h : (instruction line).isEmpty) :
    instruction line = {} := by
  rw [instruction, Instruction.tokenize] at h ⊢
  generalize Token.split _ = ts at h ⊢
  cases ts with
  | nil => rfl
  | cons t ts => cases h

lemma diagnostics_interpret (line : List Char) :
    (m.interpret line stamp).1.diagnostics = m.diagnostics.recordAll (m.problems stamp line) := by
  rw [problems]
  split
  · next hnoted =>
    rw [interpret_noted m hnoted]
    split
    · next hempty =>
      rw [malformed, instruction_of_isEmpty hempty, raised_nil]
      rfl
    · dsimp only
      rw [diagnostics_execute, raised_recordAll, Diagnostics.recordAll_append]
      rfl
  · next hnoted =>
    rw [interpret]
    dsimp only
    split
    · rfl
    · next hblank =>
      have hcomment : isCommentLine (Text.trim line) := by
        rw [isNoted, Bool.eq_false_iff.mpr hblank] at hnoted
        simpa using hnoted
      rw [if_pos hcomment]
      exact diagnostics_annotate ..

end Machine
end Toolpath
