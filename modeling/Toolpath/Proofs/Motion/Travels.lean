import Toolpath.Proofs.Motion.Rig
import Toolpath.Proofs.Segment.Travels

/-! Machines that do not draw travels. They are moved as others are, and draw what those draw except
for the travels. -/

namespace Toolpath

def Settings.withTravels (s : Settings) (shown : Bool) : Settings :=
  { s with parser.renderTravels := shown }

namespace Machine

def withoutTravels (m : Machine) : Machine :=
  m.withParsing { m.parsing with renderTravels := false }

def hideTravels (r : Machine × List Emission) : Machine × List Emission :=
  (r.1.withoutTravels, r.2.filter (!·.isTravel))

variable (m : Machine) (i : Instruction) (mode : MotionMode) (target : Point) (stamp : Stamp)

lemma state_withoutTravels : m.withoutTravels.state = m.state := rfl

lemma renderAllowed_withoutTravels :
    m.withoutTravels.renderAllowed = m.renderAllowed := rfl

lemma segmentHeight_withoutTravels :
    m.withoutTravels.segmentHeight = m.segmentHeight := rfl

lemma moveTo_withoutTravels :
    m.withoutTravels.moveTo target = (m.moveTo target).withoutTravels := rfl

lemma parsing_withoutTravels :
    m.withoutTravels.parsing = { m.parsing with renderTravels := false } := rfl

lemma withoutTravels_comm (f : Machine → Machine)
    (hf : ∀ m p, f (withParsing m p) = (f m).withParsing p) (m : Machine) :
    f m.withoutTravels = (f m).withoutTravels := by
  have hparsing : (f m).parsing = m.parsing := by
    have hsame : f m = (f m).withParsing m.parsing := hf m m.parsing
    rw [hsame]
    rfl
  rw [withoutTravels, hf, withoutTravels, hparsing]

lemma path_withoutTravels (k : Stroke) (start : Point) (points : List Point) :
    m.withoutTravels.path k start points = m.path k start points := by
  induction points generalizing start with
  | nil => rfl
  | cons p points ih => rw [path, path, ih]; rfl

lemma isTravel_of_mem_path {k : Stroke} {start : Point} {points : List Point} {s : Segment}
    (h : s ∈ m.path k start points) : s.isTravel = !k.depositing := by
  induction points generalizing start with
  | nil => cases h
  | cons p points ih =>
    rcases List.mem_cons.mp h with rfl | h
    · rfl
    · exact ih h

lemma trackLayer_withoutTravels (z : Float) :
    m.withoutTravels.trackLayer z = hideTravels (m.trackLayer z) := by
  rw [trackLayer, trackLayer, apply_ite hideTravels]
  rfl

lemma draw_deposit {k : Stroke} (hk : k.depositing) (start : Point) (points : List Point)
    (z : Float) :
    m.withoutTravels.draw k start points z = hideTravels (m.draw k start points z) := by
  have hpath (m' : Machine) :
      ((m'.path k start points).map Emission.segment).filter (!·.isTravel) =
        (m'.path k start points).map Emission.segment := by
    apply List.filter_eq_self.mpr
    intro e he
    obtain ⟨s, hs, rfl⟩ := List.mem_map.mp he
    have hs := m'.isTravel_of_mem_path hs
    simp [Emission.isTravel, hs, hk]
  unfold draw
  rw [hk, if_pos rfl, if_pos rfl, trackLayer_withoutTravels]
  simp only [hideTravels, List.filter_append, hpath, path_withoutTravels]

lemma draw_travel {k : Stroke} (hk : k.depositing = false) (start : Point) (points : List Point)
    (z : Float) : hideTravels (m.draw k start points z) = (m.withoutTravels, []) := by
  have hpath :
      ((m.path k start points).map Emission.segment).filter (!·.isTravel) = [] := by
    apply List.filter_eq_nil_iff.mpr
    intro e he
    obtain ⟨s, hs, rfl⟩ := List.mem_map.mp he
    have hs := m.isTravel_of_mem_path hs
    simp [Emission.isTravel, hs, hk]
  simp [draw, hideTravels, hk, hpath]

lemma straightMove_withoutTravels :
    m.withoutTravels.straightMove i mode target stamp =
      hideTravels (m.straightMove i mode target stamp) := by
  unfold straightMove
  dsimp only
  rw [renderAllowed_withoutTravels, segmentHeight_withoutTravels, moveTo_withoutTravels,
    state_withoutTravels, parsing_withoutTravels]
  split
  · rfl
  · split
    · exact draw_deposit _ rfl ..
    · rw [Bool.false_and, if_neg Bool.false_ne_true]
      split
      · exact (draw_travel _ rfl ..).symm
      · rfl

lemma arcMove_withoutTravels :
    m.withoutTravels.arcMove i mode target stamp = hideTravels (m.arcMove i mode target stamp) := by
  have hcenter : m.withoutTravels.arcCenter i = m.arcCenter i := rfl
  have hresolution : m.withoutTravels.resolution = m.resolution := rfl
  unfold arcMove
  dsimp only
  rw [renderAllowed_withoutTravels, segmentHeight_withoutTravels, moveTo_withoutTravels,
    state_withoutTravels, parsing_withoutTravels, hcenter, hresolution]
  split
  · rfl
  · rfl
  · dsimp only
    cases hd : 0.0 < i.getD 'E' || m.parsing.workingMovesDeposit || m.state.spindleOn with
    | true =>
      rw [Bool.true_or, Bool.true_or, Bool.and_true]
      split
      · exact draw_deposit _ rfl ..
      · rfl
    | false =>
      rw [Bool.or_false, Bool.and_false, if_neg Bool.false_ne_true, Bool.false_or]
      split
      · exact (draw_travel _ rfl ..).symm
      · rfl

lemma move_withoutTravels (machineCoords : Bool) :
    m.withoutTravels.move i mode machineCoords stamp =
      hideTravels (m.move i mode machineCoords stamp) := by
  cases mode with
  | rapid => exact straightMove_withoutTravels ..
  | linear => exact straightMove_withoutTravels ..
  | arcClockwise => exact arcMove_withoutTravels ..
  | arcCounter => exact arcMove_withoutTravels ..

lemma execute_withoutTravels :
    m.withoutTravels.execute i stamp = hideTravels (m.execute i stamp) := by
  have hp : m.withoutTravels.prepare i stamp = (m.prepare i stamp).withoutTravels :=
    withoutTravels_comm (prepare · i stamp) (fun m p => withParsing_prepare m i p stamp) m
  rw [execute, execute, hp]
  generalize m.prepare i stamp = m
  dsimp only
  split
  · have hset : m.withoutTravels.setWorkplaceOffset i = (m.setWorkplaceOffset i).withoutTravels :=
      withoutTravels_comm (setWorkplaceOffset · i) (fun m p => withParsing_setWorkplaceOffset m i p) m
    rw [hset]
    rfl
  · split
    · rfl
    · have hmotion : m.withoutTravels.motion? i = m.motion? i := rfl
      rw [hmotion]
      split
      · next mode _ =>
        exact move_withoutTravels { m with state := { m.state with mode } } i mode stamp _
      · rfl

lemma interpret_withoutTravels (line : List Char) :
    m.withoutTravels.interpret line stamp =
      ((m.interpret line stamp).1.withoutTravels, (m.interpret line stamp).2.withoutTravels) := by
  unfold interpret
  dsimp only
  generalize Text.trim line = line
  split
  · rfl
  · split
    · have hannotate : m.withoutTravels.annotate line = (m.annotate line).withoutTravels :=
        withoutTravels_comm (annotate · line) (fun m p => withParsing_annotate m p line) m
      rw [hannotate]
      rfl
    · generalize Instruction.tokenize (stripComments line) = i
      split
      · rfl
      · have hrecord (fs : List Fault) :
            m.withoutTravels.recordAll fs = (m.recordAll fs).withoutTravels := rfl
        rw [hrecord, execute_withoutTravels]
        rfl

lemma ofTools_withTravels (s : Settings) (tools : ToolTable) (style : SlicerStyle) :
    ofTools (s.withTravels false) tools style =
      (ofTools (s.withTravels true) tools style).map withoutTravels := by
  unfold ofTools
  have hlength : (s.withTravels false).parser.arcSegmentLength =
      (s.withTravels true).parser.arcSegmentLength := rfl
  have hfixup : (s.withTravels false).parser.arcRadiusFixup =
      (s.withTravels true).parser.arcRadiusFixup := rfl
  rw [hlength, hfixup]
  split <;> rfl

end Machine

namespace Run

def withoutTravels (r : Run) : Run := ⟨r.machine.withoutTravels, r.store.withoutTravels⟩

lemma withoutTravels_new (m : Machine) :
    (⟨m, {}⟩ : Run).withoutTravels = ⟨m.withoutTravels, {}⟩ := by
  rw [withoutTravels, Store.withoutTravels_empty]

lemma feed_withoutTravels {r : Run} (h : r.store.Covers) (line : List Char) (stamp : Stamp) :
    r.withoutTravels.feed line stamp = (r.feed line stamp).withoutTravels := by
  rw [feed, feed, withoutTravels, withoutTravels, Machine.interpret_withoutTravels]
  dsimp only
  rw [Store.withoutTravels_draw h]

lemma feedAll_withoutTravels {r : Run} (h : r.store.Covers) (lines : List (List Char × Stamp)) :
    r.withoutTravels.feedAll lines = (r.feedAll lines).withoutTravels := by
  induction lines generalizing r with
  | nil => rfl
  | cons line lines ih =>
    -- layers keep pointing to segments that are drawn, so they can be counted again
    have hnext : (r.feed line.1 line.2).store.Covers := h.draw line.2 _
    rw [feedAll, feedAll, List.foldl_cons, List.foldl_cons, feed_withoutTravels h]
    exact ih hnext

end Run
end Toolpath
