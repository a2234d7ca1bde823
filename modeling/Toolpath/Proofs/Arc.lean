import Toolpath.Proofs.Motion.Step

/-! Arcs are the same on every plane: an arc is expanded as its image on the XY plane is, and the
points are put back onto its own plane. -/

namespace Toolpath
namespace Plane

/-- The axes of a plane turned so that they become X, Y and Z. -/
def toXY (p : Plane) (q : Point) : Point :=
  let (u, v, w) := p.project q
  ⟨u, v, w⟩

def ofXY (p : Plane) (q : Point) : Point := p.unproject q.x q.y q.z

lemma ofXY_toXY (p : Plane) (q : Point) : p.ofXY (p.toXY q) = q := p.unproject_project q

lemma project_toXY (p : Plane) (q : Point) : xy.project (p.toXY q) = p.project q := rfl

lemma ofXY_unproject (p : Plane) (u v w : Float) :
    p.ofXY (xy.unproject u v w) = p.unproject u v w := rfl

end Plane

namespace Arc

def onXY (a : Arc) : Arc :=
  { a with
    start := a.plane.toXY a.start
    target := a.plane.toXY a.target
    plane := .xy }

variable (a : Arc) (r : ArcResolution)

lemma resolveCenter_onXY (du dv : Float) :
    a.onXY.resolveCenter r du dv = a.resolveCenter r du dv := rfl

lemma helix_onXY : a.onXY.helix r = a.helix r := by
  have hstart : a.onXY.plane.project a.onXY.start = a.plane.project a.start :=
    a.plane.project_toXY a.start
  have htarget : a.onXY.plane.project a.onXY.target = a.plane.project a.target :=
    a.plane.project_toXY a.target
  simp only [helix, hstart, htarget, resolveCenter_onXY]
  rfl

lemma ofXY_pointAt (h : Helix) (p : Plane) (t : Float) :
    p.ofXY (h.pointAt .xy t) = h.pointAt p t :=
  p.ofXY_unproject _ _ _

lemma points_onXY (h : Helix) (n : Nat) : a.points h n = (a.onXY.points h n).map a.plane.ofXY := by
  have htarget : a.plane.ofXY a.onXY.target = a.target := a.plane.ofXY_toXY a.target
  rw [points, points, List.map_append, List.map_map, List.map_singleton, htarget]
  exact congrArg (· ++ _) (List.map_congr_left fun k _ => (ofXY_pointAt h a.plane _).symm)

variable {a r} in
lemma exists_expand
    (h : (a.helix r).toOption.any fun h => h.segments r.segmentLength ≤ Point.room) :
    ∃ points, a.expand r = .ok (some points) := by
  rw [expand]
  cases hh : a.helix r with
  | error e => rw [hh] at h; cases h
  | ok helix =>
    rw [hh] at h
    have hroom : helix.segments r.segmentLength ≤ Point.room := of_decide_eq_true h
    exact ⟨_, congrArg Except.ok (if_neg (Nat.not_lt.mpr hroom))⟩

theorem expand_onXY :
    a.expand r = (a.onXY.expand r).map (Option.map (List.map a.plane.ofXY)) ∧
      ∀ points, a.expand r = .ok (some points) → points.getLast? = some a.target := by
  constructor
  · rw [expand, expand, helix_onXY]
    cases a.helix r with
    | error e => rfl
    | ok h =>
      refine congrArg Except.ok ?_
      dsimp only
      split
      · rfl
      · exact congrArg some (a.points_onXY h _)
  · intro points h
    obtain ⟨inner, rfl⟩ := exists_of_expand h
    exact List.getLast?_concat

theorem expand_onXY_full_turn :
    let a : Arc := ⟨⟨0.0, 3.0, 0.0⟩, ⟨0.0, 8.0, 0.0⟩, .xz, .offset 0.0 5.0, true⟩
    a.onXY.start = ⟨0.0, 0.0, 3.0⟩ ∧ a.onXY.target = ⟨0.0, 0.0, 8.0⟩ ∧
      ∃ points, a.expand {} = .ok (some points) ∧ points.getLast? = some ⟨0.0, 8.0, 0.0⟩ ∧
        .ok (some points) = (a.onXY.expand {}).map (Option.map (List.map Plane.xz.ofXY)) := by
  intro a
  obtain ⟨points, hpoints⟩ : ∃ points, a.expand {} = .ok (some points) :=
    exists_expand (by decide +kernel)
  obtain ⟨hsame, hlast⟩ := expand_onXY a {}
  exact ⟨rfl, rfl, points, hpoints, hlast points hpoints, hpoints.symm.trans hsame⟩

end Arc
end Toolpath
