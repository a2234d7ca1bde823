import Toolpath.Proofs.Comparison
import Toolpath.Proofs.Motion.Annotations

/-! The colors of a program. Where colors follow the feed rate or the tool, the active color is always
the one that they give, until a program mixes its own. -/

namespace Toolpath
lemma ToolTable.get_mem (t : ToolTable) (i : Nat) : t.get i ∈ t.tools := Array.getElem_mem _

namespace Classifier

def Named (c : Classifier) : Prop := c.isPerimeter ∨ c.feature.isSome

lemma named_new (style : SlicerStyle) : ({ style } : Classifier).Named := Or.inl rfl

lemma Named.recognize {c : Classifier} (h : c.Named) (comment : List Char) :
    (c.recognize comment).1.Named := by
  rw [Classifier.recognize]
  split
  · next a _ =>
    cases a with
    | feature name => exact Or.inr rfl
    | height height => exact h
  · exact h

end Classifier

namespace State

structure Paint where
  color : Color
  tool : Nat
  feedRate : Float

def paint (s : State) : Paint := ⟨s.color, s.tool, s.feedRate⟩

lemma uncoded_paint : Uncoded paint := fun _ _ _ _ _ _ => rfl

end State

namespace Machine

variable {m m' : Machine} {i : Instruction} {stamp : Stamp}

def ruledColor (m : Machine) : Color :=
  if m.coloring.mode = .feed then m.coloring.feedColor m.state.feedRate
  else m.tools.color m.state.tool

def Ruled (m : Machine) : Prop := m.state.color = m.ruledColor

lemma ruled_iff_feed (h : m.coloring.mode = .feed) :
    m.Ruled ↔ m.state.color = m.coloring.feedColor m.state.feedRate := by
  rw [Ruled, ruledColor, if_pos h]

lemma ruled_iff_tool (h : m.coloring.mode ≠ .feed) :
    m.Ruled ↔ m.state.color = m.tools.color m.state.tool := by
  rw [Ruled, ruledColor, if_neg h]

lemma Ruled.congr (h : m.Ruled) (hpaint : m'.state.paint = m.state.paint) (hrig : m'.rig = m.rig) :
    m'.Ruled := by
  obtain ⟨hcolor, htool, hfeed⟩ := State.Paint.mk.inj hpaint
  obtain ⟨-, hcoloring, -, htools, -⟩ := Rig.mk.inj hrig
  rw [Ruled, ruledColor, hcolor, htool, hfeed, hcoloring, htools]
  exact h

lemma Ruled.recordAll (h : m.Ruled) (faults : List Fault) : (m.recordAll faults).Ruled :=
  h.congr rfl rfl

lemma Ruled.setTool (h : m.Ruled) (index : Nat) : (m.setTool index).Ruled := by
  by_cases hmode : m.coloring.mode = .feed
  · have hcolor := (ruled_iff_feed hmode).mp h
    rw [Machine.setTool, if_pos hmode, ruled_iff_feed]
    · exact hcolor
    · exact hmode
  · rw [Machine.setTool, if_neg hmode, ruled_iff_tool]
    · rfl
    · exact hmode

lemma Ruled.setFeedRate (h : m.Ruled) (rate : Float) : (m.setFeedRate rate).Ruled := by
  by_cases hmode : m.coloring.mode = .feed
  · rw [Machine.setFeedRate, if_pos hmode, ruled_iff_feed]
    · rfl
    · exact hmode
  · have hcolor := (ruled_iff_tool hmode).mp h
    rw [Machine.setFeedRate, if_neg hmode, ruled_iff_tool]
    · exact hcolor
    · exact hmode

lemma Ruled.selectTool (h : m.Ruled) (requested : Int) : (m.selectTool requested).Ruled := by
  rw [Machine.selectTool]
  refine Ruled.setTool ?_ _
  split
  · exact h.congr rfl rfl
  · exact h

lemma Ruled.applyM (h : m.Ruled) {code : Nat} (hmix : m.coloring.mode = .feed ∨ code ≠ 5670) :
    (m.applyM i code).Ruled := by
  unfold Machine.applyM
  split
  · split
    · exact h.congr rfl rfl
    · exact h
  · split
    · exact h.congr rfl rfl
    · exact h
  · exact h.congr rfl rfl
  · have hmode : m.coloring.mode = .feed := hmix.resolve_right fun hne => hne rfl
    rw [mixColors, if_pos hmode]
    exact h
  · exact h.setTool _
  · exact h

lemma Ruled.foldl_applyM (h : m.Ruled) {codes : List Nat}
    (hmix : m.coloring.mode = .feed ∨ 5670 ∉ codes) : (codes.foldl (Machine.applyM i) m).Ruled := by
  induction codes generalizing m with
  | nil => exact h
  | cons code codes ih =>
    have hcoloring : (m.applyM i code).coloring = m.coloring :=
      congrArg Rig.coloring (unworded_rig.applyM m i code)
    have hhead : m.coloring.mode = .feed ∨ code ≠ 5670 :=
      hmix.imp_right fun hnot heq => hnot (heq ▸ List.mem_cons_self)
    refine ih (h.applyM hhead) ?_
    rw [hcoloring]
    exact hmix.imp_right fun hnot hmem => hnot (List.mem_cons_of_mem code hmem)

lemma Ruled.enterFeed (h : m.Ruled) : (m.enterFeed i).Ruled := by
  rw [Machine.enterFeed]
  split
  · exact h.setFeedRate _
  · exact h

lemma Ruled.enterModes (h : m.Ruled) : (m.enterModes i stamp).Ruled :=
  h.congr (State.uncoded_paint.foldl_applyCode _ m.state _) (unworded_rig.enterModes m i stamp)

lemma Ruled.enterTool (h : m.Ruled) : (m.enterTool i).Ruled := by
  rw [Machine.enterTool]
  split
  · split
    · exact h.selectTool _
    · exact h
  · exact h

lemma Ruled.prepare (h : m.Ruled) (hmix : m.coloring.mode = .feed ∨ 5670 ∉ i.codes 'M') :
    (m.prepare i stamp).Ruled := by
  have hcoloring : ((m.enterFeed i).enterModes i stamp).coloring = m.coloring :=
    congrArg Rig.coloring (unworded_rig.enterFeed m i)
  rw [prepare_eq]
  refine (h.enterFeed.enterModes.foldl_applyM ?_).enterTool
  rw [hcoloring]
  exact hmix

lemma paint_setWorkplaceOffset (m : Machine) (i : Instruction) :
    (m.setWorkplaceOffset i).state.paint = m.state.paint := by
  rw [setWorkplaceOffset]
  split <;> rfl

lemma paint_trackLayer (m : Machine) (z : Float) : (m.trackLayer z).1.state.paint = m.state.paint := by
  rw [trackLayer]
  split <;> rfl

lemma paint_draw (m : Machine) (k : Stroke) (start : Point) (points : List Point) (z : Float) :
    (m.draw k start points z).1.state.paint = m.state.paint := by
  unfold draw
  cases k.depositing with
  | true => exact paint_trackLayer m z
  | false => rfl

lemma Moved.paint_eq {mode : MotionMode} {target : Point} {r : Machine × List Emission}
    (h : Moved m mode target stamp r) : r.1.state.paint = m.state.paint := by
  cases h with
  | unseen => rfl
  | degenerate e => rfl
  | overflow => rfl
  | drawn depositing inner _ _ => exact paint_draw ..

lemma Executed.paint_eq {r : Machine × List Emission} (h : Executed m i stamp r) :
    r.1.state.paint = m.state.paint := by
  cases h with
  | offset => exact paint_setWorkplaceOffset m i
  | home => rfl
  | move mode machineCoords => exact (moved ..).paint_eq
  | idle => rfl

lemma Ruled.execute (h : m.Ruled) (hmix : m.coloring.mode = .feed ∨ 5670 ∉ i.codes 'M') :
    (m.execute i stamp).1.Ruled :=
  (h.prepare hmix).congr (executed m i stamp).paint_eq (executed m i stamp).rig_eq

def Mixes (line : List Char) : Prop :=
  ¬ isCommentLine (Text.trim line) ∧ 5670 ∈ (instruction line).codes 'M'

instance (line : List Char) : Decidable (Mixes line) := inferInstanceAs (Decidable (_ ∧ _))

lemma Ruled.annotate (h : m.Ruled) (hmode : m.coloring.mode ≠ .feature) (line : List Char) :
    (m.annotate line).Ruled := by
  rw [Machine.annotate]
  dsimp only
  rw [if_neg (by simp [hmode])]
  exact h

lemma Ruled.interpret {line : List Char} (h : m.Ruled) (hmode : m.coloring.mode ≠ .feature)
    (hmix : m.coloring.mode = .feed ∨ ¬ Mixes line) : (m.interpret line stamp).1.Ruled := by
  rw [Machine.interpret]
  dsimp only
  split
  · exact h
  · split
    · exact h.annotate hmode _
    · next hcomment =>
      split
      · exact h
      · have hcodes : m.coloring.mode = .feed ∨ 5670 ∉ (instruction line).codes 'M' :=
          hmix.imp_right fun hnot hmem => hnot ⟨hcomment, hmem⟩
        exact (h.recordAll (malformed line stamp)).execute hcodes

structure Equipped (coloring : Settings.Coloring) (tools : ToolTable) (m : Machine) : Prop where
  coloring : m.coloring = coloring
  tools : m.tools = tools
  named : m.classifier.Named

variable {coloring : Settings.Coloring} {tools : ToolTable}

lemma Equipped.interpret (h : Equipped coloring tools m) (line : List Char) (stamp : Stamp) :
    Equipped coloring tools (m.interpret line stamp).1 where
  coloring := (coloring_interpret m line stamp).trans h.coloring
  tools := (tools_interpret m line stamp).trans h.tools
  named := by
    rw [classifier_interpret]
    exact h.named.recognize (Text.trim line)

lemma equipped_ofTools {s : Settings} {style : SlicerStyle} (h : ofTools s tools style = .ok m) :
    Equipped s.color tools m ∧ m.Ruled := by
  obtain ⟨resolution, rfl⟩ := exists_of_ofTools h
  refine ⟨⟨rfl, rfl, Classifier.named_new style⟩, ?_⟩
  rw [Ruled, ruledColor]
  dsimp only [State.initial, startColor]
  cases s.color.mode <;> rfl

lemma depositColor_feed (h : m.Ruled) (hmode : m.coloring.mode = .feed) :
    m.depositColor = m.coloring.feedColor m.state.feedRate := by
  rw [depositColor, if_neg (by simp [hmode])]
  exact (ruled_iff_feed hmode).mp h

lemma depositColor_flat (h : m.Ruled) (hmode : m.coloring.mode = .flat) (hnamed : m.classifier.Named)
    (hnumeric : (m.tools.color m.state.tool).IsNumeric) :
    m.depositColor =
      if m.classifier.isPerimeter then m.tools.color m.state.tool
      else m.tools.darkerColor m.state.tool := by
  have hcolor : m.state.color = m.tools.color m.state.tool := (ruled_iff_tool (by simp [hmode])).mp h
  rw [depositColor, hcolor]
  cases hperimeter : m.classifier.isPerimeter with
  | true => simp
  | false =>
    have hfeature : m.classifier.feature.isSome := hnamed.resolve_left (by simp [hperimeter])
    simp [hmode, hfeature, hnumeric.agrees_self]

variable {g : Segment}

lemma Draws.travel_color (h : m.Draws g) (htravel : ¬ g.depositing) :
    g.color = m.coloring.travelColor := by
  obtain ⟨k, p, q, rfl⟩ := h
  exact if_neg htravel

lemma Draws.feed_color (h : m.Draws g) (hdeposit : g.depositing) (hruled : m.Ruled)
    (hmode : m.coloring.mode = .feed) : g.color = m.coloring.feedColor g.feedRate := by
  obtain ⟨k, p, q, rfl⟩ := h
  exact (if_pos hdeposit).trans (depositColor_feed hruled hmode)

lemma Draws.flat_color (h : m.Draws g) (hdeposit : g.depositing) (hruled : m.Ruled)
    (hmode : m.coloring.mode = .flat) (hnamed : m.classifier.Named)
    (hnumeric : ∀ t ∈ m.tools.tools, t.color.IsNumeric) :
    g.color = if g.perimeter then m.tools.color g.tool else m.tools.darkerColor g.tool := by
  obtain ⟨k, p, q, rfl⟩ := h
  have hactive := hnumeric _ (m.tools.get_mem m.state.tool)
  exact (if_pos hdeposit).trans (depositColor_flat hruled hmode hnamed hactive)

end Machine

namespace Run

variable {s : Settings} {tools : ToolTable} {style : SlicerStyle} {m : Machine} {g : Segment}
  {lines : List (List Char × Stamp)}

lemma equipped_feedAll (h : Machine.ofTools s tools style = .ok m)
    (lines : List (List Char × Stamp)) :
    Machine.Equipped s.color tools ((⟨m, {}⟩ : Run).feedAll lines).machine :=
  machine_feedAll (Machine.equipped_ofTools h).1 fun _ hm line _ => hm.interpret line.1 line.2

lemma ruled_feedAll (h : Machine.ofTools s tools style = .ok m) (hmode : s.color.mode ≠ .feature)
    (hmix : s.color.mode = .feed ∨ ∀ line ∈ lines, ¬ Machine.Mixes line.1) :
    ((⟨m, {}⟩ : Run).feedAll lines).machine.Ruled := by
  -- the mode decides what a line may do to the color, so the settings come along
  refine (machine_feedAll (P := fun m => Machine.Equipped s.color tools m ∧ m.Ruled)
    (Machine.equipped_ofTools h) ?_).2
  rintro m ⟨hm, hruled⟩ line hline
  refine ⟨hm.interpret line.1 line.2, hruled.interpret (hm.coloring ▸ hmode) ?_⟩
  rw [hm.coloring]
  exact hmix.imp_right fun hnot => hnot line hline

lemma travel_color (h : Machine.ofTools s tools style = .ok m)
    (hg : g ∈ ((⟨m, {}⟩ : Run).feedAll lines).store.segments) (htravel : ¬ g.depositing) :
    g.color = s.color.travelColor := by
  obtain ⟨past, -, hdraws⟩ := exists_draws rfl hg
  rw [hdraws.travel_color htravel, (equipped_feedAll h past).coloring]

lemma feed_color (h : Machine.ofTools s tools style = .ok m) (hmode : s.color.mode = .feed)
    (hg : g ∈ ((⟨m, {}⟩ : Run).feedAll lines).store.segments) (hdeposit : g.depositing) :
    g.color = s.color.feedColor g.feedRate := by
  obtain ⟨past, -, hdraws⟩ := exists_draws rfl hg
  have hruled : ((⟨m, {}⟩ : Run).feedAll past).machine.Ruled :=
    ruled_feedAll h (by simp [hmode]) (Or.inl hmode)
  rw [← (equipped_feedAll h past).coloring] at hmode ⊢
  exact hdraws.feed_color hdeposit hruled hmode

lemma flat_color (h : Machine.ofTools s tools style = .ok m) (hmode : s.color.mode = .flat)
    (hnumeric : ∀ t ∈ tools.tools, t.color.IsNumeric)
    (hnot : ∀ line ∈ lines, ¬ Machine.Mixes line.1)
    (hg : g ∈ ((⟨m, {}⟩ : Run).feedAll lines).store.segments) (hdeposit : g.depositing) :
    g.color = if g.perimeter then tools.color g.tool else tools.darkerColor g.tool := by
  obtain ⟨past, hpast, hdraws⟩ := exists_draws rfl hg
  have hruled : ((⟨m, {}⟩ : Run).feedAll past).machine.Ruled :=
    ruled_feedAll h (by simp [hmode]) (Or.inr fun line hline => hnot line (hpast.subset hline))
  have hequipped := equipped_feedAll h past
  rw [← hequipped.coloring] at hmode
  rw [← hequipped.tools] at hnumeric ⊢
  exact hdraws.flat_color hdeposit hruled hmode hequipped.named hnumeric

theorem feedAll_colors (h : Machine.ofTools s tools style = .ok m)
    (hnumeric : ∀ t ∈ tools.tools, t.color.IsNumeric) (lines : List (List Char × Stamp)) :
    let r := (⟨m, {}⟩ : Run).feedAll lines
    (∀ g ∈ r.store.segments, ¬ g.depositing → g.color = s.color.travelColor) ∧
      (s.color.mode = .feed →
        r.machine.state.color = s.color.feedColor r.machine.state.feedRate ∧
          ∀ g ∈ r.store.segments, g.depositing → g.color = s.color.feedColor g.feedRate) ∧
      (s.color.mode = .flat → (∀ line ∈ lines, ¬ Machine.Mixes line.1) →
        r.machine.state.color = tools.color r.machine.state.tool ∧
          ∀ g ∈ r.store.segments, g.depositing →
            g.color = if g.perimeter then tools.color g.tool else tools.darkerColor g.tool) := by
  intro r
  have hequipped : Machine.Equipped s.color tools r.machine := equipped_feedAll h lines
  refine ⟨fun g hg => travel_color h hg, fun hmode => ⟨?_, fun g hg => feed_color h hmode hg⟩,
    fun hmode hnot => ⟨?_, fun g hg => flat_color h hmode hnumeric hnot hg⟩⟩
  · have hruled : r.machine.Ruled := ruled_feedAll h (by simp [hmode]) (Or.inl hmode)
    rw [← hequipped.coloring] at hmode ⊢
    exact (Machine.ruled_iff_feed hmode).mp hruled
  · have hruled : r.machine.Ruled := ruled_feedAll h (by simp [hmode]) (Or.inr hnot)
    rw [← hequipped.coloring] at hmode
    rw [← hequipped.tools]
    exact (Machine.ruled_iff_tool (by simp [hmode])).mp hruled

theorem feedAll_colors_infill :
    let tools := Settings.toolTable {}
    let m : Machine := {
      parsing := {}
      coloring := {}
      resolution := {}
      tools
      classifier := { style := .cura }
      state := .initial true (tools.color 0) none }
    let lines : List (List Char × Stamp) := [(";TYPE:FILL".toList, ⟨1, 10⟩),
      ("T1".toList, ⟨2, 13⟩), ("M600".toList, ⟨3, 18⟩), ("G1 X5 E1".toList, ⟨4, 27⟩)]
    let r := (⟨m, {}⟩ : Run).feedAll lines
    Machine.ofTools {} tools .cura = .ok m ∧ (∀ t ∈ tools.tools, t.color.IsNumeric) ∧
      (∀ line ∈ lines, ¬ Machine.Mixes line.1) ∧ r.machine.state.tool = 2 ∧
      r.machine.state.color = tools.color 2 ∧
      ∃ g ∈ r.store.segments, g.depositing ∧ ¬ g.perimeter ∧ g.color = tools.darkerColor g.tool := by
  intro tools m lines r
  have hm : Machine.ofTools {} tools .cura = .ok m := by rfl
  have hnumeric : ∀ t ∈ tools.tools, t.color.IsNumeric := by decide +kernel
  have hnot : ∀ line ∈ lines, ¬ Machine.Mixes line.1 := by decide +kernel
  have htool : r.machine.state.tool = 2 := by decide +kernel
  have hall : r.store.segments.map (fun g => (g.depositing, g.perimeter)) = #[(true, false)] := by
    decide +kernel
  obtain ⟨_, _, hflat⟩ := feedAll_colors hm hnumeric lines
  have hr : (⟨m, {}⟩ : Run).feedAll lines = r := rfl
  rw [hr] at hflat
  have hcolors : r.machine.state.color = tools.color r.machine.state.tool ∧
      ∀ g ∈ r.store.segments, g.depositing →
        g.color = if g.perimeter then tools.color g.tool else tools.darkerColor g.tool :=
    hflat rfl hnot
  have hmem : (true, false) ∈ r.store.segments.map (fun g => (g.depositing, g.perimeter)) := by
    rw [hall]
    exact Array.mem_singleton_self _
  obtain ⟨g, hg, hmarks⟩ := Array.mem_map.mp hmem
  obtain ⟨hdeposit, hinterior⟩ := Prod.mk.inj hmarks
  refine ⟨hm, hnumeric, hnot, htool, ?_, g, hg, hdeposit, by simp [hinterior], ?_⟩
  · rw [hcolors.1, htool]
  · rw [hcolors.2 g hg hdeposit, if_neg (by simp [hinterior])]

end Run
end Toolpath
