import Toolpath.Proofs.Line.Problems

/-! The account of the problems of a program. Counters and list of a machine are those of the problems
that its lines have raised so far, one after another. -/

namespace Toolpath

namespace Fault

def isRecoverable : Fault → Bool
  | recoverable .. => true
  | _ => false

def isDegenerate : Fault → Bool
  | degenerate .. => true
  | _ => false

def isMisconfigured : Fault → Bool
  | misconfigured _ => true
  | _ => false

lemma one_kind {f : Fault} (h : ¬ f.isFatal) :
    (if f.isRecoverable then 1 else 0) + (if f.isDegenerate then 1 else 0) +
      (if f.isMisconfigured then 1 else 0) = 1 := by
  cases f with
  | recoverable line problem => rfl
  | degenerate line error => rfl
  | misconfigured problem => rfl
  | cancelled => exact absurd rfl h
  | emptyInput => exact absurd rfl h

end Fault

namespace Diagnostics

structure Adds (d : Diagnostics) (faults : List Fault) (d' : Diagnostics) : Prop where
  recoverable : d'.recoverable = d.recoverable + faults.countP Fault.isRecoverable
  degenerate : d'.degenerate = d.degenerate + faults.countP Fault.isDegenerate
  misconfigured : d'.misconfigured = d.misconfigured + faults.countP Fault.isMisconfigured
  first : d'.first = d.first ++ faults.take (kept - d.first.length)

variable {d d' : Diagnostics} {faults : List Fault}

lemma counters_record (d : Diagnostics) (f : Fault) :
    (d.record f).recoverable = d.recoverable + (if f.isRecoverable then 1 else 0) ∧
      (d.record f).degenerate = d.degenerate + (if f.isDegenerate then 1 else 0) ∧
      (d.record f).misconfigured = d.misconfigured + (if f.isMisconfigured then 1 else 0) := by
  unfold record
  cases f <;> dsimp only <;> split <;> exact ⟨rfl, rfl, rfl⟩

lemma first_record (d : Diagnostics) (f : Fault) :
    (d.record f).first = if d.first.length < kept then d.first ++ [f] else d.first := by
  unfold record
  cases f <;> dsimp only <;> split <;> rfl

lemma Adds.record (h : d.Adds faults d') (f : Fault) : d.Adds (faults ++ [f]) (d'.record f) := by
  obtain ⟨hrecoverable, hdegenerate, hmisconfigured⟩ := d'.counters_record f
  constructor
  case recoverable =>
    rw [hrecoverable, h.recoverable, List.countP_append, List.countP_singleton, Nat.add_assoc]
  case degenerate =>
    rw [hdegenerate, h.degenerate, List.countP_append, List.countP_singleton, Nat.add_assoc]
  case misconfigured =>
    rw [hmisconfigured, h.misconfigured, List.countP_append, List.countP_singleton, Nat.add_assoc]
  case first =>
    rw [first_record, h.first, List.length_append, List.length_take, List.take_append]
    split
    · next hroom =>
      have hone : [f].length ≤ kept - d.first.length - faults.length := by
        rw [List.length_singleton]
        omega
      rw [List.append_assoc, List.take_of_length_le hone]
    · next hfull =>
      have hnone : kept - d.first.length - faults.length = 0 := by omega
      rw [hnone, List.take_zero, List.append_nil]

lemma adds_recordAll (d : Diagnostics) (faults : List Fault) :
    d.Adds faults (d.recordAll faults) := by
  induction faults using List.reverseRecOn with
  | nil => exact ⟨rfl, rfl, rfl, by simp [recordAll]⟩
  | append_singleton faults f ih =>
    rw [recordAll_append]
    exact ih.record f

lemma total_record (d : Diagnostics) {f : Fault} (hf : ¬ f.isFatal) :
    (d.record f).total = d.total + 1 := by
  obtain ⟨hrecoverable, hdegenerate, hmisconfigured⟩ := d.counters_record f
  have hone := Fault.one_kind hf
  rw [total, hrecoverable, hdegenerate, hmisconfigured, total]
  omega

lemma total_recordAll (d : Diagnostics) (h : ∀ f ∈ faults, ¬ f.isFatal) :
    (d.recordAll faults).total = d.total + faults.length := by
  induction faults generalizing d with
  | nil => rfl
  | cons f faults ih =>
    obtain ⟨hf, hfaults⟩ := List.forall_mem_cons.mp h
    have hrest := ih (d.record f) hfaults
    rw [total_record d hf] at hrest
    rw [List.length_cons, Nat.add_comm faults.length, ← Nat.add_assoc]
    exact hrest

lemma recordAll_take (h : ∀ f ∈ faults, ¬ f.isFatal) (n : Nat) :
    let d := recordAll {} (faults.take n)
    d.total = min n faults.length ∧ d.first = faults.take (min kept d.total) := by
  intro d
  have htotal : d.total = min n faults.length := by
    rw [total_recordAll {} fun f hf => h f (List.mem_of_mem_take hf), List.length_take]
    exact Nat.zero_add _
  have hfirst : d.first = (faults.take n).take kept :=
    (adds_recordAll {} (faults.take n)).first.trans (List.nil_append _)
  refine ⟨htotal, ?_⟩
  rw [hfirst, htotal, List.take_take, ← Nat.min_assoc, ← List.take_eq_take_min]

end Diagnostics

namespace Machine

variable (m : Machine) (stamp : Stamp) (line : List Char)

lemma not_isFatal_problems : ∀ f ∈ m.problems stamp line, ¬ f.isFatal := by
  simp only [problems, raised, malformed, unsupported, misselected, misplaced, degenerate]
  split
  · simp only [List.mem_append, List.mem_map]
    rintro f (⟨_, -, rfl⟩ | ⟨_, -, rfl⟩ | ⟨_, -, rfl⟩ | ⟨_, -, rfl⟩ | ⟨_, -, rfl⟩) <;>
      exact Bool.false_ne_true
  · exact List.forall_mem_nil _

variable {line} in
lemma countP_problems (h : isNoted line) :
    let i := instruction line
    (m.problems stamp line).countP Fault.isRecoverable = i.malformed.length + i.unsupported.length ∧
      (m.problems stamp line).countP Fault.isDegenerate =
        (if (m.arcFailure? i stamp).isSome then 1 else 0) ∧
      (m.problems stamp line).countP Fault.isMisconfigured =
        (if (i.strayTool? m.tools.size).isSome then 1 else 0) +
          if i.strayPlace?.isSome then 1 else 0 := by
  simp only [problems, if_pos h, raised, malformed, unsupported, misselected, misplaced, degenerate,
    List.countP_append, List.countP_map, Function.comp_def, Fault.isRecoverable, Fault.isDegenerate,
    Fault.isMisconfigured, List.countP_true, List.countP_false, Option.length_toList]
  simp

lemma diagnostics_interpret_of_not_isNoted (h : ¬ isNoted line) :
    (m.interpret line stamp).1.diagnostics = m.diagnostics := by
  rw [diagnostics_interpret, problems, if_neg h]
  rfl

variable {line} in
lemma counters_interpret (h : isNoted line) :
    let i := instruction line
    let after := (m.interpret line stamp).1.diagnostics
    after.recoverable = m.diagnostics.recoverable + (i.malformed.length + i.unsupported.length) ∧
      after.degenerate =
        m.diagnostics.degenerate + (if (m.arcFailure? i stamp).isSome then 1 else 0) ∧
      after.misconfigured =
        m.diagnostics.misconfigured + ((if (i.strayTool? m.tools.size).isSome then 1 else 0) +
          if i.strayPlace?.isSome then 1 else 0) := by
  have hadds := m.diagnostics.adds_recordAll (m.problems stamp line)
  obtain ⟨hrecoverable, hdegenerate, hmisconfigured⟩ := m.countP_problems stamp h
  dsimp only
  rw [← hrecoverable, ← hdegenerate, ← hmisconfigured, diagnostics_interpret]
  exact ⟨hadds.recoverable, hadds.degenerate, hadds.misconfigured⟩

end Machine

namespace Run

def problems (r : Run) : List (List Char × Stamp) → List Fault
  | [] => []
  | line :: lines => r.machine.problems line.2 line.1 ++ (r.feed line.1 line.2).problems lines

lemma diagnostics_feedAll (r : Run) (lines : List (List Char × Stamp)) :
    (r.feedAll lines).machine.diagnostics = r.machine.diagnostics.recordAll (r.problems lines) := by
  induction lines generalizing r with
  | nil => rfl
  | cons line lines ih =>
    rw [problems, Diagnostics.recordAll_append, ← Machine.diagnostics_interpret, ← machine_feed]
    exact ih (r.feed line.1 line.2)

lemma not_isFatal_problems (r : Run) (lines : List (List Char × Stamp)) :
    ∀ f ∈ r.problems lines, ¬ f.isFatal := by
  induction lines generalizing r with
  | nil => exact List.forall_mem_nil _
  | cons line lines ih =>
    exact List.forall_mem_append.mpr ⟨r.machine.not_isFatal_problems line.2 line.1, ih _⟩

lemma problems_concat (r : Run) (lines : List (List Char × Stamp)) (line : List Char × Stamp) :
    r.problems (lines ++ [line]) =
      r.problems lines ++ (r.feedAll lines).machine.problems line.2 line.1 := by
  induction lines generalizing r with
  | nil => simp [problems, feedAll]
  | cons past lines ih =>
    rw [List.cons_append, problems, ih, problems, List.append_assoc]
    rfl

lemma tools_feedAll_ofTools {s : Settings} {tools : ToolTable} {style : SlicerStyle} {m : Machine}
    (h : Machine.ofTools s tools style = .ok m) (lines : List (List Char × Stamp)) :
    ((⟨m, {}⟩ : Run).feedAll lines).machine.tools = tools := by
  refine machine_feedAll (P := fun n => n.tools = tools) ?_ fun n hn line _ =>
    (n.tools_interpret line.1 line.2).trans hn
  obtain ⟨resolution, rfl⟩ := Machine.exists_of_ofTools h
  rfl

end Run

lemma Session.Follows.exists_accounted {settings : Settings} {text : List Char}
    {left : Option (List Char)} {s : Session} {r : Run} (h : Follows settings text left s)
    (hr : s.run = some r) :
    ∃ m past, Machine.ofSettings settings (.ofProgram text) = .ok m ∧ past <+: Text.rows text ∧
      r.machine.diagnostics =
        m.diagnostics.recordAll ((⟨m, {}⟩ : Run).problems (Text.stamped past)) := by
  cases h with
  | waiting h =>
    rw [h.run_eq] at hr
    cases hr
  | reads m past hm h =>
    obtain ⟨r', hr', hreading⟩ := Option.map_eq_some_iff.mp h.reading_eq
    obtain rfl := Option.some.inj (hr.symm.trans hr')
    have hrun : r = (Reading.ofRows m past).run := congrArg Reading.run hreading
    refine ⟨m, past, hm, ⟨_, h.rows_eq.symm⟩, ?_⟩
    rw [hrun, Reading.run_ofRows, Run.diagnostics_feedAll]
  | ended m hm h =>
    obtain rfl := Option.some.inj (hr.symm.trans h.run_eq)
    refine ⟨m, Text.rows text, hm, List.prefix_rfl, ?_⟩
    have hclose (q : Reading) : q.close.machine.diagnostics = q.run.machine.diagnostics := rfl
    rw [hclose, Reading.run_ofRows, Run.diagnostics_feedAll]

theorem Run.feedAll_accounts {s : Settings} {tools : ToolTable} {style : SlicerStyle} {m : Machine}
    (h : Machine.ofTools s tools style = .ok m) (lines : List (List Char × Stamp)) :
    let r := (⟨m, {}⟩ : Run).feedAll lines
    let met := (⟨m, {}⟩ : Run).problems lines
    r.machine.diagnostics = Diagnostics.recordAll {} met ∧
      (∀ n, let d := Diagnostics.recordAll {} (met.take n)
        d.total = min n met.length ∧ d.first = met.take (min 32 d.total)) ∧
      (∀ line stamp,
        let i := Machine.instruction line
        let before := r.machine.diagnostics
        let after := (r.feed line stamp).machine.diagnostics
        (⟨m, {}⟩ : Run).problems (lines ++ [(line, stamp)]) =
            met ++ r.machine.problems stamp line ∧
          after = before.recordAll (r.machine.problems stamp line) ∧
          (¬ Machine.isNoted line → after = before) ∧
          (Machine.isNoted line →
            after.recoverable =
              before.recoverable + (i.malformed.length + i.unsupported.length) ∧
            after.degenerate =
              before.degenerate + (if (r.machine.arcFailure? i stamp).isSome then 1 else 0) ∧
            after.misconfigured =
              before.misconfigured + ((if (i.strayTool? tools.size).isSome then 1 else 0) +
                if i.strayPlace?.isSome then 1 else 0))) ∧
      ∀ host expected text events, Session.Schedule (some text) events → ∀ now,
        (({ settings := s, host, expected } : Session).afterAll events).run = some now →
        ∃ m past, Machine.ofSettings s (.ofProgram text) = .ok m ∧ past <+: Text.rows text ∧
          now.machine.diagnostics =
            Diagnostics.recordAll {} ((⟨m, {}⟩ : Run).problems (Text.stamped past)) := by
  intro r met
  have hclean {tools : ToolTable} {style : SlicerStyle} {m : Machine}
      (h : Machine.ofTools s tools style = .ok m) : m.diagnostics = {} := by
    obtain ⟨resolution, rfl⟩ := Machine.exists_of_ofTools h
    rfl
  have htools : r.machine.tools = tools := tools_feedAll_ofTools h lines
  refine ⟨?_, Diagnostics.recordAll_take (not_isFatal_problems _ lines), fun line stamp => ?_,
    fun host expected text events hevents now hnow => ?_⟩
  · rw [← hclean h]
    exact diagnostics_feedAll ⟨m, {}⟩ lines
  · refine ⟨problems_concat _ lines (line, stamp), r.machine.diagnostics_interpret stamp line,
      r.machine.diagnostics_interpret_of_not_isNoted stamp line, fun hnoted => ?_⟩
    rw [← htools]
    exact r.machine.counters_interpret stamp hnoted
  · obtain ⟨left, hfollows⟩ := (Session.follows_new s host expected text).afterAll hevents
    obtain ⟨m, past, hm, hpast, heq⟩ := hfollows.exists_accounted hnow
    rw [hclean hm] at heq
    exact ⟨m, past, hm, hpast, heq⟩

theorem Run.feedAll_accounts_setting :
    let m : Machine := {
      parsing := {}
      coloring := {}
      resolution := {}
      tools := Settings.toolTable {}
      classifier := { style := .generic }
      state := .initial true ((Settings.toolTable {}).color 0) none }
    let lines : List (List Char × Stamp) := [("G5 X1.2.3".toList, ⟨1, 10⟩), (";T9".toList, ⟨2, 14⟩),
      ("T9".toList, ⟨3, 17⟩), ("G2 X5 T8".toList, ⟨4, 26⟩)]
    let setting := "G10 L2 P12 G3 X9".toList
    let r := (⟨m, {}⟩ : Run).feedAll lines
    Machine.ofTools {} (Settings.toolTable {}) .generic = .ok m ∧ Machine.isNoted setting ∧
      r.machine.diagnostics = ⟨2, 1, 1, [.recoverable 1 (.malformedNumber "X1.2.3"),
        .recoverable 1 (.unsupportedCode 50), .misconfigured (.toolAdjusted 9 4),
        .degenerate 4 .zeroCenterOffset]⟩ ∧
      (r.feed setting ⟨5, 43⟩).machine.diagnostics.recoverable = 2 ∧
      (r.feed setting ⟨5, 43⟩).machine.diagnostics.degenerate = 1 ∧
      (r.feed setting ⟨5, 43⟩).machine.diagnostics.misconfigured = 2 := by
  intro m lines setting r
  have hm : Machine.ofTools {} (Settings.toolTable {}) .generic = .ok m := by rfl
  have hmet : (⟨m, {}⟩ : Run).problems lines = [.recoverable 1 (.malformedNumber "X1.2.3"),
      .recoverable 1 (.unsupportedCode 50), .misconfigured (.toolAdjusted 9 4),
      .degenerate 4 .zeroCenterOffset] := by decide +kernel
  have hnoted : Machine.isNoted setting := by decide +kernel
  have hwords : (Machine.instruction setting).malformed.length +
      (Machine.instruction setting).unsupported.length = 0 := by decide +kernel
  have harc : (r.machine.arcFailure? (Machine.instruction setting) ⟨5, 43⟩).isSome = false := by
    decide +kernel
  have htool : ((Machine.instruction setting).strayTool? (Settings.toolTable {}).size).isSome =
      false := by decide +kernel
  have hplace : (Machine.instruction setting).strayPlace?.isSome := by decide +kernel
  have hr : (⟨m, {}⟩ : Run).feedAll lines = r := rfl
  obtain ⟨hall, -, hline, -⟩ := Run.feedAll_accounts hm lines
  rw [hr, hmet] at hall
  obtain ⟨-, -, -, hcounters⟩ := hline setting ⟨5, 43⟩
  rw [hr, hwords, harc, htool, hplace, hall] at hcounters
  exact ⟨hm, hnoted, hall, hcounters hnoted⟩

end Toolpath
