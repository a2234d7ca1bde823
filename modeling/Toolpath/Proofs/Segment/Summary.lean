import Mathlib.Order.Bounds.Basic
import Toolpath.Proofs.Order
import Toolpath.Proofs.Segment.Batches
import Toolpath.Proofs.Segment.Growth

/-! The summaries of a store are what its segments give when they are gone through again. -/

namespace Toolpath

section

variable {α : Type} [LE α]

def LeastOf (S : Set α) : Option α → Prop
  | none => S = ∅
  | some a => IsLeast S a

def GreatestOf (S : Set α) : Option α → Prop
  | none => S = ∅
  | some a => IsGreatest S a

variable {S : Set α} {o : Option α} {a : α}

lemma LeastOf.isLeast (h : LeastOf S o) (ho : o = some a) : IsLeast S a := by
  subst ho
  exact h

lemma GreatestOf.isGreatest (h : GreatestOf S o) (ho : o = some a) : IsGreatest S a := by
  subst ho
  exact h

end

section

variable {S T : Set Float} {o : Option Float} {a b : Float}

lemma Bounds.lesser_self (a : Float) : lesser a a = a := ite_self a

lemma Bounds.greater_self (a : Float) : greater a a = a := ite_self a

lemma not_isNaN_of_isLeast (h : IsLeast S a) : ¬ a.isNaN := (not_isNaN_of_le (h.2 h.1)).1

lemma not_isNaN_of_isGreatest (h : IsGreatest S a) : ¬ a.isNaN := (not_isNaN_of_le (h.2 h.1)).1

lemma isLeast_singleton_float (h : ¬ a.isNaN) : IsLeast {a} a := by
  refine ⟨rfl, ?_⟩
  rintro x rfl
  exact float_le_refl h

lemma isGreatest_singleton_float (h : ¬ a.isNaN) : IsGreatest {a} a := by
  refine ⟨rfl, ?_⟩
  rintro x rfl
  exact float_le_refl h

lemma isLeast_union_float (ha : IsLeast S a) (hb : IsLeast T b) (h : a ≤ b) :
    IsLeast (S ∪ T) a := by
  refine ⟨.inl ha.1, ?_⟩
  rintro x (hx | hx)
  · exact ha.2 hx
  · exact float_le_trans h (hb.2 hx)

lemma isGreatest_union_float (ha : IsGreatest S a) (hb : IsGreatest T b) (h : b ≤ a) :
    IsGreatest (S ∪ T) a := by
  refine ⟨.inl ha.1, ?_⟩
  rintro x (hx | hx)
  · exact ha.2 hx
  · exact float_le_trans (hb.2 hx) h

lemma LeastOf.union (h : LeastOf S o) (hb : IsLeast T b) :
    LeastOf (S ∪ T) (some (Bounds.lesser (o.getD b) b)) := by
  cases o with
  | none =>
    obtain rfl : S = ∅ := h
    rw [Set.empty_union, Option.getD_none, Bounds.lesser_self]
    exact hb
  | some a =>
    have ha := h.isLeast rfl
    rw [Option.getD_some, Bounds.lesser]
    split
    case isTrue hlt => exact isLeast_union_float ha hb (float_le_of_lt hlt)
    case isFalse hlt =>
      rw [Set.union_comm]
      exact isLeast_union_float hb ha
        (float_le_of_not_lt (not_isNaN_of_isLeast ha) (not_isNaN_of_isLeast hb) hlt)

lemma GreatestOf.union (h : GreatestOf S o) (hb : IsGreatest T b) :
    GreatestOf (S ∪ T) (some (Bounds.greater (o.getD b) b)) := by
  cases o with
  | none =>
    obtain rfl : S = ∅ := h
    rw [Set.empty_union, Option.getD_none, Bounds.greater_self]
    exact hb
  | some a =>
    have ha := h.isGreatest rfl
    rw [Option.getD_some, Bounds.greater]
    split
    case isTrue hlt => exact isGreatest_union_float ha hb (float_le_of_lt hlt)
    case isFalse hlt =>
      rw [Set.union_comm]
      exact isGreatest_union_float hb ha
        (float_le_of_not_lt (not_isNaN_of_isGreatest hb) (not_isNaN_of_isGreatest ha) hlt)

lemma isGreatest_pair_float (ha : ¬ a.isNaN) (hb : ¬ b.isNaN) :
    IsGreatest ({a} ∪ {b}) (Bounds.greater a b) := by
  have h : GreatestOf {a} (some a) := isGreatest_singleton_float ha
  exact h.union (isGreatest_singleton_float hb)

lemma lesserNumber_eq (h : ¬ b.isNaN) : lesserNumber a b = Bounds.lesser a b := by
  rw [lesserNumber, Bool.eq_false_iff.mpr h, Bool.or_false]
  exact ite_congr (by simp) (fun _ => rfl) fun _ => rfl

lemma greaterNumber_eq (h : ¬ b.isNaN) : greaterNumber a b = Bounds.greater a b := by
  rw [greaterNumber, Bool.eq_false_iff.mpr h, Bool.or_false]
  exact ite_congr (by simp) (fun _ => rfl) fun _ => rfl

end

lemma Bounds.get_min_extend (b : Bounds) (p : Point) (a : Axis) :
    (b.extend p).min.get a = lesser (b.min.get a) (p.get a) := by
  cases a <;> rfl

lemma Bounds.get_max_extend (b : Bounds) (p : Point) (a : Axis) :
    (b.extend p).max.get a = greater (b.max.get a) (p.get a) := by
  cases a <;> rfl

namespace Store

variable {st : Store} {s : Segment} {α : Type}

def gather (f : Segment → Set α) (st : Store) : Set α := {x | ∃ s ∈ st.segments, x ∈ f s}

def coordinates (st : Store) (a : Axis) : Set Float :=
  st.gather fun s => {s.start.get a} ∪ {s.stop.get a}

def feeds (st : Store) : Set Float := st.gather fun s => {f | 0.0 < f ∧ f = s.feedRate}

def levels (st : Store) : Set Float :=
  st.gather fun s => {z | s.depositing ∧ (z = s.start.z ∨ z = s.stop.z)}

def offsets (st : Store) : Set Nat := st.gather fun s => {s.offset}

lemma gather_eq_empty (f : Segment → Set α) (h : st.segments = #[]) : st.gather f = ∅ := by
  ext x
  simp [gather, h]

lemma gather_push (f : Segment → Set α) (st : Store) (s : Segment) :
    (st.push s).gather f = st.gather f ∪ f s := by
  ext x
  simp only [gather, push, Array.mem_push, or_and_right, exists_or, exists_eq_left,
    Set.mem_ofPred_eq, Set.mem_union]

lemma get_min_extendBounds (b : Option Bounds) (s : Segment) (a : Axis) :
    (extendBounds b s).min.get a =
      Bounds.lesser (Bounds.lesser ((b.map (·.min.get a)).getD (s.start.get a)) (s.start.get a))
        (s.stop.get a) := by
  rw [extendBounds, Bounds.get_min_extend, Bounds.get_min_extend]
  cases b <;> rfl

lemma get_max_extendBounds (b : Option Bounds) (s : Segment) (a : Axis) :
    (extendBounds b s).max.get a =
      Bounds.greater (Bounds.greater ((b.map (·.max.get a)).getD (s.start.get a)) (s.start.get a))
        (s.stop.get a) := by
  rw [extendBounds, Bounds.get_max_extend, Bounds.get_max_extend]
  cases b <;> rfl

lemma extendFeed_of_pos {rate : Float} (range : Option (Float × Float)) (h : 0.0 < rate) :
    extendFeed range rate =
      some (Bounds.lesser ((range.map (·.1)).getD rate) rate,
        Bounds.greater ((range.map (·.2)).getD rate) rate) := by
  have hnumber := (not_isNaN_of_le (float_le_of_lt h)).2
  rw [extendFeed.eq_def, if_pos h]
  cases range with
  | none =>
    rw [Option.map_none, Option.map_none, Option.getD_none, Bounds.lesser_self, Bounds.greater_self]
  | some range =>
    rw [Option.map_some, Option.map_some, Option.getD_some, Option.getD_some,
      ← lesserNumber_eq hnumber, ← greaterNumber_eq hnumber]

lemma extendTop_of_depositing (top : Option Float) (h : s.depositing) (hstop : ¬ s.stop.z.isNaN)
    (hz : ¬ (Bounds.greater s.start.z s.stop.z).isNaN) :
    extendTop top s =
      let z := Bounds.greater s.start.z s.stop.z
      some (Bounds.greater (top.getD z) z) := by
  rw [extendTop, if_pos h, greaterNumber_eq hstop]
  cases top with
  | none => simp only [Option.getD_none, Bounds.greater_self]
  | some top => simp only [Option.getD_some, greaterNumber_eq hz]

structure Tallied (st : Store) : Prop where
  unbounded : st.bounds = none ↔ st.segments = #[]
  lowest : ∀ a, LeastOf (st.coordinates a) (st.bounds.map (·.min.get a))
  highest : ∀ a, GreatestOf (st.coordinates a) (st.bounds.map (·.max.get a))
  slowest : LeastOf st.feeds (st.feedRange.map (·.1))
  fastest : GreatestOf st.feeds (st.feedRange.map (·.2))
  top : GreatestOf st.levels st.top

namespace Tallied

lemma empty : Tallied {} where
  unbounded := iff_of_true rfl rfl
  lowest _ := gather_eq_empty _ rfl
  highest _ := gather_eq_empty _ rfl
  slowest := gather_eq_empty _ rfl
  fastest := gather_eq_empty _ rfl
  top := gather_eq_empty _ rfl

lemma feeds_push (h : Tallied st) (s : Segment) :
    LeastOf (st.push s).feeds ((st.push s).feedRange.map (·.1)) ∧
      GreatestOf (st.push s).feeds ((st.push s).feedRange.map (·.2)) := by
  have hpush : (st.push s).feeds = st.feeds ∪ {f | 0.0 < f ∧ f = s.feedRate} := gather_push _ st s
  change LeastOf _ ((extendFeed st.feedRange s.feedRate).map (·.1)) ∧
    GreatestOf _ ((extendFeed st.feedRange s.feedRate).map (·.2))
  by_cases hpos : 0.0 < s.feedRate
  · have hnumber := (not_isNaN_of_le (float_le_of_lt hpos)).2
    have hone : {f | 0.0 < f ∧ f = s.feedRate} = {s.feedRate} :=
      Set.ext fun f => and_iff_right_of_imp fun hf => hf ▸ hpos
    rw [hpush, hone, extendFeed_of_pos _ hpos]
    exact ⟨h.slowest.union (isLeast_singleton_float hnumber),
      h.fastest.union (isGreatest_singleton_float hnumber)⟩
  · have hnone : {f | 0.0 < f ∧ f = s.feedRate} = ∅ :=
      Set.eq_empty_of_forall_notMem fun f hf => hpos (hf.2 ▸ hf.1)
    rw [hpush, hnone, Set.union_empty, extendFeed.eq_def, if_neg hpos]
    exact ⟨h.slowest, h.fastest⟩

lemma levels_push (h : Tallied st) (hstart : ¬ s.start.z.isNaN) (hstop : ¬ s.stop.z.isNaN) :
    GreatestOf (st.push s).levels (st.push s).top := by
  have hpush : (st.push s).levels =
    st.levels ∪ {z | s.depositing ∧ (z = s.start.z ∨ z = s.stop.z)} := gather_push _ st s
  change GreatestOf _ (extendTop st.top s)
  by_cases hdep : s.depositing
  · have hboth : {z | s.depositing ∧ (z = s.start.z ∨ z = s.stop.z)} =
      {s.start.z} ∪ {s.stop.z} := Set.ext fun z => and_iff_right hdep
    have hz := isGreatest_pair_float hstart hstop
    rw [hpush, hboth, extendTop_of_depositing st.top hdep hstop (not_isNaN_of_isGreatest hz)]
    exact h.top.union hz
  · have hnone : {z | s.depositing ∧ (z = s.start.z ∨ z = s.stop.z)} = ∅ :=
      Set.eq_empty_of_forall_notMem fun z hz => hdep hz.1
    rw [hpush, hnone, Set.union_empty, extendTop, if_neg hdep]
    exact h.top

lemma push (h : Tallied st) (hstart : ∀ a, ¬ (s.start.get a).isNaN)
    (hstop : ∀ a, ¬ (s.stop.get a).isNaN) : Tallied (st.push s) where
  unbounded := iff_of_false nofun fun h => Array.push_ne_empty h
  lowest a := by
    rw [coordinates, gather_push, ← Set.union_assoc]
    change LeastOf _ (some ((extendBounds st.bounds s).min.get a))
    rw [get_min_extendBounds]
    exact ((h.lowest a).union (isLeast_singleton_float (hstart a))).union
      (isLeast_singleton_float (hstop a))
  highest a := by
    rw [coordinates, gather_push, ← Set.union_assoc]
    change GreatestOf _ (some ((extendBounds st.bounds s).max.get a))
    rw [get_max_extendBounds]
    exact ((h.highest a).union (isGreatest_singleton_float (hstart a))).union
      (isGreatest_singleton_float (hstop a))
  slowest := (h.feeds_push s).1
  fastest := (h.feeds_push s).2
  top := h.levels_push (hstart .z) (hstop .z)

end Tallied

lemma Orderly.tallied (h : Orderly st) (hn : ∀ a, ∀ x ∈ st.coordinates a, ¬ x.isNaN) :
    Tallied st := by
  induction h with
  | empty => exact .empty
  | @push st s _ hs ih =>
    simp only [coordinates, gather_push, Set.mem_union] at hn
    exact (ih fun a x hx => hn a x (.inl hx)).push (fun a => hn a _ (.inr (.inl rfl)))
      fun a => hn a _ (.inr (.inr rfl))
  | pushLayer height stamp _ ih => exact { ih hn with }
  | noteInstruction offset _ ih => exact { ih hn with }

lemma leastOf_minOffset (h : InOrder Segment.offset st.segments.toList) :
    LeastOf st.offsets st.minOffset := by
  rw [minOffset, ← Array.getElem?_toList]
  cases hlist : st.segments.toList with
  | nil => exact gather_eq_empty _ (Array.toList_eq_nil_iff.mp hlist)
  | cons s rest =>
    refine ⟨⟨s, Array.mem_toList_iff.mp (hlist ▸ List.mem_cons_self), rfl⟩, ?_⟩
    rintro _ ⟨t, ht, rfl⟩
    rw [← Array.mem_toList_iff, hlist] at ht
    rw [hlist] at h
    rcases List.mem_cons.mp ht with rfl | ht
    · exact Nat.le_refl _
    · exact List.rel_of_pairwise_cons h ht

lemma greatestOf_maxOffset (h : InOrder Segment.offset st.segments.toList) :
    GreatestOf st.offsets st.maxOffset := by
  cases hlast : st.segments.back? with
  | none =>
    rw [maxOffset, hlast]
    exact gather_eq_empty _ (Array.back?_eq_none_iff.mp hlast)
  | some last =>
    have hmax : st.maxOffset = some last.offset := by rw [maxOffset, hlast, Option.map_some]
    rw [hmax]
    refine ⟨⟨last, Array.mem_of_back? hlast, rfl⟩, ?_⟩
    rintro _ ⟨t, ht, rfl⟩
    refine offset_le_of_maxOffset h ht fun m hm => ?_
    rw [hmax, Option.some_inj] at hm
    exact Nat.le_of_eq hm.symm

theorem summaries_exact (h : Orderly st) (hn : ∀ a, ∀ x ∈ st.coordinates a, ¬ x.isNaN) :
    Tallied st ∧ LeastOf st.offsets st.minOffset ∧ GreatestOf st.offsets st.maxOffset ∧
      ∀ size, (st.batches size).flatMap (·.2) = st.segments.toList ∧
        ∀ before b after, st.batches size = before ++ b :: after →
          b.1 = (before.flatMap (·.2)).length := by
  refine ⟨h.tallied hn, leastOf_minOffset h.inOrder, greatestOf_maxOffset h.inOrder, fun size => ?_⟩
  refine ⟨flatMap_batchesFrom .., fun before b after hb => ?_⟩
  rw [index_batchesFrom hb, Nat.zero_add]

theorem summaries_exact_travel :
    let rise := { Segment.dot 4 with stop := ⟨10.0, 0.0, 0.2⟩, feedRate := 400.0 }
    let travel := { Segment.dot 9 with stop := ⟨-5.0, 20.0, 3.0⟩, depositing := false }
    let st := ((({} : Store).noteInstruction 4).pushLayer 0.2 ⟨0, 4⟩ |>.push rise).push travel
    Orderly st ∧ (∀ a, ∀ x ∈ st.coordinates a, ¬ x.isNaN) ∧ IsLeast (st.coordinates .x) (-5.0) ∧
      IsGreatest (st.coordinates .z) 3.0 ∧ IsGreatest st.levels 0.2 ∧ IsLeast st.feeds 400.0 ∧
      IsGreatest st.offsets 9 := by
  intro rise travel st
  have horderly : Orderly st := by
    refine .push (.push (.pushLayer 0.2 ⟨0, 4⟩ (.noteInstruction 4 .empty)) nofun) ?_
    rintro last ⟨⟩
    decide
  have hnumeric : ∀ a, ∀ x ∈ st.coordinates a, ¬ x.isNaN := by
    rintro a x ⟨s, hs, hx⟩
    have hs : s ∈ [rise, travel] := Array.mem_toList_iff.mpr hs
    have hall : ∀ s ∈ [rise, travel], ∀ a ∈ Axis.all,
      ¬ (s.start.get a).isNaN ∧ ¬ (s.stop.get a).isNaN := by decide
    obtain ⟨hstart, hstop⟩ := hall s hs a (by cases a <;> decide)
    rcases hx with rfl | rfl
    · exact hstart
    · exact hstop
  obtain ⟨htallied, -, hlast, -⟩ := summaries_exact horderly hnumeric
  refine ⟨horderly, hnumeric, (htallied.lowest .x).isLeast ?_, (htallied.highest .z).isGreatest ?_,
    htallied.top.isGreatest ?_, htallied.slowest.isLeast ?_, hlast⟩ <;> decide +kernel

end Store
end Toolpath
