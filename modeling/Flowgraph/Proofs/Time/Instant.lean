import Flowgraph.Time.Instant
import Mathlib.Data.List.Basic
import Mathlib.Data.Prod.Lex
import Mathlib.Order.Basic

/-! The order of points in time, and the earliest of several. Points with the same leap mark, as those of one clock have, stand in the
order of their nanoseconds. -/

namespace Flowgraph.Instant

theorem inRange_iff {t : Instant} : t.inRange = true ↔ earliest.nanos ≤ t.nanos ∧ t.nanos ≤ latest.nanos := by
  rw [inRange,Bool.and_eq_true,decide_eq_true_eq,decide_eq_true_eq]

theorem le_of_nanos {s t : Instant} (leap : s.leap = t.leap) (ahead : s.nanos ≤ t.nanos) : s.le t = true := by
  have seconds : s.nanos / 1000000000 ≤ t.nanos / 1000000000 := Int.ediv_le_ediv (by decide) ahead
  simp only [le,Bool.or_eq_true,Bool.and_eq_true,decide_eq_true_eq]
  exact (Int.lt_or_eq_of_le seconds).imp id fun same => ⟨same,.inr ⟨leap,ahead⟩⟩

theorem le_iff_nanos {s t : Instant} (leap : s.leap = t.leap) : s.le t = true ↔ s.nanos ≤ t.nanos := by
  refine ⟨fun before => ?_,le_of_nanos leap⟩
  simp only [le,leap,Bool.or_eq_true,Bool.and_eq_true,decide_eq_true_eq] at before
  obtain earlier | ⟨-,gap | ⟨-,ahead⟩⟩ := before
  · omega
  · exact absurd gap (Bool.lt_irrefl _)
  · exact ahead

theorem mk_le_mk {s t : Int} {leap : Bool} : (⟨s,leap⟩ : Instant).le ⟨t,leap⟩ = true ↔ s ≤ t := le_iff_nanos rfl

theorem shift?_eq_some {t moved : Instant} {by_ : Int} (found : t.shift? by_ = some moved) :
    moved = ⟨t.nanos + by_,t.leap⟩ ∧ moved.inRange = true := by
  unfold shift? at found
  dsimp only at found
  split at found
  · next inside =>
    cases found
    exact ⟨rfl,inside⟩
  · cases found

theorem shift?_eq_none_iff {t : Instant} {by_ : Int} :
    t.shift? by_ = none ↔ ¬(earliest.nanos ≤ t.nanos + by_ ∧ t.nanos + by_ ≤ latest.nanos) := by
  have inside := inRange_iff (t := ⟨t.nanos + by_,t.leap⟩)
  unfold shift?
  dsimp only at inside ⊢
  rw [ite_eq_right_iff,← inside]
  exact ⟨fun none_ held => Option.some_ne_none _ (none_ held),fun outside held => absurd held outside⟩

/-- Two points of the calendar are no further apart than points can be moved. -/
theorem width_le_longestShift : latest.nanos - earliest.nanos ≤ Duration.longestShift := by decide

/-- Times stand in the order of their seconds, a leap second behind the second that it lies on. -/
def key (t : Instant) : ℤ ×ₗ Bool ×ₗ ℤ := toLex (t.nanos / 1000000000,toLex (t.leap,t.nanos))

theorem le_iff_key {s t : Instant} : s.le t = true ↔ s.key ≤ t.key := by
  simp [le,key,Prod.Lex.toLex_le_toLex]

theorem key_injective : Function.Injective key := by
  intro s t same
  obtain ⟨-,rest⟩ := Prod.ext_iff.mp (toLex.injective same)
  obtain ⟨leap,nanos⟩ := Prod.ext_iff.mp (toLex.injective rest)
  exact congrArg₂ Instant.mk nanos leap

theorem le_refl (t : Instant) : t.le t = true := le_iff_key.mpr le_rfl

theorem le_antisymm {s t : Instant} (first : s.le t = true) (second : t.le s = true) : s = t :=
  key_injective ((le_iff_key.mp first).antisymm (le_iff_key.mp second))

theorem le_trans {s t u : Instant} (first : s.le t = true) (second : t.le u = true) : s.le u = true :=
  le_iff_key.mpr ((le_iff_key.mp first).trans (le_iff_key.mp second))

theorem le_of_not_le {s t : Instant} (behind : ¬s.le t = true) : t.le s = true :=
  le_iff_key.mpr (not_le.mp fun ahead => behind (le_iff_key.mpr ahead)).le

section
variable {α : Type*} {time : α → Instant} {xs : List α} {a : α}

theorem eq_nil_of_earliestBy (none_ : earliestBy time xs = none) : xs = [] := by
  cases xs with
  | nil => rfl
  | cons x rest =>
    simp only [earliestBy] at none_
    split at none_ <;> cases none_

/-- Nothing is earlier than the earliest, and what stands before it is later. -/
theorem earliestBy_split (found : earliestBy time xs = some a) : ∃ before after, xs = before ++ a :: after ∧
    (∀ b ∈ before, ¬(time b).le (time a) = true) ∧ ∀ b ∈ after, (time a).le (time b) = true := by
  induction xs generalizing a with
  | nil => cases found
  | cons x rest ih =>
    simp only [earliestBy] at found
    cases later : earliestBy time rest with
    | none =>
      rw [later] at found
      cases found
      exact ⟨[],rest,rfl,nofun,eq_nil_of_earliestBy later ▸ nofun⟩
    | some b =>
      rw [later] at found
      obtain ⟨before,after,rfl,behind,least⟩ := ih later
      cases found
      split
      · next ahead =>
        refine ⟨[],_,rfl,nofun,List.forall_mem_append.mpr ⟨fun c member => ?_,List.forall_mem_cons.mpr ⟨ahead,fun c member => ?_⟩⟩⟩
        · exact le_trans ahead (le_of_not_le (behind c member))
        · exact le_trans ahead (least c member)
      · next later => exact ⟨x :: before,after,rfl,List.forall_mem_cons.mpr ⟨later,behind⟩,least⟩

theorem mem_of_earliestBy (found : earliestBy time xs = some a) : a ∈ xs := by
  obtain ⟨before,after,rfl,-⟩ := earliestBy_split found
  exact List.mem_append_right _ (List.mem_cons_self ..)

theorem le_of_earliestBy (found : earliestBy time xs = some a) : ∀ b ∈ xs, (time a).le (time b) = true := by
  obtain ⟨before,after,rfl,behind,least⟩ := earliestBy_split found
  exact List.forall_mem_append.mpr ⟨fun b member => le_of_not_le (behind b member),List.forall_mem_cons.mpr ⟨le_refl _,least⟩⟩

end
end Flowgraph.Instant
