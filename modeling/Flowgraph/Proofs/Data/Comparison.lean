import Flowgraph.Effect.Rehearsal
import Flowgraph.Expression.Evaluate
import Flowgraph.Node.Condition
import Flowgraph.Node.Trigger
import Flowgraph.Proofs.Number.Conversion

/-! Comparing whole numbers. Both are compared as their nearest binary64 numbers, wherever values are compared: in conditions, in
expressions, for triggers and for filters. So no two are taken in the wrong order, up to `2^53` all are told apart, and above it those are
whose nearest numbers differ. -/

namespace Flowgraph
open Binary64

def Json.ofInt (n : Int) : Json := .number (.int n)

/-- A whole number in a document: below `2^64`, and at least `-2^63`. -/
def IsWord (n : Int) : Prop := -0x8000000000000000 ≤ n ∧ n < 0x10000000000000000

theorem IsWord.natAbs_lt {n : Int} (word : IsWord n) : n.natAbs < 2 ^ 64 := by
  obtain ⟨least,most⟩ := word
  omega

/-- What conditions and expressions test of two values. -/
inductive Relation where
  | eq | ne | gt | ge | lt | le
  deriving DecidableEq, Repr

namespace Relation

def holds (r : Relation) (x y : Int) : Bool :=
  match r with
  | .eq => x == y
  | .ne => x != y
  | .gt => y < x
  | .ge => y ≤ x
  | .lt => x < y
  | .le => x ≤ y

def comparison : Relation → Comparison
  | .eq => .equals
  | .ne => .notEquals
  | .gt => .gt
  | .ge => .gte
  | .lt => .lt
  | .le => .lte

def operator : Relation → Operator
  | .eq => .eq
  | .ne => .ne
  | .gt => .gt
  | .ge => .ge
  | .lt => .lt
  | .le => .le

/-- The same of the order that two values are found to stand in. -/
def admits : Relation → Ordering → Bool
  | .eq => (· == .eq)
  | .ne => (· != .eq)
  | .gt => (· == .gt)
  | .ge => (· != .lt)
  | .lt => (· == .lt)
  | .le => (· != .gt)

theorem admits_compare (r : Relation) (x y : Int) : r.admits (compare x y) = r.holds x y := by
  rw [Bool.eq_iff_iff]
  cases r with
  | eq => simp [admits,holds]
  | ne => simp [admits,holds]
  | gt => simp [admits,holds,Int.compare_eq_gt]
  | ge => simp [admits,holds,Int.compare_eq_lt]
  | lt => simp [admits,holds,Int.compare_eq_lt]
  | le => simp [admits,holds,Int.compare_eq_gt]

end Relation

/-- The whole numbers `a` and `b` are compared everywhere as `x` and `y` are. -/
structure ComparedAs (x y a b : Int) : Prop where
  equality : Json.looseEq (.ofInt a) (.ofInt b) = decide (x = y)
  order : Json.compare? (.ofInt a) (.ofInt b) = some (compare x y)
  clause {data : Json} {field : String} (r : Relation) : Path.lookup data field = some (.ofInt a) →
    Clause.holds data ⟨field,r.comparison,.ofInt b⟩ = r.holds x y
  expression {data : Json} {left right : Expr} (r : Relation) : left.evaluate data = .ok (.ofInt a) → right.evaluate data = .ok (.ofInt b) →
    Expr.evaluate data (.binary (.operator r.operator) left right) = .ok (.bool (r.holds x y))
  trigger {before after : Fields} {path : String} {payload : Json} (t : Trigger) (origin event : String) :
    Path.lookup payload path = some (.ofInt a) →
    Trigger.matches { t with payloadMatch := some (before ++ (path,.ofInt b) :: after) } origin event payload =
      (decide (x = y) && Trigger.matches { t with payloadMatch := some (before ++ after) } origin event payload)
  filter {before after : Fields} {key : String} {contact : Contact} : Fields.get? contact.properties key = some (.ofInt a) →
    Rehearsal.meets (before ++ (key,.ofInt b) :: after) contact = (decide (x = y) && Rehearsal.meets (before ++ after) contact)

theorem looseEq_ofInt {a b : Int} (left : IsWord a) (right : IsWord b) :
    Json.looseEq (.ofInt a) (.ofInt b) = decide (nearest a = nearest b) :=
  Bool.eq_iff_iff.mpr ((beq_ofInt left.natAbs_lt right.natAbs_lt).trans decide_eq_true_iff.symm)

theorem compare?_ofInt {a b : Int} (left : IsWord a) (right : IsWord b) :
    Json.compare? (.ofInt a) (.ofInt b) = some (compare (nearest a) (nearest b)) := by
  have below := lt_ofInt left.natAbs_lt right.natAbs_lt
  have same := beq_ofInt left.natAbs_lt right.natAbs_lt
  have above := lt_ofInt right.natAbs_lt left.natAbs_lt
  change Json.orderFloat (Float.ofInt a) (Float.ofInt b) = _
  rw [Json.orderFloat]
  obtain less | equal | greater := lt_trichotomy (nearest a) (nearest b)
  · rw [if_pos (below.mpr less),Int.compare_eq_lt.mpr less]
  · rw [if_neg (mt below.mp (by omega)),if_pos (same.mpr equal),Int.compare_eq_eq.mpr equal]
  · rw [if_neg (mt below.mp (by omega)),if_neg (mt same.mp (by omega)),if_pos (above.mpr greater),Int.compare_eq_gt.mpr greater]

namespace ComparedAs

variable {x y a b : Int}

theorem any_admits (order : Json.compare? (.ofInt a) (.ofInt b) = some (compare x y)) (r : Relation) :
    (Json.compare? (.ofInt a) (.ofInt b)).any r.admits = r.holds x y := by
  rw [order]
  exact r.admits_compare x y

theorem comparing_admits (order : Json.compare? (.ofInt a) (.ofInt b) = some (compare x y)) (r : Relation) :
    Expr.comparing r.admits (.ofInt a) (.ofInt b) = .ok (.bool (r.holds x y)) := by
  rw [Expr.comparing,order,← r.admits_compare]

/-- Wherever values are compared, it is by these two functions. -/
theorem of (equality : Json.looseEq (.ofInt a) (.ofInt b) = decide (x = y))
    (order : Json.compare? (.ofInt a) (.ofInt b) = some (compare x y)) : ComparedAs x y a b where
  equality := equality
  order := order
  clause r found := by
    rw [Clause.holds,found]
    cases r with
    | eq => exact equality
    | ne => exact congrArg (!·) equality
    | gt => exact any_admits order .gt
    | ge => exact any_admits order .ge
    | lt => exact any_admits order .lt
    | le => exact any_admits order .le
  expression r first second := by
    rw [Expr.evaluate,first,second]
    change r.operator.apply (.ofInt a) (.ofInt b) = _
    cases r with
    | eq => exact congrArg (fun same => Except.ok (Json.bool same)) equality
    | ne => exact congrArg (fun same => Except.ok (Json.bool !same)) equality
    | gt => exact comparing_admits order .gt
    | ge => exact comparing_admits order .ge
    | lt => exact comparing_admits order .lt
    | le => exact comparing_admits order .le
  trigger t origin event found := by
    have expectation : expectationHolds (.ofInt b) (.ofInt a) = decide (x = y) := equality
    simp only [Trigger.matches,Option.getD_some,List.all_append,List.all_cons,found,Option.any_some,expectation,Bool.and_left_comm]
  filter found := by
    simp only [Rehearsal.meets,List.all_append,List.all_cons,found,Option.any_some,equality,Bool.and_left_comm]

end ComparedAs

/-- Whole numbers are compared as the nearest numbers that 53 bits can hold. These never stand the other way round, and up to `2^53` they
are the numbers themselves. -/
theorem integers_compare_as_nearest {a b : Int} (left : IsWord a) (right : IsWord b) : ComparedAs (nearest a) (nearest b) a b ∧
    IsNearest a (nearest a) ∧ (a ≤ b → nearest a ≤ nearest b) ∧ (a.natAbs ≤ 2 ^ 53 → nearest a = a) :=
  ⟨.of (looseEq_ofInt left right) (compare?_ofInt left right),isNearest_nearest a,nearest_mono,nearest_eq_self⟩

/-- The ends of the range, of which the upper one is no binary64 number. -/
theorem range_ends_compare_as_nearest : IsWord (2 ^ 64 - 1) ∧ IsWord (-2 ^ 63) ∧ nearest (2 ^ 64 - 1) = 2 ^ 64 ∧ nearest (-2 ^ 63) = -2 ^ 63 ∧
    ComparedAs (nearest (2 ^ 64 - 1)) (nearest (-2 ^ 63)) (2 ^ 64 - 1) (-2 ^ 63) := by
  have upper : IsWord (2 ^ 64 - 1) := by constructor <;> decide
  have lower : IsWord (-2 ^ 63) := by constructor <;> decide
  exact ⟨upper,lower,by decide +kernel,by decide +kernel,(integers_compare_as_nearest upper lower).1⟩

theorem neighbours_not_told_apart : ¬ ∀ a b : Int, IsWord a → IsWord b → ComparedAs a b a b := by
  intro exact
  have upper : IsWord (2 ^ 53 + 1) := by constructor <;> decide
  have lower : IsWord (2 ^ 53) := by constructor <;> decide
  have same : Json.looseEq (.ofInt (2 ^ 53 + 1)) (.ofInt (2 ^ 53)) = true := by decide +kernel
  have apart := (exact _ _ upper lower).equality
  rw [same] at apart
  exact absurd apart (by decide)

end Flowgraph
