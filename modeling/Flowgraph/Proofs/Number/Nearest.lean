import Mathlib.Tactic.Ring

/-! Whole numbers rounded to the nearest ones that 53 bits can hold. The numbers around one stand at the distance of a power of two, so
that rounding is a division rounded to the even one of two as near; it keeps the order, and it keeps all numbers up to `2^53`. -/

namespace Flowgraph.Binary64

/-- A quotient rounded to a whole number, a half to the even one. -/
def halfEven (a b : Nat) : Nat := if 2 * (a % b) < b ∨ 2 * (a % b) = b ∧ a / b % 2 = 0 then a / b else a / b + 1

/-- How far apart the numbers around a whole number are that 53 bits can hold. -/
def spacing (n : Nat) : Nat := 2 ^ (n.log2 - 52)

def nearestNat (n : Nat) : Nat := halfEven n (spacing n) * spacing n

/-- The number nearest to a whole number that 53 bits can hold; of two as near the one with even bits. -/
def nearest : Int → Int
  | .ofNat n => nearestNat n
  | .negSucc n => -nearestNat (n + 1)

/-- Numbers that 53 bits can hold, wherever the first of them stands. -/
def Holds53 (x : Nat) : Prop := ∃ m k, m < 2 ^ 53 ∧ x = m * 2 ^ k

/-- Of the numbers that 53 bits can hold none is nearer to `a` than `x`. -/
structure IsNearest (a x : Int) : Prop where
  holds : Holds53 x.natAbs
  closest (y : Int) : Holds53 y.natAbs → (a - x).natAbs ≤ (a - y).natAbs

theorem halfEven_cases (a b : Nat) : halfEven a b = a / b ∧ 2 * (a % b) ≤ b ∨ halfEven a b = a / b + 1 ∧ b ≤ 2 * (a % b) := by
  unfold halfEven
  split
  · exact .inl ⟨rfl,by omega⟩
  · exact .inr ⟨rfl,by omega⟩

theorem halfEven_one (a : Nat) : halfEven a 1 = a := by simp [halfEven,Nat.mod_one]

theorem halfEven_mul_right (a b : Nat) {c : Nat} (positive : 0 < c) : halfEven (a * c) (b * c) = halfEven a b := by
  have less : 2 * (a % b * c) < b * c ↔ 2 * (a % b) < b := by rw [← mul_assoc,Nat.mul_lt_mul_right positive]
  have same : 2 * (a % b * c) = b * c ↔ 2 * (a % b) = b := by rw [← mul_assoc,Nat.mul_left_inj positive.ne']
  simp only [halfEven,Nat.mul_div_mul_right _ _ positive,Nat.mul_mod_mul_right,less,same]

theorem halfEven_mono {a a' : Nat} (b : Nat) (ahead : a ≤ a') : halfEven a b ≤ halfEven a' b := by
  have quotients : a / b ≤ a' / b := Nat.div_le_div_right ahead
  obtain apart | same := Nat.lt_or_eq_of_le quotients
  · have upper := halfEven_cases a b
    have lower := halfEven_cases a' b
    omega
  · have rests : a % b ≤ a' % b := by
      have whole := Nat.div_add_mod a b
      have whole' := Nat.div_add_mod a' b
      rw [same] at whole
      omega
    unfold halfEven
    rw [same]
    split <;> split <;> omega

/-- No multiple is nearer. -/
theorem halfEven_closest (a b c : Nat) : ((a : Int) - (halfEven a b * b : Nat)).natAbs ≤ ((a : Int) - (c * b : Nat)).natAbs := by
  have whole := Nat.div_add_mod' a b
  have sides : c * b ≤ a / b * b ∨ a / b * b + b ≤ c * b := by
    obtain below | above := Nat.lt_or_ge (a / b) c
    · right
      rw [← Nat.succ_mul]
      exact Nat.mul_le_mul_right b below
    · exact .inl (Nat.mul_le_mul_right b above)
  obtain ⟨floor,rest⟩ | ⟨ceil,rest⟩ := halfEven_cases a b
  · rw [floor]
    omega
  · rw [ceil,Nat.succ_mul]
    obtain zero | positive := Nat.eq_zero_or_pos b
    · subst zero
      simp
    · have short := Nat.mod_lt a positive
      omega

theorem spacing_eq_one {n : Nat} (small : n < 2 ^ 53) : spacing n = 1 := by
  obtain rfl | nonzero := Nat.eq_zero_or_pos n
  · rfl
  · have bits : n.log2 < 53 := (Nat.log2_lt nonzero.ne').mpr small
    rw [spacing,Nat.sub_eq_zero_of_le (by omega),pow_zero]

theorem lt_mul_spacing (n : Nat) : n < 2 ^ 53 * spacing n := by
  have bits : n < 2 ^ (n.log2 + 1) := Nat.lt_log2_self
  rw [spacing,← pow_add]
  exact bits.trans_le (Nat.pow_le_pow_right (by decide) (by omega))

theorem mul_spacing_le {n : Nat} (large : 52 ≤ n.log2) : 2 ^ 52 * spacing n ≤ n := by
  have nonzero : n ≠ 0 := by
    rintro rfl
    simp at large
  rw [spacing,← pow_add,Nat.add_sub_cancel' large]
  exact Nat.log2_self_le nonzero

theorem spacing_pos (n : Nat) : 0 < spacing n := Nat.two_pow_pos _

theorem halfEven_spacing_le (n : Nat) : halfEven n (spacing n) ≤ 2 ^ 53 := by
  have quotient : n / spacing n < 2 ^ 53 := (Nat.div_lt_iff_lt_mul (spacing_pos n)).mpr (lt_mul_spacing n)
  have rounded := halfEven_cases n (spacing n)
  omega

theorem le_halfEven_spacing {n : Nat} (large : 52 ≤ n.log2) : 2 ^ 52 ≤ halfEven n (spacing n) := by
  have quotient : 2 ^ 52 ≤ n / spacing n := (Nat.le_div_iff_mul_le (spacing_pos n)).mpr (mul_spacing_le large)
  have rounded := halfEven_cases n (spacing n)
  omega

theorem nearestNat_eq_self {n : Nat} (small : n ≤ 2 ^ 53) : nearestNat n = n := by
  obtain less | rfl := Nat.lt_or_eq_of_le small
  · rw [nearestNat,spacing_eq_one less,halfEven_one,mul_one]
  · decide +kernel

theorem nearestNat_mono {n n' : Nat} (ahead : n ≤ n') : nearestNat n ≤ nearestNat n' := by
  obtain rfl | nonzero := Nat.eq_zero_or_pos n
  · exact Nat.zero_le _
  · have logs : n.log2 ≤ n'.log2 := (Nat.le_log2 (by omega)).mpr ((Nat.log2_self_le nonzero.ne').trans ahead)
    obtain same | apart := Nat.eq_or_lt_of_le (Nat.sub_le_sub_right logs 52)
    · have even : spacing n = spacing n' := congrArg (2 ^ ·) same
      rw [nearestNat,nearestNat,even]
      exact Nat.mul_le_mul_right _ (halfEven_mono _ ahead)
    · -- Between the two stands a number where the spacing grows.
      have double : 2 * spacing n ≤ spacing n' := by
        rw [spacing,spacing,← pow_succ']
        exact Nat.pow_le_pow_right (by decide) apart
      calc nearestNat n ≤ 2 ^ 53 * spacing n := Nat.mul_le_mul_right _ (halfEven_spacing_le n)
        _ = 2 ^ 52 * (2 * spacing n) := by ring
        _ ≤ 2 ^ 52 * spacing n' := Nat.mul_le_mul_left _ double
        _ ≤ nearestNat n' := Nat.mul_le_mul_right _ (le_halfEven_spacing (by omega))

theorem log2_eq_of_bounds {m : Nat} (low : 2 ^ 52 ≤ m) (high : m < 2 ^ 53) : m.log2 = 52 := (Nat.log2_eq_iff (by omega)).mpr ⟨low,high⟩

theorem log2_mul_two_pow {n : Nat} (nonzero : n ≠ 0) (k : Nat) : (n * 2 ^ k).log2 = n.log2 + k := by
  rw [Nat.log2_eq_iff (Nat.mul_ne_zero nonzero (Nat.two_pow_pos k).ne'),add_right_comm,pow_add,pow_add _ (n.log2 + 1)]
  exact ⟨Nat.mul_le_mul_right _ (Nat.log2_self_le nonzero),Nat.mul_lt_mul_of_pos_right Nat.lt_log2_self (Nat.two_pow_pos k)⟩

theorem nearestNat_mul_two_pow {n : Nat} (long : 52 ≤ n.log2) (k : Nat) : nearestNat (n * 2 ^ k) = nearestNat n * 2 ^ k := by
  have nonzero : n ≠ 0 := by
    rintro rfl
    simp at long
  have wider : spacing (n * 2 ^ k) = spacing n * 2 ^ k := by
    rw [spacing,spacing,log2_mul_two_pow nonzero,← pow_add]
    congr 1
    omega
  rw [nearestNat,nearestNat,wider,halfEven_mul_right _ _ (Nat.two_pow_pos k),mul_assoc]

theorem holds53_nearestNat (n : Nat) : Holds53 (nearestNat n) := by
  obtain less | full := Nat.lt_or_eq_of_le (halfEven_spacing_le n)
  · exact ⟨_,_,less,rfl⟩
  · refine ⟨1,53 + (n.log2 - 52),by decide,?_⟩
    rw [nearestNat,full,spacing,one_mul,pow_add]

/-- No number that 53 bits can hold is nearer. -/
theorem nearestNat_closest (n : Nat) {x : Nat} (holds : Holds53 x) :
    ((n : Int) - nearestNat n).natAbs ≤ ((n : Int) - x).natAbs := by
  obtain ⟨m,k,bits,rfl⟩ := holds
  obtain inside | finer := Nat.lt_or_ge k (n.log2 - 52)
  · -- A number of finer spacing stands below the first number of this one.
    have below : m * 2 ^ k ≤ 2 ^ 52 * spacing n := by
      calc m * 2 ^ k ≤ 2 ^ 53 * 2 ^ k := Nat.mul_le_mul_right _ bits.le
        _ = 2 ^ 52 * 2 ^ (k + 1) := by ring
        _ ≤ 2 ^ 52 * spacing n := Nat.mul_le_mul_left _ (Nat.pow_le_pow_right (by decide) inside)
    have above : 2 ^ 52 * spacing n ≤ n := mul_spacing_le (by omega)
    have closest := halfEven_closest n (spacing n) (2 ^ 52)
    rw [nearestNat]
    omega
  · have multiple : m * 2 ^ k = m * 2 ^ (k - (n.log2 - 52)) * spacing n := by
      rw [spacing,mul_assoc,← pow_add,Nat.sub_add_cancel finer]
    rw [multiple]
    exact halfEven_closest n (spacing n) _

theorem nearest_eq_self {a : Int} (small : a.natAbs ≤ 2 ^ 53) : nearest a = a := by
  cases a with
  | ofNat n => exact congrArg Int.ofNat (nearestNat_eq_self small)
  | negSucc n =>
    have bound : n + 1 ≤ 2 ^ 53 := small
    rw [nearest,nearestNat_eq_self bound]
    rfl

theorem nearest_mono {a b : Int} (ahead : a ≤ b) : nearest a ≤ nearest b := by
  cases a with
  | ofNat n =>
    cases b with
    | ofNat m => exact Int.ofNat_le.mpr (nearestNat_mono (Int.ofNat_le.mp ahead))
    | negSucc m =>
      simp only [Int.ofNat_eq_natCast] at ahead
      omega
  | negSucc n =>
    cases b with
    | ofNat m =>
      simp only [nearest]
      omega
    | negSucc m =>
      have magnitudes : nearestNat (m + 1) ≤ nearestNat (n + 1) := nearestNat_mono (by omega)
      simp only [nearest]
      omega

theorem isNearest_nearest (a : Int) : IsNearest a (nearest a) := by
  cases a with
  | ofNat n =>
    refine ⟨holds53_nearestNat n,fun y holds => ?_⟩
    have closest := nearestNat_closest n holds
    simp only [nearest,Int.ofNat_eq_natCast]
    omega
  | negSucc n =>
    refine ⟨?_,fun y holds => ?_⟩
    · rw [nearest,Int.natAbs_neg]
      exact holds53_nearestNat (n + 1)
    · have closest := nearestNat_closest (n + 1) holds
      simp only [nearest]
      omega

/-- Half-way between two the even one is taken. -/
example : nearest (2 ^ 53 + 1) = 2 ^ 53 ∧ nearest (2 ^ 53 + 3) = 2 ^ 53 + 4 := by decide

end Flowgraph.Binary64
