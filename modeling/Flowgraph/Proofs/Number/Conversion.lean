import Flowgraph.Proofs.Number.Nearest
import Mathlib

/-! Whole numbers of up to 64 bits as binary64 numbers. Their conversion yields the nearest number that 53 bits can hold, as a mantissa
that fills its 53 bits and an exponent; in this form the comparison of exponents, then of mantissas, is the comparison of the numbers. -/

namespace Flowgraph.Binary64
open Float.Model Float.Model.UnpackedFloat

/-- A finite number of a magnitude, with a mantissa that fills its 53 bits. -/
inductive Normal (s : Sign) (magnitude : ℚ) : UnpackedFloat → Prop
  | intro {m : Nat} {e : Int} (positive : 0 < m) (low : 2 ^ 52 ≤ m) (high : m < 2 ^ 53) (value : (m : ℚ) * 2 ^ e = magnitude) :
      Normal s magnitude (.finite s m e positive)

theorem shiftRight_succ (m k : Nat) :
    (⟨m,false,false⟩ : ExtendedMantissa) >>> (k + 1) = ⟨m / 2 ^ (k + 1),m / 2 ^ k % 2 != 0,m % 2 ^ k != 0⟩ := by
  induction k with
  | zero => simp [HShiftRight.hShiftRight,Nat.repeat,ExtendedMantissa.shiftRightOne,Nat.mod_one]
  | succ k ih =>
    have once : (⟨m,false,false⟩ : ExtendedMantissa) >>> (k + 1 + 1) = ((⟨m,false,false⟩ : ExtendedMantissa) >>> (k + 1)).shiftRightOne := rfl
    have bits : m % 2 ^ (k + 1) = m % 2 ^ k + 2 ^ k * (m / 2 ^ k % 2) := Nat.mod_pow_succ
    have place : 2 ^ k ≠ 0 := (Nat.two_pow_pos k).ne'
    rw [once,ih,ExtendedMantissa.shiftRightOne]
    congr 1
    · rw [Nat.div_div_eq_div_mul,← pow_succ]
    · rw [bits]
      obtain even | odd := Nat.mod_two_eq_zero_or_one (m / 2 ^ k)
      · simp [even]
      · simp [odd]

theorem roundedMantissa_shiftRight (m k : Nat) :
    ((⟨m,false,false⟩ : ExtendedMantissa) >>> k).roundedMantissa = halfEven m (2 ^ k) := by
  cases k with
  | zero => exact (halfEven_one m).symm
  | succ k =>
    have bits : m % 2 ^ (k + 1) = m % 2 ^ k + 2 ^ k * (m / 2 ^ k % 2) := Nat.mod_pow_succ
    have rest : m % 2 ^ k < 2 ^ k := Nat.mod_lt _ (Nat.two_pow_pos k)
    rw [shiftRight_succ,halfEven,bits,pow_succ']
    obtain even | odd := Nat.mod_two_eq_zero_or_one (m / 2 ^ k)
    · rw [even,if_pos (by omega)]
      cases m % 2 ^ k != 0 <;> rfl
    · obtain half | beyond := Nat.eq_zero_or_pos (m % 2 ^ k)
      · rw [odd,half]
        change m / (2 * 2 ^ k) + m / (2 * 2 ^ k) % 2 = _
        split <;> omega
      · rw [odd,if_neg (by omega),bne_iff_ne.mpr beyond.ne']
        rfl

theorem shiftToTargetExponent_eq (m : Nat) {e : Int} (fits : -1074 ≤ e) : shiftToTargetExponent .binary64 m e .exact =
    ((⟨m,false,false⟩ : ExtendedMantissa) >>> (m.log2 - 52),e + (m.log2 - 52 : Nat)) := by
  have amount : (Format.binary64.targetExponent (totalExponent m e) - e).toNat = m.log2 - 52 := by
    simp only [Format.targetExponent,totalExponent,Format.mantissaBits,Format.minExponent]
    omega
  rw [shiftToTargetExponent,shiftToExponent,amount]
  rfl

/-- A mantissa that was rounded needs one more shift at most, which drops no bit. -/
theorem shiftToTargetExponent_carry {r : Nat} {e : Int} (low : 2 ^ 52 ≤ r) (high : r ≤ 2 ^ 53) (fits : -1074 ≤ e) :
    ∃ m c, (shiftToTargetExponent .binary64 r e .exact).1.mantissa = m ∧ (shiftToTargetExponent .binary64 r e .exact).2 = c ∧
      2 ^ 52 ≤ m ∧ m < 2 ^ 53 ∧ (m : ℚ) * 2 ^ c = r * 2 ^ e := by
  rw [shiftToTargetExponent_eq r fits]
  obtain inside | rfl := Nat.lt_or_eq_of_le high
  · have full : r.log2 = 52 := log2_eq_of_bounds low inside
    refine ⟨r,e,?_,?_,low,inside,rfl⟩
    · rw [full]
      rfl
    · rw [full]
      simp
  · have full : (2 ^ 53 : Nat).log2 = 53 := Nat.log2_two_pow
    refine ⟨2 ^ 52,e + 1,?_,?_,le_rfl,by norm_num,?_⟩
    · rw [full]
      rfl
    · rw [full]
      rfl
    · rw [zpow_add_one₀ two_ne_zero]
      norm_num
      ring

theorem normal_roundWithAccuracy (s : Sign) {m : Nat} {e : Int} (long : 52 ≤ m.log2) (fits : -1074 ≤ e) :
    Normal s (nearestNat m * 2 ^ e) (roundWithAccuracy .binary64 s m e .exact) := by
  obtain ⟨n,c,mantissa,exponent,low,high,value⟩ := shiftToTargetExponent_carry (e := e + (m.log2 - 52 : Nat)) (le_halfEven_spacing long)
    (halfEven_spacing_le m) (by omega)
  have shifted : (halfEven m (spacing m) : ℚ) * 2 ^ (e + (m.log2 - 52 : Nat)) = nearestNat m * 2 ^ e := by
    rw [nearestNat,spacing,zpow_add₀ two_ne_zero,zpow_natCast]
    push_cast
    ring
  simp only [roundWithAccuracy,shiftToTargetExponent_eq m fits,roundedMantissa_shiftRight]
  rw [spacing] at mantissa exponent
  split
  · omega
  · simp only [mantissa,exponent]
    exact .intro _ low high (value.trans shifted)

theorem exponent_bounds {m : Nat} {e : Int} (low : 2 ^ 52 ≤ m) (high : m < 2 ^ 53) (least : 1 ≤ (m : ℚ) * 2 ^ e)
    (most : (m : ℚ) * 2 ^ e ≤ 2 ^ 64) : -53 < e ∧ e < 13 := by
  have low' : (2 : ℚ) ^ 52 ≤ m := by exact_mod_cast low
  have high' : (m : ℚ) < 2 ^ 53 := by exact_mod_cast high
  constructor
  · by_contra small
    have power : (2 : ℚ) ^ e ≤ 2 ^ (-53 : Int) := zpow_le_zpow_right₀ one_le_two (by omega)
    have product : (m : ℚ) * 2 ^ e < 2 ^ 53 * 2 ^ (-53 : Int) := mul_lt_mul high' power (by positivity) (by positivity)
    norm_num at product
    linarith
  · by_contra large
    have power : (2 : ℚ) ^ (13 : Int) ≤ 2 ^ e := zpow_le_zpow_right₀ one_le_two (by omega)
    have product : (2 : ℚ) ^ 52 * 2 ^ (13 : Int) ≤ m * 2 ^ e := mul_le_mul low' power (by positivity) (by positivity)
    norm_num at product
    linarith

/-- What is within the range of whole numbers is packed without loss. -/
theorem unpack_pack {s : Sign} {x : ℚ} {f : UnpackedFloat} (normal : Normal s x f) (least : 1 ≤ x) (most : x ≤ 2 ^ 64) :
    (Float.Model.pack f).unpack = f := by
  obtain @⟨m,e,positive,low,high,rfl⟩ := normal
  obtain ⟨above,below⟩ := exponent_bounds low high least most
  have full : m.log2 = 52 := log2_eq_of_bounds low high
  obtain ⟨b,biased⟩ : ∃ b : Nat, (b : Int) = e + 1075 := ⟨(e + 1075).toNat,by omega⟩
  have exponent : (BitVec.ofNat 11 b).toNat = b := Nat.mod_eq_of_lt (by omega)
  have mantissa : (1#1 ++ BitVec.ofNat 52 m).toNat = m := by
    rw [BitVec.toNat_append,← Nat.shiftLeft_add_eq_or_of_lt (BitVec.isLt _),BitVec.toNat_ofNat]
    change 1 <<< 52 + m % 2 ^ 52 = m
    omega
  have packed : (Float.Model.pack (.finite s m e positive)).toBits.toBitVec = packComponents .binary64 s (.ofNat 11 b) (.ofNat 52 m) := by
    have place : (e + Format.binary64.exponentBias + Format.binary64.mantissaBitsWithoutImplicit).toNat = b := by
      simp only [Format.exponentBias]
      omega
    simp only [Float.Model.pack,UnpackedFloat.pack,place,full]
    rw [if_neg (by omega),if_pos (by rfl)]
  rw [Float.Model.unpack,packed,UnpackedFloat.unpack]
  simp only [unpackMantissa_packComponents,unpackExponent_packComponents,unpackSign_packComponents,Sign.ofBitVec_toBitVec,exponent,mantissa]
  rw [if_neg,if_neg]
  · congr 1
    simp only [Format.exponentBias]
    omega
  · intro zero
    have same : b = 0 := exponent.symm.trans (congrArg BitVec.toNat zero)
    omega
  · intro ones
    have same : b = 2047 := exponent.symm.trans (congrArg BitVec.toNat ones)
    omega

/-- One in the table of the powers of ten. -/
theorem unpack_one : (Float.ofBits 0x3FF0000000000000).toModel.unpack = .finite .positive (2 ^ 52) (-52) (by decide) := by
  rfl

theorem normal_mul_one {s : Sign} {x : ℚ} {f : UnpackedFloat} (normal : Normal s x f) (least : 1 ≤ x) (most : x ≤ 2 ^ 64) :
    Normal s x (UnpackedFloat.mul .binary64 f (Float.ofBits 0x3FF0000000000000).toModel.unpack) := by
  obtain @⟨m,e,positive,low,high,rfl⟩ := normal
  obtain ⟨above,below⟩ := exponent_bounds low high least most
  have full : m.log2 = 52 := log2_eq_of_bounds low high
  have long : 52 ≤ (m * 2 ^ 52).log2 := by
    rw [log2_mul_two_pow positive.ne']
    omega
  have rounded := normal_roundWithAccuracy (e := e + -52) (s * .positive) long (by omega)
  have value : (nearestNat (m * 2 ^ 52) : ℚ) * 2 ^ (e + -52) = m * 2 ^ e := by
    rw [nearestNat_mul_two_pow full.ge,nearestNat_eq_self high.le,zpow_add₀ two_ne_zero]
    push_cast
    norm_num
    ring
  have sign : s * .positive = s := by cases s <;> rfl
  rw [value,sign] at rounded
  rw [unpack_one]
  simpa only [UnpackedFloat.mul,sign] using rounded

theorem normal_ofNat_small {n : Nat} (positive : 0 < n) (small : n < 2 ^ 53) : Normal .positive n (UnpackedFloat.ofNat .binary64 n) := by
  have bits : n.log2 < 53 := (Nat.log2_lt positive.ne').mpr small
  have long : (n * 2 ^ (52 - n.log2)).log2 = 52 := by
    rw [log2_mul_two_pow positive.ne']
    omega
  have exact : n * 2 ^ (52 - n.log2) < 2 ^ 53 := (Nat.log2_lt (by positivity)).mp (by omega)
  have amount : (0 - Format.binary64.targetExponent (totalExponent n 0)).toNat = 52 - n.log2 := by
    simp only [Format.targetExponent,totalExponent,Format.mantissaBits,Format.minExponent]
    omega
  have rounded := normal_roundWithAccuracy (e := 0 - (52 - n.log2 : Nat)) .positive long.ge (by omega)
  have value : (nearestNat (n * 2 ^ (52 - n.log2)) : ℚ) * 2 ^ (0 - ((52 - n.log2 : Nat) : Int)) = n := by
    rw [nearestNat_eq_self exact.le,zero_sub,zpow_neg,zpow_natCast]
    push_cast
    exact mul_inv_cancel_right₀ (by positivity) _
  have above : compare (n : Int) 0 = .gt := Int.compare_eq_gt.mpr (by omega)
  rw [value] at rounded
  simpa only [UnpackedFloat.ofNat,UnpackedFloat.ofInt,UnpackedFloat.normalize,above,Int.toNat_natCast,UnpackedFloat.round,decreaseExponent,amount,
    Nat.shiftLeft_eq] using rounded

/-- Below `2^53` a number is made from its bits and multiplied by one. -/
theorem toModel_ofNat_of_lt {n : Nat} (small : n < 2 ^ 53) : (Float.ofNat n).toModel = Float.Model.pack (UnpackedFloat.mul .binary64
    (Float.Model.pack (UnpackedFloat.ofNat .binary64 n)).unpack (Float.ofBits 0x3FF0000000000000).toModel.unpack) := by
  have word : n.toUInt64.toNat = n := Nat.mod_eq_of_lt (by omega)
  change (Float.ofScientific n false 0).toModel = _
  rw [Float.ofScientific,dif_pos ⟨small,by decide⟩]
  change Float.Model.pack (UnpackedFloat.mul .binary64 (Float.Model.pack (UnpackedFloat.ofNat .binary64 n.toUInt64.toNat)).unpack
    (Float.ofBits 0x3FF0000000000000).toModel.unpack) = _
  rw [word]

theorem ofScientific_zero {n : Nat} (nonzero : n ≠ 0) :
    UnpackedFloat.ofScientific .binary64 n 0 = roundWithAccuracy .binary64 .positive (n * 2 ^ 53) (-53) .exact := by
  rw [UnpackedFloat.ofScientific,dif_neg nonzero,if_neg (by decide),if_neg,if_pos le_rfl]
  · simp only [UnpackedFloat.mul,Nat.shiftLeft_eq,Int.toNat_zero,pow_zero,mul_one,add_zero]
    rfl
  · intro small
    have power : (0 : Int) < 2 ^ Format.binary64.exponentBits := by positivity
    omega

theorem toModel_ofNat_of_le {n : Nat} (large : 2 ^ 53 ≤ n) :
    (Float.ofNat n).toModel = Float.Model.pack (roundWithAccuracy .binary64 .positive (n * 2 ^ 53) (-53) .exact) := by
  change (Float.ofScientific n false 0).toModel = _
  rw [Float.ofScientific,dif_neg (by omega),← ofScientific_zero (by omega)]
  rfl

theorem normal_ofNat {n : Nat} (positive : 0 < n) (bound : n < 2 ^ 64) :
    Normal .positive (nearestNat n) (Float.ofNat n).toModel.unpack := by
  have least : 1 ≤ nearestNat n := nearestNat_mono positive
  have most : nearestNat n ≤ 2 ^ 64 := nearestNat_mono bound.le
  have least' : (1 : ℚ) ≤ nearestNat n := by exact_mod_cast least
  have most' : (nearestNat n : ℚ) ≤ 2 ^ 64 := by exact_mod_cast most
  obtain small | large := Nat.lt_or_ge n (2 ^ 53)
  · have same : nearestNat n = n := nearestNat_eq_self small.le
    rw [same] at least' most' ⊢
    have given := normal_ofNat_small positive small
    have product := normal_mul_one given least' most'
    rw [toModel_ofNat_of_lt small,unpack_pack given least' most',unpack_pack product least' most']
    exact product
  · -- The digits move up by 53 places first, and rounding moves with them.
    have long : 53 ≤ n.log2 := (Nat.le_log2 positive.ne').mpr large
    have bits : (n * 2 ^ 53).log2 = n.log2 + 53 := log2_mul_two_pow positive.ne' 53
    have rounded := normal_roundWithAccuracy (m := n * 2 ^ 53) (e := -53) .positive (by omega) (by omega)
    have value : (nearestNat (n * 2 ^ 53) : ℚ) * 2 ^ (-53 : Int) = nearestNat n := by
      rw [nearestNat_mul_two_pow (by omega),Nat.cast_mul,Nat.cast_pow,zpow_neg,← zpow_natCast]
      exact mul_inv_cancel_right₀ (by positivity) _
    rw [value] at rounded
    rw [toModel_ofNat_of_le large,unpack_pack rounded least' most']
    exact rounded

/-- Unpacked numbers that stand for a whole number; zero has two of them. -/
inductive Whole : Int → UnpackedFloat → Prop
  | zero (s : Sign) : Whole 0 (.zero s)
  | above {n : Nat} {f : UnpackedFloat} (nonzero : 0 < n) (normal : Normal .positive n f) : Whole n f
  | below {n : Nat} {f : UnpackedFloat} (nonzero : 0 < n) (normal : Normal .negative n f) : Whole (-n) f

theorem Normal.neg {s : Sign} {x : ℚ} {f : UnpackedFloat} (normal : Normal s x f) : Normal (-s) x f.neg := by
  obtain ⟨positive,low,high,value⟩ := normal
  exact ⟨positive,low,high,value⟩

theorem whole_ofInt {a : Int} (bound : a.natAbs < 2 ^ 64) : Whole (nearest a) (Float.ofInt a).toModel.unpack := by
  match a with
  | .ofNat 0 => exact .zero .positive
  | .ofNat (n + 1) =>
    have normal := normal_ofNat (Nat.succ_pos n) bound
    exact .above (nearestNat_mono (Nat.succ_pos n)) normal
  | .negSucc n =>
    have normal := normal_ofNat (Nat.succ_pos n) bound
    have least : 1 ≤ nearestNat (n + 1) := nearestNat_mono (Nat.succ_pos n)
    have same : (Float.neg (Float.ofNat (n + 1))).toModel.unpack = (Float.ofNat (n + 1)).toModel.unpack.neg :=
      unpack_pack normal.neg (by exact_mod_cast least) (by exact_mod_cast nearestNat_mono bound.le)
    rw [Float.ofInt,same]
    exact .below least normal.neg

theorem lt_of_exponent_lt {m m' : Nat} {e e' : Int} (high : m < 2 ^ 53) (low : 2 ^ 52 ≤ m') (smaller : e < e') :
    (m : ℚ) * 2 ^ e < m' * 2 ^ e' := by
  have high' : (m : ℚ) < 2 ^ 53 := by exact_mod_cast high
  have low' : (2 : ℚ) ^ 52 ≤ m' := by exact_mod_cast low
  have power : (2 : ℚ) ^ (e + 1) ≤ 2 ^ e' := zpow_le_zpow_right₀ one_le_two smaller
  calc (m : ℚ) * 2 ^ e < 2 ^ 53 * 2 ^ e := mul_lt_mul_of_pos_right high' (by positivity)
    _ = 2 ^ 52 * 2 ^ (e + 1) := by
      rw [zpow_add_one₀ two_ne_zero]
      ring
    _ ≤ m' * 2 ^ e' := mul_le_mul low' power (by positivity) (by positivity)

/-- Exponents first, then mantissas: the order of the numbers. -/
theorem compare_parts {m m' n n' : Nat} {e e' : Int} (low : 2 ^ 52 ≤ m) (high : m < 2 ^ 53) (low' : 2 ^ 52 ≤ m') (high' : m' < 2 ^ 53)
    (value : (m : ℚ) * 2 ^ e = n) (value' : (m' : ℚ) * 2 ^ e' = n') : (compare e e').then (compare m m') = compare n n' := by
  obtain less | rfl | greater := lt_trichotomy e e'
  · have ahead := lt_of_exponent_lt high low' less
    rw [value,value',Nat.cast_lt] at ahead
    rw [Int.compare_eq_lt.mpr less,Nat.compare_eq_lt.mpr ahead]
    rfl
  · have place : (0 : ℚ) < 2 ^ e := by positivity
    have below : (n : ℚ) < n' ↔ (m : ℚ) < m' := by rw [← value,← value',mul_lt_mul_iff_left₀ place]
    have above : (n' : ℚ) < n ↔ (m' : ℚ) < m := by rw [← value,← value',mul_lt_mul_iff_left₀ place]
    rw [Nat.cast_lt,Nat.cast_lt] at below above
    rw [Std.compare_self,Nat.compare_eq_ite_lt n,Nat.compare_eq_ite_lt m]
    simp only [below,above,Ordering.then]
  · have behind := lt_of_exponent_lt high' low greater
    rw [value,value',Nat.cast_lt] at behind
    rw [Int.compare_eq_gt.mpr greater,Nat.compare_eq_gt.mpr behind]
    rfl

theorem Whole.compare {a b : Int} {f g : UnpackedFloat} : Whole a f → Whole b g → f.compare g = some (compare a b)
  | .zero _,.zero _ => rfl
  | .zero _,.above nonzero ⟨_,_,_,_⟩ => congrArg some (Int.compare_eq_lt.mpr (by omega)).symm
  | .zero _,.below nonzero ⟨_,_,_,_⟩ => congrArg some (Int.compare_eq_gt.mpr (by omega)).symm
  | .above nonzero ⟨_,_,_,_⟩,.zero _ => congrArg some (Int.compare_eq_gt.mpr (by omega)).symm
  | .below nonzero ⟨_,_,_,_⟩,.zero _ => congrArg some (Int.compare_eq_lt.mpr (by omega)).symm
  | .above nonzero ⟨_,_,_,_⟩,.below nonzero' ⟨_,_,_,_⟩ => congrArg some (Int.compare_eq_gt.mpr (by omega)).symm
  | .below nonzero ⟨_,_,_,_⟩,.above nonzero' ⟨_,_,_,_⟩ => congrArg some (Int.compare_eq_lt.mpr (by omega)).symm
  | @Whole.above n _ _ ⟨_,low,high,value⟩,@Whole.above n' _ _ ⟨_,low',high',value'⟩ => by
    have casts : Ord.compare (n : Int) n' = Ord.compare n n' := by
      rw [Int.compare_eq_ite_lt,Nat.compare_eq_ite_lt]
      simp only [Int.ofNat_lt]
    rw [casts,← compare_parts low high low' high' value value']
    rfl
  | @Whole.below n _ _ ⟨_,low,high,value⟩,@Whole.below n' _ _ ⟨_,low',high',value'⟩ => by
    have casts : Ord.compare (-(n : Int)) (-n') = (Ord.compare n n').swap := by
      rw [Nat.compare_swap,Int.compare_eq_ite_lt,Nat.compare_eq_ite_lt]
      simp only [Int.neg_lt_neg_iff,Int.ofNat_lt]
    rw [casts,← compare_parts low high low' high' value value']
    rfl

theorem compare_ofInt {a b : Int} (left : a.natAbs < 2 ^ 64) (right : b.natAbs < 2 ^ 64) :
    (Float.ofInt a).toModel.unpack.compare (Float.ofInt b).toModel.unpack = some (compare (nearest a) (nearest b)) :=
  (whole_ofInt left).compare (whole_ofInt right)

theorem beq_ofInt {a b : Int} (left : a.natAbs < 2 ^ 64) (right : b.natAbs < 2 ^ 64) :
    Float.ofInt a == Float.ofInt b ↔ nearest a = nearest b := by
  have model : Float.ofInt a == Float.ofInt b ↔
      ((Float.ofInt a).toModel.unpack.compare (Float.ofInt b).toModel.unpack == some .eq) = true := Iff.rfl
  rw [model,compare_ofInt left right,beq_iff_eq,Option.some.injEq,Int.compare_eq_eq]

theorem lt_ofInt {a b : Int} (left : a.natAbs < 2 ^ 64) (right : b.natAbs < 2 ^ 64) :
    Float.ofInt a < Float.ofInt b ↔ nearest a < nearest b := by
  have model : Float.ofInt a < Float.ofInt b ↔
      ((Float.ofInt a).toModel.unpack.compare (Float.ofInt b).toModel.unpack == some .lt) = true := decide_eq_true_iff
  rw [model,compare_ofInt left right,beq_iff_eq,Option.some.injEq,Int.compare_eq_lt]

end Flowgraph.Binary64
