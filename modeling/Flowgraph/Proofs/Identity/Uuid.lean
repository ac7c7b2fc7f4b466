import Flowgraph.Identity.Uuid
import Mathlib.Tactic.IntervalCases

/-! Every identifier is read back from its own text. -/

namespace Flowgraph.Uuid

theorem length_digits (value n : Nat) : (digits value n).length = n := by
  induction n generalizing value with
  | zero => rfl
  | succ n ih => simp [digits,ih]

theorem hexValue?_digitChar {d : Nat} (small : d < 16) : hexValue? (Nat.digitChar d) = some d := by
  interval_cases d <;> decide

theorem isHex_of_mem_digits {value n : Nat} : ∀ c ∈ digits value n, (hexValue? c).isSome = true := by
  induction n generalizing value with
  | zero => intro c member; cases member
  | succ n ih =>
    intro c member
    simp only [digits,List.mem_append,List.mem_singleton] at member
    obtain earlier | rfl := member
    · exact ih c earlier
    · rw [hexValue?_digitChar (Nat.mod_lt value (by decide))]; rfl

/-- Reading the digits of a number gives what is left of it at that many digits. -/
theorem ofDigits?_digits (value n : Nat) : ofDigits? (digits value n) = some (value % 16 ^ n) := by
  induction n generalizing value with
  | zero => simp [digits,ofDigits?,Nat.mod_one]
  | succ n ih =>
    have front := ih (value / 16)
    simp only [ofDigits?] at front ⊢
    rw [digits,List.foldlM_append,front]
    simp only [List.foldlM_cons,List.foldlM_nil,hexValue?_digitChar (Nat.mod_lt value (by decide : 0 < 16)),bind,Option.bind,
      Option.map,pure,Option.some.injEq]
    rw [Nat.pow_succ,Nat.mul_comm (16 ^ n) 16,Nat.mod_mul]
    omega

theorem ungrouped?_hyphenated (sizes : List Nat) {ds : List Char} (nonempty : sizes ≠ []) (length : ds.length = sizes.sum) :
    ungrouped? sizes (hyphenated sizes ds) = some ds := by
  induction sizes generalizing ds with
  | nil => exact absurd rfl nonempty
  | cons n rest ih =>
    cases rest with
    | nil =>
      have whole : ds.length = n := by simpa using length
      exact if_pos whole
    | cons m more =>
      have left : (ds.drop n).length = (m :: more).sum := by
        simp only [List.length_drop,length,List.sum_cons]; omega
      have taken : (ds.take n).length = n := by
        simp only [List.length_take,length,List.sum_cons]; omega
      have front : (ds.take n ++ '-' :: hyphenated (m :: more) (ds.drop n)).take n = ds.take n := List.take_left' taken
      have back : (ds.take n ++ '-' :: hyphenated (m :: more) (ds.drop n)).drop n = '-' :: hyphenated (m :: more) (ds.drop n) :=
        List.drop_left' taken
      simp only [hyphenated,ungrouped?,front,back,ih (by simp) left,Option.map_some,List.take_append_drop]

theorem urn_eq : urn = ['u','r','n',':','u','u','i','d',':'] := by decide

theorem bare_cons {c : Char} {rest : List Char} (hex : (hexValue? c).isSome = true) : bare (c :: rest) = (c :: rest,false) := by
  have brace : c ≠ '\x7b' := by rintro rfl; revert hex; decide
  have scheme : c ≠ 'u' := by rintro rfl; revert hex; decide
  have plain : urn.isPrefixOf (c :: rest) = false := by
    rw [urn_eq,List.isPrefixOf,beq_false_of_ne scheme.symm,Bool.false_and]
  unfold bare
  split
  · next shape => cases shape; exact absurd rfl brace
  · rw [plain]; rfl

theorem parse?_text (id : Uuid) : parse? id.text.toList = some id := by
  obtain ⟨c,rest,shape⟩ : ∃ c rest, digits id.bits.toNat 32 = c :: rest :=
    List.exists_cons_of_length_pos (by rw [length_digits]; decide)
  have hex : (hexValue? c).isSome = true := isHex_of_mem_digits c (by rw [shape]; simp)
  have grouped := ungrouped?_hyphenated groups (by decide) (length_digits id.bits.toNat 32)
  have length : (hyphenated groups (digits id.bits.toNat 32)).length = 36 := by
    simp [groups,hyphenated,length_digits]
  have read : ofDigits? (digits id.bits.toNat 32) = some id.bits.toNat := by
    rw [ofDigits?_digits,show 16 ^ 32 = 2 ^ 128 by decide,Nat.mod_eq_of_lt id.bits.isLt]
  have plain : bare (hyphenated groups (digits id.bits.toNat 32)) = (hyphenated groups (digits id.bits.toNat 32),false) := by
    rw [shape]
    exact bare_cons hex
  simp [text,parse?,plain,length,grouped,read,ofNat]

theorem decoder_json (id : Uuid) (setting : Decode.Setting) : decoder setting id.json = .ok id := by
  simp only [json,decoder,parse?_text]

end Flowgraph.Uuid
