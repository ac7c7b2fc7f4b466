import Flowgraph.Text.Blank
import Mathlib.Data.List.TakeWhile

/-! Trimming takes away the blanks at both ends of a text and nothing else. Letters and digits are not blank. -/

namespace Flowgraph.Text

theorem not_isBlank_of_isAlphanum {c : Char} (solid : c.isAlphanum = true) : isBlank c = false := by
  have letter : c.isAlpha = (decide ('A'.val ≤ c.val ∧ c.val ≤ 'Z'.val) || decide ('a'.val ≤ c.val) && decide (c.val ≤ 'z'.val)) := rfl
  simp only [Char.isAlphanum,letter,Char.isDigit,ge_iff_le,Bool.or_eq_true,Bool.and_eq_true,decide_eq_true_eq,UInt32.le_iff_toNat_le] at solid
  have code : c.toNat = c.val.toNat := rfl
  have firsts : 'A'.val.toNat = 65 ∧ 'a'.val.toNat = 97 ∧ '0'.val.toNat = 48 := ⟨rfl,rfl,rfl⟩
  have lasts : 'Z'.val.toNat = 90 ∧ 'z'.val.toNat = 122 ∧ '9'.val.toNat = 57 := ⟨rfl,rfl,rfl⟩
  simp only [isBlank,inRanges,within,blankRanges,List.any_cons,List.any_nil,Bool.or_eq_false_iff,Bool.and_eq_false_iff,
    decide_eq_false_iff_not,and_true]
  omega

theorem dropWhile_of_head {p : α → Bool} {xs : List α} (head : ∀ x ∈ xs.head?, p x = false) : xs.dropWhile p = xs := by
  cases xs with
  | nil => rfl
  | cons x xs => exact List.dropWhile_cons_of_neg (by simp [head x rfl])

theorem trimChars_eq_self {text : List Char} (head : ∀ c ∈ text.head?, isBlank c = false)
    (last : ∀ c ∈ text.getLast?, isBlank c = false) : trimChars text = text := by
  rw [trimChars,dropWhile_of_head head,dropWhile_of_head (by simpa using last),List.reverse_reverse]

theorem trimChars_eq_nil_iff {text : List Char} : trimChars text = [] ↔ ∀ c ∈ text, isBlank c = true := by
  rw [trimChars,List.reverse_eq_nil_iff,List.dropWhile_eq_nil_iff]
  refine ⟨fun blank => ?_,fun blank c member => blank c ((List.dropWhile_suffix _).subset (List.mem_reverse.mp member))⟩
  -- What stands first behind the blanks in front is not blank, so that nothing does.
  cases rest : text.dropWhile isBlank with
  | nil => exact List.dropWhile_eq_nil_iff.mp rest
  | cons c more =>
    have solid := List.head?_dropWhile_not isBlank text
    rw [rest] at solid blank
    exact absurd ((blank c (by simp)).symm.trans solid) (by decide)

theorem trim_eq_empty_iff {text : String} : trim text = "" ↔ ∀ c ∈ text.toList, isBlank c = true := by
  rw [← trimChars_eq_nil_iff,trim]
  exact ⟨fun empty => by simpa using congrArg String.toList empty,fun none => by rw [none]⟩

theorem trimChars_trimChars (text : List Char) : trimChars (trimChars text) = trimChars text := by
  have head (xs : List Char) : ∀ c ∈ (xs.dropWhile isBlank).head?, isBlank c = false := fun c first => by
    have stops := List.head?_dropWhile_not isBlank xs
    rwa [Option.mem_def.mp first] at stops
  refine trimChars_eq_self (fun c first => ?_) fun c last => ?_
  · -- What is taken from the end leaves the first character where it was.
    have part : trimChars text <+: text.dropWhile isBlank := by
      simpa [trimChars] using List.reverse_prefix.mpr (List.dropWhile_suffix (l := (text.dropWhile isBlank).reverse) isBlank)
    obtain ⟨rest,whole⟩ := part
    refine head text c ?_
    rw [← whole,List.head?_append,Option.mem_def.mp first]
    rfl
  · rw [trimChars,List.getLast?_reverse] at last
    exact head _ c last

end Flowgraph.Text
