import Flowgraph.Proofs.Text.Blank
import Flowgraph.Proofs.Time.Calendar
import Flowgraph.Time.Rfc3339
import Mathlib.Data.List.TakeWhile

/-! Every point in time that the calendar holds is read back from its own RFC 3339 form. Leap seconds
are included where they belong, at the end of a minute. -/

namespace Flowgraph

/-- A point in time of the calendar; a leap second stands on the last second of a minute. -/
def Instant.Proper (t : Instant) : Prop :=
  t.inRange = true ∧ (t.leap = true → t.nanos / 1000000000 % 60 = 59)

namespace Rfc3339
open Calendar

theorem not_isBlank_of_isDigit {c : Char} (digit : c.isDigit = true) : Text.isBlank c = false :=
  Text.not_isBlank_of_isAlphanum (by simp [Char.isAlphanum,digit])

theorem skipBlank_cons {c : Char} (rest : List Char) (solid : Text.isBlank c = false) : skipBlank (c :: rest) = c :: rest := by
  simp [skipBlank,solid]

theorem skipBlank_nil : skipBlank [] = [] := rfl

theorem skipBlank_digits {ds : List Char} (rest : List Char) (digits : ∀ c ∈ ds, c.isDigit = true) (some : ds ≠ []) :
    skipBlank (ds ++ rest) = ds ++ rest := by
  obtain ⟨c,more,rfl⟩ := List.exists_cons_of_ne_nil some
  exact skipBlank_cons _ (not_isBlank_of_isDigit (digits c (by simp)))

theorem isDigit_of_mem_padded {width n : Nat} : ∀ c ∈ (padded width n).toList, c.isDigit = true := by
  intro c member
  simp only [padded,String.toList_ofList,List.mem_append,List.mem_replicate] at member
  obtain ⟨-,rfl⟩ | member := member
  · rfl
  · exact Nat.isDigit_of_mem_toDigits (by decide) (by decide) member

theorem padded_ne_nil (width n : Nat) : (padded width n).toList ≠ [] := by
  simp [padded,Nat.toDigits_ne_nil]

theorem valueOf_padded (width n : Nat) : valueOf (padded width n).toList = n := by
  change Nat.ofDigitChars 10 (padded width n).toList 0 = n
  simp [padded,Nat.ofDigitChars_append]

theorem length_padded {width n : Nat} (positive : 0 < width) (fits : n < Nat.pow 10 width) :
    (padded width n).toList.length = width := by
  have short := (Nat.length_toDigits_le_iff (by decide) positive).mpr fits
  simp only [padded,String.toList_ofList,List.length_append,List.length_replicate]
  omega

/-- Digits are read up to the width, or up to something that is no digit. -/
theorem number_digits (width : Nat) {ds : List Char} (rest : List Char) (digits : ∀ c ∈ ds, c.isDigit = true) (some : ds ≠ [])
    (fits : ds.length ≤ width) (ends : ds.length = width ∨ rest.takeWhile Char.isDigit = []) (small : valueOf ds < 0x8000000000000000) :
    number width (ds ++ rest) = .ok (valueOf ds,rest) := by
  have taken : ((ds ++ rest).take width).takeWhile Char.isDigit = ds := by
    rw [List.take_append,List.take_of_length_le fits,List.takeWhile_append_of_pos digits]
    obtain full | other := ends
    · simp [full]
    · cases rest with
      | nil => simp
      | cons c rest =>
        have solid : c.isDigit = false := by
          by_contra digit
          simp [List.takeWhile_cons,digit] at other
        cases width - ds.length <;> simp [solid]
  have nonempty : ds ++ rest ≠ [] := by simp [some]
  have unfolded : number width (ds ++ rest) =
      (let ds' := ((ds ++ rest).take width).takeWhile Char.isDigit
      if ds'.isEmpty then .error .invalid else if 0x8000000000000000 ≤ valueOf ds' then .error .outOfRange
        else .ok (valueOf ds',(ds ++ rest).drop ds'.length)) := by
    obtain ⟨c,more,shape⟩ := List.exists_cons_of_ne_nil nonempty
    rw [shape]; rfl
  rw [unfolded,taken]
  simp [some,Nat.not_le.mpr small]

theorem number_padded (width : Nat) {n : Nat} (rest : List Char) (positive : 0 < width) (narrow : width ≤ 9) (fits : n < Nat.pow 10 width) :
    number width ((padded width n).toList ++ rest) = .ok (n,rest) := by
  have length := length_padded positive fits
  have small : n < 0x8000000000000000 := fits.trans_le ((Nat.pow_le_pow_right (by decide) narrow).trans (by decide))
  have read := number_digits width rest isDigit_of_mem_padded (padded_ne_nil width n) length.le (.inl length)
    (by rw [valueOf_padded]; exact small)
  rwa [valueOf_padded] at read

theorem bounded_padded {low high n : Nat} (rest : List Char) (above : low ≤ n) (below : n ≤ high) (fits : n < 100) :
    bounded low high ((padded 2 n).toList ++ rest) = .ok (n,rest) := by
  have read := number_padded 2 rest (by decide) (by decide) fits
  simp only [bounded,skipBlank_digits rest isDigit_of_mem_padded (padded_ne_nil 2 n)]
  rw [read]
  simp [bind,Except.bind,above,below,pure,Except.pure]

theorem literal_cons (c : Char) (rest : List Char) : literal c (c :: rest) = .ok ((),rest) := by simp [literal]

/-- Any number of digits is read where all that follows may be digits. -/
theorem number_length {n : Nat} (rest : List Char) (ends : rest.takeWhile Char.isDigit = []) (small : n < 0x8000000000000000) :
    number ((padded 4 n).toList ++ rest).length ((padded 4 n).toList ++ rest) = .ok (n,rest) := by
  have read := number_digits ((padded 4 n).toList ++ rest).length rest isDigit_of_mem_padded (padded_ne_nil 4 n)
    (by rw [List.length_append]; omega) (.inr ends) (by rw [valueOf_padded]; exact small)
  rwa [valueOf_padded] at read

theorem year_minus {n : Nat} {rest after : List Char} (read : number rest.length rest = .ok (n,after)) (bound : n ≤ 0x80000000) :
    year ('-' :: rest) = .ok (-1 * (n : Int),after) := by
  have range : (decide (-0x80000000 ≤ -1 * (n : Int)) && decide (-1 * (n : Int) < 0x80000000)) = true := by
    rw [Bool.and_eq_true,decide_eq_true_eq,decide_eq_true_eq]; omega
  have unfolded : year ('-' :: rest) = number rest.length rest >>= fun x =>
      if -0x80000000 ≤ -1 * (x.1 : Int) && -1 * (x.1 : Int) < 0x80000000 then pure (-1 * (x.1 : Int),x.2) else .error .outOfRange := by
    rw [year,skipBlank_cons rest (by decide)]
    rfl
  simp only [unfolded,read,bind,Except.bind,pure,Except.pure,if_pos range]

theorem year_plus {n : Nat} {rest after : List Char} (read : number rest.length rest = .ok (n,after)) (bound : n < 0x80000000) :
    year ('+' :: rest) = .ok (1 * (n : Int),after) := by
  have range : (decide (-0x80000000 ≤ 1 * (n : Int)) && decide (1 * (n : Int) < 0x80000000)) = true := by
    rw [Bool.and_eq_true,decide_eq_true_eq,decide_eq_true_eq]; omega
  have unfolded : year ('+' :: rest) = number rest.length rest >>= fun x =>
      if -0x80000000 ≤ 1 * (x.1 : Int) && 1 * (x.1 : Int) < 0x80000000 then pure (1 * (x.1 : Int),x.2) else .error .outOfRange := by
    rw [year,skipBlank_cons rest (by decide)]
    rfl
  simp only [unfolded,read,bind,Except.bind,pure,Except.pure,if_pos range]

theorem year_digit {c : Char} (rest : List Char) (digit : c.isDigit = true) :
    year (c :: rest) = (do let (n,rest) ← number 4 (c :: rest); return ((n : Int),rest)) := by
  rw [year,skipBlank_cons rest (not_isBlank_of_isDigit digit)]
  dsimp only
  split
  · next shape => cases shape; simp at digit
  · next shape => cases shape; simp at digit
  · rfl

/-- The year is read back with its sign, up to the hyphen after it. -/
theorem year_yearText {y : Int} (rest : List Char) (above : -0x80000000 ≤ y) (below : y < 0x80000000) :
    year ((yearText y).toList ++ '-' :: rest) = .ok (y,'-' :: rest) := by
  have hyphen : ('-' :: rest).takeWhile Char.isDigit = [] := by simp
  by_cases short : 0 ≤ y ∧ y ≤ 9999
  · have fits : y.toNat < Nat.pow 10 4 := by
      have power : Nat.pow 10 4 = 10000 := by decide
      omega
    have written : yearText y = padded 4 y.toNat := by simp [yearText,short]
    have read := number_padded 4 ('-' :: rest) (by decide) (by decide) fits
    obtain ⟨c,more,shape⟩ := List.exists_cons_of_ne_nil (padded_ne_nil 4 y.toNat)
    have digit : c.isDigit = true := isDigit_of_mem_padded c (by rw [shape]; simp)
    rw [written,shape,List.cons_append,year_digit _ digit,← List.cons_append,← shape,read]
    simp only [bind,Except.bind,pure,Except.pure,Except.ok.injEq,Prod.mk.injEq,and_true]
    omega
  · have read := number_length ('-' :: rest) hyphen (n := y.natAbs) (by omega)
    by_cases negative : y < 0
    · have written : (yearText y).toList = '-' :: (padded 4 y.natAbs).toList := by
        simp [yearText,short,negative]
      have value : -1 * ((y.natAbs : Nat) : Int) = y := by omega
      rw [written,List.cons_append,year_minus read (by omega),value]
    · have written : (yearText y).toList = '+' :: (padded 4 y.natAbs).toList := by
        simp [yearText,short,negative]
      have value : 1 * ((y.natAbs : Nat) : Int) = y := by omega
      rw [written,List.cons_append,year_plus read (by omega),value]

/-- A fraction is read back up to the letter that ends the whole text. -/
theorem fraction_fractionText {n : Nat} (small : n < 1000000000) : fraction ((fractionText n).toList ++ ['Z']) = .ok (n,['Z']) := by
  have digits (width m : Nat) (narrow : width ≤ 9) (positive : 0 < width) (fits : m < Nat.pow 10 width) :
      fraction ('.' :: ((padded width m).toList ++ ['Z'])) = .ok (m * Nat.pow 10 (9 - width),['Z']) := by
    have length := length_padded positive fits
    have read := number_digits 9 ['Z'] isDigit_of_mem_padded (padded_ne_nil width m) (by omega) (.inr rfl)
      (by rw [valueOf_padded]; exact fits.trans_le ((Nat.pow_le_pow_right (by decide) narrow).trans (by decide)))
    rw [valueOf_padded] at read
    rw [fraction,read]
    simp [bind,Except.bind,pure,Except.pure,length]
  by_cases whole : n = 0
  · subst whole; rfl
  by_cases millis : n % 1000000 = 0
  · have written : (fractionText n).toList = '.' :: (padded 3 (n / 1000000)).toList := by simp [fractionText,whole,millis]
    rw [written,List.cons_append,digits 3 (n / 1000000) (by decide) (by decide) (by change _ < 1000; omega)]
    change Except.ok (n / 1000000 * 1000000,['Z']) = _
    rw [Nat.div_mul_cancel (Nat.dvd_of_mod_eq_zero millis)]
  by_cases micros : n % 1000 = 0
  · have written : (fractionText n).toList = '.' :: (padded 6 (n / 1000)).toList := by simp [fractionText,whole,millis,micros]
    rw [written,List.cons_append,digits 6 (n / 1000) (by decide) (by decide) (by change _ < 1000000; omega)]
    change Except.ok (n / 1000 * 1000,['Z']) = _
    rw [Nat.div_mul_cancel (Nat.dvd_of_mod_eq_zero micros)]
  · have written : (fractionText n).toList = '.' :: (padded 9 n).toList := by simp [fractionText,whole,millis,micros]
    rw [written,List.cons_append,digits 9 n (by decide) (by decide) small]
    simp

theorem year_of_inRange {t : Instant} (held : t.inRange = true) :
    Instant.firstYear ≤ (Date.ofDays (t.nanos / 1000000000 / 86400)).year ∧
      (Date.ofDays (t.nanos / 1000000000 / 86400)).year ≤ Instant.lastYear := by
  simp only [Instant.inRange,Bool.and_eq_true,decide_eq_true_eq] at held
  have valid := ofDays_isValid (t.nanos / 1000000000 / 86400)
  have same := toDays_ofDays (t.nanos / 1000000000 / 86400)
  have first : (Date.mk Instant.firstYear 1 1).isValid = true := by decide
  have last : (Date.mk Instant.lastYear 12 31).isValid = true := by decide
  have start : Instant.earliest.nanos = (Date.mk Instant.firstYear 1 1).toDays * (86400 * 1000000000) := rfl
  have stop : Instant.latest.nanos = ((Date.mk Instant.lastYear 12 31).toDays + 1) * (86400 * 1000000000) - 1 := rfl
  constructor
  · by_contra early
    have before := toDays_lt valid first (not_le.mp early)
    omega
  · by_contra late
    have after := toDays_lt last valid (not_le.mp late)
    omega

theorem text_toList (t : Instant) : let seconds := t.nanos / 1000000000
    let date := Date.ofDays (seconds / 86400)
    let time := (seconds % 86400).toNat
    (text t).toList = (yearText date.year).toList ++ '-' :: ((padded 2 date.month).toList ++ '-' ::
      ((padded 2 date.day).toList ++ 'T' :: ((padded 2 (time / 3600)).toList ++ ':' :: ((padded 2 (time / 60 % 60)).toList ++ ':' ::
        ((padded 2 (time % 60 + if t.leap then 1 else 0)).toList ++ ((fractionText (t.nanos % 1000000000).toNat).toList ++ ['Z'])))))) := by
  simp [text]

theorem date_bounds (days : Int) : 1 ≤ (Date.ofDays days).month ∧ (Date.ofDays days).month ≤ 12 ∧
    1 ≤ (Date.ofDays days).day ∧ (Date.ofDays days).day ≤ 31 := by
  have valid := ofDays_isValid days
  simp only [Date.isValid,Bool.and_eq_true,decide_eq_true_eq] at valid
  obtain ⟨⟨⟨first,last⟩,positive⟩,length⟩ := valid
  refine ⟨first,last,positive,length.trans ?_⟩
  simp only [monthLength]
  split <;> (try split) <;> omega

theorem separator_cons (rest : List Char) : separator ('T' :: rest) = .ok ((),rest) := by simp [separator]

theorem offset_utc : offset ['Z'] = .ok (0,[]) := by decide

/-- What a text says comes back: its date, its time of day and its fraction make up the same point in time. -/
theorem parse_text {t : Instant} (proper : t.Proper) : parse (text t).toList = .ok t := by
  obtain ⟨held,leap⟩ := proper
  obtain ⟨nanos,isLeap⟩ := t
  obtain ⟨early,late⟩ := year_of_inRange held
  have written := text_toList ⟨nanos,isLeap⟩
  dsimp only at written early late leap
  obtain ⟨firstMonth,lastMonth,firstDay,lastDay⟩ := date_bounds (nanos / 1000000000 / 86400)
  have valid := ofDays_isValid (nanos / 1000000000 / 86400)
  have days := toDays_ofDays (nanos / 1000000000 / 86400)
  generalize Date.ofDays (nanos / 1000000000 / 86400) = date at *
  obtain ⟨y,m,d⟩ := date
  dsimp only at *
  have leapSecond : ((nanos / 1000000000 % 86400).toNat % 60 + if isLeap then 1 else 0) ≤ 60 := by
    split <;> omega
  have spelled : (min ((nanos / 1000000000 % 86400).toNat % 60 + if isLeap then 1 else 0) 59) =
      (nanos / 1000000000 % 86400).toNat % 60 := by
    split
    · next on => have := leap on; omega
    · omega
  have isSixty : decide (((nanos / 1000000000 % 86400).toNat % 60 + if isLeap then 1 else 0) = 60) = isLeap := by
    cases isLeap
    · simp; omega
    · have := leap rfl; simp; omega
  have total : ((nanos / 1000000000 / 86400 * 86400 + ((nanos / 1000000000 % 86400).toNat / 3600 : Nat) * 3600 +
      ((nanos / 1000000000 % 86400).toNat / 60 % 60 : Nat) * 60 + ((nanos / 1000000000 % 86400).toNat % 60 : Nat) - 0) *
        1000000000 + ((nanos % 1000000000).toNat : Nat) : Int) = nanos := by
    clear written held leap spelled isSixty leapSecond days
    omega
  simp only [Instant.firstYear,Instant.lastYear] at early late
  rw [written,parse,year_yearText _ (by omega) (by omega)]
  simp only [bind,Except.bind,skipBlank_cons _ (show Text.isBlank '-' = false by decide),literal_cons,
    skipBlank_cons _ (show Text.isBlank ':' = false by decide),skipBlank_cons _ (show Text.isBlank 'Z' = false by decide),
    bounded_padded _ firstMonth lastMonth (by omega : m < 100),bounded_padded _ firstDay lastDay (by omega : d < 100),separator_cons,
    bounded_padded _ (Nat.zero_le _) (by omega : (nanos / 1000000000 % 86400).toNat / 3600 ≤ 23) (by omega),
    bounded_padded _ (Nat.zero_le _) (by omega : (nanos / 1000000000 % 86400).toNat / 60 % 60 ≤ 59) (by omega),
    bounded_padded _ (Nat.zero_le _) leapSecond (by omega),fraction_fractionText (by omega : (nanos % 1000000000).toNat < 1000000000),
    offset_utc,skipBlank_nil,List.isEmpty_nil,valid,days,spelled,isSixty,total]
  have inside : (y < Instant.firstYear) = False ∧ (Instant.lastYear < y) = False := by
    simp [Instant.firstYear,Instant.lastYear]; omega
  simp [inside,held,pure,Except.pure]

theorem decoder_json {t : Instant} (setting : Decode.Setting) (proper : t.Proper) : decoder setting (json t) = .ok t := by
  simp only [json,decoder,parse_text proper]

end Rfc3339
end Flowgraph
