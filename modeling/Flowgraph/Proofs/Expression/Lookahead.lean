import Flowgraph.Expression.Grammar
import Mathlib.Data.List.Basic

/-! The readers of names, numbers and strings take a text that what follows it bounds: they read the
same where a blank stands sooner after it. A number looks furthest ahead, past a point or the letter
and sign of an exponent to the digits they would need. -/

namespace Flowgraph.Expr.Grammar

/-- The second text is the first one up to a place where it has a blank, or to the end. -/
inductive Spread : List Char → List Char → Prop where
  | refl (s : List Char) : Spread s s
  | blank {c : Char} (s rest : List Char) (space : isSpace c = true) : Spread s (c :: rest)
  | cons {s s' : List Char} (c : Char) (spread : Spread s s') : Spread (c :: s) (c :: s')

theorem Spread.append {s s' : List Char} (t : List Char) (spread : Spread s s') : Spread (t ++ s) (t ++ s') := by
  induction t with
  | nil => exact spread
  | cons c t ih => exact .cons c ih

theorem Spread.head {s s' : List Char} {P : Char → Prop} (spread : Spread s s') (holds : ∀ c ∈ s.head?, P c)
    (spaces : ∀ c, isSpace c = true → P c) : ∀ c ∈ s'.head?, P c := by
  cases spread with
  | refl => exact holds
  | blank _ _ space => simpa using spaces _ space
  | cons c _ => simpa using holds

theorem span_iff {p : Char → Bool} {s t rest : List Char} : s.takeWhile p = t ∧ s.dropWhile p = rest ↔
    s = t ++ rest ∧ (∀ c ∈ t, p c = true) ∧ ∀ c ∈ rest.head?, p c = false := by
  constructor
  · rintro ⟨rfl,rfl⟩
    refine ⟨List.takeWhile_append_dropWhile.symm,fun c member => List.all_eq_true.mp List.all_takeWhile c member,fun c head => ?_⟩
    have stops := List.head?_dropWhile_not p s
    rw [Option.mem_def.mp head] at stops
    exact stops
  · rintro ⟨rfl,holds,stops⟩
    have none_left : rest.takeWhile p = [] ∧ rest.dropWhile p = rest := by
      cases rest with
      | nil => exact ⟨rfl,rfl⟩
      | cons c rest => simp [stops c rfl]
    rw [List.takeWhile_append_of_pos holds,List.dropWhile_append_of_pos holds,none_left.1,none_left.2,List.append_nil]
    exact ⟨rfl,rfl⟩

section Readers
variable {c : Char} {s s' rest : List Char}

theorem isSpace_iff : isSpace c = true ↔ c = ' ' ∨ c = '\t' ∨ c = '\r' ∨ c = '\n' := by
  simp [isSpace,or_assoc]

theorem not_isNameChar_of_isSpace (space : isSpace c = true) : isNameChar c = false := by
  rcases isSpace_iff.mp space with rfl | rfl | rfl | rfl <;> rfl

theorem not_isDigit_of_isSpace (space : isSpace c = true) : c.isDigit = false := by
  rcases isSpace_iff.mp space with rfl | rfl | rfl | rfl <;> rfl

theorem not_isSpace_of_isNameStart (start : isNameStart c = true) : isSpace c = false :=
  Bool.eq_false_iff.mpr fun space => by rcases isSpace_iff.mp space with rfl | rfl | rfl | rfl <;> cases start

theorem not_isSpace_of_isDigit (digit : c.isDigit = true) : isSpace c = false :=
  Bool.eq_false_iff.mpr fun space => by rw [not_isDigit_of_isSpace space] at digit; cases digit

def isQuote (c : Char) : Bool := c == '"' || c == '\''

theorem isQuote_iff : isQuote c = true ↔ c = '"' ∨ c = '\'' := by
  simp [isQuote]

/-- The characters of digits with a fraction and an exponent. -/
def isNumberChar (c : Char) : Bool := c.isDigit || ['.','e','E','+','-'].contains c

theorem isNumberChar_of_isDigit (digit : c.isDigit = true) : isNumberChar c = true := by
  rw [isNumberChar,digit,Bool.true_or]

theorem of_isQuote (quote : isQuote c = true) : isNameStart c = false ∧ c.isDigit = false ∧ isSpace c = false ∧ c ≠ '\\' := by
  rcases isQuote_iff.mp quote with rfl | rfl <;> decide

theorem after?_eq_some {start : List Char} : after? start s = some rest ↔ s = start ++ rest := by
  induction start generalizing s with
  | nil => simp [after?]
  | cons c cs ih =>
    cases s with
    | nil => simp [after?]
    | cons d s =>
      by_cases same : c = d
      · simp [after?,same,ih]
      · simp [after?,same,Ne.symm same]

theorem identifier_eq_ok {name : String} : identifier s = .ok name rest ↔
    s = name.toList ++ rest ∧ (∃ c cs, name.toList = c :: cs ∧ isNameStart c = true ∧ ∀ d ∈ cs, isNameChar d = true) ∧
      ∀ d ∈ rest.head?, isNameChar d = false := by
  constructor
  · intro read
    cases s with
    | nil => cases read
    | cons c more =>
      by_cases start : isNameStart c
      · simp only [identifier,start,if_true,Parsed.ok.injEq] at read
        obtain ⟨rfl,left⟩ := read
        obtain ⟨same,holds,stops⟩ := span_iff.mp ⟨rfl,left⟩
        exact ⟨by simpa using same,⟨c,_,String.toList_ofList,start,holds⟩,stops⟩
      · simp [identifier,start] at read
  · rintro ⟨rfl,⟨c,cs,named,start,holds⟩,stops⟩
    obtain ⟨taken,left⟩ := span_iff.mpr ⟨rfl,holds,stops⟩
    rw [named,List.cons_append]
    simp only [identifier,start,if_true,taken,left,Parsed.ok.injEq,and_true]
    rw [← named,String.ofList_toList]

theorem digits_eq_ok {ds : List Char} : digits s = .ok ds rest ↔
    s = ds ++ rest ∧ ds ≠ [] ∧ (∀ d ∈ ds, d.isDigit = true) ∧ ∀ d ∈ rest.head?, d.isDigit = false := by
  unfold digits
  constructor
  · intro read
    split at read
    · cases read
    · next some_digit =>
      obtain ⟨taken,left⟩ := Parsed.ok.inj read
      obtain ⟨same,holds,stops⟩ := span_iff.mp ⟨taken,left⟩
      exact ⟨same,fun empty => some_digit (by rw [taken,empty]; rfl),holds,stops⟩
  · rintro ⟨same,nonempty,holds,stops⟩
    obtain ⟨taken,left⟩ := span_iff.mpr ⟨same,holds,stops⟩
    rw [taken,left,if_neg (by simpa using nonempty)]

theorem digits_miss (stops : ∀ d ∈ s.head?, d.isDigit = false) : digits s = .miss s := by
  unfold digits
  rw [(span_iff.mpr ⟨(List.nil_append s).symm,by simp,stops⟩).1]
  rfl

theorem digits_cases (s : List Char) : (∃ ds rest, digits s = .ok ds rest) ∨ ∀ d ∈ s.head?, d.isDigit = false := by
  cases s with
  | nil => exact .inr (by simp)
  | cons c s =>
    by_cases digit : c.isDigit
    · exact .inl ⟨(c :: s).takeWhile Char.isDigit,(c :: s).dropWhile Char.isDigit,by simp [digits,digit]⟩
    · exact .inr (by simpa using digit)

theorem digits_spread {ds : List Char} (read : digits s = .ok ds rest) (spread : Spread rest s') :
    digits (ds ++ s') = .ok ds s' := by
  obtain ⟨-,nonempty,holds,stops⟩ := digits_eq_ok.mp read
  exact digits_eq_ok.mpr ⟨rfl,nonempty,holds,spread.head stops fun _ => not_isDigit_of_isSpace⟩

theorem identifier_spread {name : String} (read : identifier s = .ok name rest) (spread : Spread rest s') :
    identifier (name.toList ++ s') = .ok name s' := by
  obtain ⟨-,shape,stops⟩ := identifier_eq_ok.mp read
  exact identifier_eq_ok.mpr ⟨rfl,shape,spread.head stops fun _ => not_isNameChar_of_isSpace⟩

/-- The digits after a point, if there are any. -/
def fractionPart (s : List Char) : List Char × List Char :=
  match s with
  | '.' :: more => match digits more with
    | .ok ds rest => (ds,rest)
    | _ => ([],s)
  | _ => ([],s)

/-- Whether a minus stands first, and what stands after the sign. -/
def signPart : List Char → Bool × List Char
  | '-' :: more => (true,more)
  | '+' :: more => (false,more)
  | more => (false,more)

def exponentOf (s : List Char) : Option Int × List Char :=
  match exponentPart s with
  | some (e,rest) => (some e,rest)
  | none => (none,s)

def numberOf? (whole fraction : List Char) (exponent : Option Int) : Option Json :=
  if fraction.isEmpty && exponent.isNone && Literal.ofDigits whole < 0x8000000000000000 then
    some (.number (.int (Literal.ofDigits whole)))
  else
    let x := Literal.nearest (Literal.ofDigits (whole ++ fraction)) (exponent.getD 0 - fraction.length)
    if Binary64.isFinite x then some (.ofFloat x) else none

theorem numberLiteral_of_digits {whole : List Char} (read : digits s = .ok whole rest) :
    numberLiteral s = match numberOf? whole (fractionPart rest).1 (exponentOf (fractionPart rest).2).1 with
      | some value => .ok (.literal value) (exponentOf (fractionPart rest).2).2
      | none => .fail s := by
  simp only [numberLiteral,read]
  change (if (fractionPart rest).1.isEmpty && (exponentOf (fractionPart rest).2).1.isNone && _ then _
    else if Binary64.isFinite (Literal.nearest (Literal.ofDigits (whole ++ (fractionPart rest).1))
      ((exponentOf (fractionPart rest).2).1.getD 0 - (fractionPart rest).1.length)) then _ else _) = _
  simp only [numberOf?]
  split
  · rfl
  · split <;> rfl

theorem exponentPart_cons : exponentPart (c :: s) =
    if c == 'e' || c == 'E' then match digits (signPart s).2 with
      | .ok e rest => some (if (signPart s).1 then -(Literal.ofDigits e : Int) else Literal.ofDigits e,rest)
      | _ => none
    else none := rfl

/-- No digits stand after a point at the start. -/
def NoFraction (s : List Char) : Prop := ∀ more, s = '.' :: more → ∀ d ∈ more.head?, d.isDigit = false

def NoExponent (s : List Char) : Prop :=
  ∀ c more, s = c :: more → (c == 'e' || c == 'E') = true → ∀ d ∈ (signPart more).2.head?, d.isDigit = false

theorem NoFraction.spread (bare : NoFraction s) (spread : Spread s s') : NoFraction s' := by
  rintro more rfl
  cases spread with
  | refl => exact bare more rfl
  | blank _ _ space => cases space
  | cons _ spread => exact spread.head (bare _ rfl) fun _ => not_isDigit_of_isSpace

theorem fractionPart_bare (bare : NoFraction s) : fractionPart s = ([],s) := by
  unfold fractionPart
  split
  · next more => rw [digits_miss (bare more rfl)]
  · rfl

theorem fractionPart_point {ds : List Char} (read : digits s = .ok ds rest) : fractionPart ('.' :: s) = (ds,rest) := by
  simp only [fractionPart,read]

theorem fractionPart_spread (s : List Char) : ∃ t, s = t ++ (fractionPart s).2 ∧ (∀ d ∈ t, isNumberChar d = true) ∧
    ∀ rest, Spread (fractionPart s).2 rest → fractionPart (t ++ rest) = ((fractionPart s).1,rest) := by
  have without (bare : NoFraction s) : ∃ t, s = t ++ (fractionPart s).2 ∧ (∀ d ∈ t, isNumberChar d = true) ∧
      ∀ rest, Spread (fractionPart s).2 rest → fractionPart (t ++ rest) = ((fractionPart s).1,rest) := by
    rw [fractionPart_bare bare]
    exact ⟨[],rfl,nofun,fun rest spread => fractionPart_bare (bare.spread spread)⟩
  by_cases point : ∃ more, s = '.' :: more
  · obtain ⟨more,rfl⟩ := point
    rcases digits_cases more with ⟨ds,rest,read⟩ | stops
    · rw [fractionPart_point read]
      obtain ⟨same,-,holds,-⟩ := digits_eq_ok.mp read
      refine ⟨'.' :: ds,by rw [same,List.cons_append],List.forall_mem_cons.mpr ⟨rfl,fun d member => isNumberChar_of_isDigit (holds d member)⟩,
        fun rest' spread => fractionPart_point (digits_spread read spread)⟩
    · exact without fun _ same => (List.cons.inj same).2 ▸ stops
  · exact without fun more same => (point ⟨more,same⟩).elim

theorem signPart_plain (minus : c ≠ '-') (plus : c ≠ '+') : signPart (c :: s) = (false,c :: s) := by
  simp [signPart,minus,plus]

theorem signPart_spread (spread : Spread s s') (stops : ∀ d ∈ (signPart s).2.head?, d.isDigit = false) :
    ∀ d ∈ (signPart s').2.head?, d.isDigit = false := by
  cases spread with
  | refl => exact stops
  | blank _ rest space =>
    rw [signPart_plain (by rintro rfl; cases space) (by rintro rfl; cases space)]
    simpa using not_isDigit_of_isSpace space
  | @cons s s' c spread =>
    by_cases minus : c = '-'
    · subst minus
      exact spread.head stops fun _ => not_isDigit_of_isSpace
    · by_cases plus : c = '+'
      · subst plus
        exact spread.head stops fun _ => not_isDigit_of_isSpace
      · rw [signPart_plain minus plus] at stops ⊢
        simpa using stops

theorem NoExponent.spread (bare : NoExponent s) (spread : Spread s s') : NoExponent s' := by
  rintro c more rfl letter
  cases spread with
  | refl => exact bare c more rfl letter
  | blank _ _ space => rcases isSpace_iff.mp space with rfl | rfl | rfl | rfl <;> cases letter
  | cons _ spread => exact signPart_spread spread (bare c _ rfl letter)

theorem exponentOf_bare (bare : NoExponent s) : exponentOf s = (none,s) := by
  unfold exponentOf
  cases s with
  | nil => rfl
  | cons c more =>
    rw [exponentPart_cons]
    by_cases letter : c == 'e' || c == 'E'
    · rw [if_pos letter,digits_miss (bare c more rfl letter)]
    · rw [if_neg letter]

theorem exponentOf_letter {ds : List Char} (letter : (c == 'e' || c == 'E') = true) (read : digits (signPart s).2 = .ok ds rest) :
    exponentOf (c :: s) = (some (if (signPart s).1 then -(Literal.ofDigits ds : Int) else Literal.ofDigits ds),rest) := by
  rw [exponentOf,exponentPart_cons,if_pos letter,read]

theorem signPart_digits {ds : List Char} (read : digits (signPart s).2 = .ok ds rest) : ∃ t, s = t ++ ds ++ rest ∧ (∀ d ∈ t ++ ds, isNumberChar d = true) ∧
    ∀ rest', signPart (t ++ ds ++ rest') = ((signPart s).1,ds ++ rest') := by
  obtain ⟨same,nonempty,holds,-⟩ := digits_eq_ok.mp read
  obtain ⟨d,more,rfl⟩ := List.exists_cons_of_ne_nil nonempty
  have digit := holds d (List.mem_cons_self ..)
  have plain : ∀ d' ∈ d :: more, isNumberChar d' = true := fun d' member => isNumberChar_of_isDigit (holds d' member)
  unfold signPart at same ⊢
  split at same
  · exact ⟨['-'],congrArg ('-' :: ·) same,List.forall_mem_cons.mpr ⟨rfl,plain⟩,fun _ => rfl⟩
  · exact ⟨['+'],congrArg ('+' :: ·) same,List.forall_mem_cons.mpr ⟨rfl,plain⟩,fun _ => rfl⟩
  · exact ⟨[],same,plain,fun _ => signPart_plain (by rintro rfl; cases digit) (by rintro rfl; cases digit)⟩

theorem exponentOf_spread (s : List Char) : ∃ t, s = t ++ (exponentOf s).2 ∧ (∀ d ∈ t, isNumberChar d = true) ∧
    ∀ rest, Spread (exponentOf s).2 rest → exponentOf (t ++ rest) = ((exponentOf s).1,rest) := by
  have without (bare : NoExponent s) : ∃ t, s = t ++ (exponentOf s).2 ∧ (∀ d ∈ t, isNumberChar d = true) ∧
      ∀ rest, Spread (exponentOf s).2 rest → exponentOf (t ++ rest) = ((exponentOf s).1,rest) := by
    rw [exponentOf_bare bare]
    exact ⟨[],rfl,nofun,fun rest spread => exponentOf_bare (bare.spread spread)⟩
  by_cases letter : ∃ c more, s = c :: more ∧ (c == 'e' || c == 'E') = true
  · obtain ⟨c,more,rfl,letter⟩ := letter
    rcases digits_cases (signPart more).2 with ⟨ds,rest,read⟩ | stops
    · obtain ⟨sign,same,plain,signed⟩ := signPart_digits read
      have number : isNumberChar c = true := by
        simp only [Bool.or_eq_true,beq_iff_eq] at letter
        rcases letter with rfl | rfl <;> rfl
      have shaped : c :: more = c :: (sign ++ ds) ++ rest := by rw [same,List.cons_append]
      rw [exponentOf_letter letter read]
      refine ⟨c :: (sign ++ ds),shaped,List.forall_mem_cons.mpr ⟨number,plain⟩,fun rest' spread => ?_⟩
      have again : digits (signPart (sign ++ ds ++ rest')).2 = .ok ds rest' := by
        rw [signed]
        exact digits_spread read spread
      rw [List.cons_append,exponentOf_letter letter again,signed]
    · exact without fun _ _ same _ => (List.cons.inj same).2 ▸ stops
  · exact without fun c more same is_letter => (letter ⟨c,more,same,is_letter⟩).elim

theorem numberLiteral_spread {e : Expr} (read : numberLiteral s = .ok e rest) : ∃ value c more, e = .literal value ∧
    s = c :: more ++ rest ∧ c.isDigit = true ∧ (∀ d ∈ c :: more, isNumberChar d = true) ∧
    ∀ rest', Spread rest rest' → numberLiteral (c :: more ++ rest') = .ok e rest' := by
  rcases digits_cases s with ⟨whole,left,found⟩ | stops
  · obtain ⟨same,nonempty,holds,-⟩ := digits_eq_ok.mp found
    obtain ⟨c,cs,rfl⟩ := List.exists_cons_of_ne_nil nonempty
    obtain ⟨fraction,left_eq,plain,of_fraction⟩ := fractionPart_spread left
    obtain ⟨exponent,after_eq,plain',of_exponent⟩ := exponentOf_spread (fractionPart left).2
    rw [numberLiteral_of_digits found] at read
    split at read
    · next value valued =>
      cases read
      refine ⟨value,c,cs ++ fraction ++ exponent,rfl,?_,holds c (List.mem_cons_self ..),fun d member => ?_,fun rest' spread => ?_⟩
      · calc s = c :: cs ++ (fraction ++ (exponent ++ (exponentOf (fractionPart left).2).2)) := by rw [same,← after_eq,← left_eq]
          _ = _ := by simp
      · rw [← List.cons_append,← List.cons_append,List.mem_append,List.mem_append] at member
        rcases member with (member | member) | member
        · exact isNumberChar_of_isDigit (holds d member)
        · exact plain d member
        · exact plain' d member
      · have after_exponent := spread.append exponent
        rw [← after_eq] at after_exponent
        have after_fraction := after_exponent.append fraction
        rw [← left_eq] at after_fraction
        have shaped : c :: (cs ++ fraction ++ exponent) ++ rest' = c :: cs ++ (fraction ++ (exponent ++ rest')) := by simp
        rw [shaped,numberLiteral_of_digits (digits_spread found after_fraction),of_fraction _ after_exponent,of_exponent _ spread,valued]
    · cases read
  · rw [numberLiteral,digits_miss stops] at read
    cases read

/-- A text up to and with the closing quote, and the characters it stands for. -/
inductive Quoted (quote : Char) : List Char → List Char → Prop where
  | close : Quoted quote [quote] []
  | escape {t cs} (c : Char) (quoted : Quoted quote t cs) : Quoted quote ('\\' :: c :: t) (unescape c :: cs)
  | plain {c t cs} (escape : c ≠ '\\') (inside : c ≠ quote) (quoted : Quoted quote t cs) : Quoted quote (c :: t) (c :: cs)

theorem quotedRest_close {quote : Char} (plain : quote ≠ '\\') : quotedRest quote (quote :: s) = some ([],s) := by
  unfold quotedRest
  split
  · contradiction
  · next same => exact absurd (List.cons.inj same).1 plain
  · next same =>
    obtain ⟨rfl,rfl⟩ := List.cons.inj same
    exact if_pos rfl

theorem quotedRest_plain {quote : Char} (plain : c ≠ '\\') (inside : c ≠ quote) :
    quotedRest quote (c :: s) = (quotedRest quote s).map fun (cs,rest) => (c :: cs,rest) := by
  rw [quotedRest.eq_def]
  split
  · contradiction
  · next same => exact absurd (List.cons.inj same).1 plain
  · next same =>
    obtain ⟨rfl,rfl⟩ := List.cons.inj same
    rw [if_neg inside,if_neg plain]

theorem Quoted.read {quote : Char} {t cs : List Char} (plain : quote ≠ '\\') (quoted : Quoted quote t cs) (rest : List Char) :
    quotedRest quote (t ++ rest) = some (cs,rest) := by
  induction quoted with
  | close => exact quotedRest_close plain
  | escape c _ ih => simp only [List.cons_append,quotedRest,ih,Option.map_some]
  | plain escape inside _ ih =>
    rw [List.cons_append,quotedRest_plain escape inside,ih]
    rfl

theorem quotedRest_eq_some {quote : Char} {cs : List Char} (plain : quote ≠ '\\') (read : quotedRest quote s = some (cs,rest)) :
    ∃ t, s = t ++ rest ∧ Quoted quote t cs := by
  induction s using quotedRest.induct quote generalizing cs with
  | case1 => cases read
  | case2 c more ih =>
    simp only [quotedRest,Option.map_eq_some_iff] at read
    obtain ⟨⟨ds,left⟩,found,same⟩ := read
    cases same
    obtain ⟨t,rfl,quoted⟩ := ih found
    exact ⟨_,rfl,.escape c quoted⟩
  | case3 more _ =>
    rw [quotedRest_close plain] at read
    cases read
    exact ⟨_,rfl,.close⟩
  | case4 more alone other =>
    cases more with
    | nil => simp [quotedRest,other] at read
    | cons c more => exact (alone c more rfl rfl).elim
  | case5 c more _ other escape ih =>
    rw [quotedRest_plain escape other,Option.map_eq_some_iff] at read
    obtain ⟨⟨ds,left⟩,found,same⟩ := read
    cases same
    obtain ⟨t,rfl,quoted⟩ := ih found
    exact ⟨_,rfl,.plain escape other quoted⟩

theorem stringLiteral_eq_ok {e : Expr} : stringLiteral s = .ok e rest ↔ ∃ quote t cs, isQuote quote = true ∧ s = quote :: t ++ rest ∧
    Quoted quote t cs ∧ e = .literal (.string (.ofList cs)) := by
  constructor
  · intro read
    cases s with
    | nil => cases read
    | cons c more =>
      simp only [stringLiteral] at read
      split at read
      · next quote =>
        split at read
        · next cs left found =>
          cases read
          obtain ⟨t,rfl,quoted⟩ := quotedRest_eq_some (of_isQuote quote).2.2.2 found
          exact ⟨c,t,cs,quote,rfl,quoted,rfl⟩
        · cases read
      · cases read
  · rintro ⟨quote,t,cs,opening,rfl,quoted,rfl⟩
    unfold stringLiteral
    simp only [List.cons_append,quoted.read (of_isQuote opening).2.2.2 rest]
    exact if_pos opening

theorem identifier_miss (start : isNameStart c = false) : identifier (c :: s) = .miss (c :: s) := by
  simp [identifier,start]

theorem numberLiteral_miss (digit : c.isDigit = false) : numberLiteral (c :: s) = .miss (c :: s) := by
  rw [numberLiteral,digits_miss (by simpa using digit)]

theorem stringLiteral_miss (quote : isQuote c = false) : stringLiteral (c :: s) = .miss (c :: s) :=
  if_neg (Bool.eq_false_iff.mp quote)

theorem not_isNameStart_of_isDigit (digit : c.isDigit = true) : isNameStart c = false := by
  refine Bool.eq_false_iff.mpr fun start => ?_
  simp only [Char.isDigit,ge_iff_le,Bool.and_eq_true,decide_eq_true_eq,UInt32.le_iff_toNat_le] at digit
  have letter : c.isAlpha = (decide (c.val ≥ 'A'.val ∧ c.val ≤ 'Z'.val) || decide (c.val ≥ 'a'.val) && decide (c.val ≤ 'z'.val)) := rfl
  simp only [isNameStart,letter,ge_iff_le,Bool.or_eq_true,Bool.and_eq_true,decide_eq_true_eq,beq_iff_eq,UInt32.le_iff_toNat_le] at start
  have last_digit : '9'.val.toNat = 57 := rfl
  have first_letters : 'A'.val.toNat = 65 ∧ 'a'.val.toNat = 97 := ⟨rfl,rfl⟩
  rcases start with ((upper | lower) | rfl) | rfl
  · omega
  · omega
  · exact absurd digit (by decide)
  · exact absurd digit (by decide)

/-- The texts that numbers and strings have. -/
inductive Literally : List Char → Prop where
  | number {c t} (digit : c.isDigit = true) (each : ∀ d ∈ c :: t, isNumberChar d = true) : Literally (c :: t)
  | string {c t cs} (quote : isQuote c = true) (quoted : Quoted c t cs) : Literally (c :: t)

theorem Literally.head {t : List Char} (literally : Literally t) :
    ∃ c more, t = c :: more ∧ isNameStart c = false ∧ isSpace c = false ∧ (c.isDigit = true ∨ isQuote c = true) := by
  cases literally with
  | number digit => exact ⟨_,_,rfl,not_isNameStart_of_isDigit digit,not_isSpace_of_isDigit digit,.inl digit⟩
  | string quote => exact ⟨_,_,rfl,(of_isQuote quote).1,(of_isQuote quote).2.2.1,.inr quote⟩

theorem literal_spread {e : Expr} (read : orElse numberLiteral stringLiteral s = .ok e rest) : ∃ value t, e = .literal value ∧
    s = t ++ rest ∧ Literally t ∧ ∀ rest', Spread rest rest' → orElse numberLiteral stringLiteral (t ++ rest') = .ok e rest' := by
  unfold orElse at read ⊢
  split at read
  · obtain ⟨quote,t,cs,opening,rfl,quoted,rfl⟩ := stringLiteral_eq_ok.mp read
    refine ⟨_,quote :: t,rfl,rfl,.string opening quoted,fun rest' _ => ?_⟩
    rw [List.cons_append,numberLiteral_miss (of_isQuote opening).2.1]
    exact stringLiteral_eq_ok.mpr ⟨quote,t,cs,opening,rfl,quoted,rfl⟩
  · next number =>
    obtain ⟨value,c,more,rfl,rfl,digit,plain,again⟩ := numberLiteral_spread read
    refine ⟨value,c :: more,rfl,rfl,.number digit plain,fun rest' spread => ?_⟩
    rw [again rest' spread]

theorem fieldName_spread {name : String} (read : fieldName s = .ok name rest) : s = name.toList ++ rest ∧
    (∃ c more, name.toList = c :: more ∧ isSpace c = false) ∧ ∀ rest', Spread rest rest' → fieldName (name.toList ++ rest') = .ok name rest' := by
  unfold fieldName at read
  split at read
  · next found =>
    cases read
    obtain ⟨same,⟨c,cs,named,start,-⟩,-⟩ := identifier_eq_ok.mp found
    refine ⟨same,⟨c,cs,named,not_isSpace_of_isNameStart start⟩,fun rest' spread => ?_⟩
    simp only [fieldName,identifier_spread found spread]
  · split at read
    · next ds left found =>
      cases read
      obtain ⟨same,nonempty,holds,-⟩ := digits_eq_ok.mp found
      obtain ⟨d,more,rfl⟩ := List.exists_cons_of_ne_nil nonempty
      have digit := holds d (List.mem_cons_self ..)
      rw [String.toList_ofList]
      refine ⟨same,⟨d,more,rfl,not_isSpace_of_isDigit digit⟩,fun rest' spread => ?_⟩
      have again := digits_spread found spread
      rw [List.cons_append] at again ⊢
      simp only [fieldName,identifier_miss (not_isNameStart_of_isDigit digit),again]
    · cases read

theorem Spread.start {t s s' : List Char} (spread : Spread s (t ++ s')) (solid : ∀ c ∈ t, isSpace c = false) :
    ∃ rest, s = t ++ rest := by
  induction t generalizing s with
  | nil => exact ⟨s,rfl⟩
  | cons c t ih =>
    cases spread with
    | refl => exact ⟨s',rfl⟩
    | blank _ _ space => rw [solid c (List.mem_cons_self ..)] at space; cases space
    | cons _ spread =>
      obtain ⟨rest,rfl⟩ := ih spread fun d member => solid d (List.mem_cons_of_mem _ member)
      exact ⟨rest,rfl⟩

end Readers
end Flowgraph.Expr.Grammar
