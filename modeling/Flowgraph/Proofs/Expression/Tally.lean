import Flowgraph.Proofs.Expression.Token

/-! What the scan before reading counts. Outside of quotes it counts operators, brackets and separators one by one and follows
the brackets open; what stands in quotes adds nothing. So each token adds its own share, whatever stands around it. -/

namespace Flowgraph.Expr.Grammar

/-- No quote is open, and the operators counted are within the limit. -/
structure Tally.Outside (t : Tally) : Prop where
  quote : t.quote = none
  escaped : t.escaped = false
  within : t.operators ≤ maxOperators

/-- Neither a quote nor a bracket. -/
def isPlain (c : Char) : Bool := !(isQuote c || ['(',')','[',']'].contains c)

section
variable {t t' : Tally} {c : Char} {s rest : List Char}

theorem isPlain_iff : isPlain c = true ↔ c ∉ ['"','\'','(',')','[',']'] := by
  simp [isPlain,isQuote]
  tauto

theorem isPlain_of_apart {p : Char → Bool} (apart : ∀ c ∈ ['"','\'','(',')','[',']'], p c = false) (holds : p c = true) : isPlain c = true :=
  isPlain_iff.mpr fun member => Bool.false_ne_true ((apart c member).symm.trans holds)

theorem isPlain_of_isNameChar (name : isNameChar c = true) : isPlain c = true :=
  isPlain_of_apart (List.forall_iff_forall_mem.mp (by decide)) name

theorem isPlain_of_isNumberChar (number : isNumberChar c = true) : isPlain c = true :=
  isPlain_of_apart (List.forall_iff_forall_mem.mp (by decide)) number

theorem isNameChar_of_isDigit (digit : c.isDigit = true) : isNameChar c = true := by
  simp [isNameChar,Char.isAlphanum,digit]

theorem isNameChar_of_isNameStart (start : isNameStart c = true) : isNameChar c = true := by
  simp only [isNameStart,isNameChar,Char.isAlphanum,Bool.or_eq_true] at start ⊢
  tauto

theorem isNameChar_of_identifier {name : String} (read : identifier s = .ok name rest) : ∀ c ∈ name.toList, isNameChar c = true := by
  obtain ⟨-,⟨d,cs,named,start,follow⟩,-⟩ := identifier_eq_ok.mp read
  rw [named]
  exact List.forall_mem_cons.mpr ⟨isNameChar_of_isNameStart start,follow⟩

theorem isNameChar_of_fieldName {name : String} (read : fieldName s = .ok name rest) : ∀ c ∈ name.toList, isNameChar c = true := by
  unfold fieldName at read
  split at read
  · next found =>
    cases read
    exact isNameChar_of_identifier found
  · split at read
    · next found =>
      cases read
      rw [String.toList_ofList]
      exact fun c member => isNameChar_of_isDigit ((digits_eq_ok.mp found).2.2.1 c member)
    · cases read

theorem operators_counted : ∀ text ∈ operators, ∀ c ∈ text.toList, isPlain c = true ∧ isOperatorChar c = true := by
  have counted : ∀ text ∈ operators, text.toList.Forall fun c => isPlain c = true ∧ isOperatorChar c = true := by decide
  exact fun text known => List.forall_iff_forall_mem.mp (counted text known)

theorem count_append : (s ++ rest).foldlM Tally.count t = .ok t' ↔ ∃ m, s.foldlM Tally.count t = .ok m ∧ rest.foldlM Tally.count m = .ok t' := by
  rw [List.foldlM_append]
  cases s.foldlM Tally.count t with
  | ok m => exact ⟨fun counted => ⟨m,rfl,counted⟩,fun ⟨_,same,counted⟩ => Except.ok.inj same ▸ counted⟩
  | error => exact ⟨nofun,nofun⟩

theorem count_cons : (c :: s).foldlM Tally.count t = .ok t' ↔ ∃ m, t.count c = .ok m ∧ s.foldlM Tally.count m = .ok t' := by
  rw [List.foldlM_cons]
  cases t.count c with
  | ok m => exact ⟨fun counted => ⟨m,rfl,counted⟩,fun ⟨_,same,counted⟩ => Except.ok.inj same ▸ counted⟩
  | error => exact ⟨nofun,nofun⟩

theorem ok_of_unless {p : Prop} [Decidable p] {e : ε} {a b : α} : (if p then .error e else .ok a : Except ε α) = .ok b ↔ ¬p ∧ b = a := by
  split <;> simp_all [eq_comm]

theorem count_plain (outside : t.Outside) (plain : isPlain c = true) : t.count c = .ok t' ↔
    t' = { t with operators := t.operators + if isOperatorChar c then 1 else 0 } ∧ t'.operators ≤ maxOperators := by
  obtain ⟨double,single,opening,closing,indexOpening,indexClosing⟩ : c ≠ '"' ∧ c ≠ '\'' ∧ c ≠ '(' ∧ c ≠ ')' ∧ c ≠ '[' ∧ c ≠ ']' := by
    simpa using isPlain_iff.mp plain
  obtain ⟨nesting,operators,quote,escaped⟩ := t
  obtain ⟨rfl,rfl,within⟩ := outside
  cases operator : isOperatorChar c <;>
    simp [Tally.count,double,single,opening,closing,indexOpening,indexClosing,operator,ok_of_unless] <;> grind

theorem count_opening (outside : t.Outside) (opening : c = '(' ∨ c = '[') (counted : t.count c = .ok t') :
    t' = { t with nesting := t.nesting + 1, operators := t.operators + 1 } ∧ t'.nesting ≤ maxNesting ∧ t'.operators ≤ maxOperators := by
  obtain ⟨nesting,operators,quote,escaped⟩ := t
  obtain ⟨rfl,rfl,within⟩ := outside
  obtain rfl | rfl := opening <;> simp [Tally.count] at counted <;> grind

theorem count_closing (outside : t.Outside) (closing : c = ')' ∨ c = ']') : t.count c = .ok { t with nesting := t.nesting - 1 } := by
  obtain ⟨nesting,operators,quote,escaped⟩ := t
  obtain ⟨rfl,rfl,within⟩ := outside
  have within : ¬maxOperators < operators := Nat.not_lt.mpr within
  obtain rfl | rfl := closing <;> simp [Tally.count,within]

theorem count_quote (outside : t.Outside) (quote : isQuote c = true) : t.count c = .ok { t with quote := some c } := by
  obtain ⟨nesting,operators,quote,escaped⟩ := t
  obtain ⟨rfl,rfl,within⟩ := outside
  have within : ¬maxOperators < operators := Nat.not_lt.mpr within
  obtain rfl | rfl := isQuote_iff.mp quote <;> simp [Tally.count,within]

theorem count_space (outside : t.Outside) (space : isSpace c = true) : t.count c = .ok t := by
  have plain : isPlain c = true ∧ isOperatorChar c = false := by
    obtain rfl | rfl | rfl | rfl := isSpace_iff.mp space <;> decide
  exact (count_plain outside plain.1).mpr ⟨by simp [plain.2],outside.within⟩

theorem Tally.Outside.counted (outside : t.Outside) {n : Nat} (within : t.operators + n ≤ maxOperators) :
    Tally.Outside { t with operators := t.operators + n } :=
  ⟨outside.quote,outside.escaped,within⟩

theorem counts_plain (outside : t.Outside) (plain : ∀ c ∈ s, isPlain c = true) : s.foldlM Tally.count t = .ok t' ↔
    t' = { t with operators := t.operators + s.countP isOperatorChar } ∧ t'.operators ≤ maxOperators := by
  induction s generalizing t with
  | nil => exact ⟨by rintro ⟨⟩; exact ⟨rfl,outside.within⟩,fun ⟨same,_⟩ => congrArg Except.ok same.symm⟩
  | cons c s ih =>
    obtain ⟨first,others⟩ := List.forall_mem_cons.mp plain
    have same : t.operators + (c :: s).countP isOperatorChar = t.operators + (if isOperatorChar c then 1 else 0) + s.countP isOperatorChar := by
      rw [List.countP_cons]
      omega
    rw [count_cons,same]
    constructor
    · rintro ⟨m,counted,behind⟩
      obtain ⟨rfl,within⟩ := (count_plain outside first).mp counted
      exact (ih (outside.counted within) others).mp behind
    · rintro ⟨rfl,within⟩
      have within_first := Nat.le_trans (Nat.le_add_right ..) within
      exact ⟨_,(count_plain outside first).mpr ⟨rfl,within_first⟩,(ih (outside.counted within_first) others).mpr ⟨rfl,within⟩⟩

theorem Quoted.counts {quote : Char} {cs : List Char} (solid : quote ≠ '\\') (quoted : Quoted quote s cs) (outside : t.Outside) :
    s.foldlM Tally.count { t with quote := some quote } = .ok t := by
  obtain ⟨nesting,operators,_,_⟩ := t
  obtain ⟨rfl,rfl,-⟩ := outside
  induction quoted with
  | close => exact count_cons.mpr ⟨⟨nesting,operators,none,false⟩,by simp [Tally.count,solid],rfl⟩
  | escape c _ ih =>
    exact count_cons.mpr ⟨⟨nesting,operators,some quote,true⟩,by simp [Tally.count],count_cons.mpr ⟨_,by simp [Tally.count],ih⟩⟩
  | plain escape other _ ih => exact count_cons.mpr ⟨_,by simp [Tally.count,escape,other],ih⟩

end

/-- What a token adds to the brackets open and to the operators counted. -/
def Tally.Adds (t : Tally) (token : Token) (t' : Tally) : Prop :=
  match token with
  | .mark .opening | .mark .indexOpening => t'.nesting = t.nesting + 1 ∧ t.operators < t'.operators ∧ t'.nesting ≤ maxNesting
  | .mark .closing | .mark .indexClosing => t'.nesting = t.nesting - 1 ∧ t.operators ≤ t'.operators
  | .mark .dot | .mark .comma | .operator _ => t'.nesting = t.nesting ∧ t.operators < t'.operators
  | .literal .. | .word _ | .field _ => t'.nesting = t.nesting ∧ t.operators ≤ t'.operators

section
variable {t t' : Tally} {s rest : List Char} {token : Token}

theorem counts_name (outside : t.Outside) (name : ∀ c ∈ s, isNameChar c = true) (counted : s.foldlM Tally.count t = .ok t') :
    t'.Outside ∧ t'.nesting = t.nesting ∧ t.operators ≤ t'.operators := by
  obtain ⟨rfl,within⟩ := (counts_plain outside fun c member => isPlain_of_isNameChar (name c member)).mp counted
  exact ⟨outside.counted within,rfl,Nat.le_add_right ..⟩

theorem counts_literal (literally : Literally s) (outside : t.Outside) (counted : s.foldlM Tally.count t = .ok t') :
    t'.Outside ∧ t'.nesting = t.nesting ∧ t.operators ≤ t'.operators := by
  cases literally with
  | number _ each =>
    obtain ⟨rfl,within⟩ := (counts_plain outside fun c member => isPlain_of_isNumberChar (each c member)).mp counted
    exact ⟨outside.counted within,rfl,Nat.le_add_right ..⟩
  | string marked quoted =>
    obtain ⟨m,opening,others⟩ := count_cons.mp counted
    cases (count_quote outside marked).symm.trans opening
    cases (quoted.counts (of_isQuote marked).2.2.2 outside).symm.trans others
    exact ⟨outside,rfl,Nat.le_refl _⟩

theorem counts_operator {text : String} (known : text ∈ operators) (outside : t.Outside) (counted : text.toList.foldlM Tally.count t = .ok t') :
    t'.Outside ∧ t'.nesting = t.nesting ∧ t.operators < t'.operators := by
  obtain ⟨c,more,spelt,-⟩ := operators_start known
  obtain ⟨rfl,within⟩ := (counts_plain outside fun c member => (operators_counted text known c member).1).mp counted
  have some : 0 < text.toList.countP isOperatorChar :=
    List.countP_pos_iff.mpr ⟨c,by rw [spelt]; exact List.mem_cons_self ..,(operators_counted text known c (by rw [spelt]; exact List.mem_cons_self ..)).2⟩
  exact ⟨outside.counted within,rfl,Nat.lt_add_of_pos_right some⟩

theorem counts_mark (m : Mark) (outside : t.Outside) (counted : t.count m.char = .ok t') : t'.Outside ∧ t.Adds (.mark m) t' := by
  cases m with
  | dot | comma =>
    obtain ⟨rfl,within⟩ := (count_plain outside (by decide)).mp counted
    exact ⟨outside.counted within,rfl,Nat.lt_succ_self _⟩
  | opening | indexOpening =>
    obtain ⟨rfl,level,within⟩ := count_opening outside (by decide) counted
    exact ⟨⟨outside.quote,outside.escaped,within⟩,rfl,Nat.lt_succ_self _,level⟩
  | closing | indexClosing =>
    cases (count_closing outside (by decide)).symm.trans counted
    exact ⟨⟨outside.quote,outside.escaped,outside.within⟩,rfl,Nat.le_refl _⟩

theorem counts_token {afterDot : Bool} (read : token? afterDot s = some (token,rest)) (outside : t.Outside)
    (counted : token.text.foldlM Tally.count t = .ok t') : t'.Outside ∧ t.Adds token t' := by
  cases afterDot with
  | true =>
    simp only [token?,if_true] at read
    split at read
    · next found =>
      cases read
      exact counts_name outside (isNameChar_of_fieldName found) counted
    · cases read
  | false =>
    rcases token?_cases read with ⟨name,rfl,found⟩ | ⟨text,value,rfl,rfl,found⟩ | ⟨text,rfl,found⟩ | ⟨m,rfl,-⟩
    · exact counts_name outside (isNameChar_of_identifier found) counted
    · obtain ⟨_,_,-,same,literally,-⟩ := literal_spread found
      exact counts_literal (List.append_cancel_right same ▸ literally) outside counted
    · exact counts_operator (operator?_eq_some found).1 outside counted
    · obtain ⟨_,counted,⟨⟩⟩ := count_cons.mp counted
      exact counts_mark m outside counted

end

end Flowgraph.Expr.Grammar
