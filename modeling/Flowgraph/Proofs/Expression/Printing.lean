import Flowgraph.Proofs.Expression.Spacing
import Mathlib.Data.List.Chain
import Mathlib.Data.Nat.Digits.Defs

/-! Expressions written without blanks and with no parentheses but those that the ranks and a number
before a dot ask for. Neighbouring tokens keep apart, so that the text is read as them and parsed back. -/

namespace Flowgraph

/-- The level of binary operators that the operator stands on. -/
def BinaryOp.level : BinaryOp → Nat
  | .connective .or => 0
  | .connective .and => 1
  | .operator .eq | .operator .ne => 2
  | .operator .gt | .operator .ge | .operator .lt | .operator .le => 3
  | .operator .add | .operator .sub => 4
  | .operator .mul | .operator .div | .operator .rem => 5

theorem BinaryOp.level_lt (op : BinaryOp) : op.level < 6 := by
  cases op with
  | connective op => cases op <;> decide
  | operator op => cases op <;> decide

def UnaryOp.sign : UnaryOp → String
  | .not => "!"
  | .neg => "-"

namespace Expr.Grammar

/-- Which quotes stand around strings, and how each operator is spelt. -/
structure Style where
  quote : Char
  isQuote : isQuote quote = true
  operator : BinaryOp → String
  listed : ∀ op, ∃ table, levels[op.level]? = some table ∧ (operator op,op) ∈ table

/-- Double quotes, and the short spellings of equality. -/
def Style.short : Style where
  quote := '"'
  isQuote := rfl
  operator
    | .connective .or => "||"
    | .connective .and => "&&"
    | .operator .eq => "=="
    | .operator .ne => "!="
    | .operator .gt => ">"
    | .operator .ge => ">="
    | .operator .lt => "<"
    | .operator .le => "<="
    | .operator .add => "+"
    | .operator .sub => "-"
    | .operator .mul => "*"
    | .operator .div => "/"
    | .operator .rem => "%"
  listed
    | .connective .or => ⟨orOps,rfl,by decide⟩
    | .connective .and => ⟨andOps,rfl,by decide⟩
    | .operator .eq | .operator .ne => ⟨equalityOps,rfl,by decide⟩
    | .operator .gt | .operator .ge | .operator .lt | .operator .le => ⟨comparisonOps,rfl,by decide⟩
    | .operator .add | .operator .sub => ⟨sumOps,rfl,by decide⟩
    | .operator .mul | .operator .div | .operator .rem => ⟨productOps,rfl,by decide⟩

/-- Parentheses where they are needed. -/
def enclosed (needed : Prop) [Decidable needed] (ts : List Token) : List Token :=
  if needed then .mark .opening :: (ts ++ [.mark .closing]) else ts

/-- A character of a string, with a backslash before it if it is a quote or a backslash. -/
def escaped (c : Char) : List Char := if isQuote c || c == '\\' then ['\\',c] else [c]

def literalToken (quote : Char) : Json → Token
  | .null => .word "null"
  | .bool true => .word "true"
  | .bool false => .word "false"
  | .number (.int n) => .literal (Nat.toDigits 10 n.toNat) (.number (.int n))
  | .string s => .literal (quote :: (s.toList.flatMap escaped ++ [quote])) (.string s)
  | value => .literal [] value

/-- The rank a target of an access is written at; a number before a dot is set in parentheses. -/
def targetRank : Expr → Nat
  | .literal (.number _) => 9
  | _ => 7

mutual

/-- The tokens of an expression where one of the rank is asked for. -/
def written (style : Style) (k : Nat) : Expr → List Token
  | .literal value => enclosed (8 < k) [literalToken style.quote value]
  | .ident name => enclosed (8 < k) [.word name]
  | .member target field => enclosed (7 < k) (written style (targetRank target) target ++ [.mark .dot,.field field])
  | .index target key =>
    enclosed (7 < k) (written style 7 target ++ .mark .indexOpening :: (written style 0 key ++ [.mark .indexClosing]))
  | .unary op operand => enclosed (6 < k) (.operator op.sign :: written style 6 operand)
  | .binary op left right =>
    enclosed (op.level < k) (written style op.level left ++ .operator (style.operator op) :: written style (op.level + 1) right)
  | .call name args => enclosed (8 < k) (.word name :: .mark .opening :: (separated (writtenAll style args) ++ [.mark .closing]))

def writtenAll (style : Style) : List Expr → List (List Token)
  | [] => []
  | arg :: rest => written style 0 arg :: writtenAll style rest

end

def render (style : Style) (e : Expr) : String := .ofList ((written style 0 e).flatMap Token.text)

def IsName (name : String) : Prop := ∃ c cs, name.toList = c :: cs ∧ isNameStart c = true ∧ ∀ d ∈ cs, isNameChar d = true

def IsNumeral (name : String) : Prop := name.toList ≠ [] ∧ ∀ d ∈ name.toList, d.isDigit = true

/-- The expressions that have a text: no literal but whole numbers, strings, booleans and null, and no
name that is none or is reserved. -/
inductive Writable : Expr → Prop where
  | whole (n : Nat) (bound : n < 2 ^ 63) : Writable (.literal (.number (.int n)))
  | string (s : String) : Writable (.literal (.string s))
  | bool (b : Bool) : Writable (.literal (.bool b))
  | null : Writable (.literal .null)
  | ident {name} (valid : IsName name) (free : reserved? name = none) : Writable (.ident name)
  | member {target field} (valid : IsName field ∨ IsNumeral field) (writable : Writable target) : Writable (.member target field)
  | index {target key} (writable : Writable target) (subscript : Writable key) : Writable (.index target key)
  | unary {op operand} (writable : Writable operand) : Writable (.unary op operand)
  | binary {op left right} (first : Writable left) (second : Writable right) : Writable (.binary op left right)
  | call {name args} (valid : IsName name) (free : reserved? name = none) (each : ∀ a ∈ args, Writable a) : Writable (.call name args)

section
variable {style : Style} {k j : Nat} {ts : List Token} {e : Expr}

theorem Derives.lower (derives : Derives j ts e) (le : k ≤ j) (bound : j ≤ 8) : Derives k ts e := by
  induction j with
  | zero => rwa [Nat.le_zero.mp le]
  | succ j ih =>
    rcases Nat.eq_or_lt_of_le le with rfl | less
    · exact derives
    · exact ih (.looser bound derives) (Nat.le_of_lt_succ less) (Nat.le_of_succ_le bound)

theorem derives_enclosed (derives : Derives j ts e) (bound : j ≤ 8) : Derives (min k 8) (enclosed (j < k) ts) e := by
  unfold enclosed
  split
  · next needed =>
    have grouped := Derives.group (derives.lower (Nat.zero_le j) bound)
    exact grouped.lower (Nat.min_le_right ..) (Nat.le_refl 8)
  · next fits => exact derives.lower (Nat.le_trans (Nat.min_le_left ..) (Nat.le_of_not_lt fits)) bound

theorem mem_unaryOps (op : UnaryOp) : (op.sign,op) ∈ unaryOps := by
  cases op <;> decide

theorem writtenAll_eq (style : Style) (args : List Expr) : writtenAll style args = args.map (written style 0) := by
  induction args with
  | nil => rfl
  | cons a args ih => rw [writtenAll,ih,List.map_cons]

theorem derives_written (style : Style) (writable : Writable e) (k : Nat) : Derives (min k 8) (written style k e) e := by
  induction writable generalizing k with
  | whole | string => exact derives_enclosed (.literal ..) (by decide)
  | bool b => cases b <;> exact derives_enclosed (.reserved rfl) (by decide)
  | null => exact derives_enclosed (.reserved rfl) (by decide)
  | ident _ free => exact derives_enclosed (.ident free) (by decide)
  | @member target field _ _ ih =>
    have bound : 7 ≤ min (targetRank target) 8 := by unfold targetRank; split <;> decide
    exact derives_enclosed (.member field ((ih _).lower bound (Nat.min_le_right ..))) (by decide)
  | index _ _ ih ih_key => exact derives_enclosed (.index (ih 7) (ih_key 0)) (by decide)
  | unary _ ih => exact derives_enclosed (.unary (mem_unaryOps _) (ih 6)) (by decide)
  | @binary op _ _ _ _ ih_left ih_right =>
    obtain ⟨table,level,listed⟩ := style.listed op
    have bound := op.level_lt
    have left := ih_left op.level
    have right := ih_right (op.level + 1)
    rw [Nat.min_eq_left (by omega)] at left right
    exact derives_enclosed (.binary level listed left right) (by omega)
  | @call name args _ free _ ih =>
    have derived := Derives.call free (args.map fun a => (written style 0 a,a)) fun pair member => by
      obtain ⟨a,inside,rfl⟩ := List.mem_map.mp member
      exact ih a inside 0
    rw [List.map_map,List.map_map] at derived
    rw [written,writtenAll_eq]
    exact derives_enclosed (by simpa [Function.comp_def] using derived) (by decide)

end

def Token.isSign : Token → Bool
  | .operator _ => true
  | .mark _ => true
  | _ => false

/-- The second token may stand right behind the first one. -/
def Adjoins (t t' : Token) : Prop := t'.isField = t.isDot ∧ match t with
  | .word _ => t'.isSign = true
  | .field _ => t'.isSign = true
  | .literal text _ => t'.isSign = true ∧ (t'.isDot = true → ∀ c ∈ text.head?, isQuote c = true)
  | .operator _ => t'.opensOperand = true ∨ ∃ op : UnaryOp, t' = .operator op.sign
  | .mark _ => True

/-- The token is one that its text is read as where nothing behind it goes on with it. -/
def Token.Valid : Token → Prop
  | .literal text value => (∃ n : Nat, n < 2 ^ 63 ∧ text = Nat.toDigits 10 n ∧ value = .number (.int n)) ∨
    ∃ quote t cs, isQuote quote = true ∧ text = quote :: t ∧ Quoted quote t cs ∧ value = .string (.ofList cs)
  | .word name => IsName name
  | .field name => IsName name ∨ IsNumeral name
  | .operator text => text ∈ operators
  | .mark _ => True

section
variable {t t' : Token} {s rest : List Char} {c : Char}

theorem token?_of_valid_word {name : String} (valid : IsName name) (parted : ∀ c ∈ rest.head?, isNameChar c = false) :
    token? false (name.toList ++ rest) = some (.word name,rest) :=
  token?_word (identifier_eq_ok.mpr ⟨rfl,valid,parted⟩)

theorem not_isDigit_of_not_isNameChar (other : isNameChar c = false) : c.isDigit = false := by
  simp only [isNameChar,Char.isAlphanum,Bool.or_eq_false_iff] at other
  exact other.1.1.2

theorem token?_of_valid_field {name : String} (valid : IsName name ∨ IsNumeral name) (parted : ∀ c ∈ rest.head?, isNameChar c = false) :
    token? true (name.toList ++ rest) = some (.field name,rest) := by
  refine token?_field ?_
  unfold fieldName
  rcases valid with valid | ⟨nonempty,holds⟩
  · rw [identifier_eq_ok.mpr ⟨rfl,valid,parted⟩]
  · have read : digits (name.toList ++ rest) = .ok name.toList rest :=
      digits_eq_ok.mpr ⟨rfl,nonempty,holds,fun c member => not_isDigit_of_not_isNameChar (parted c member)⟩
    obtain ⟨d,more,spelt⟩ := List.exists_cons_of_ne_nil nonempty
    have no_name : identifier (name.toList ++ rest) = .miss (name.toList ++ rest) := by
      rw [spelt,List.cons_append]
      exact identifier_miss (not_isNameStart_of_isDigit (holds d (spelt ▸ List.mem_cons_self ..)))
    rw [no_name,read]
    simp only [String.ofList_toList]

theorem toDigits_head (n : Nat) : ∃ d more, Nat.toDigits 10 n = d :: more ∧ d.isDigit = true := by
  obtain ⟨d,more,same⟩ := List.exists_cons_of_ne_nil (Nat.toDigits_ne_nil (n := n) (b := 10))
  have member : d ∈ Nat.toDigits 10 n := same ▸ List.mem_cons_self ..
  exact ⟨d,more,same,Nat.isDigit_of_mem_toDigits (by decide) (by decide) member⟩

theorem numberLiteral_digits {n : Nat} (bound : n < 2 ^ 63) (digit : ∀ c ∈ rest.head?, c.isDigit = false) (fraction : NoFraction rest)
    (exponent : NoExponent rest) : numberLiteral (Nat.toDigits 10 n ++ rest) = .ok (.literal (.number (.int n))) rest := by
  have read : digits (Nat.toDigits 10 n ++ rest) = .ok (Nat.toDigits 10 n) rest :=
    digits_eq_ok.mpr ⟨rfl,Nat.toDigits_ne_nil,fun c member => Nat.isDigit_of_mem_toDigits (by decide) (by decide) member,digit⟩
  have value : Literal.ofDigits (Nat.toDigits 10 n) = n := Nat.ofDigitChars_toDigits (by decide) (by decide)
  rw [numberLiteral_of_digits read,fractionPart_bare fraction,exponentOf_bare exponent]
  simp only [numberOf?,List.isEmpty_nil,Option.isNone_none,Bool.and_self,Bool.true_and,value]
  rw [if_pos (by simpa using bound)]

theorem signs_part : ∀ c ∈ signs, isNameChar c = false ∧ c ≠ '.' := List.forall_iff_forall_mem.mp (by decide)

theorem head_of_sign (valid : t.Valid) (sign : t.isSign = true) : ∃ c more, t.text = c :: more ∧ isNameChar c = false := by
  cases t with
  | operator text =>
    obtain ⟨c,more,spelt,known⟩ := operators_start valid
    exact ⟨c,more,spelt,(signs_part c known).1⟩
  | mark m => exact ⟨_,[],rfl,by cases m <;> rfl⟩
  | literal | word | field => cases sign

theorem head_ne_dot (valid : t.Valid) (sign : t.isSign = true) (dot : t.isDot = false) : ∃ c more, t.text = c :: more ∧ c ≠ '.' := by
  cases t with
  | operator text =>
    obtain ⟨c,more,spelt,known⟩ := operators_start valid
    exact ⟨c,more,spelt,(signs_part c known).2⟩
  | mark m =>
    refine ⟨_,[],rfl,?_⟩
    cases m with
    | dot => cases dot
    | _ => decide
  | literal | word | field => cases sign

theorem head_of_operand (valid : t.Valid) (operand : t.opensOperand = true ∨ ∃ op : UnaryOp, t = .operator op.sign) :
    ∃ c more, t.text = c :: more ∧ c ≠ '=' := by
  rcases operand with opens | ⟨op,rfl⟩
  · cases t with
    | literal text value =>
      rcases valid with ⟨n,-,rfl,-⟩ | ⟨quote,t,cs,marked,rfl,-,-⟩
      · obtain ⟨d,more,same,digit⟩ := toDigits_head n
        exact ⟨d,more,same,by rintro rfl; cases digit⟩
      · exact ⟨quote,t,rfl,by rintro rfl; cases marked⟩
    | word name =>
      obtain ⟨c,cs,same,start,-⟩ := valid
      exact ⟨c,cs,same,by rintro rfl; cases start⟩
    | mark m => exact ⟨_,[],rfl,by cases m <;> decide⟩
    | field | operator => cases opens
  · cases op <;> exact ⟨_,_,rfl,by decide⟩

theorem token?_of_valid_whole {n : Nat} (bound : n < 2 ^ 63) (parted : ∀ c ∈ rest.head?, isNameChar c = false) (no_dot : ∀ c ∈ rest.head?, c ≠ '.') :
    token? false (Nat.toDigits 10 n ++ rest) = some (.literal (Nat.toDigits 10 n) (.number (.int n)),rest) := by
  have fraction : NoFraction rest := fun more same => (no_dot '.' (by rw [same]; rfl) rfl).elim
  have exponent : NoExponent rest := by
    rintro c more rfl letter
    have other := parted c rfl
    simp only [Bool.or_eq_true,beq_iff_eq] at letter
    rcases letter with rfl | rfl <;> cases other
  refine token?_literal ?_
  rw [orElse,numberLiteral_digits bound (fun c member => not_isDigit_of_not_isNameChar (parted c member)) fraction exponent]

theorem token?_of_quoted {quote : Char} {t cs : List Char} (marked : isQuote quote = true) (quoted : Quoted quote t cs) :
    token? false (quote :: t ++ rest) = some (.literal (quote :: t) (.string (.ofList cs)),rest) := by
  refine token?_literal ?_
  rw [orElse,List.cons_append,numberLiteral_miss (of_isQuote marked).2.1]
  exact stringLiteral_eq_ok.mpr ⟨quote,t,cs,marked,rfl,quoted,rfl⟩

/-- The text of tokens starts with what the text of the first one starts with. -/
theorem head_text {ts : List Token} {P : Char → Prop} (valid : ∀ t ∈ ts, t.Valid)
    (each : ∀ t ∈ ts.head?, t.Valid → ∃ c more, t.text = c :: more ∧ P c) : ∀ c ∈ (text (ts.map .token) ++ []).head?, P c := by
  cases ts with
  | nil => exact nofun
  | cons t ts =>
    obtain ⟨c,more,spelt,holds⟩ := each t rfl (valid t (List.mem_cons_self ..))
    simp only [List.map_cons,text_cons,Piece.text,spelt,List.cons_append,List.head?_cons]
    rintro _ ⟨⟩
    exact holds

theorem reads_of_chain {ts : List Token} (valid : ∀ t ∈ ts, t.Valid) (chain : ts.IsChain Adjoins) {afterDot : Bool}
    (first : ∀ t ∈ ts.head?, t.isField = afterDot) : Reads afterDot (ts.map .token) [] := by
  induction ts generalizing afterDot with
  | nil => trivial
  | cons t ts ih =>
    have here := valid t (List.mem_cons_self ..)
    have behind : ∀ t' ∈ ts, t'.Valid := fun t' member => valid t' (List.mem_cons_of_mem _ member)
    have field := first t rfl
    obtain ⟨adjoins,chain⟩ := List.isChain_cons.mp chain
    refine ⟨?_,ih behind chain fun t' head => (adjoins t' head).1⟩
    have parted (sign : ∀ t' ∈ ts.head?, t'.isSign = true) : ∀ c ∈ (text (ts.map .token) ++ []).head?, isNameChar c = false :=
      head_text behind fun t' next valid => head_of_sign valid (sign t' next)
    cases t with
    | word name =>
      cases field
      exact token?_of_valid_word here (parted fun t' next => (adjoins t' next).2)
    | field name =>
      cases field
      exact token?_of_valid_field here (parted fun t' next => (adjoins t' next).2)
    | operator spelling =>
      cases field
      refine token?_operator (operator?_apart here fun equals => ?_)
      exact head_text behind (fun t' next valid => head_of_operand valid (adjoins t' next).2) '=' equals rfl
    | mark m =>
      cases field
      exact token?_mark m
    | literal spelling value =>
      cases field
      rcases here with ⟨n,bound,rfl,rfl⟩ | ⟨quote,t,cs,marked,rfl,quoted,rfl⟩
      · refine token?_of_valid_whole bound (parted fun t' next => (adjoins t' next).2.1) (head_text behind fun t' next valid => ?_)
        refine head_ne_dot valid (adjoins t' next).2.1 (Bool.eq_false_iff.mpr fun dot => ?_)
        obtain ⟨d,more,same,digit⟩ := toDigits_head n
        rw [(of_isQuote ((adjoins t' next).2.2 dot d (by rw [same]; rfl))).2.1] at digit
        cases digit
      · exact token?_of_quoted marked quoted

end

/-- An operand may start with the token. -/
def Token.Starts (t : Token) : Prop := t.opensOperand = true ∨ ∃ op : UnaryOp, t = .operator op.sign

/-- Tokens that read as an operand of any rank, and may stand where one does. -/
structure Sentence (ts : List Token) : Prop where
  valid : ∀ t ∈ ts, t.Valid
  chain : ts.IsChain Adjoins
  start : ∃ t, ts.head? = some t ∧ t.Starts
  stop : ∃ t, ts.getLast? = some t ∧ ∀ t', t'.isSign = true → t'.isDot = false → Adjoins t t'

section
variable {t : Token} {ts us ks : List Token} {style : Style} {e : Expr}

theorem Token.Starts.isField (starts : t.Starts) : t.isField = false := by
  rcases starts with opens | ⟨op,rfl⟩
  · cases t <;> first | rfl | cases opens
  · rfl

/-- What an operator, a comma or an opening bracket stands before. -/
theorem chain_behind (leads : ∀ t' : Token, t'.Starts → Adjoins t t') (chain : ts.IsChain Adjoins) (start : ∃ t', ts.head? = some t' ∧ t'.Starts) :
    (t :: ts).IsChain Adjoins := by
  obtain ⟨t',head,starts⟩ := start
  refine List.isChain_cons.mpr ⟨fun y member => ?_,chain⟩
  cases head.symm.trans (Option.mem_def.mp member)
  exact leads t' starts

theorem Sentence.before (sentence : Sentence ts) (chain : us.IsChain Adjoins) (sign : ∀ t ∈ us.head?, t.isSign = true ∧ t.isDot = false) :
    (ts ++ us).IsChain Adjoins := by
  refine List.isChain_append.mpr ⟨sentence.chain,chain,fun x last y head => ?_⟩
  obtain ⟨t,stop,adjoins⟩ := sentence.stop
  cases stop.symm.trans (Option.mem_def.mp last)
  exact adjoins y (sign y head).1 (sign y head).2

theorem Sentence.head_append (sentence : Sentence ts) (us : List Token) : ∃ t, (ts ++ us).head? = some t ∧ t.Starts := by
  obtain ⟨t,head,starts⟩ := sentence.start
  exact ⟨t,by rw [List.head?_append,head]; rfl,starts⟩

theorem adjoins_mark {m : Mark} {t' : Token} (dot : m ≠ .dot) (field : t'.isField = false) : Adjoins (.mark m) t' :=
  ⟨by rw [field]; cases m <;> first | rfl | contradiction,trivial⟩

theorem Token.isField_of_isSign {t' : Token} (sign : t'.isSign = true) : t'.isField = false := by
  cases t' <;> first | rfl | cases sign

theorem adjoins_sign {m : Mark} {t' : Token} (dot : m ≠ .dot) (sign : t'.isSign = true) : Adjoins (.mark m) t' :=
  adjoins_mark dot (Token.isField_of_isSign sign)

theorem Sentence.single (valid : t.Valid) (opens : t.opensOperand = true)
    (stop : ∀ t', t'.isSign = true → t'.isDot = false → Adjoins t t') : Sentence [t] :=
  ⟨by simpa using valid,.singleton t,⟨t,rfl,.inl opens⟩,t,rfl,stop⟩

theorem Sentence.group (sentence : Sentence ts) : Sentence (.mark .opening :: (ts ++ [.mark .closing])) where
  valid := by
    intro t member
    simp only [List.mem_cons,List.mem_append,List.not_mem_nil,or_false] at member
    rcases member with rfl | member | rfl
    · trivial
    · exact sentence.valid t member
    · trivial
  chain := chain_behind (fun t' starts => adjoins_mark (by decide) starts.isField)
    (sentence.before (.singleton _) (by rintro _ ⟨⟩; exact ⟨rfl,rfl⟩)) (sentence.head_append _)
  start := ⟨_,rfl,.inl rfl⟩
  stop := ⟨.mark .closing,by simp [List.getLast?_cons],fun t' sign _ => adjoins_sign (by decide) sign⟩

theorem Sentence.enclosed (sentence : Sentence ts) (needed : Prop) [Decidable needed] : Sentence (enclosed needed ts) := by
  unfold Grammar.enclosed
  split
  · exact sentence.group
  · exact sentence

theorem Sentence.unary (op : UnaryOp) (sentence : Sentence ts) : Sentence (.operator op.sign :: ts) where
  valid := List.forall_mem_cons.mpr ⟨show op.sign ∈ operators by cases op <;> decide,sentence.valid⟩
  chain := chain_behind (fun t' starts => ⟨starts.isField,starts⟩) sentence.chain sentence.start
  start := ⟨_,rfl,.inr ⟨op,rfl⟩⟩
  stop := by
    obtain ⟨t,stop,adjoins⟩ := sentence.stop
    exact ⟨t,by rw [List.getLast?_cons,stop]; rfl,adjoins⟩

theorem Sentence.binary {text : String} (known : text ∈ operators) (left : Sentence ts) (right : Sentence us) :
    Sentence (ts ++ .operator text :: us) where
  valid := List.forall_mem_append.mpr ⟨left.valid,List.forall_mem_cons.mpr ⟨known,right.valid⟩⟩
  chain := left.before (chain_behind (fun t' starts => ⟨starts.isField,starts⟩) right.chain right.start) (by rintro _ ⟨⟩; exact ⟨rfl,rfl⟩)
  start := left.head_append _
  stop := by
    obtain ⟨t,stop,adjoins⟩ := right.stop
    exact ⟨t,by rw [List.getLast?_append,List.getLast?_cons,stop]; rfl,adjoins⟩

theorem Sentence.member {field : String} (valid : IsName field ∨ IsNumeral field) (target : Sentence ts)
    (dot : ∀ t ∈ ts.getLast?, Adjoins t (.mark .dot)) : Sentence (ts ++ [.mark .dot,.field field]) where
  valid := List.forall_mem_append.mpr ⟨target.valid,by simpa [Token.Valid] using valid⟩
  chain := by
    have access : Adjoins (.mark .dot) (.field field) := ⟨rfl,trivial⟩
    refine List.isChain_append.mpr ⟨target.chain,List.isChain_cons_cons.mpr ⟨access,.singleton _⟩,?_⟩
    rintro x last _ ⟨⟩
    exact dot x last
  start := target.head_append _
  stop := ⟨.field field,by simp,fun t' sign _ => ⟨Token.isField_of_isSign sign,sign⟩⟩

theorem Sentence.index (target : Sentence ts) (subscript : Sentence ks) :
    Sentence (ts ++ .mark .indexOpening :: (ks ++ [.mark .indexClosing])) where
  valid := by
    intro t member
    simp only [List.mem_cons,List.mem_append,List.not_mem_nil,or_false] at member
    rcases member with member | rfl | member | rfl
    · exact target.valid t member
    · trivial
    · exact subscript.valid t member
    · trivial
  chain := target.before (chain_behind (fun t' starts => adjoins_mark (by decide) starts.isField)
    (subscript.before (.singleton _) (by rintro _ ⟨⟩; exact ⟨rfl,rfl⟩)) (subscript.head_append _)) (by rintro _ ⟨⟩; exact ⟨rfl,rfl⟩)
  start := target.head_append _
  stop := ⟨.mark .indexClosing,by simp [List.getLast?_cons],fun t' sign _ => adjoins_sign (by decide) sign⟩

theorem arguments_chain {tss : List (List Token)} (sentences : ∀ ts ∈ tss, Sentence ts) :
    (separated tss ++ [Token.mark .closing]).IsChain Adjoins ∧ ∀ t ∈ (separated tss ++ [Token.mark .closing]).head?, t.isField = false := by
  have others {tss : List (List Token)} (sentences : ∀ ts ∈ tss, Sentence ts) :
      (tss.flatMap (Token.mark .comma :: ·) ++ [Token.mark .closing]).IsChain Adjoins ∧
        ∀ t ∈ (tss.flatMap (Token.mark .comma :: ·) ++ [Token.mark .closing]).head?, t.isSign = true ∧ t.isDot = false := by
    induction tss with
    | nil => exact ⟨.singleton _,by rintro _ ⟨⟩; exact ⟨rfl,rfl⟩⟩
    | cons ts tss ih =>
      obtain ⟨chain,sign⟩ := ih fun us member => sentences us (List.mem_cons_of_mem _ member)
      have first := sentences ts (List.mem_cons_self ..)
      rw [List.flatMap_cons,List.cons_append,List.cons_append,List.append_assoc]
      refine ⟨chain_behind (fun t' starts => adjoins_mark (by decide) starts.isField) (first.before chain sign) (first.head_append _),?_⟩
      rintro _ ⟨⟩
      exact ⟨rfl,rfl⟩
  cases tss with
  | nil => exact ⟨.singleton _,by rintro _ ⟨⟩; rfl⟩
  | cons ts tss =>
    obtain ⟨chain,sign⟩ := others fun us member => sentences us (List.mem_cons_of_mem _ member)
    have first := sentences ts (List.mem_cons_self ..)
    obtain ⟨t,head,starts⟩ := first.head_append (tss.flatMap (Token.mark .comma :: ·) ++ [Token.mark .closing])
    rw [separated,List.append_assoc]
    refine ⟨first.before chain sign,fun t' member => ?_⟩
    cases head.symm.trans (Option.mem_def.mp member)
    exact starts.isField

theorem mem_separated {tss : List (List Token)} (member : t ∈ separated tss) : t = .mark .comma ∨ ∃ ts ∈ tss, t ∈ ts := by
  cases tss with
  | nil => cases member
  | cons ts tss =>
    rcases List.mem_append.mp member with first | others
    · exact .inr ⟨ts,List.mem_cons_self ..,first⟩
    · obtain ⟨us,inside,member⟩ := List.mem_flatMap.mp others
      exact (List.mem_cons.mp member).imp_right fun here => ⟨us,List.mem_cons_of_mem _ inside,here⟩

theorem Sentence.call {name : String} (valid : IsName name) {tss : List (List Token)} (sentences : ∀ ts ∈ tss, Sentence ts) :
    Sentence (.word name :: .mark .opening :: (separated tss ++ [.mark .closing])) where
  valid := by
    intro t member
    simp only [List.mem_cons,List.mem_append,List.not_mem_nil,or_false] at member
    rcases member with rfl | rfl | member | rfl
    · exact valid
    · trivial
    · rcases mem_separated member with rfl | ⟨ts,inside,member⟩
      · trivial
      · exact (sentences ts inside).valid t member
    · trivial
  chain := by
    obtain ⟨chain,field⟩ := arguments_chain sentences
    refine List.isChain_cons_cons.mpr ⟨⟨rfl,rfl⟩,List.isChain_cons.mpr ⟨fun t' head => ?_,chain⟩⟩
    exact adjoins_mark (by decide) (field t' head)
  start := ⟨_,rfl,.inl rfl⟩
  stop := ⟨.mark .closing,by simp [List.getLast?_cons],fun t' sign _ => adjoins_sign (by decide) sign⟩

theorem quoted_escaped {quote : Char} (marked : isQuote quote = true) (cs : List Char) : Quoted quote (cs.flatMap escaped ++ [quote]) cs := by
  induction cs with
  | nil => exact .close
  | cons c cs ih =>
    rw [List.flatMap_cons,List.append_assoc]
    unfold escaped
    split
    · next special =>
      have kept : unescape c = c := by
        rcases (Bool.or_eq_true ..).mp special with quote | backslash
        · rcases isQuote_iff.mp quote with rfl | rfl <;> rfl
        · cases beq_iff_eq.mp backslash; rfl
      have behind := Quoted.escape c ih
      rwa [kept] at behind
    · next plain =>
      simp only [Bool.or_eq_true,beq_iff_eq,not_or] at plain
      exact .plain plain.2 (by rintro rfl; exact plain.1 marked) ih

theorem sentence_whole {n : Nat} (bound : n < 2 ^ 63) (quote : Char) : Sentence [literalToken quote (.number (.int n))] :=
  .single (.inl ⟨n,bound,rfl,rfl⟩) rfl fun _ sign dot => ⟨Token.isField_of_isSign sign,sign,fun isDot => by rw [dot] at isDot; cases isDot⟩

theorem sentence_word {name : String} (valid : IsName name) : Sentence [.word name] :=
  .single valid rfl fun _ sign _ => ⟨Token.isField_of_isSign sign,sign⟩

theorem isName_true : IsName "true" := ⟨'t',['r','u','e'],rfl,rfl,List.all_eq_true.mp rfl⟩
theorem isName_false : IsName "false" := ⟨'f',['a','l','s','e'],rfl,rfl,List.all_eq_true.mp rfl⟩
theorem isName_null : IsName "null" := ⟨'n',['u','l','l'],rfl,rfl,List.all_eq_true.mp rfl⟩

theorem sentence_string {quote : Char} (marked : isQuote quote = true) (s : String) : Sentence [literalToken quote (.string s)] := by
  refine .single (.inr ⟨quote,_,s.toList,marked,rfl,quoted_escaped marked _,by rw [String.ofList_toList]⟩) rfl fun t' sign _ => ?_
  exact ⟨Token.isField_of_isSign sign,sign,fun _ => by rintro _ ⟨⟩; exact marked⟩

/-- A dot may stand behind what is in parentheses. -/
theorem dot_enclosed {needed : Prop} [Decidable needed] (bare : ¬needed → ∀ t ∈ ts.getLast?, Adjoins t (.mark .dot)) :
    ∀ t ∈ (enclosed needed ts).getLast?, Adjoins t (.mark .dot) := by
  unfold enclosed
  split
  · intro t last
    rw [← List.cons_append,List.getLast?_append] at last
    cases last
    exact adjoins_mark (by decide) rfl
  · next fits => exact bare fits

theorem sentence_written (style : Style) (writable : Writable e) (k : Nat) : Sentence (written style k e) ∧
    (targetRank e ≤ k → ∀ t ∈ (written style k e).getLast?, Adjoins t (.mark .dot)) := by
  have word {name : String} (valid : IsName name) (k : Nat) : Sentence (enclosed (8 < k) [.word name]) ∧
      ∀ t ∈ (enclosed (8 < k) [Token.word name]).getLast?, Adjoins t (.mark .dot) :=
    ⟨(sentence_word valid).enclosed _,dot_enclosed fun _ => by rintro _ ⟨⟩; exact ⟨rfl,rfl⟩⟩
  induction writable generalizing k with
  | whole n bound =>
    refine ⟨(sentence_whole bound _).enclosed _,fun high => dot_enclosed fun low => ?_⟩
    have high : 9 ≤ k := high
    omega
  | string s =>
    refine ⟨(sentence_string style.isQuote s).enclosed _,fun _ => dot_enclosed fun _ => ?_⟩
    rintro _ ⟨⟩
    exact ⟨rfl,rfl,fun _ => by rintro _ ⟨⟩; exact style.isQuote⟩
  | bool b =>
    cases b with
    | true => exact (word isName_true k).imp_right fun dot _ => dot
    | false => exact (word isName_false k).imp_right fun dot _ => dot
  | null => exact (word isName_null k).imp_right fun dot _ => dot
  | ident valid _ => exact (word valid k).imp_right fun dot _ => dot
  | @member target field valid _ ih =>
    obtain ⟨sentence,dot⟩ := ih (targetRank target)
    refine ⟨(sentence.member valid (dot (Nat.le_refl _))).enclosed _,fun _ => dot_enclosed fun _ => ?_⟩
    intro t last
    rw [List.getLast?_append] at last
    cases last
    exact ⟨rfl,rfl⟩
  | index _ _ ih ih_key =>
    refine ⟨((ih 7).1.index (ih_key 0).1).enclosed _,fun _ => dot_enclosed fun _ => ?_⟩
    intro t last
    rw [List.getLast?_append,List.getLast?_cons,List.getLast?_append] at last
    cases last
    exact adjoins_mark (by decide) rfl
  | unary _ ih =>
    refine ⟨((ih 6).1.unary _).enclosed _,fun high => dot_enclosed fun low => ?_⟩
    have high : 7 ≤ k := high
    omega
  | @binary op _ _ _ _ ih_left ih_right =>
    obtain ⟨table,level,listed⟩ := style.listed op
    refine ⟨((ih_left op.level).1.binary (mem_operators (List.mem_of_getElem? level) listed) (ih_right (op.level + 1)).1).enclosed _,
      fun high => dot_enclosed fun low => ?_⟩
    have bound := op.level_lt
    have high : 7 ≤ k := high
    omega
  | call valid _ _ ih =>
    rw [written,writtenAll_eq]
    have sentences := Sentence.call valid fun ts member => by
      obtain ⟨a,inside,rfl⟩ := List.mem_map.mp member
      exact (ih a inside 0).1
    refine ⟨sentences.enclosed _,fun _ => dot_enclosed fun _ => ?_⟩
    intro t last
    rw [List.getLast?_cons,List.getLast?_cons,List.getLast?_append] at last
    cases last
    exact adjoins_mark (by decide) rfl

theorem text_tokens (ts : List Token) : text (ts.map .token) = ts.flatMap Token.text := by
  rw [text,List.flatMap_map]
  rfl

theorem tokens_tokens (ts : List Token) : tokens (ts.map .token) = ts := by
  rw [tokens,List.filterMap_map]
  exact List.filterMap_some

theorem settled_tokens (ts : List Token) : settled (ts.map .token) = true := by
  have scanned (p : Place) (tight : p.loose = false) : ∃ q, scan p (ts.map .token) = some q ∧ q.loose = false := by
    induction ts generalizing p with
    | nil => exact ⟨p,rfl,tight⟩
    | cons t ts ih =>
      simp only [List.map_cons,scan,Place.admits_of_tight tight,if_true]
      exact ih (p.token t) rfl
  obtain ⟨q,found,tight⟩ := scanned .start rfl
  rw [settled,found]
  exact congrArg not tight

/-- A printed expression is derived from the tokens that its text is laid out in. -/
theorem render_derives (style : Style) (writable : Writable e) :
    ∃ ps, layout? (render style e) = some ps ∧ Derives 0 (tokens ps) e ∧ settled ps = true := by
  obtain ⟨sentence,-⟩ := sentence_written style writable 0
  refine ⟨(written style 0 e).map .token,layout?_eq_some.mpr ⟨?_,?_⟩,?_,settled_tokens _⟩
  · rw [render,String.toList_ofList,text_tokens]
  · refine reads_of_chain sentence.valid sentence.chain fun t head => ?_
    obtain ⟨t',head',starts⟩ := sentence.start
    cases head'.symm.trans (Option.mem_def.mp head)
    exact starts.isField
  · rw [tokens_tokens]
    exact derives_written style writable 0

end

end Expr.Grammar

open Flowgraph.Expr Grammar

/-- An expression printed with the parentheses that the grammar needs, and within the limits, is parsed back. -/
theorem Expr.parse_render (style : Style) {e : Expr} (writable : Writable e) (within : ∃ t, tally (render style e).toList = .ok t) :
    parse (render style e) = .ok e :=
  parse_eq_ok.mpr ⟨within,render_derives style writable⟩

theorem Expr.product_parsed_back :
    let e : Expr := .binary (.operator .mul) (.binary (.operator .add) (.literal (.number (.int 1))) (.ident "x")) (.member (.literal (.number (.int 2))) "0")
    render .short e = "(1+x)*(2).0" ∧ parse (render .short e) = .ok e := by
  intro e
  have isName : IsName "x" := ⟨'x',[],rfl,rfl,nofun⟩
  have isNumeral : IsNumeral "0" := ⟨by decide,List.all_eq_true.mp rfl⟩
  have printed : render .short e = "(1+x)*(2).0" := rfl
  exact ⟨printed,parse_render .short
    (.binary (.binary (.whole 1 (by decide)) (.ident isName rfl)) (.member (.inr isNumeral) (.whole 2 (by decide))))
    ⟨⟨0,5,none,false⟩,by rw [printed]; rfl⟩⟩

end Flowgraph
