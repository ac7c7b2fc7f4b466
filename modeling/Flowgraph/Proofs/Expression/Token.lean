import Flowgraph.Proofs.Expression.Lookahead

/-! The tokens of an expression text and the blanks between them. After a dot stands a field, which
may be digits; elsewhere a run of digits is a number and a name is a word. Of two operators that
fit, the reader of a level and the tokens take the same one, as no two levels share a first character. -/

namespace Flowgraph.Expr.Grammar

inductive Mark where
  | dot | comma | opening | closing | indexOpening | indexClosing
  deriving DecidableEq, Repr

def Mark.char : Mark → Char
  | .dot => '.'
  | .comma => ','
  | .opening => '('
  | .closing => ')'
  | .indexOpening => '['
  | .indexClosing => ']'

def marks : List Mark := [.dot,.comma,.opening,.closing,.indexOpening,.indexClosing]

inductive Token where
  | literal (text : List Char) (value : Json)
  | word (name : String)
  | field (name : String)
  | operator (text : String)
  | mark (mark : Mark)
  deriving Repr

def Token.text : Token → List Char
  | .literal text _ => text
  | .word name => name.toList
  | .field name => name.toList
  | .operator text => text.toList
  | .mark m => [m.char]

/-- The spellings of all operators; where one starts another, the longer one stands first. -/
def operators : List String := levels.flatten.map Prod.fst ++ ["!"]

def operator? (s : List Char) : Option (String × List Char) :=
  operators.findSome? fun text => (after? text.toList s).map (text,·)

def mark? : List Char → Option (Mark × List Char)
  | c :: rest => (marks.find? (·.char == c)).map (·,rest)
  | [] => none

/-- The token a text starts with, and the text after it. -/
def token? (afterDot : Bool) (s : List Char) : Option (Token × List Char) :=
  if afterDot then match fieldName s with
    | .ok name rest => some (.field name,rest)
    | _ => none
  else match identifier s with
    | .ok name rest => some (.word name,rest)
    | _ => match orElse numberLiteral stringLiteral s with
      | .ok (.literal value) rest => some (.literal (s.take (s.length - rest.length)) value,rest)
      | _ => match operator? s with
        | some (text,rest) => some (.operator text,rest)
        | none => (mark? s).map fun (mark,rest) => (.mark mark,rest)

def Token.isDot : Token → Bool
  | .mark .dot => true
  | _ => false

inductive Piece where
  | blank (c : Char)
  | token (t : Token)
  deriving Repr

def Piece.text : Piece → List Char
  | .blank c => [c]
  | .token t => t.text

def text (ps : List Piece) : List Char := ps.flatMap Piece.text

def tokens (ps : List Piece) : List Token :=
  ps.filterMap fun | .blank _ => none | .token t => some t

/-- At most `n` pieces of a text. -/
def pieces? : Nat → Bool → List Char → Option (List Piece)
  | _, _, [] => some []
  | 0, _, _ :: _ => none
  | n + 1, afterDot, c :: s =>
    if isSpace c then (pieces? n afterDot s).map (.blank c :: ·)
    else match token? afterDot (c :: s) with
      | some (t,rest) => (pieces? n t.isDot rest).map (.token t :: ·)
      | none => none

/-- The tokens and blanks of a source, where it has any. -/
def layout? (source : String) : Option (List Piece) := pieces? source.toList.length false source.toList

@[simp] theorem text_nil : text [] = [] := rfl
@[simp] theorem text_cons (p : Piece) (ps : List Piece) : text (p :: ps) = p.text ++ text ps := rfl
@[simp] theorem text_append (ps qs : List Piece) : text (ps ++ qs) = text ps ++ text qs := List.flatMap_append
@[simp] theorem tokens_nil : tokens [] = [] := rfl
@[simp] theorem tokens_blank (c : Char) (ps : List Piece) : tokens (.blank c :: ps) = tokens ps := rfl
@[simp] theorem tokens_token (t : Token) (ps : List Piece) : tokens (.token t :: ps) = t :: tokens ps := rfl
@[simp] theorem tokens_append (ps qs : List Piece) : tokens (ps ++ qs) = tokens ps ++ tokens qs := List.filterMap_append

section
variable {c : Char} {s s' rest : List Char}

/-- The characters that an operator may start with. -/
def signs : List Char := ['|','&','=','!','>','<','+','-','*','/','%']

theorem operators_solid : ∀ text ∈ operators, ∀ c ∈ text.toList, isSpace c = false := by
  have solid : ∀ text ∈ operators, text.toList.Forall (isSpace · = false) := by decide
  exact fun text known => List.forall_iff_forall_mem.mp (solid text known)

theorem operators_head : ∀ text ∈ operators, text.toList.head?.any (signs.contains ·) = true := by decide

theorem operators_start {text : String} (known : text ∈ operators) : ∃ c more, text.toList = c :: more ∧ c ∈ signs := by
  have head := operators_head text known
  cases spelt : text.toList with
  | nil => simp [spelt] at head
  | cons c more => exact ⟨c,more,rfl,by simpa [spelt] using head⟩

theorem operator?_eq_some {text : String} (read : operator? s = some (text,rest)) : text ∈ operators ∧ s = text.toList ++ rest := by
  obtain ⟨found,member,fits⟩ := List.exists_of_findSome?_eq_some read
  obtain ⟨left,start,same⟩ := Option.map_eq_some_iff.mp fits
  cases same
  exact ⟨member,after?_eq_some.mp start⟩

theorem operator?_spread {text : String} (read : operator? s = some (text,rest)) (spread : Spread rest s') :
    operator? (text.toList ++ s') = some (text,s') := by
  obtain ⟨before,found,behind,all,fits,none_before⟩ := List.findSome?_eq_some_iff.mp read
  obtain ⟨left,start,same⟩ := Option.map_eq_some_iff.mp fits
  cases same
  refine List.findSome?_eq_some_iff.mpr ⟨before,text,behind,all,by rw [after?_eq_some.mpr rfl]; rfl,fun other member => ?_⟩
  cases fitting : after? other.toList (text.toList ++ s') with
  | none => rfl
  | some y =>
    have widened : Spread s (other.toList ++ y) := by
      rw [← after?_eq_some.mp fitting,after?_eq_some.mp start]
      exact spread.append _
    have known : other ∈ operators := all ▸ List.mem_append_left _ member
    obtain ⟨z,start'⟩ := widened.start (operators_solid other known)
    have fits_too := none_before other member
    rw [after?_eq_some.mpr start'] at fits_too
    cases fits_too

theorem operator?_apart {text : String} (known : text ∈ operators) (apart : rest.head? ≠ some '=') :
    operator? (text.toList ++ rest) = some (text,rest) := by
  have first (c : Char) (more : List Char) (same : rest = c :: more) : '=' ≠ c := by
    rintro rfl
    exact apart (same ▸ rfl)
  simp only [operators,levels,orOps,andOps,equalityOps,comparisonOps,sumOps,productOps,List.flatten_cons,List.flatten_nil,List.append_nil,
    List.cons_append,List.nil_append,List.map_cons,List.map_nil,List.mem_cons,List.not_mem_nil,or_false] at known
  cases rest with
  | nil => rcases known with rfl | rfl | rfl | rfl | rfl | rfl | rfl | rfl | rfl | rfl | rfl | rfl | rfl | rfl | rfl | rfl <;> rfl
  | cons c more =>
    have other := first c more rfl
    rcases known with rfl | rfl | rfl | rfl | rfl | rfl | rfl | rfl | rfl | rfl | rfl | rfl | rfl | rfl | rfl | rfl <;>
      simp [operator?,operators,levels,orOps,andOps,equalityOps,comparisonOps,sumOps,productOps,after?,other]

theorem token?_word {name : String} (read : identifier s = .ok name rest) : token? false s = some (.word name,rest) := by
  simp only [token?,Bool.false_eq_true,if_false,read]

theorem token?_field {name : String} (read : fieldName s = .ok name rest) : token? true s = some (.field name,rest) := by
  simp only [token?,if_true,read]

theorem token?_literal {value : Json} {t : List Char} (read : orElse numberLiteral stringLiteral (t ++ rest) = .ok (.literal value) rest) :
    token? false (t ++ rest) = some (.literal t value,rest) := by
  obtain ⟨_,t',-,same,literally,-⟩ := literal_spread read
  obtain rfl := List.append_cancel_right same
  obtain ⟨c,more,rfl,name,-⟩ := literally.head
  have taken : (c :: more ++ rest).take ((c :: more ++ rest).length - rest.length) = c :: more := by
    rw [List.length_append,Nat.add_sub_cancel,List.take_left]
  simp only [token?,Bool.false_eq_true,if_false,read,taken]
  rw [List.cons_append,identifier_miss name]

/-- What starts with none of the other tokens is an operator or a mark. -/
theorem token?_sign (name : isNameStart c = false) (digit : c.isDigit = false) (quote : isQuote c = false) :
    token? false (c :: s) = match operator? (c :: s) with
      | some (text,rest) => some (.operator text,rest)
      | none => (mark? (c :: s)).map fun (mark,rest) => (.mark mark,rest) := by
  simp only [token?,Bool.false_eq_true,if_false,identifier_miss name,orElse,numberLiteral_miss digit,stringLiteral_miss quote]

theorem signs_apart : ∀ c ∈ signs, isNameStart c = false ∧ c.isDigit = false ∧ isQuote c = false := List.forall_iff_forall_mem.mp (by decide)

theorem token?_operator {text : String} (read : operator? s = some (text,rest)) : token? false s = some (.operator text,rest) := by
  obtain ⟨known,rfl⟩ := operator?_eq_some read
  obtain ⟨c,more,spelt,sign⟩ := operators_start known
  obtain ⟨name,digit,quote⟩ := signs_apart c sign
  rw [spelt,List.cons_append] at read ⊢
  rw [token?_sign name digit quote,read]

theorem operator?_none (other : c ∉ signs) : operator? (c :: s) = none := by
  cases read : operator? (c :: s) with
  | none => rfl
  | some found =>
    obtain ⟨known,same⟩ := operator?_eq_some read
    obtain ⟨d,more,spelt,sign⟩ := operators_start known
    rw [spelt] at same
    cases same
    contradiction

theorem token?_mark (m : Mark) : token? false (m.char :: s) = some (.mark m,s) := by
  rw [token?_sign (by cases m <;> rfl) (by cases m <;> rfl) (by cases m <;> rfl),
    operator?_none (by cases m <;> decide)]
  cases m <;> rfl

theorem mark?_eq_some {m : Mark} (read : mark? s = some (m,rest)) : s = m.char :: rest := by
  cases s with
  | nil => cases read
  | cons c more =>
    obtain ⟨found,looked,same⟩ := Option.map_eq_some_iff.mp read
    cases same
    have equal := List.find?_some looked
    rw [← beq_iff_eq.mp equal]

/-- What token a text starts with, by the reader that takes it. -/
theorem token?_cases {t : Token} (read : token? false s = some (t,rest)) :
    (∃ name, t = .word name ∧ identifier s = .ok name rest) ∨
    (∃ text value, t = .literal text value ∧ s = text ++ rest ∧ orElse numberLiteral stringLiteral s = .ok (.literal value) rest) ∨
    (∃ text, t = .operator text ∧ operator? s = some (text,rest)) ∨ ∃ m, t = .mark m ∧ s = m.char :: rest := by
  simp only [token?,Bool.false_eq_true,if_false] at read
  split at read
  · next name left found =>
    cases read
    exact .inl ⟨name,rfl,found⟩
  · split at read
    · next value left found =>
      cases read
      obtain ⟨_,t,-,rfl,-,-⟩ := literal_spread found
      refine .inr (.inl ⟨_,value,rfl,?_,found⟩)
      rw [List.length_append,Nat.add_sub_cancel,List.take_left]
    · split at read
      · next text left found =>
        cases read
        exact .inr (.inr (.inl ⟨text,rfl,found⟩))
      · obtain ⟨⟨m,left⟩,found,same⟩ := Option.map_eq_some_iff.mp read
        cases same
        exact .inr (.inr (.inr ⟨m,rfl,mark?_eq_some found⟩))

theorem token?_spread {afterDot : Bool} {t : Token} (read : token? afterDot s = some (t,rest)) : s = t.text ++ rest ∧
    (∃ c more, t.text = c :: more ∧ isSpace c = false) ∧
    ∀ rest', Spread rest rest' → token? afterDot (t.text ++ rest') = some (t,rest') := by
  cases afterDot with
  | true =>
    simp only [token?,if_true] at read
    split at read
    · next name left found =>
      cases read
      obtain ⟨same,start,again⟩ := fieldName_spread found
      exact ⟨same,start,fun rest' spread => token?_field (again rest' spread)⟩
    · cases read
  | false =>
    rcases token?_cases read with ⟨name,rfl,found⟩ | ⟨text,value,rfl,same,found⟩ | ⟨text,rfl,found⟩ | ⟨m,rfl,rfl⟩
    · obtain ⟨same,⟨c,cs,named,start,-⟩,-⟩ := identifier_eq_ok.mp found
      exact ⟨same,⟨c,cs,named,not_isSpace_of_isNameStart start⟩,fun rest' spread => token?_word (identifier_spread found spread)⟩
    · obtain ⟨_,t,-,same',literally,again⟩ := literal_spread found
      obtain rfl := List.append_cancel_right (same.symm.trans same')
      obtain ⟨c,more,text_eq,-,solid,-⟩ := literally.head
      exact ⟨same,⟨c,more,text_eq,solid⟩,fun rest' spread => token?_literal (again rest' spread)⟩
    · obtain ⟨known,same⟩ := operator?_eq_some found
      obtain ⟨c,more,spelt,sign⟩ := operators_start known
      refine ⟨same,⟨c,more,spelt,?_⟩,fun rest' spread => token?_operator (operator?_spread found spread)⟩
      exact operators_solid text known c (spelt ▸ List.mem_cons_self ..)
    · exact ⟨rfl,⟨_,[],rfl,by cases m <;> rfl⟩,fun rest' _ => token?_mark m⟩

variable {table : Spellings} {text : String} {op : BinaryOp}

theorem levels_apart : levels.Pairwise fun a b => ∀ x ∈ a, ∀ y ∈ b, x.1.toList.head? ≠ y.1.toList.head? := by decide

theorem spellings_distinct : ∀ table ∈ levels, ∀ x ∈ table, ∀ y ∈ table, x.1 = y.1 → x.2 = y.2 := by decide

theorem mem_operators (level : table ∈ levels) (spelt : (text,op) ∈ table) : text ∈ operators :=
  List.mem_append_left _ (List.mem_map.mpr ⟨_,List.mem_flatten_of_mem level spelt,rfl⟩)

theorem head?_of_operator {x : String} (known : x ∈ operators) (fits : s = x.toList ++ rest) : s.head? = x.toList.head? := by
  obtain ⟨c,more,spelt,-⟩ := operators_start known
  rw [fits,spelt]
  rfl

theorem spelled_cases (table : Spellings) (s : List Char) : (∃ op rest, spelled table s = .ok op rest) ∨ spelled table s = .miss s := by
  unfold spelled
  split
  · exact .inl ⟨_,_,rfl⟩
  · exact .inr rfl

theorem operator?_of_spelled (level : table ∈ levels) (read : spelled table s = .ok op rest) :
    ∃ text, (text,op) ∈ table ∧ operator? s = some (text,rest) := by
  unfold spelled at read
  split at read
  · next found =>
    cases read
    obtain ⟨earlier,⟨text,op'⟩,later,table_eq,fits,missed⟩ := List.findSome?_eq_some_iff.mp found
    obtain ⟨left,start,same⟩ := Option.map_eq_some_iff.mp fits
    cases same
    obtain ⟨looser,tighter,levels_eq⟩ := List.append_of_mem level
    have member : (text,op) ∈ table := table_eq ▸ List.mem_append_right _ (List.mem_cons_self ..)
    refine ⟨text,member,List.findSome?_eq_some_iff.mpr ⟨looser.flatten.map Prod.fst ++ earlier.map Prod.fst,text,
      later.map Prod.fst ++ tighter.flatten.map Prod.fst ++ ["!"],?_,by rw [start]; rfl,fun other before => ?_⟩⟩
    · rw [operators,levels_eq,table_eq]
      simp
    · rcases List.mem_append.mp before with before | before
      · obtain ⟨x,inside,rfl⟩ := List.mem_map.mp before
        obtain ⟨table',looser_mem,x_mem⟩ := List.mem_flatten.mp inside
        cases fitting : after? x.1.toList s with
        | none => rfl
        | some left =>
          have level' : table' ∈ levels := levels_eq ▸ List.mem_append_left _ looser_mem
          have apart := (List.pairwise_append.mp (levels_eq ▸ levels_apart)).2.2 table' looser_mem table (List.mem_cons_self ..)
          have heads := head?_of_operator (mem_operators level' x_mem) (after?_eq_some.mp fitting)
          exact absurd (heads.symm.trans (head?_of_operator (mem_operators level member) (after?_eq_some.mp start)))
            (apart x x_mem _ member)
      · obtain ⟨x,inside,rfl⟩ := List.mem_map.mp before
        have missed_too := missed x inside
        rw [Option.map_eq_none_iff] at missed_too ⊢
        exact missed_too
  · cases read

theorem spelled_of_operator? (level : table ∈ levels) (spelt : (text,op) ∈ table) (read : operator? s = some (text,rest)) :
    spelled table s = .ok op rest := by
  obtain ⟨-,start⟩ := operator?_eq_some read
  rcases spelled_cases table s with ⟨op',rest',found⟩ | missed
  · obtain ⟨text',spelt',read'⟩ := operator?_of_spelled level found
    cases read.symm.trans read'
    obtain rfl : op = op' := spellings_distinct table level _ spelt _ spelt' rfl
    exact found
  · unfold spelled at missed
    split at missed
    · cases missed
    · next none_fits =>
      have no_fit := Option.map_eq_none_iff.mp (List.findSome?_eq_none_iff.mp none_fits _ spelt)
      rw [after?_eq_some.mpr start] at no_fit
      cases no_fit

theorem spelled_miss (level : table ∈ levels) (other : ∀ text rest, operator? s = some (text,rest) → ∀ op, (text,op) ∉ table) :
    spelled table s = .miss s := by
  rcases spelled_cases table s with ⟨op,rest,found⟩ | missed
  · obtain ⟨text,spelt,read⟩ := operator?_of_spelled level found
    exact absurd spelt (other text rest read op)
  · exact missed

end

/-- The pieces are what their text, with `rest` after it, is read as. -/
def Reads : Bool → List Piece → List Char → Prop
  | _, [], _ => True
  | afterDot, .blank c :: ps, rest => isSpace c = true ∧ Reads afterDot ps rest
  | afterDot, .token t :: ps, rest => token? afterDot (t.text ++ (text ps ++ rest)) = some (t,text ps ++ rest) ∧ Reads t.isDot ps rest

theorem reads_of_pieces? {n : Nat} {afterDot : Bool} {s : List Char} {ps : List Piece} (found : pieces? n afterDot s = some ps) :
    s = text ps ∧ Reads afterDot ps [] := by
  induction n generalizing afterDot s ps with
  | zero =>
    cases s with
    | nil => cases found; exact ⟨rfl,trivial⟩
    | cons => cases found
  | succ n ih =>
    cases s with
    | nil => cases found; exact ⟨rfl,trivial⟩
    | cons c s =>
      simp only [pieces?] at found
      split at found
      · next space =>
        obtain ⟨qs,behind,rfl⟩ := Option.map_eq_some_iff.mp found
        obtain ⟨rfl,reads⟩ := ih behind
        exact ⟨rfl,space,reads⟩
      · split at found
        · next t rest read =>
          obtain ⟨qs,behind,rfl⟩ := Option.map_eq_some_iff.mp found
          obtain ⟨rfl,reads⟩ := ih behind
          obtain ⟨same,-⟩ := token?_spread read
          exact ⟨same,by rw [List.append_nil,← same]; exact read,reads⟩
        · cases found

theorem pieces?_of_reads {n : Nat} {afterDot : Bool} {ps : List Piece} (reads : Reads afterDot ps []) (enough : (text ps).length ≤ n) :
    pieces? n afterDot (text ps) = some ps := by
  induction ps generalizing n afterDot with
  | nil => cases n <;> rfl
  | cons p ps ih =>
    obtain ⟨c,more,spelt⟩ : ∃ c more, p.text = c :: more := by
      cases p with
      | blank c => exact ⟨c,[],rfl⟩
      | token t => exact (token?_spread reads.1).2.1.imp fun c => .imp fun more => And.left
    rw [text_cons,spelt,List.cons_append,List.length_cons,List.length_append] at enough
    obtain ⟨n,rfl⟩ : ∃ k, n = k + 1 := ⟨n - 1,by omega⟩
    rw [text_cons,spelt,List.cons_append,pieces?]
    cases p with
    | blank d =>
      cases spelt
      rw [if_pos reads.1,List.nil_append,ih reads.2 (by omega)]
      rfl
    | token t =>
      obtain ⟨-,⟨d,_,spelt',solid⟩,-⟩ := token?_spread reads.1
      have read := reads.1
      rw [List.append_nil,← Piece.text,spelt,List.cons_append] at read
      obtain ⟨rfl,-⟩ := List.cons.inj (spelt.symm.trans spelt')
      rw [if_neg (by rw [solid]; decide),read]
      simp only
      rw [ih reads.2 (by omega)]
      rfl

theorem layout?_eq_some {source : String} {ps : List Piece} : layout? source = some ps ↔ source.toList = text ps ∧ Reads false ps [] := by
  constructor
  · exact reads_of_pieces?
  · rintro ⟨same,reads⟩
    rw [layout?,same]
    exact pieces?_of_reads reads (Nat.le_refl _)

end Flowgraph.Expr.Grammar
