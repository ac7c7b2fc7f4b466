import Flowgraph.Proofs.Expression.Spacing

/-! Accepted expressions are small. Each access, operation and call has a token of its own that the scan before reading counts, and
each index subscript or argument stands between brackets that the scan has open at once; so its limits are limits of the tree. -/

namespace Flowgraph.Expr

mutual

/-- How many accesses, operations and calls an expression has: all its nodes but literals and names. -/
def compounds : Expr → Nat
  | .literal _ => 0
  | .ident _ => 0
  | .member target _ => compounds target + 1
  | .index target key => compounds target + compounds key + 1
  | .unary _ operand => compounds operand + 1
  | .binary _ left right => compounds left + compounds right + 1
  | .call _ args => compoundsAll args + 1

def compoundsAll : List Expr → Nat
  | [] => 0
  | arg :: rest => compounds arg + compoundsAll rest

end

mutual

/-- The most nodes on a path from the root to a leaf. -/
def height : Expr → Nat
  | .literal _ => 1
  | .ident _ => 1
  | .member target _ => height target + 1
  | .index target key => max (height target) (height key) + 1
  | .unary _ operand => height operand + 1
  | .binary _ left right => max (height left) (height right) + 1
  | .call _ args => heightAll args + 1

def heightAll : List Expr → Nat
  | [] => 0
  | arg :: rest => max (height arg) (heightAll rest)

end

/-- A path from the root of an expression down to a part of it goes through so many index subscripts and call arguments. -/
inductive Holds : Expr → Nat → Expr → Prop where
  | root (e : Expr) : Holds e 0 e
  | target {target n part} (field : String) (inside : Holds target n part) : Holds (.member target field) n part
  | indexed {target n part} (key : Expr) (inside : Holds target n part) : Holds (.index target key) n part
  | subscript {key n part} (target : Expr) (inside : Holds key n part) : Holds (.index target key) (n + 1) part
  | operand {operand n part} (op : UnaryOp) (inside : Holds operand n part) : Holds (.unary op operand) n part
  | left {left n part} (op : BinaryOp) (right : Expr) (inside : Holds left n part) : Holds (.binary op left right) n part
  | right {right n part} (op : BinaryOp) (left : Expr) (inside : Holds right n part) : Holds (.binary op left right) n part
  | argument {arg args n part} (name : String) (member : arg ∈ args) (inside : Holds arg n part) : Holds (.call name args) (n + 1) part

mutual

theorem height_le_compounds : (e : Expr) → e.height ≤ e.compounds + 1
  | .literal _ => Nat.le_refl 1
  | .ident _ => Nat.le_refl 1
  | .member target _ => by
    have below := height_le_compounds target
    simp only [height,compounds]
    omega
  | .index target key => by
    have below := height_le_compounds target
    have inside := height_le_compounds key
    simp only [height,compounds]
    omega
  | .unary _ operand => by
    have below := height_le_compounds operand
    simp only [height,compounds]
    omega
  | .binary _ left right => by
    have first := height_le_compounds left
    have second := height_le_compounds right
    simp only [height,compounds]
    omega
  | .call _ args => Nat.succ_le_succ (heightAll_le_compoundsAll args)

theorem heightAll_le_compoundsAll : (args : List Expr) → heightAll args ≤ compoundsAll args + 1
  | [] => Nat.zero_le _
  | arg :: rest => by
    have first := height_le_compounds arg
    have others := heightAll_le_compoundsAll rest
    simp only [heightAll,compoundsAll]
    omega

end

namespace Grammar

/-- The tally goes over tokens, each of which adds its share within the limits. -/
inductive Tally.Passes : Tally → List Token → Tally → Prop where
  | nil (t : Tally) : Passes t [] t
  | cons {t m t' token ts} (adds : t.Adds token m) (passes : Passes m ts t') : Passes t (token :: ts) t'

/-- What an expression takes of the limits: operators to count, and brackets open at once. -/
structure Fits (t : Tally) (e : Expr) (t' : Tally) : Prop where
  level : t'.nesting = t.nesting
  counted : t.operators + e.compounds ≤ t'.operators
  nested : ∀ n part, e.Holds n part → t.nesting + n ≤ maxNesting

/-- The same of the arguments of a call. -/
structure FitsAll (t : Tally) (args : List Expr) (t' : Tally) : Prop where
  level : t'.nesting = t.nesting
  counted : t.operators + compoundsAll args ≤ t'.operators
  nested : ∀ arg ∈ args, ∀ n part, arg.Holds n part → t.nesting + n ≤ maxNesting

section
variable {t m m₁ m₂ t' : Tally} {ts us : List Token} {ps : List Piece} {e target key left right : Expr} {name : String} {rest : List Char}

theorem passes_append : t.Passes (ts ++ us) t' ↔ ∃ m, t.Passes ts m ∧ m.Passes us t' := by
  constructor
  · intro passes
    induction ts generalizing t with
    | nil => exact ⟨_,.nil _,passes⟩
    | cons token ts ih =>
      cases passes with
      | cons adds passes =>
        obtain ⟨m,first,second⟩ := ih passes
        exact ⟨m,.cons adds first,second⟩
  · rintro ⟨m,first,second⟩
    induction first with
    | nil => exact second
    | cons adds _ ih => exact .cons adds (ih second)

theorem passes_of_counts {afterDot : Bool} (reads : Reads afterDot ps rest) (outside : t.Outside)
    (counted : (text ps).foldlM Tally.count t = .ok t') : t.Passes (tokens ps) t' ∧ t'.Outside := by
  induction ps generalizing afterDot t with
  | nil =>
    cases counted
    exact ⟨.nil _,outside⟩
  | cons piece ps ih =>
    obtain ⟨m,first,others⟩ := count_append.mp counted
    cases piece with
    | blank c =>
      obtain ⟨_,counted,⟨⟩⟩ := count_cons.mp first
      cases (count_space outside reads.1).symm.trans counted
      exact ih reads.2 outside others
    | token token =>
      obtain ⟨outside_behind,adds⟩ := counts_token reads.1 outside first
      exact (ih reads.2 outside_behind others).imp_left (.cons adds)

theorem Fits.root (fits : Fits t e t') : t.nesting ≤ maxNesting := fits.nested 0 e (.root e)

theorem Fits.leaf (adds : t'.nesting = t.nesting ∧ t.operators ≤ t'.operators) (within : t.nesting ≤ maxNesting) (bare : e.compounds = 0)
    (alone : ∀ n part, e.Holds n part → n = 0) : Fits t e t' where
  level := adds.1
  counted := bare ▸ adds.2
  nested n part holds := alone n part holds ▸ within

theorem Fits.member (target : Fits t e m) (dot : m.Adds (.mark .dot) m₁) (field : m₁.Adds (.field name) t') : Fits t (.member e name) t' := by
  obtain ⟨level,counted⟩ := dot
  obtain ⟨level',counted'⟩ := field
  have below := target.counted
  refine ⟨by rw [level',level,target.level],by simp only [compounds]; omega,fun n part holds => ?_⟩
  cases holds with
  | root => exact target.root
  | target _ inside => exact target.nested n part inside

theorem Fits.index (target : Fits t e m) (opening : m.Adds (.mark .indexOpening) m₁) (subscript : Fits m₁ key m₂)
    (closing : m₂.Adds (.mark .indexClosing) t') : Fits t (.index e key) t' := by
  obtain ⟨level,counted,-⟩ := opening
  obtain ⟨level',counted'⟩ := closing
  have below := target.counted
  have inner := subscript.counted
  have opened : m₁.nesting = t.nesting + 1 := by rw [level,target.level]
  refine ⟨by rw [level',subscript.level,opened,Nat.add_sub_cancel],by simp only [compounds]; omega,fun n part holds => ?_⟩
  cases holds with
  | root => exact target.root
  | indexed _ inside => exact target.nested n part inside
  | subscript _ inside =>
    have under := subscript.nested _ part inside
    omega

theorem Fits.unary {op : UnaryOp} {text : String} (sign : t.Adds (.operator text) m) (operand : Fits m e t') : Fits t (.unary op e) t' := by
  obtain ⟨level,counted⟩ := sign
  have below := operand.counted
  refine ⟨by rw [operand.level,level],by simp only [compounds]; omega,fun n part holds => ?_⟩
  cases holds with
  | root => exact level ▸ operand.root
  | operand _ inside => exact level ▸ operand.nested n part inside

theorem Fits.binary {op : BinaryOp} {text : String} (first : Fits t left m) (sign : m.Adds (.operator text) m₁) (second : Fits m₁ right t') :
    Fits t (.binary op left right) t' := by
  obtain ⟨level,counted⟩ := sign
  have before := first.counted
  have behind := second.counted
  have same : m₁.nesting = t.nesting := by rw [level,first.level]
  refine ⟨by rw [second.level,same],by simp only [compounds]; omega,fun n part holds => ?_⟩
  cases holds with
  | root => exact first.root
  | left _ _ inside => exact first.nested n part inside
  | right _ _ inside => exact same ▸ second.nested n part inside

theorem Fits.group (opening : t.Adds (.mark .opening) m) (inner : Fits m e m₁) (closing : m₁.Adds (.mark .closing) t') : Fits t e t' := by
  obtain ⟨level,counted,-⟩ := opening
  obtain ⟨level',counted'⟩ := closing
  have below := inner.counted
  refine ⟨by rw [level',inner.level,level,Nat.add_sub_cancel],by omega,fun n part holds => ?_⟩
  have under := inner.nested n part holds
  omega

theorem Fits.call {args : List Expr} (word : t.Adds (.word name) m) (opening : m.Adds (.mark .opening) m₁) (arguments : FitsAll m₁ args m₂)
    (closing : m₂.Adds (.mark .closing) t') : Fits t (.call name args) t' := by
  obtain ⟨same,counted⟩ := word
  obtain ⟨level,counted',within⟩ := opening
  obtain ⟨level',counted''⟩ := closing
  have below := arguments.counted
  refine ⟨by rw [level',arguments.level,level,same,Nat.add_sub_cancel],by simp only [compounds]; omega,fun n part holds => ?_⟩
  cases holds with
  | root => omega
  | argument _ member inside =>
    have under := arguments.nested _ member _ part inside
    omega

/-- Tokens from which an expression of its size is derived, wherever a tally within the limits passes over them. -/
def Sized (ts : List Token) (e : Expr) : Prop := ∀ {t t' : Tally}, t.Passes ts t' → t.nesting ≤ maxNesting → Fits t e t'

theorem FitsAll.cons {arg : Expr} {args : List Expr} (first : Fits t arg m) (others : FitsAll m args t') : FitsAll t (arg :: args) t' where
  level := others.level.trans first.level
  counted := by
    have before := first.counted
    have behind := others.counted
    simp only [compoundsAll]
    omega
  nested := List.forall_mem_cons.mpr ⟨first.nested,first.level ▸ others.nested⟩

theorem fitsAll_behind_comma {args : Arguments} (sized : ∀ a ∈ args, Sized a.1 a.2)
    (passes : t.Passes ((args.map Prod.fst).flatMap (.mark .comma :: ·)) t') (within : t.nesting ≤ maxNesting) : FitsAll t (args.map Prod.snd) t' := by
  induction args generalizing t with
  | nil =>
    cases passes
    exact ⟨rfl,Nat.le_refl _,nofun⟩
  | cons a args ih =>
    obtain ⟨here,behind⟩ := List.forall_mem_cons.mp sized
    cases passes with
    | cons comma passes =>
      obtain ⟨level,counted⟩ := comma
      obtain ⟨m,first,others⟩ := passes_append.mp passes
      have fits := here first (level ▸ within)
      have all := FitsAll.cons fits (ih behind others (fits.level ▸ fits.root))
      exact ⟨all.level.trans level,Nat.le_trans (Nat.add_le_add_right (Nat.le_of_lt counted) _) all.counted,level ▸ all.nested⟩

theorem fitsAll_separated {args : Arguments} (sized : ∀ a ∈ args, Sized a.1 a.2) (passes : t.Passes (separated (args.map Prod.fst)) t')
    (within : t.nesting ≤ maxNesting) : FitsAll t (args.map Prod.snd) t' := by
  cases args with
  | nil =>
    cases passes
    exact ⟨rfl,Nat.le_refl _,nofun⟩
  | cons a args =>
    obtain ⟨here,behind⟩ := List.forall_mem_cons.mp sized
    obtain ⟨m,first,others⟩ := passes_append.mp passes
    have fits := here first within
    exact .cons fits (fitsAll_behind_comma behind others (fits.level ▸ fits.root))

theorem passes_singleton {token : Token} (passes : t.Passes [token] t') : t.Adds token t' := by
  cases passes with
  | cons adds none_behind => cases none_behind; exact adds

theorem Derives.sized {k : Nat} (derives : Derives k ts e) : Sized ts e := by
  -- Along the derivation the tally comes to each part with the brackets open that stand around it.
  induction derives with
  | looser _ _ ih => exact ih
  | binary _ _ _ _ ih_left ih_right =>
    intro t t' passes within
    obtain ⟨m,first,second⟩ := passes_append.mp passes
    cases second with
    | cons sign second =>
      have left := ih_left first within
      exact left.binary sign (ih_right second (sign.1 ▸ left.level ▸ within))
  | unary _ _ ih =>
    intro t t' passes within
    cases passes with
    | cons sign passes => exact .unary sign (ih passes (sign.1 ▸ within))
  | member name _ ih =>
    intro t t' passes within
    obtain ⟨m,first,second⟩ := passes_append.mp passes
    cases second with
    | cons dot second => exact (ih first within).member dot (passes_singleton second)
  | index _ _ ih ih_key =>
    intro t t' passes within
    obtain ⟨m,first,second⟩ := passes_append.mp passes
    cases second with
    | cons opening second =>
      obtain ⟨m,inner,closing⟩ := passes_append.mp second
      exact (ih first within).index opening (ih_key inner opening.2.2) (passes_singleton closing)
  | literal | reserved | ident =>
    intro t t' passes within
    have adds := passes_singleton passes
    exact .leaf adds within rfl (by rintro n part ⟨⟩; rfl)
  | call _ args _ ih =>
    intro t t' passes within
    cases passes with
    | cons word passes =>
      cases passes with
      | cons opening passes =>
        obtain ⟨m,inner,closing⟩ := passes_append.mp passes
        exact .call word opening (fitsAll_separated ih inner opening.2.2) (passes_singleton closing)
  | group _ ih =>
    intro t t' passes within
    cases passes with
    | cons opening passes =>
      obtain ⟨m,inner,closing⟩ := passes_append.mp passes
      exact .group opening (ih inner opening.2.2) (passes_singleton closing)

end

end Grammar

open Grammar

/-- An accepted source has an expression within the limits, of nodes as of nesting. -/
theorem parse_within_limits {source : String} {e : Expr} (accepted : parse source = .ok e) :
    e.compounds ≤ maxOperators ∧ e.height ≤ maxOperators + 1 ∧ ∀ n part, e.Holds n part → n ≤ maxNesting := by
  obtain ⟨⟨t,counted⟩,ps,laid,derived,-⟩ := parse_eq_ok.mp accepted
  obtain ⟨same,reads⟩ := layout?_eq_some.mp laid
  have outside : Tally.Outside ⟨0,0,none,false⟩ := ⟨rfl,rfl,Nat.zero_le _⟩
  obtain ⟨passes,ends⟩ := passes_of_counts reads outside (same ▸ counted)
  have fits := derived.sized passes (Nat.zero_le _)
  have small : e.compounds ≤ maxOperators := by
    have counted := fits.counted
    have within := ends.within
    omega
  exact ⟨small,Nat.le_trans (height_le_compounds e) (Nat.succ_le_succ small),fun n part holds => Nat.zero_add n ▸ fits.nested n part holds⟩

theorem quoted_brackets_do_not_count :
    let e : Expr := .call "f" [.index (.ident "a") (.member (.ident "b") "c"),.literal (.string "(")]
    parse "f(a[b.c],'(')" = .ok e ∧ e.compounds ≤ maxOperators ∧ e.height ≤ maxOperators + 1 ∧ ∀ n part, e.Holds n part → n ≤ maxNesting := by
  intro e
  have letters : "f(a[b.c],'(')".toList = ['f','(','a','[','b','.','c',']',',','\'','(','\'',')'] := rfl
  have accepted : parse "f(a[b.c],'(')" = .ok e := by
    rw [parse,letters]
    rfl
  exact ⟨accepted,parse_within_limits accepted⟩

end Flowgraph.Expr
