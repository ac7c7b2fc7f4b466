import Flowgraph.Proofs.Expression.Soundness
import Mathlib.Data.List.DropRight

/-! Whatever the documented grammar derives is accepted where no blank behind a field is left over.
The grammar associates binary operators and accesses to the left, so a reader is compared with what it
still has to read once it has read an operand; what follows the text must not continue it. -/

namespace Flowgraph.Expr.Grammar

/-- The reader of a rank, with at most `u` unary operators before an operand. -/
def reader (n u k : Nat) : Parser Expr :=
  if k ≤ 6 then (levels.drop k).foldr (chain n) (unary (postfixed n (expression n)) u)
  else if k = 7 then postfixed n (expression n)
  else primary n (expression n)

/-- What the reader of a rank does after an operand. -/
def onward (n u k m : Nat) (left : Expr) : Parser Expr :=
  match levels[k]? with
  | some table => chainRest table (reader n u (k + 1)) m left
  | none => if k = 7 then accesses (expression n) m left else .ok left

/-- Nothing that the reader of the rank or of a tighter one goes on with stands first. -/
structure Tight (k : Nat) (s : List Char) : Prop where
  call : s.head? ≠ some '('
  access : k ≤ 7 → s.head? ≠ some '.' ∧ s.head? ≠ some '['
  level : ∀ j table, k ≤ j → levels[j]? = some table → spelled table s = .miss s

section
variable {n u k m : Nat} {table : Spellings} {s rest rest' : List Char} {e : Expr} {c : Char} {p q : Place} {ps : List Piece}

theorem Tight.mono {j : Nat} (tight : Tight k s) (le : k ≤ j) : Tight j s :=
  ⟨tight.call,fun bound => tight.access (Nat.le_trans le bound),fun i table bound => tight.level i table (Nat.le_trans le bound)⟩

theorem reader_level (level : levels[k]? = some table) : reader n u k = chain n table (reader n u (k + 1)) := by
  obtain ⟨bound,same⟩ := List.getElem?_eq_some_iff.mp level
  have small : k + 1 ≤ 6 := bound
  unfold reader
  rw [if_pos (by omega),if_pos small,List.drop_eq_getElem_cons bound,same]
  rfl

theorem skipSpace_idem (s : List Char) : skipSpace (skipSpace s) = skipSpace s := List.dropWhile_idempotent ..

theorem spaced_skipSpace (r : Parser α) : spaced r (skipSpace s) = spaced r s := by
  unfold spaced
  rw [skipSpace_idem]

theorem reader_skipSpace : reader n u k (skipSpace s) = reader n u k s := by
  have primaries : primary n (expression n) (skipSpace s) = primary n (expression n) s := spaced_skipSpace _
  have postfixes : postfixed n (expression n) (skipSpace s) = postfixed n (expression n) s := by
    simp only [postfixed,primaries]
  have unaries (u : Nat) : unary (postfixed n (expression n)) u (skipSpace s) = unary (postfixed n (expression n)) u s := by
    induction u with
    | zero => exact postfixes
    | succ u ih => simp only [unary,orElse,prefixed,spaced_skipSpace,postfixes]
  have chains (tables : List Spellings) : tables.foldr (chain n) (unary (postfixed n (expression n)) u) (skipSpace s) =
      tables.foldr (chain n) (unary (postfixed n (expression n)) u) s := by
    induction tables with
    | nil => exact unaries u
    | cons table tables ih => simp only [List.foldr_cons,chain,ih]
  unfold reader
  split
  · exact chains _
  · split
    · exact postfixes
    · exact primaries

theorem char_miss (other : s.head? ≠ some c) : char c s = .miss s := by
  cases s with
  | nil => rfl
  | cons d s =>
    have different : c ≠ d := fun same => other (same ▸ rfl)
    simp [char,different]

theorem spaced_miss {r : Parser α} (missed : r (skipSpace s) = .miss rest) : spaced r s = .miss rest := by
  unfold spaced
  rw [missed]

theorem onward_level (level : levels[k]? = some table) : onward n u k m e = chainRest table (reader n u (k + 1)) m e := by
  unfold onward
  rw [level]

theorem onward_accesses : onward n u 7 m e = accesses (expression n) m e := rfl

theorem onward_tight (tight : Tight k rest) (same : skipSpace rest' = rest) : onward n u k m e rest' = .ok e rest' := by
  cases level : levels[k]? with
  | some table =>
    rw [onward_level level]
    cases m with
    | zero => rfl
    | succ m =>
      have missed : spaced (spelled table) rest' = .miss rest := spaced_miss (by rw [same]; exact tight.level k table (Nat.le_refl k) level)
      simp only [chainRest,missed]
  | none =>
    by_cases seven : k = 7
    · subst seven
      obtain ⟨dot,bracket⟩ := tight.access (Nat.le_refl 7)
      rw [onward_accesses]
      cases m with
      | zero => rfl
      | succ m =>
        have no_dot : spaced (char '.') rest' = .miss rest := spaced_miss (by rw [same]; exact char_miss dot)
        have no_bracket : spaced (char '[') rest' = .miss rest := spaced_miss (by rw [same]; exact char_miss bracket)
        simp only [accesses,memberAccess,no_dot,indexAccess,no_bracket]
    · unfold onward
      rw [level,if_neg seven]

theorem skipSpace_token {afterDot : Bool} {t : Token} (read : token? afterDot s = some (t,rest)) : skipSpace s = s := by
  obtain ⟨rfl,⟨c,more,spelt,solid⟩,-⟩ := token?_spread read
  rw [spelt]
  exact List.dropWhile_cons_of_neg (by rw [solid]; decide)

theorem Runs.of_blanks (runs : Runs p ps rest q) (empty : tokens ps = []) :
    skipSpace (text ps ++ rest) = skipSpace rest ∧ (q = p ∧ text ps = [] ∨ q = p.blank) := by
  induction ps generalizing p with
  | nil => cases runs; exact ⟨rfl,.inl ⟨rfl,rfl⟩⟩
  | cons piece ps ih =>
    cases runs with
    | blank space runs =>
      obtain ⟨skipped,place⟩ := ih runs empty
      refine ⟨?_,.inr ?_⟩
      · rw [text_cons,Piece.text,List.append_assoc,← skipped]
        exact List.dropWhile_cons_of_pos space
      · rcases place with ⟨rfl,-⟩ | rfl
        · rfl
        · exact p.blank_blank
    | token => cases empty

theorem Runs.of_blanks_eq (runs : Runs p ps rest q) (empty : tokens ps = []) (field : p.last.any Token.isField = false) : q = p := by
  rcases (runs.of_blanks empty).2 with ⟨rfl,-⟩ | rfl
  · rfl
  · exact Place.blank_eq field

theorem Runs.split {t : Token} {ts us : List Token} (runs : Runs p ps rest q) (same : tokens ps = ts ++ t :: us) :
    ∃ before behind m, ps = before ++ .token t :: behind ∧ tokens before = ts ∧ tokens behind = us ∧
      Runs p before (t.text ++ (text behind ++ rest)) m ∧ token? m.afterDot (t.text ++ (text behind ++ rest)) = some (t,text behind ++ rest) ∧
      m.admits t = true ∧ Runs (m.token t) behind rest q := by
  obtain ⟨before,others,rfl,before_eq,others_eq⟩ := tokens_eq_append same
  obtain ⟨spaces,behind,rfl,spaces_eq,behind_eq⟩ := tokens_eq_cons others_eq
  rw [← List.append_assoc] at runs
  obtain ⟨m,first,second⟩ := runs_append.mp runs
  cases second with
  | token read admitted second =>
    refine ⟨before ++ spaces,behind,m,by rw [List.append_assoc],by rw [tokens_append,before_eq,spaces_eq,List.append_nil],behind_eq,?_,
      read,admitted,second⟩
    rw [text_cons,List.append_assoc] at first
    exact first

theorem token?_of_place (dot : p.last.any Token.isDot = false) {t : Token} (read : token? p.afterDot s = some (t,rest)) :
    token? false s = some (t,rest) := by
  rwa [Place.afterDot,dot] at read

theorem Runs.first {t : Token} {more : List Token} (runs : Runs p ps rest q) (field : p.last.any Token.isField = false)
    (same : tokens ps = t :: more) : ∃ behind, tokens behind = more ∧ skipSpace (text ps ++ rest) = t.text ++ (text behind ++ rest) ∧
      token? p.afterDot (t.text ++ (text behind ++ rest)) = some (t,text behind ++ rest) ∧ Runs (p.token t) behind rest q := by
  obtain ⟨spaces,behind,m,rfl,empty,behind_eq,first,read,-,second⟩ := runs.split (show tokens ps = [] ++ t :: more from same)
  obtain rfl := first.of_blanks_eq empty field
  refine ⟨behind,behind_eq,?_,read,second⟩
  rw [text_append,text_cons,List.append_assoc,List.append_assoc]
  exact (first.of_blanks empty).1.trans (skipSpace_token read)

theorem Runs.last (runs : Runs p ps rest q) : q.last = (tokens ps).getLast?.or p.last := by
  induction runs with
  | nil => rfl
  | blank _ _ ih => exact ih
  | token _ _ _ ih =>
    rw [ih,tokens_token,List.getLast?_cons]
    cases (tokens _).getLast? <;> rfl

theorem Derives.stop {ts : List Token} (derives : Derives k ts e) : ∃ t, ts.getLast? = some t ∧ t.isDot = false := by
  induction derives with
  | looser _ _ ih => exact ih
  | binary _ _ _ _ _ ih =>
    obtain ⟨t,last,stops⟩ := ih
    exact ⟨t,by rw [List.getLast?_append,List.getLast?_cons,last]; rfl,stops⟩
  | unary _ _ ih =>
    obtain ⟨t,last,stops⟩ := ih
    exact ⟨t,by rw [List.getLast?_cons,last]; rfl,stops⟩
  | member name => exact ⟨.field name,by simp,rfl⟩
  | index => exact ⟨.mark .indexClosing,by simp [List.getLast?_cons],rfl⟩
  | call | group => exact ⟨.mark .closing,by simp [List.getLast?_cons],rfl⟩
  | literal | reserved | ident => exact ⟨_,rfl,rfl⟩

theorem Derives.dot (derives : Derives k (tokens ps) e) (runs : Runs p ps rest q) : q.last.any Token.isDot = false := by
  obtain ⟨t,last,stops⟩ := derives.stop
  rw [runs.last,last]
  exact stops

theorem text_split {t : Token} {before behind : List Piece} :
    text (before ++ .token t :: behind) ++ rest = text before ++ (t.text ++ (text behind ++ rest)) := by
  rw [text_append,text_cons,List.append_assoc,List.append_assoc]
  rfl

theorem level_unique {i j : Nat} {a b : Spellings} {text : String} {x y : BinaryOp} (first : levels[i]? = some a) (second : levels[j]? = some b)
    (mem : (text,x) ∈ a) (mem' : (text,y) ∈ b) : i = j := by
  obtain ⟨i_lt,rfl⟩ := List.getElem?_eq_some_iff.mp first
  obtain ⟨j_lt,rfl⟩ := List.getElem?_eq_some_iff.mp second
  rcases Nat.lt_trichotomy i j with less | same | more
  · exact absurd rfl (List.pairwise_iff_getElem.mp levels_apart i j i_lt j_lt less (text,x) mem (text,y) mem')
  · exact same
  · exact absurd rfl (List.pairwise_iff_getElem.mp levels_apart j i j_lt i_lt more (text,y) mem' (text,x) mem)

theorem operator?_of_token {text : String} (read : token? false s = some (.operator text,rest)) : operator? s = some (text,rest) := by
  rcases token?_cases read with ⟨_,same,-⟩ | ⟨_,_,same,-⟩ | ⟨_,same,found⟩ | ⟨_,same,-⟩
  · cases same
  · cases same
  · cases same; exact found
  · cases same

theorem tight_operator {text : String} {op : BinaryOp} (level : levels[k]? = some table) (listed : (text,op) ∈ table)
    (read : operator? s = some (text,rest)) : Tight (k + 1) s := by
  obtain ⟨known,same⟩ := operator?_eq_some read
  obtain ⟨c,more,spelt,sign⟩ := operators_start known
  have head : s.head? = some c := by rw [same,spelt]; rfl
  have other (d : Char) (no_sign : d ∉ signs) : s.head? ≠ some d := fun found => by
    rw [head] at found
    cases found
    exact no_sign sign
  refine ⟨other _ (by decide),fun _ => ⟨other _ (by decide),other _ (by decide)⟩,fun j table' bound level' => ?_⟩
  refine spelled_miss (List.mem_of_getElem? level') fun text' _ read' op' listed' => ?_
  cases read.symm.trans read'
  have same_level := level_unique level level' listed listed'
  omega

theorem tight_head (call : s.head? ≠ some '(') (access : k ≤ 7 → s.head? ≠ some '.' ∧ s.head? ≠ some '[') (other : ∀ c ∈ s.head?, c ∉ signs) :
    Tight k s := by
  refine ⟨call,access,fun j table _ level => spelled_miss (List.mem_of_getElem? level) fun text _ read => ?_⟩
  obtain ⟨known,same⟩ := operator?_eq_some read
  obtain ⟨c,more,spelt,sign⟩ := operators_start known
  exact absurd sign (other c (by rw [same,spelt]; rfl))

end

/-- What is left of a text where an operand of it ends: all that stands behind, and blanks behind a field. -/
structure Left (p q : Place) (rest rest' : List Char) : Prop where
  opened : q.opened = p.opened
  skipped : skipSpace rest' = rest
  tight : q.loose = false → rest' = rest

/-- Where the tokens stand for an operand of the rank, its reader reads it and goes on behind it. -/
def Complete (k : Nat) (ts : List Token) (e : Expr) : Prop :=
  ∀ {ps rest p q n u}, tokens ps = ts → Runs p ps rest q → p.Fresh → skipSpace rest = rest → Tight (k + 1) rest → ts.length ≤ n → ts.length ≤ u →
    ∃ m rest', n ≤ m + ts.length ∧ reader n u k (text ps ++ rest) = onward n u k m e rest' ∧ Left p q rest rest'

section
variable {k n u : Nat} {ts : List Token} {e : Expr} {ps : List Piece} {rest s : List Char} {p q : Place}

theorem unary_operand {operand : Parser Expr} (not : (skipSpace s).head? ≠ some '!') (neg : (skipSpace s).head? ≠ some '-') :
    unary operand u s = operand s := by
  cases u with
  | zero => rfl
  | succ u =>
    simp only [unary,orElse,prefixed,spaced_miss (char_miss not),spaced_miss (char_miss neg)]

theorem complete_looser (bound : k < 8) (derives : Derives (k + 1) ts e) (inner : Complete (k + 1) ts e) : Complete k ts e := by
  intro ps rest p q n u same runs fresh solid tight fits unaries
  obtain ⟨m,rest',-,read,left⟩ := inner same runs fresh solid (tight.mono (Nat.le_succ _)) fits unaries
  rw [onward_tight tight left.skipped] at read
  refine ⟨n,rest',Nat.le_add_right ..,?_,left⟩
  cases level : levels[k]? with
  | some table => simp only [reader_level level,onward_level level,chain,read]
  | none =>
    have high : 6 ≤ k := List.getElem?_eq_none_iff.mp level
    obtain rfl | rfl : k = 6 ∨ k = 7 := by omega
    · obtain ⟨t,more,rfl,opens | ⟨low,-⟩⟩ := derives.start
      · obtain ⟨behind,-,skipped,first,-⟩ := runs.first fresh.field same
        obtain ⟨c,others,same',no_sign⟩ := head?_of_opensOperand (token?_of_place fresh.dot first) opens
        rw [← skipped] at same'
        refine (unary_operand ?_ ?_).trans read
        · rw [same']; rintro ⟨⟩; exact no_sign (by decide)
        · rw [same']; rintro ⟨⟩; exact no_sign (by decide)
      · omega
    · have primary_read : primary n (expression n) (text ps ++ rest) = .ok e rest' := read
      rw [onward_accesses]
      change postfixed n (expression n) (text ps ++ rest) = _
      simp only [postfixed,primary_read]

theorem fresh_operator (p : Place) (text : String) : (p.token (.operator text)).Fresh := fresh_token rfl rfl rfl

theorem complete_binary {table : Spellings} {text : String} {op : BinaryOp} {ls rs : List Token} {l r : Expr} (level : levels[k]? = some table)
    (listed : (text,op) ∈ table) (derived : Derives k ls l) (left : Complete k ls l) (right : Complete (k + 1) rs r) :
    Complete k (ls ++ .operator text :: rs) (.binary op l r) := by
  intro ps rest p q n u same runs fresh solid tight fits unaries
  obtain ⟨before,behind,m,rfl,rfl,rfl,first,read,-,second⟩ := runs.split same
  rw [List.length_append,List.length_cons] at fits unaries
  have found := operator?_of_token (token?_of_place (derived.dot first) read)
  obtain ⟨steps,rest₁,some_left,read_left,left₁⟩ :=
    left rfl first fresh (skipSpace_token read) (tight_operator level listed found) (n := n) (u := u) (by omega) (by omega)
  obtain ⟨_,rest₂,-,read_right,left₂⟩ :=
    right rfl second (fresh_operator m text) solid (tight.mono (Nat.le_succ _)) (n := n) (u := u) (by omega) (by omega)
  rw [onward_tight tight left₂.skipped] at read_right
  obtain ⟨steps,rfl⟩ : ∃ more, steps = more + 1 := ⟨steps - 1,by omega⟩
  refine ⟨steps,rest₂,?_,?_,left₂.opened.trans left₁.opened,left₂.skipped,left₂.tight⟩
  · rw [List.length_append,List.length_cons]
    omega
  · have operator_read : spaced (spelled table) rest₁ = .ok op (skipSpace (Grammar.text behind ++ rest)) :=
      spaced_eq_ok.mpr ⟨_,by rw [left₁.skipped]; exact spelled_of_operator? (List.mem_of_getElem? level) listed found,rfl⟩
    have operand_read : committed (reader n u (k + 1)) (skipSpace (Grammar.text behind ++ rest)) = .ok r rest₂ :=
      committed_eq_ok.mpr (reader_skipSpace.trans read_right)
    rw [text_split,read_left,onward_level level,onward_level level]
    simp only [chainRest,operator_read,operand_read]

theorem complete_unary {text : String} {op : UnaryOp} (listed : (text,op) ∈ unaryOps) (operand : Complete 6 ts e) :
    Complete 6 (.operator text :: ts) (.unary op e) := by
  intro ps rest p q n u same runs fresh solid tight fits unaries
  obtain ⟨behind,rfl,skipped,-,second⟩ := runs.first fresh.field same
  rw [List.length_cons] at fits unaries
  obtain ⟨u,rfl⟩ : ∃ fewer, u = fewer + 1 := ⟨u - 1,by omega⟩
  obtain ⟨_,rest',-,read,left⟩ := operand rfl second (fresh_operator p text) solid tight (n := n) (u := u) (by omega) (by omega)
  have operand_read : unary (postfixed n (expression n)) u (skipSpace (Grammar.text behind ++ rest)) = .ok e rest' :=
    (reader_skipSpace (k := 6)).trans read
  refine ⟨n,rest',Nat.le_add_right ..,?_,left.opened,left.skipped,left.tight⟩
  change unary (postfixed n (expression n)) (u + 1) (Grammar.text ps ++ rest) = .ok (.unary op e) rest'
  simp only [unaryOps,List.mem_cons,Prod.mk.injEq,List.not_mem_nil,or_false] at listed
  rcases listed with ⟨rfl,rfl⟩ | ⟨rfl,rfl⟩
  · have sign : spaced (char '!') (Grammar.text ps ++ rest) = .ok () (skipSpace (Grammar.text behind ++ rest)) :=
      spaced_eq_ok.mpr ⟨_,char_eq_ok.mpr skipped,rfl⟩
    simp only [unary,orElse,prefixed,sign,operand_read]
  · have no_sign : spaced (char '!') (Grammar.text ps ++ rest) = .miss _ := spaced_miss (char_miss (by rw [skipped]; rintro ⟨⟩))
    have sign : spaced (char '-') (Grammar.text ps ++ rest) = .ok () (skipSpace (Grammar.text behind ++ rest)) :=
      spaced_eq_ok.mpr ⟨_,char_eq_ok.mpr skipped,rfl⟩
    simp only [unary,orElse,prefixed,no_sign,sign,operand_read]

theorem tight_access (m : Mark) (access : m = .dot ∨ m = .indexOpening) : Tight 8 (m.char :: s) := by
  refine tight_head ?_ (fun bound => absurd bound (by decide)) ?_
  all_goals rcases access with rfl | rfl <;> simp [Mark.char,signs]

theorem tight_closer (m : Mark) (closer : m = .comma ∨ m = .closing ∨ m = .indexClosing) : Tight 0 (m.char :: s) := by
  refine tight_head ?_ (fun _ => ⟨?_,?_⟩) ?_
  all_goals rcases closer with rfl | rfl | rfl <;> simp [Mark.char,signs]

theorem fieldName_of_token {name : String} (read : token? true s = some (.field name,rest)) : fieldName s = .ok name rest := by
  simp only [token?,if_true] at read
  split at read
  · next found => cases read; exact found
  · cases read

theorem complete_member (name : String) (derived : Derives 7 ts e) (target : Complete 7 ts e) :
    Complete 7 (ts ++ [.mark .dot,.field name]) (.member e name) := by
  intro ps rest p q n u same runs fresh solid tight fits unaries
  obtain ⟨before,behind,m,rfl,rfl,behind_eq,first,read,-,second⟩ := runs.split same
  obtain ⟨after,empty,skipped,field,third⟩ := second.first rfl behind_eq
  rw [List.length_append] at fits unaries ⊢
  have fits : (tokens before).length + 2 ≤ n := fits
  obtain ⟨steps,rest₁,some_left,read_left,left₁⟩ :=
    target rfl first fresh (skipSpace_token read) (tight_access .dot (.inl rfl)) (n := n) (u := u) (by omega)
      (Nat.le_trans (Nat.le_add_right ..) unaries)
  obtain ⟨steps,rfl⟩ : ∃ more, steps = more + 1 := ⟨steps - 1,by omega⟩
  have access : memberAccess rest₁ = .ok name (text after ++ rest) := by
    have dot : spaced (char '.') rest₁ = .ok () (skipSpace (text behind ++ rest)) := spaced_eq_ok.mpr ⟨_,char_eq_ok.mpr left₁.skipped,rfl⟩
    simp only [memberAccess,dot]
    rw [skipped]
    exact fieldName_of_token field
  obtain ⟨trailing,place⟩ := third.of_blanks empty
  refine ⟨steps,text after ++ rest,?_,?_,?_,trailing.trans solid,fun tight => ?_⟩
  · simp only [List.length_cons,List.length_nil]
    omega
  · rw [text_split,read_left,onward_accesses,onward_accesses]
    simp only [accesses,access]
  · rcases place with ⟨rfl,-⟩ | rfl <;> exact left₁.opened
  · rcases place with ⟨-,none⟩ | rfl
    · rw [none,List.nil_append]
    · cases tight

theorem expression_skipSpace (some : 0 < n) : expression n (skipSpace s) = expression n s := by
  obtain ⟨n,rfl⟩ := Nat.exists_eq_succ_of_ne_zero (Nat.ne_of_gt some)
  exact reader_skipSpace (n := n) (u := n) (k := 0)

theorem Complete.expression (complete : Complete 0 ts e) (same : tokens ps = ts) (runs : Runs p ps rest q) (fresh : p.Fresh)
    (solid : skipSpace rest = rest) (tight : Tight 0 rest) (fits : ts.length < n) :
    ∃ rest', expression n (text ps ++ rest) = .ok e rest' ∧ Left p q rest rest' := by
  obtain ⟨n,rfl⟩ := Nat.exists_eq_succ_of_ne_zero (Nat.ne_zero_of_lt fits)
  have fits : ts.length ≤ n := Nat.le_of_lt_succ fits
  obtain ⟨steps,rest',-,read,left⟩ := complete same runs fresh solid (tight.mono (Nat.le_succ 0)) fits fits
  rw [onward_tight tight left.skipped] at read
  exact ⟨rest',read,left⟩

theorem complete_index {ks : List Token} {key : Expr} (derived : Derives 7 ts e) (derived_key : Derives 0 ks key) (target : Complete 7 ts e)
    (subscript : Complete 0 ks key) : Complete 7 (ts ++ .mark .indexOpening :: (ks ++ [.mark .indexClosing])) (.index e key) := by
  intro ps rest p q n u same runs fresh solid tight fits unaries
  obtain ⟨before,inside,m,rfl,rfl,inside_eq,first,read,-,second⟩ := runs.split same
  obtain ⟨inner,after,m',rfl,rfl,empty,third,closing,-,fourth⟩ := second.split inside_eq
  rw [List.length_append,List.length_cons,List.length_append] at fits unaries ⊢
  have closer := token?_of_place (derived_key.dot third) closing
  obtain ⟨steps,rest₁,some_left,read_left,left₁⟩ :=
    target rfl first fresh (skipSpace_token read) (tight_access .indexOpening (.inr rfl)) (n := n) (u := u) (by omega) (by omega)
  obtain ⟨steps,rfl⟩ : ∃ more, steps = more + 1 := ⟨steps - 1,by omega⟩
  obtain ⟨rest₂,read_key,left₂⟩ :=
    subscript.expression rfl third (fresh_token rfl rfl rfl) (skipSpace_token closer) (tight_closer .indexClosing (.inr (.inr rfl)))
      (n := n) (by omega)
  have access : indexAccess (Grammar.expression n) rest₁ = .ok key (skipSpace (text after ++ rest)) := by
    have opening : spaced (char '[') rest₁ = .ok () (skipSpace (text (inner ++ .token (.mark .indexClosing) :: after) ++ rest)) :=
      spaced_eq_ok.mpr ⟨_,char_eq_ok.mpr left₁.skipped,rfl⟩
    have bracket : spaced (char ']') rest₂ = .ok () (skipSpace (text after ++ rest)) := spaced_eq_ok.mpr ⟨_,char_eq_ok.mpr left₂.skipped,rfl⟩
    simp only [indexAccess,opening,expression_skipSpace (show 0 < n by omega),text_split,read_key,bracket]
  have trailing : skipSpace (text after ++ rest) = rest := (fourth.of_blanks empty).1.trans solid
  refine ⟨steps,rest,?_,?_,?_,solid,fun _ => rfl⟩
  · simp only [List.length_cons,List.length_nil]
    omega
  · rw [text_split,read_left,onward_accesses,onward_accesses]
    have no_dot : memberAccess rest₁ = .miss rest₁ := by
      have missed : spaced (char '.') rest₁ = .miss _ := spaced_miss (char_miss (by rw [left₁.skipped]; exact nofun))
      simp only [memberAccess,missed]
    simp only [accesses,no_dot,access,trailing]
  · rw [fourth.of_blanks_eq empty rfl]
    exact (congrArg List.tail left₂.opened).trans left₁.opened

/-- What stands by itself, without the blanks around it. -/
abbrev operand (n : Nat) : Parser Expr :=
  orElse numberLiteral (orElse stringLiteral (orElse (parenthesized (expression n)) (named n (expression n))))

theorem complete_operand (complete : ∀ {ps rest p q n}, tokens ps = ts → Runs p ps rest q → p.Fresh → skipSpace rest = rest →
    Tight 9 rest → ts.length ≤ n → q.opened = p.opened ∧ ∃ left, operand n (skipSpace (text ps ++ rest)) = .ok e left ∧ skipSpace left = rest) :
    Complete 8 ts e := by
  intro ps rest p q n u same runs fresh solid tight fits _
  obtain ⟨opened,left,read,skipped⟩ := complete same runs fresh solid tight fits
  exact ⟨n,rest,Nat.le_add_right ..,spaced_eq_ok.mpr ⟨left,read,skipped.symm⟩,opened,solid,fun _ => rfl⟩

theorem complete_literal (t : List Char) (value : Json) : Complete 8 [.literal t value] (.literal value) := by
  refine complete_operand fun same runs fresh solid tight fits => ?_
  obtain ⟨behind,empty,skipped,read,second⟩ := runs.first fresh.field same
  rw [second.of_blanks_eq empty rfl]
  refine ⟨rfl,_,?_,(second.of_blanks empty).1.trans solid⟩
  rcases token?_cases (token?_of_place fresh.dot read) with ⟨_,same,-⟩ | ⟨_,_,same,-,found⟩ | ⟨_,same,-⟩ | ⟨_,same,-⟩
  · cases same
  · cases same
    rw [skipped,operand,orElse_assoc]
    unfold orElse at found ⊢
    rw [found]
  · cases same
  · cases same

theorem operand_word {name : String} (read : identifier s = .ok name rest) : operand n s = named n (expression n) s := by
  obtain ⟨rfl,⟨c,cs,spelt,start,-⟩,-⟩ := identifier_eq_ok.mp read
  rw [spelt,List.cons_append]
  have apart (d : Char) (other : isNameStart d = false) : c ≠ d := fun same => by rw [same,other] at start; cases start
  have digit : c.isDigit = false := Bool.eq_false_iff.mpr fun digit => by rw [not_isNameStart_of_isDigit digit] at start; cases start
  have quote : isQuote c = false := Bool.eq_false_iff.mpr fun quote => by rw [(of_isQuote quote).1] at start; cases start
  simp only [operand,orElse,numberLiteral_miss digit,stringLiteral_miss quote,parenthesized,
    char_miss (c := '(') (s := c :: (cs ++ rest)) (fun same => apart '(' rfl (Option.some.inj same))]

theorem operand_opening (read : parenthesized (expression n) ('(' :: s) = .ok e rest) : operand n ('(' :: s) = .ok e rest := by
  have number : numberLiteral ('(' :: s) = .miss _ := numberLiteral_miss rfl
  have string : stringLiteral ('(' :: s) = .miss _ := stringLiteral_miss rfl
  simp only [operand,orElse,number,string,read]

theorem identifier_of_token {name : String} (read : token? false s = some (.word name,rest)) : identifier s = .ok name rest := by
  rcases token?_cases read with ⟨_,same,found⟩ | ⟨_,_,same,-⟩ | ⟨_,same,-⟩ | ⟨_,same,-⟩
  · cases same; exact found
  · cases same
  · cases same
  · cases same

theorem complete_reserved {name : String} {value : Json} (known : reserved? name = some value) : Complete 8 [.word name] (.literal value) := by
  refine complete_operand fun {_ _ _ _ n} same runs fresh solid tight fits => ?_
  obtain ⟨behind,empty,skipped,read,second⟩ := runs.first fresh.field same
  rw [second.of_blanks_eq empty rfl,skipped]
  have word := identifier_of_token (token?_of_place fresh.dot read)
  refine ⟨rfl,_,(operand_word (n := n) word).trans ?_,(second.of_blanks empty).1.trans solid⟩
  simp only [named,word,known]

theorem complete_ident {name : String} (free : reserved? name = none) : Complete 8 [.word name] (.ident name) := by
  refine complete_operand fun {_ rest _ _ n} same runs fresh solid tight fits => ?_
  obtain ⟨behind,empty,skipped,read,second⟩ := runs.first fresh.field same
  have trailing : skipSpace (text behind ++ rest) = rest := (second.of_blanks empty).1.trans solid
  rw [second.of_blanks_eq empty rfl,skipped]
  have word := identifier_of_token (token?_of_place fresh.dot read)
  refine ⟨rfl,_,(operand_word (n := n) word).trans ?_,trailing⟩
  have no_call : spaced (char '(') (text behind ++ rest) = .miss _ := spaced_miss (char_miss (by rw [trailing]; exact tight.call))
  simp only [named,word,free,callArguments,no_call]

theorem complete_group (derived : Derives 0 ts e) (inner : Complete 0 ts e) : Complete 8 (.mark .opening :: (ts ++ [.mark .closing])) e := by
  refine complete_operand fun {ps rest p q n} same runs fresh solid tight fits => ?_
  obtain ⟨inside,inside_eq,skipped,-,second⟩ := runs.first fresh.field same
  obtain ⟨before,behind,m,rfl,rfl,empty,third,closing,admitted,fourth⟩ := second.split inside_eq
  have closer := token?_of_place (derived.dot third) closing
  rw [List.length_cons,List.length_append] at fits
  obtain ⟨rest₁,read,left⟩ :=
    inner.expression rfl third (fresh_token rfl rfl rfl) (skipSpace_token closer) (tight_closer .closing (.inr (.inl rfl))) (n := n) (by omega)
  -- the innermost bracket is that of a group, whose closing one is read only where no blank is left over
  have grouped : m.opened = .group :: p.opened := by
    rw [left.opened,Place.token,fresh.word]
    rfl
  have tight_inside : m.loose = false := by simpa [Place.admits,grouped] using admitted
  have closes : committed (char ')') rest₁ = .ok () (text behind ++ rest) := committed_eq_ok.mpr (char_eq_ok.mpr (left.tight tight_inside))
  refine ⟨?_,text behind ++ rest,?_,(fourth.of_blanks empty).1.trans solid⟩
  · rw [fourth.of_blanks_eq empty rfl]
    exact congrArg List.tail grouped
  · have starts : skipSpace (text ps ++ rest) = '(' :: (text before ++ ((Token.mark .closing).text ++ (text behind ++ rest))) := by
      rw [skipped,text_split]
      rfl
    have opens : char '(' (skipSpace (text ps ++ rest)) = .ok () _ := char_eq_ok.mpr starts
    rw [starts] at opens ⊢
    refine operand_opening ?_
    simp only [parenthesized,opens,read,closes]

/-- No reader starts at a closing parenthesis, so that an empty list of arguments ends there. -/
theorem expression_closing (some : 0 < n) : ∃ near, expression n (')' :: s) = .miss near := by
  obtain ⟨n,rfl⟩ := Nat.exists_eq_succ_of_ne_zero (Nat.ne_of_gt some)
  have missed : operand n (')' :: s) = .miss (')' :: s) := by
    have number : numberLiteral (')' :: s) = .miss _ := numberLiteral_miss rfl
    have string : stringLiteral (')' :: s) = .miss _ := stringLiteral_miss rfl
    have opening : char '(' (')' :: s) = .miss _ := char_miss (by simp)
    have name : identifier (')' :: s) = .miss _ := identifier_miss rfl
    simp only [operand,orElse,number,string,parenthesized,opening,named,name]
  have primaries : primary n (expression n) (')' :: s) = .miss (')' :: s) := spaced_miss missed
  have unaries : unary (postfixed n (expression n)) n (')' :: s) = .miss (')' :: s) := by
    refine (unary_operand ?_ ?_).trans ?_
    · rintro ⟨⟩
    · rintro ⟨⟩
    · simp only [postfixed,primaries]
  have chains (tables : List Spellings) : tables.foldr (chain n) (unary (postfixed n (expression n)) n) (')' :: s) = .miss (')' :: s) := by
    induction tables with
    | nil => exact unaries
    | cons table tables ih => simp only [List.foldr_cons,chain,ih]
  exact ⟨_,chains levels⟩

theorem arguments_complete {a : List Token × Expr} {args : Arguments} (derived : ∀ b ∈ a :: args, Derives 0 b.1 b.2)
    (complete : ∀ b ∈ a :: args, Complete 0 b.1 b.2) (done : List Expr) {m : Nat}
    (same : tokens ps = separated ((a :: args).map Prod.fst)) (runs : Runs p ps (')' :: rest) q) (fresh : p.Fresh)
    (fits : (tokens ps).length < n) (enough : args.length ≤ m) : ∃ rest₁ rest₂, expression n (text ps ++ ')' :: rest) = .ok a.2 rest₁ ∧
      argumentsRest (expression n) m (a.2 :: done) rest₁ = .ok (done.reverse ++ a.2 :: args.map Prod.snd) rest₂ ∧
      Left p q (')' :: rest) rest₂ := by
  induction args generalizing a ps p done m with
  | nil =>
    have same : tokens ps = a.1 := by rw [same]; simp [separated]
    obtain ⟨rest₁,read,left⟩ := Complete.expression (complete a (List.mem_cons_self ..)) same runs fresh rfl (tight_closer .closing (.inr (.inl rfl)))
      (n := n) (by rw [← same]; exact fits)
    refine ⟨rest₁,rest₁,read,?_,left⟩
    have no_comma : char ',' rest₁ = .miss rest₁ := by
      refine char_miss fun comma => ?_
      obtain ⟨more,rfl⟩ : ∃ more, rest₁ = ',' :: more := by
        cases rest₁ with
        | nil => cases comma
        | cons c more => cases comma; exact ⟨more,rfl⟩
      cases left.skipped
    cases m with
    | zero => simp only [argumentsRest,List.reverse_cons,List.map_nil]
    | succ m => simp only [argumentsRest,no_comma,List.reverse_cons,List.map_nil]
  | cons b args ih =>
    have same : tokens ps = a.1 ++ .mark .comma :: separated ((b :: args).map Prod.fst) := by rw [same]; simp [separated]
    obtain ⟨before,behind,m₁,rfl,before_eq,behind_eq,first,read,admitted,second⟩ := runs.split same
    have member := List.mem_cons_self (a := a) (l := b :: args)
    have comma := token?_of_place ((before_eq ▸ derived a member).dot first) read
    rw [tokens_append,tokens_token,List.length_append,List.length_cons] at fits
    obtain ⟨rest₁,read_first,left₁⟩ := Complete.expression (complete a member) before_eq first fresh (skipSpace_token comma)
      (tight_closer .comma (.inl rfl)) (n := n) (by rw [← before_eq]; omega)
    -- a comma is read only where no blank is left over before it
    have at_comma := left₁.tight (by simpa [Place.admits] using admitted)
    obtain ⟨m,rfl⟩ : ∃ fewer, m = fewer + 1 := Nat.exists_eq_succ_of_ne_zero (Nat.ne_zero_of_lt enough)
    obtain ⟨rest₂,rest₃,read_next,read_rest,left₂⟩ := ih (fun c mem => derived c (List.mem_cons_of_mem _ mem))
      (fun c mem => complete c (List.mem_cons_of_mem _ mem)) (a.2 :: done) behind_eq second (fresh_token rfl rfl rfl) (by omega)
      (Nat.le_of_succ_le_succ enough)
    refine ⟨rest₁,rest₃,by rw [text_split]; exact read_first,?_,left₂.opened.trans left₁.opened,left₂.skipped,left₂.tight⟩
    have found : char ',' rest₁ = .ok () (text behind ++ ')' :: rest) := char_eq_ok.mpr at_comma
    simp only [argumentsRest,found,read_next,read_rest]
    simp

theorem argumentList_complete {args : Arguments} (derived : ∀ b ∈ args, Derives 0 b.1 b.2) (complete : ∀ b ∈ args, Complete 0 b.1 b.2)
    (same : tokens ps = separated (args.map Prod.fst)) (runs : Runs p ps (')' :: rest) q) (fresh : p.Fresh)
    (fits : (tokens ps).length < n) (enough : args.length ≤ n) :
    ∃ rest₁, argumentList n (expression n) (skipSpace (text ps ++ ')' :: rest)) = .ok (args.map Prod.snd) rest₁ ∧
      skipSpace rest₁ = ')' :: rest ∧ q.opened = p.opened := by
  cases args with
  | nil =>
    have skipped : skipSpace (text ps ++ ')' :: rest) = ')' :: rest := (runs.of_blanks same).1
    obtain ⟨near,missed⟩ := expression_closing (n := n) (s := rest) (Nat.zero_lt_of_lt fits)
    rw [runs.of_blanks_eq same fresh.field,skipped]
    exact ⟨')' :: rest,by simp only [argumentList,missed,List.map_nil],rfl,rfl⟩
  | cons a args =>
    obtain ⟨rest₁,rest₂,first,others,left⟩ := arguments_complete derived complete [] same runs fresh fits (m := n) (Nat.le_of_succ_le enough)
    refine ⟨rest₂,?_,left.skipped,left.opened⟩
    simp only [argumentList,expression_skipSpace (Nat.zero_lt_of_lt fits),first,others]
    rfl

theorem length_separated (tss : List (List Token)) (full : ∀ ts ∈ tss, ts ≠ []) : tss.length ≤ (separated tss).length := by
  cases tss with
  | nil => exact Nat.le_refl 0
  | cons ts rest =>
    have some := List.length_pos_of_ne_nil (full ts (List.mem_cons_self ..))
    have each : rest.length ≤ (rest.flatMap (Token.mark .comma :: ·)).length := by
      induction rest with
      | nil => exact Nat.le_refl 0
      | cons us rest ih =>
        rw [List.flatMap_cons,List.length_append,List.length_cons,List.length_cons]
        have shorter := ih fun vs member => full vs (by simp at member ⊢; tauto)
        omega
    rw [separated,List.length_append,List.length_cons]
    omega

theorem complete_call {name : String} (free : reserved? name = none) (args : Arguments) (derived : ∀ a ∈ args, Derives 0 a.1 a.2)
    (complete : ∀ a ∈ args, Complete 0 a.1 a.2) :
    Complete 8 (.word name :: .mark .opening :: (separated (args.map Prod.fst) ++ [.mark .closing])) (.call name (args.map Prod.snd)) := by
  refine complete_operand fun {ps rest p q n} same runs fresh solid tight fits => ?_
  obtain ⟨behind,behind_eq,skipped,read,second⟩ := runs.first fresh.field same
  have word := identifier_of_token (token?_of_place fresh.dot read)
  obtain ⟨inside,inside_eq,starts,-,third⟩ := second.first rfl behind_eq
  obtain ⟨inner,after,m,rfl,inner_eq,empty,fourth,-,-,fifth⟩ := third.split inside_eq
  have fourth : Runs _ inner (')' :: (text after ++ rest)) m := fourth
  rw [List.length_cons,List.length_cons,List.length_append] at fits
  have enough : args.length ≤ (separated (args.map Prod.fst)).length := by
    have each := length_separated (args.map Prod.fst) fun ts member => by
      obtain ⟨a,inside,rfl⟩ := List.mem_map.mp member
      obtain ⟨t,more,start,-⟩ := (derived a inside).start
      exact start ▸ List.cons_ne_nil t more
    rwa [List.length_map] at each
  obtain ⟨rest₁,listed,closes,opened⟩ := argumentList_complete derived complete inner_eq fourth (fresh_token rfl rfl rfl) (n := n)
    (by rw [inner_eq]; omega) (by omega)
  have trailing : skipSpace (text after ++ rest) = rest := (fifth.of_blanks empty).1.trans solid
  have called : callArguments n (expression n) (text behind ++ rest) = .ok (args.map Prod.snd) (text after ++ rest) := by
    have opening : spaced (char '(') (text behind ++ rest) = .ok () (skipSpace (text inner ++ ')' :: (text after ++ rest))) :=
      spaced_eq_ok.mpr ⟨_,char_eq_ok.mpr (starts.trans (by rw [text_split]; rfl)),rfl⟩
    have closing : committed (char ')') (skipSpace rest₁) = .ok () (text after ++ rest) := committed_eq_ok.mpr (char_eq_ok.mpr closes)
    simp only [callArguments,opening,listed,closing]
  rw [fifth.of_blanks_eq empty rfl,skipped]
  refine ⟨congrArg List.tail opened,_,(operand_word (n := n) word).trans ?_,trailing⟩
  simp only [named,word,free,called]

theorem Derives.complete (derives : Derives k ts e) : Complete k ts e := by
  induction derives with
  | looser bound inner ih => exact complete_looser bound inner ih
  | binary level listed left _ ih_left ih_right => exact complete_binary level listed left ih_left ih_right
  | unary listed _ ih => exact complete_unary listed ih
  | member name target ih => exact complete_member name target ih
  | index target subscript ih ih_key => exact complete_index target subscript ih ih_key
  | literal t value => exact complete_literal t value
  | reserved known => exact complete_reserved known
  | ident free => exact complete_ident free
  | call free args each ih => exact complete_call free args each ih
  | group inner ih => exact complete_group inner ih

end
end Flowgraph.Expr.Grammar
