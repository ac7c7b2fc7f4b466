import Flowgraph.Proofs.Expression.Token

/-! The documented grammar, over tokens, and the places where the readers take no blank. The readers
skip blanks before operators, accesses and whole operands and after all but a field. So a blank after
a field is left over where a comma, the end of a group or the end of the source stands behind it. -/

namespace Flowgraph.Expr.Grammar

def unaryOps : List (String × UnaryOp) := [("!",.not),("-",.neg)]

/-- Token lists with a comma before each but the first. -/
def separated : List (List Token) → List Token
  | [] => []
  | ts :: rest => ts ++ rest.flatMap (.mark .comma :: ·)

/-- What the tokens of a rank derive. The ranks 0 to 5 are the levels of binary operators, 6 is that
of unary operators, 7 of accesses and 8 of what stands by itself. -/
inductive Derives : Nat → List Token → Expr → Prop where
  | looser {k ts e} (bound : k < 8) (inner : Derives (k + 1) ts e) : Derives k ts e
  | binary {k table text op ls l rs r} (level : levels[k]? = some table) (spelt : (text,op) ∈ table)
      (left : Derives k ls l) (right : Derives (k + 1) rs r) : Derives k (ls ++ .operator text :: rs) (.binary op l r)
  | unary {text op ts e} (spelt : (text,op) ∈ unaryOps) (operand : Derives 6 ts e) : Derives 6 (.operator text :: ts) (.unary op e)
  | member {ts e} (name : String) (target : Derives 7 ts e) : Derives 7 (ts ++ [.mark .dot,.field name]) (.member e name)
  | index {ts e ks key} (target : Derives 7 ts e) (subscript : Derives 0 ks key) :
      Derives 7 (ts ++ .mark .indexOpening :: (ks ++ [.mark .indexClosing])) (.index e key)
  | literal (text : List Char) (value : Json) : Derives 8 [.literal text value] (.literal value)
  | reserved {name value} (known : reserved? name = some value) : Derives 8 [.word name] (.literal value)
  | ident {name} (free : reserved? name = none) : Derives 8 [.word name] (.ident name)
  | call {name} (free : reserved? name = none) (args : List (List Token × Expr)) (each : ∀ a ∈ args, Derives 0 a.1 a.2) :
      Derives 8 (.word name :: .mark .opening :: (separated (args.map Prod.fst) ++ [.mark .closing])) (.call name (args.map Prod.snd))
  | group {ts e} (inner : Derives 0 ts e) : Derives 8 (.mark .opening :: (ts ++ [.mark .closing])) e

inductive Bracket where
  | group | call | index
  deriving DecidableEq, Repr

/-- Where a scan stands: the brackets open, the innermost first, the last token, and whether blanks
stand behind a field. -/
structure Place where
  opened : List Bracket
  last : Option Token
  loose : Bool

def Token.isField : Token → Bool
  | .field _ => true
  | _ => false

def Token.isWord : Token → Bool
  | .word _ => true
  | _ => false

namespace Place

def start : Place := ⟨[],none,false⟩

def afterDot (p : Place) : Bool := p.last.any Token.isDot

def blank (p : Place) : Place := { p with loose := p.loose || p.last.any Token.isField }

/-- A parenthesis after a word opens the arguments of a call. -/
def token (p : Place) (t : Token) : Place where
  opened := match t with
    | .mark .opening => (if p.last.any Token.isWord then .call else .group) :: p.opened
    | .mark .indexOpening => .index :: p.opened
    | .mark .closing => p.opened.tail
    | .mark .indexClosing => p.opened.tail
    | _ => p.opened
  last := some t
  loose := false

def admits (p : Place) : Token → Bool
  | .mark .comma => !p.loose
  | .mark .closing => !p.loose || p.opened.head? != some .group
  | _ => true

theorem admits_of_tight {p : Place} {t : Token} (tight : p.loose = false) : p.admits t = true := by
  unfold admits
  rw [tight]
  split <;> rfl

/-- Neither a token that an operand ends in nor a dot came last. -/
structure Fresh (p : Place) : Prop where
  dot : p.last.any Token.isDot = false
  field : p.last.any Token.isField = false
  word : p.last.any Token.isWord = false
  tight : p.loose = false

end Place

/-- The place after the pieces, unless a blank among them is left over. -/
def scan : Place → List Piece → Option Place
  | p, [] => some p
  | p, .blank _ :: ps => scan p.blank ps
  | p, .token t :: ps => if p.admits t then scan (p.token t) ps else none

/-- No blank behind a field is left over. -/
def settled (ps : List Piece) : Bool := (scan .start ps).any fun p => !p.loose

/-- From one place the pieces, with `rest` after them, are read and scanned up to another. -/
inductive Runs : Place → List Piece → List Char → Place → Prop where
  | nil (p : Place) (rest : List Char) : Runs p [] rest p
  | blank {p ps rest q c} (space : isSpace c = true) (runs : Runs p.blank ps rest q) : Runs p (.blank c :: ps) rest q
  | token {p ps rest q t} (read : token? p.afterDot (t.text ++ (text ps ++ rest)) = some (t,text ps ++ rest))
      (admitted : p.admits t = true) (runs : Runs (p.token t) ps rest q) : Runs p (.token t :: ps) rest q

section
variable {p q : Place} {ps qs : List Piece} {rest : List Char}

theorem runs_iff : Runs p ps rest q ↔ Reads p.afterDot ps rest ∧ scan p ps = some q := by
  constructor
  · intro runs
    induction runs with
    | nil => exact ⟨trivial,rfl⟩
    | blank space _ ih => exact ⟨⟨space,ih.1⟩,ih.2⟩
    | token read admitted _ ih => exact ⟨⟨read,ih.1⟩,(if_pos admitted).trans ih.2⟩
  · rintro ⟨reads,scanned⟩
    induction ps generalizing p with
    | nil => cases scanned; exact .nil ..
    | cons piece ps ih =>
      cases piece with
      | blank c => exact .blank reads.1 (ih reads.2 scanned)
      | token t =>
        simp only [scan] at scanned
        split at scanned
        · next admitted => exact .token reads.1 admitted (ih reads.2 scanned)
        · cases scanned

theorem runs_append : Runs p (ps ++ qs) rest q ↔ ∃ m, Runs p ps (text qs ++ rest) m ∧ Runs m qs rest q := by
  constructor
  · intro runs
    induction ps generalizing p with
    | nil => exact ⟨p,.nil ..,runs⟩
    | cons piece ps ih =>
      rw [List.cons_append] at runs
      cases runs with
      | blank space runs =>
        obtain ⟨m,first,second⟩ := ih runs
        exact ⟨m,.blank space first,second⟩
      | token read admitted runs =>
        obtain ⟨m,first,second⟩ := ih runs
        rw [text_append,List.append_assoc] at read
        exact ⟨m,.token read admitted first,second⟩
  · rintro ⟨m,first,second⟩
    induction ps generalizing p with
    | nil => cases first; exact second
    | cons piece ps ih =>
      rw [List.cons_append]
      cases first with
      | blank space first => exact .blank space (ih first)
      | token read admitted first => exact .token (by rw [text_append,List.append_assoc]; exact read) admitted (ih first)

theorem tokens_eq_append {ts us : List Token} (same : tokens ps = ts ++ us) :
    ∃ before behind, ps = before ++ behind ∧ tokens before = ts ∧ tokens behind = us := List.filterMap_eq_append_iff.mp same

theorem tokens_eq_cons {t : Token} {ts : List Token} (same : tokens ps = t :: ts) :
    ∃ before behind, ps = before ++ .token t :: behind ∧ tokens before = [] ∧ tokens behind = ts := by
  obtain ⟨before,piece,behind,rfl,none_before,here,after⟩ := List.filterMap_eq_cons_iff.mp same
  cases piece with
  | blank => cases here
  | token t =>
    cases here
    exact ⟨before,behind,rfl,List.filterMap_eq_nil_iff.mpr none_before,after⟩

end

theorem unaryOps_operators : ∀ x ∈ unaryOps, x.1 ∈ operators := by decide

/-- The tokens that what stands by itself starts with. -/
def Token.opensOperand : Token → Bool
  | .literal .. => true
  | .word _ => true
  | .mark .opening => true
  | _ => false

theorem Derives.start {k : Nat} {ts : List Token} {e : Expr} (derives : Derives k ts e) : ∃ t more, ts = t :: more ∧
    (t.opensOperand = true ∨ k ≤ 6 ∧ ∃ text op, (text,op) ∈ unaryOps ∧ t = .operator text) := by
  induction derives with
  | looser _ _ ih =>
    obtain ⟨t,more,same,start⟩ := ih
    exact ⟨t,more,same,start.imp_right (.imp_left Nat.le_of_succ_le)⟩
  | binary level _ _ _ ih _ =>
    obtain ⟨t,more,rfl,start⟩ := ih
    exact ⟨t,_,rfl,start⟩
  | unary spelt => exact ⟨_,_,rfl,.inr ⟨Nat.le_refl _,_,_,spelt,rfl⟩⟩
  | member _ _ ih =>
    obtain ⟨t,more,rfl,start⟩ := ih
    exact ⟨t,_,rfl,start⟩
  | index _ _ ih _ =>
    obtain ⟨t,more,rfl,start⟩ := ih
    exact ⟨t,_,rfl,start⟩
  | literal | reserved | ident | call | group => exact ⟨_,_,rfl,.inl rfl⟩

theorem head?_of_opensOperand {t : Token} {s rest : List Char} (read : token? false s = some (t,rest)) (opens : t.opensOperand = true) :
    ∃ c more, s = c :: more ∧ c ∉ signs := by
  rcases token?_cases read with ⟨name,rfl,found⟩ | ⟨text,value,rfl,rfl,found⟩ | ⟨text,rfl,found⟩ | ⟨m,rfl,rfl⟩
  · obtain ⟨rfl,⟨c,cs,named,start,-⟩,-⟩ := identifier_eq_ok.mp found
    rw [named]
    exact ⟨c,_,rfl,fun sign => by rw [(signs_apart c sign).1] at start; cases start⟩
  · obtain ⟨_,t,-,same,literally,-⟩ := literal_spread found
    obtain rfl := List.append_cancel_right same
    obtain ⟨c,more,rfl,-,-,start⟩ := literally.head
    refine ⟨c,_,rfl,fun sign => ?_⟩
    obtain ⟨-,digit,quote⟩ := signs_apart c sign
    rcases start with start | start
    · rw [digit] at start; cases start
    · rw [quote] at start; cases start
  · cases opens
  · exact ⟨_,_,rfl,by cases m <;> decide⟩

end Flowgraph.Expr.Grammar
