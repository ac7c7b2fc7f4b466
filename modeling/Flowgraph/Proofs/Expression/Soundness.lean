import Flowgraph.Proofs.Expression.Derivation

/-! Whatever a reader accepts is derived from its tokens by the documented grammar, and no blank of it
is left over behind a field. Each reader of a rank keeps this if the next tighter one does. -/

namespace Flowgraph.Expr.Grammar

/-- No blank is left over and no dot came last, with these brackets open. -/
structure Place.Rested (opened : List Bracket) (p : Place) : Prop where
  opened : p.opened = opened
  tight : p.loose = false
  dot : p.last.any Token.isDot = false

def Leads (p : Place) (ps : List Piece) (rest : List Char) (Q : Place → Prop) : Prop := ∃ q, Runs p ps rest q ∧ Q q

def blanks (s : List Char) : List Piece := (s.takeWhile isSpace).map .blank

section
variable {p q : Place} {ps qs : List Piece} {rest s : List Char} {t : Token} {Q R : Place → Prop} {opened : List Bracket}

theorem Leads.append (first : Leads p ps (text qs ++ rest) Q) (second : ∀ q, Q q → Leads q qs rest R) : Leads p (ps ++ qs) rest R := by
  obtain ⟨m,runs,holds⟩ := first
  obtain ⟨q,runs',holds'⟩ := second m holds
  exact ⟨q,runs_append.mpr ⟨m,runs,runs'⟩,holds'⟩

theorem Leads.onward (first : Leads p ps (text qs ++ rest) (Place.Rested opened))
    (second : ∀ q : Place, q.Rested q.opened → Leads q qs rest (Place.Rested q.opened)) : Leads p (ps ++ qs) rest (Place.Rested opened) :=
  first.append fun q rested => rested.opened ▸ second q ⟨rfl,rested.tight,rested.dot⟩

theorem tokens_blanks (s : List Char) : tokens (blanks s) = [] :=
  List.filterMap_eq_nil_iff.mpr fun piece member => by
    obtain ⟨c,-,rfl⟩ := List.mem_map.mp member
    rfl

theorem text_blanks (s : List Char) : text (blanks s) = s.takeWhile isSpace := by
  unfold blanks text
  rw [List.flatMap_map]
  exact List.flatMap_singleton' _

theorem text_blanks_skipSpace (s : List Char) : text (blanks s) ++ skipSpace s = s := by
  rw [text_blanks]
  exact List.takeWhile_append_dropWhile

theorem text_behind_blanks (same : skipSpace s = text ps ++ rest) : s = text (blanks s ++ ps) ++ rest := by
  rw [text_append,List.append_assoc,← same,text_blanks_skipSpace]

theorem text_spaced (same : skipSpace s = t.text ++ (text ps ++ rest)) : s = text (blanks s ++ .token t :: ps) ++ rest :=
  text_behind_blanks (by rw [text_cons,List.append_assoc,same]; rfl)

theorem Place.blank_eq (field : p.last.any Token.isField = false) : p.blank = p := by
  unfold Place.blank
  rw [field,Bool.or_false]

theorem Place.blank_blank (p : Place) : p.blank.blank = p.blank := by
  unfold Place.blank
  rw [Bool.or_assoc,Bool.or_self]

theorem Place.admits_of_blank (admitted : p.blank.admits t = true) : p.admits t = true := by
  obtain ⟨opened,last,loose⟩ := p
  cases loose with
  | false => exact admits_of_tight rfl
  | true => exact admitted

theorem Runs.map_blank {cs : List Char} (spaces : ∀ c ∈ cs, isSpace c = true) (field : p.last.any Token.isField = false) :
    Runs p (cs.map .blank) rest p := by
  induction cs with
  | nil => exact .nil ..
  | cons c cs ih =>
    refine .blank (spaces c (List.mem_cons_self ..)) ?_
    rw [Place.blank_eq field]
    exact ih fun d member => spaces d (List.mem_cons_of_mem _ member)

theorem Runs.blanks (field : p.last.any Token.isField = false) : Runs p (blanks s) rest p :=
  .map_blank (fun c member => List.all_eq_true.mp List.all_takeWhile c member) field

theorem Leads.blanks (field : p.last.any Token.isField = false) (leads : Leads p ps rest Q) : Leads p (Grammar.blanks s ++ ps) rest Q :=
  leads.imp fun _ => .imp_left fun runs => runs_append.mpr ⟨p,.blanks field,runs⟩

/-- Blanks before a token that is admitted behind them change nothing for what follows. -/
theorem Leads.spaced (admitted : p.blank.admits t = true)
    (read : token? p.afterDot (t.text ++ (text ps ++ rest)) = some (t,text ps ++ rest)) (leads : Leads (p.token t) ps rest Q) :
    Leads p (Grammar.blanks s ++ .token t :: ps) rest Q := by
  obtain ⟨q,runs,holds⟩ := leads
  refine ⟨q,?_,holds⟩
  have spaces : ∀ c ∈ s.takeWhile isSpace, isSpace c = true := fun c member => List.all_eq_true.mp List.all_takeWhile c member
  unfold Grammar.blanks
  generalize s.takeWhile isSpace = cs at spaces
  induction cs generalizing p with
  | nil => exact .token read (Place.admits_of_blank admitted) runs
  | cons c cs ih =>
    refine .blank (spaces c (List.mem_cons_self ..)) (ih ?_ read runs fun d member => spaces d (List.mem_cons_of_mem _ member))
    rw [Place.blank_blank]
    exact admitted

theorem Leads.token (admitted : p.admits t = true)
    (read : token? p.afterDot (t.text ++ (text ps ++ rest)) = some (t,text ps ++ rest)) (leads : Leads (p.token t) ps rest Q) :
    Leads p (.token t :: ps) rest Q :=
  leads.imp fun _ => .imp_left (.token read admitted)

theorem spaced_eq_ok {r : Parser α} {v : α} : spaced r s = .ok v rest ↔ ∃ left, r (skipSpace s) = .ok v left ∧ rest = skipSpace left := by
  unfold Grammar.spaced
  split
  · next left found =>
    rw [found]
    constructor
    · rintro ⟨⟩
      exact ⟨left,rfl,rfl⟩
    · rintro ⟨_,⟨⟩,rfl⟩
      rfl
  · next other => exact ⟨fun found => (other _ _ found).elim,fun ⟨_,found,_⟩ => (other _ _ found).elim⟩

theorem committed_eq_ok {r : Parser α} {v : α} : committed r s = .ok v rest ↔ r s = .ok v rest := by
  unfold committed
  split
  · next found => simp [found]
  · rfl

theorem char_eq_ok {c : Char} : char c s = .ok () rest ↔ s = c :: rest := by
  cases s with
  | nil => simp [char]
  | cons d s =>
    by_cases same : c = d
    · simp [char,same]
    · simp [char,same,Ne.symm same]

end

/-- What the reader accepts is derived at the rank. -/
def Sound (k : Nat) (r : Parser Expr) : Prop := ∀ {s e rest}, r s = .ok e rest →
  ∃ ps, s = text ps ++ rest ∧ Derives k (tokens ps) e ∧ ∀ p : Place, p.Fresh → Leads p ps rest (Place.Rested p.opened)

/-- The text goes on with what was derived before it. -/
def Continues (k : Nat) (left : Expr) (s : List Char) (e : Expr) (rest : List Char) : Prop :=
  ∃ ps, s = text ps ++ rest ∧ (∀ ts, Derives k ts left → Derives k (ts ++ tokens ps) e) ∧
    ∀ p : Place, p.Rested p.opened → Leads p ps rest (Place.Rested p.opened)

section
variable {k : Nat} {table : Spellings} {operand : Parser Expr} {left e : Expr} {s rest : List Char}

theorem Continues.refl : Continues k e s e s :=
  ⟨[],rfl,fun ts derived => by rwa [tokens_nil,List.append_nil],fun p rested => ⟨p,.nil ..,rested⟩⟩

theorem fresh_token {p : Place} {t : Token} (dot : t.isDot = false) (field : t.isField = false) (word : t.isWord = false) :
    (p.token t).Fresh :=
  ⟨dot,field,word,rfl⟩

theorem Continues.trans {m : Expr} {mid : List Char} (first : Continues k left s m mid) (second : Continues k m mid e rest) :
    Continues k left s e rest := by
  obtain ⟨ps,rfl,derives,leads⟩ := first
  obtain ⟨qs,rfl,derives',leads'⟩ := second
  refine ⟨ps ++ qs,by rw [text_append,List.append_assoc],fun ts derived => ?_,fun p rested => (leads p rested).onward leads'⟩
  rw [tokens_append,← List.append_assoc]
  exact derives' _ (derives ts derived)

theorem binary_continues (level : levels[k]? = some table) (sound : Sound (k + 1) operand) {op : BinaryOp} {behind : List Char} {right : Expr}
    (found : spaced (spelled table) s = .ok op behind) (operated : operand behind = .ok right rest) :
    Continues k left s (.binary op left right) rest := by
  obtain ⟨mid,spelt,rfl⟩ := spaced_eq_ok.mp found
  obtain ⟨text,listed,operator⟩ := operator?_of_spelled (List.mem_of_getElem? level) spelt
  obtain ⟨-,start⟩ := operator?_eq_some operator
  obtain ⟨rs,mid_eq,derived,leads⟩ := sound operated
  have behind_eq := text_behind_blanks mid_eq
  refine ⟨blanks s ++ .token (.operator text) :: (blanks mid ++ rs),text_spaced (by rw [← behind_eq,Token.text,start]),
    fun ts derived_left => ?_,fun p rested => .spaced rfl ?_ (.blanks rfl (leads (p.token (.operator text)) (fresh_token rfl rfl rfl)))⟩
  · simpa [tokens_blanks] using Derives.binary level listed derived_left derived
  · rw [← behind_eq,Place.afterDot,rested.dot,Token.text,← start]
    exact token?_operator operator

theorem chainRest_continues (level : levels[k]? = some table) (sound : Sound (k + 1) operand) {n : Nat}
    (read : chainRest table operand n left s = .ok e rest) : Continues k left s e rest := by
  induction n generalizing left s with
  | zero =>
    cases read
    exact .refl
  | succ n ih =>
    simp only [chainRest] at read
    split at read
    · next found =>
      split at read
      · next operated => exact (binary_continues level sound found (committed_eq_ok.mp operated)).trans (ih read)
      · next other => exact absurd read (other e rest)
    · cases read
      exact .refl

theorem chain_sound (level : levels[k]? = some table) (sound : Sound (k + 1) operand) (n : Nat) : Sound k (chain n table operand) := by
  intro s e rest read
  unfold chain at read
  have bound : k < 8 := Nat.lt_of_lt_of_le (List.getElem?_eq_some_iff.mp level).1 (by decide)
  split at read
  · next left behind operated =>
    obtain ⟨ls,rfl,derived,leads⟩ := sound operated
    obtain ⟨ps,rfl,derives,leads'⟩ := chainRest_continues level sound read
    refine ⟨ls ++ ps,by rw [text_append,List.append_assoc],?_,fun p fresh => (leads p fresh).onward leads'⟩
    rw [tokens_append]
    exact derives _ (.looser bound derived)
  · next other => exact absurd read (other e rest)

theorem Sound.looser (bound : k < 8) (sound : Sound (k + 1) operand) : Sound k operand := by
  intro s e rest read
  obtain ⟨ps,same,derived,leads⟩ := sound read
  exact ⟨ps,same,.looser bound derived,leads⟩

theorem orElse_eq_ok {p q : Parser α} {v : α} (read : orElse p q s = .ok v rest) : p s = .ok v rest ∨ q s = .ok v rest := by
  unfold orElse at read
  split at read
  · exact .inr read
  · exact .inl read

/-- A text that an operand starts, behind blanks or not, does not start with an equality sign. -/
theorem Sound.head (sound : Sound k operand) (read : operand (skipSpace s) = .ok e rest) : s.head? ≠ some '=' := by
  cases s with
  | nil => exact nofun
  | cons c s =>
    rintro ⟨⟩
    rw [skipSpace,List.dropWhile_cons_of_neg (by decide)] at read
    obtain ⟨ps,same,derived,leads⟩ := sound read
    obtain ⟨q,runs,-⟩ := leads .start ⟨rfl,rfl,rfl,rfl⟩
    obtain ⟨t,more,tokens_eq,start⟩ := derived.start
    cases runs with
    | nil => cases tokens_eq
    | blank space =>
      rw [← (List.cons.inj same).1] at space
      cases space
    | token first =>
      cases tokens_eq
      rw [text_cons,List.append_assoc,Piece.text] at same
      rcases start with opens | ⟨-,text,op,listed,rfl⟩
      · obtain ⟨d,left,same',other⟩ := head?_of_opensOperand first opens
        rw [← same] at same'
        cases same'
        exact other (by decide)
      · simp only [unaryOps,List.mem_cons,Prod.mk.injEq,List.not_mem_nil,or_false] at listed
        rcases listed with ⟨rfl,-⟩ | ⟨rfl,-⟩ <;> cases same

theorem prefixed_sound (sound : Sound 6 operand) {sign : Char} {text : String} {op : UnaryOp} (listed : (text,op) ∈ unaryOps)
    (spelt : text.toList = [sign]) : Sound 6 (prefixed sign op operand) := by
  intro s e rest read
  unfold prefixed at read
  split at read
  · next behind found =>
    split at read
    · next e' left operated =>
      cases read
      obtain ⟨mid,start,rfl⟩ := spaced_eq_ok.mp found
      obtain ⟨ps,mid_eq,derived,leads⟩ := sound operated
      have behind_eq := text_behind_blanks mid_eq
      have start_eq : skipSpace s = text.toList ++ mid := by rw [spelt]; exact char_eq_ok.mp start
      refine ⟨blanks s ++ .token (.operator text) :: (blanks mid ++ ps),text_spaced (by rw [← behind_eq,Token.text,start_eq]),?_,fun p fresh =>
        .spaced rfl ?_ (.blanks rfl (leads (p.token (.operator text)) (fresh_token rfl rfl rfl)))⟩
      · simpa [tokens_blanks] using Derives.unary listed derived
      · rw [← behind_eq,Place.afterDot,fresh.dot,Token.text]
        exact token?_operator (operator?_apart (unaryOps_operators _ listed) (sound.head operated))
    · next other => exact absurd read (other e rest)
  · cases read
  · cases read

theorem unary_sound (sound : Sound 7 operand) (n : Nat) : Sound 6 (unary operand n) := by
  induction n with
  | zero => exact sound.looser (by decide)
  | succ n ih =>
    intro s e rest read
    rcases orElse_eq_ok read with read | read
    · exact prefixed_sound ih (show ("!",UnaryOp.not) ∈ unaryOps by decide) rfl read
    · rcases orElse_eq_ok read with read | read
      · exact prefixed_sound ih (show ("-",UnaryOp.neg) ∈ unaryOps by decide) rfl read
      · exact sound.looser (by decide) read

theorem memberAccess_continues {field : String} (read : memberAccess s = .ok field rest) : Continues 7 e s (.member e field) rest := by
  unfold memberAccess at read
  split at read
  · next behind found =>
    obtain ⟨mid,dot,rfl⟩ := spaced_eq_ok.mp found
    have dot_eq := char_eq_ok.mp dot
    obtain ⟨field_eq,-⟩ := fieldName_spread read
    have mid_eq : mid = text (blanks mid ++ [.token (.field field)]) ++ rest := text_spaced field_eq
    refine ⟨blanks s ++ .token (.mark .dot) :: (blanks mid ++ [.token (.field field)]),?_,fun ts derived => ?_,fun p rested => ?_⟩
    · exact text_spaced (by rw [← mid_eq,dot_eq]; rfl)
    · simpa [tokens_blanks] using Derives.member field derived
    · refine .spaced rfl ?_ (.spaced rfl ?_ ⟨_,.nil ..,rfl,rfl,rfl⟩)
      · rw [← mid_eq,Place.afterDot,rested.dot]
        exact token?_mark .dot
      · rw [text_nil,List.nil_append,Token.text,← field_eq]
        exact token?_field read
  · cases read

theorem indexAccess_continues {expression : Parser Expr} (sound : Sound 0 expression) {key : Expr}
    (read : indexAccess expression s = .ok key rest) : Continues 7 e s (.index e key) rest := by
  unfold indexAccess at read
  split at read
  · next behind found =>
    obtain ⟨mid,opening,rfl⟩ := spaced_eq_ok.mp found
    split at read
    · next key' after subscript =>
      split at read
      · next left closed =>
        cases read
        obtain ⟨last,closing,rfl⟩ := spaced_eq_ok.mp closed
        obtain ⟨ks,mid_eq,derived,leads⟩ := sound subscript
        have after_eq : after = text (blanks after ++ .token (.mark .indexClosing) :: blanks last) ++ skipSpace last :=
          text_spaced (by rw [text_blanks_skipSpace,char_eq_ok.mp closing]; rfl)
        have behind_eq : mid = text (blanks mid ++ (ks ++ (blanks after ++ .token (.mark .indexClosing) :: blanks last))) ++ skipSpace last :=
          text_behind_blanks (by rw [text_append,List.append_assoc,← after_eq,mid_eq])
        refine ⟨blanks s ++ .token (.mark .indexOpening) :: (blanks mid ++ (ks ++ (blanks after ++ .token (.mark .indexClosing) :: blanks last))),
          text_spaced (by rw [← behind_eq,char_eq_ok.mp opening]; rfl),fun ts target => ?_,fun p rested => ?_⟩
        · simpa [tokens_blanks] using Derives.index target derived
        · have inner := leads (p.token (.mark .indexOpening)) (fresh_token rfl rfl rfl)
          rw [after_eq] at inner
          refine .spaced rfl ?_ (.blanks rfl (inner.append fun q inside => .spaced rfl ?_ ⟨_,.blanks rfl,?_,rfl,rfl⟩))
          · rw [← behind_eq,Place.afterDot,rested.dot]
            exact token?_mark .indexOpening
          · rw [Place.afterDot,inside.dot]
            exact token?_mark .indexClosing
          · exact congrArg List.tail inside.opened
      · cases read
    · next other => exact absurd read (other key rest)
  · cases read

theorem accesses_continues {expression : Parser Expr} (sound : Sound 0 expression) {n : Nat} {target : Expr}
    (read : accesses expression n target s = .ok e rest) : Continues 7 target s e rest := by
  induction n generalizing target s with
  | zero =>
    cases read
    exact .refl
  | succ n ih =>
    simp only [accesses] at read
    split at read
    · next found => exact (memberAccess_continues found).trans (ih read)
    · split at read
      · next found => exact (indexAccess_continues sound found).trans (ih read)
      · cases read
        exact .refl

/-- Arguments, with the tokens of each. -/
abbrev Arguments := List (List Token × Expr)

theorem argumentsRest_sound {expression : Parser Expr} (sound : Sound 0 expression) {n : Nat} {done all : List Expr}
    (read : argumentsRest expression n done s = .ok all rest) : ∃ (args : Arguments) (ps : List Piece), all = done.reverse ++ args.map Prod.snd ∧
      s = text ps ++ rest ∧ tokens ps = (args.map Prod.fst).flatMap (.mark .comma :: ·) ∧ (∀ a ∈ args, Derives 0 a.1 a.2) ∧
      ∀ p : Place, p.Rested p.opened → Leads p ps rest (Place.Rested p.opened) := by
  have stop (done : List Expr) (s : List Char) : ∃ (args : Arguments) (ps : List Piece), done.reverse = done.reverse ++ args.map Prod.snd ∧
      s = text ps ++ s ∧ tokens ps = (args.map Prod.fst).flatMap (.mark .comma :: ·) ∧ (∀ a ∈ args, Derives 0 a.1 a.2) ∧
      ∀ p : Place, p.Rested p.opened → Leads p ps s (Place.Rested p.opened) :=
    ⟨[],[],by simp,rfl,rfl,nofun,fun p rested => ⟨p,.nil ..,rested⟩⟩
  induction n generalizing done s with
  | zero =>
    cases read
    exact stop done _
  | succ n ih =>
    simp only [argumentsRest] at read
    split at read
    · next behind comma =>
      obtain rfl := char_eq_ok.mp comma
      split at read
      · next arg after found =>
        obtain ⟨as,rfl,derived,leads⟩ := sound found
        obtain ⟨args,ps,rfl,rfl,same,each,leads'⟩ := ih read
        refine ⟨(tokens as,arg) :: args,.token (.mark .comma) :: (as ++ ps),by simp,?_,?_,?_,fun p rested => ?_⟩
        · rw [text_cons,text_append,List.append_assoc,List.append_assoc]
          rfl
        · simp [same]
        · exact List.forall_mem_cons.mpr ⟨derived,each⟩
        · refine .token (by simp [Place.admits,rested.tight]) ?_ ((leads (p.token (.mark .comma)) (fresh_token rfl rfl rfl)).onward leads')
          rw [Place.afterDot,rested.dot]
          exact token?_mark .comma
      · cases read
      · cases read
        exact stop done _
    · cases read
      exact stop done _

theorem argumentList_sound {expression : Parser Expr} (sound : Sound 0 expression) {n : Nat} {all : List Expr}
    (read : argumentList n expression s = .ok all rest) : ∃ (args : Arguments) (ps : List Piece), all = args.map Prod.snd ∧
      s = text ps ++ rest ∧ tokens ps = separated (args.map Prod.fst) ∧ (∀ a ∈ args, Derives 0 a.1 a.2) ∧
      ∀ p : Place, p.Fresh → Leads p ps rest (Place.Rested p.opened) := by
  unfold argumentList at read
  split at read
  · next arg after found =>
    obtain ⟨as,rfl,derived,leads⟩ := sound found
    obtain ⟨args,ps,rfl,rfl,same,each,leads'⟩ := argumentsRest_sound sound read
    refine ⟨(tokens as,arg) :: args,as ++ ps,by simp,?_,?_,?_,fun p fresh => (leads p fresh).onward leads'⟩
    · rw [text_append,List.append_assoc]
    · simp [same,separated]
    · exact List.forall_mem_cons.mpr ⟨derived,each⟩
  · cases read
  · cases read
    exact ⟨[],[],rfl,rfl,rfl,nofun,fun p fresh => ⟨p,.nil ..,rfl,fresh.tight,fresh.dot⟩⟩

/-- What stands by itself ends in no field, so that blanks behind it are never left over. -/
def Closed (r : Parser Expr) : Prop := ∀ {s e rest}, r s = .ok e rest → ∃ ps, s = text ps ++ rest ∧ Derives 8 (tokens ps) e ∧
  ∀ p : Place, p.Fresh → Leads p ps rest fun q => q.Rested p.opened ∧ q.last.any Token.isField = false

theorem literal_closed : Closed (orElse numberLiteral stringLiteral) := by
  intro s e rest read
  obtain ⟨value,t,rfl,rfl,-,-⟩ := literal_spread read
  refine ⟨[.token (.literal t value)],by simp [Piece.text,Token.text],.literal ..,fun p fresh => ?_⟩
  refine .token rfl ?_ ⟨_,.nil ..,⟨rfl,rfl,rfl⟩,rfl⟩
  rw [Place.afterDot,fresh.dot]
  exact token?_literal read

theorem parenthesized_closed {expression : Parser Expr} (sound : Sound 0 expression) : Closed (parenthesized expression) := by
  intro s e rest read
  unfold parenthesized at read
  split at read
  · next behind opening =>
    obtain rfl := char_eq_ok.mp opening
    split at read
    · next e' after found =>
      split at read
      · next closed =>
        cases read
        obtain rfl := char_eq_ok.mp (committed_eq_ok.mp closed)
        obtain ⟨ps,rfl,derived,leads⟩ := sound found
        refine ⟨.token (.mark .opening) :: (ps ++ [.token (.mark .closing)]),?_,?_,fun p fresh => ?_⟩
        · rw [text_cons,text_append,List.append_assoc,List.append_assoc]
          rfl
        · simpa using Derives.group derived
        · have inner := leads (p.token (.mark .opening)) (fresh_token rfl rfl rfl)
          refine .token rfl ?_ (inner.append fun q inside => .token ?_ ?_ ⟨_,.nil ..,⟨?_,rfl,rfl⟩,rfl⟩)
          · rw [Place.afterDot,fresh.dot]
            exact token?_mark .opening
          · simp [Place.admits,inside.tight]
          · rw [Place.afterDot,inside.dot]
            exact token?_mark .closing
          · exact congrArg List.tail inside.opened
      · cases read
      · cases read
    · next other => exact absurd read (other e rest)
  · cases read
  · cases read

theorem callArguments_sound {expression : Parser Expr} (sound : Sound 0 expression) {n : Nat} {all : List Expr}
    (read : callArguments n expression s = .ok all rest) : ∃ (args : Arguments) (ps : List Piece), all = args.map Prod.snd ∧
      s = text ps ++ rest ∧ tokens ps = .mark .opening :: (separated (args.map Prod.fst) ++ [.mark .closing]) ∧
      (∀ a ∈ args, Derives 0 a.1 a.2) ∧ ∀ p : Place, p.Rested p.opened → p.last.any Token.isWord = true →
        Leads p ps rest fun q => q.Rested p.opened ∧ q.last.any Token.isField = false := by
  unfold callArguments at read
  split at read
  · next behind found =>
    obtain ⟨mid,opening,rfl⟩ := spaced_eq_ok.mp found
    split at read
    · next args after listed =>
      split at read
      · next closed =>
        cases read
        obtain ⟨args,ps,rfl,mid_eq,same,each,leads⟩ := argumentList_sound sound listed
        have after_eq : after = text (blanks after ++ [.token (.mark .closing)]) ++ rest :=
          text_spaced (char_eq_ok.mp (committed_eq_ok.mp closed))
        have behind_eq : mid = text (blanks mid ++ (ps ++ (blanks after ++ [.token (.mark .closing)]))) ++ rest :=
          text_behind_blanks (by rw [text_append,List.append_assoc,← after_eq,mid_eq])
        refine ⟨args,blanks s ++ .token (.mark .opening) :: (blanks mid ++ (ps ++ (blanks after ++ [.token (.mark .closing)]))),rfl,
          text_spaced (by rw [← behind_eq]; exact char_eq_ok.mp opening),by simp [tokens_blanks,same],each,fun p rested word => ?_⟩
        have inner := leads (p.token (.mark .opening)) (fresh_token rfl rfl rfl)
        rw [after_eq] at inner
        refine .spaced rfl ?_ (.blanks rfl (inner.append fun q inside => .spaced ?_ ?_ ⟨_,.nil ..,⟨?_,rfl,rfl⟩,rfl⟩))
        · rw [← behind_eq,Place.afterDot,rested.dot]
          exact token?_mark .opening
        · have called : q.opened = .call :: p.opened := by rw [inside.opened,Place.token,if_pos word]
          simp [Place.admits,Place.blank,called]
        · rw [Place.afterDot,inside.dot]
          exact token?_mark .closing
        · exact congrArg List.tail inside.opened
      · cases read
      · cases read
    · next other => exact absurd read (other all rest)
  · cases read

theorem named_closed {expression : Parser Expr} (sound : Sound 0 expression) (n : Nat) : Closed (named n expression) := by
  intro s e rest read
  unfold named at read
  split at read
  · next name behind found =>
    obtain ⟨rfl,-⟩ := identifier_eq_ok.mp found
    have first {ps : List Piece} {Q : Place → Prop} {p : Place} (fresh : p.Fresh) (same : text ps ++ rest = behind)
        (leads : Leads (p.token (.word name)) ps rest Q) : Leads p (.token (.word name) :: ps) rest Q := by
      refine .token rfl ?_ leads
      rw [Place.afterDot,fresh.dot,same]
      exact token?_word found
    split at read
    · next value known =>
      cases read
      refine ⟨[.token (.word name)],by simp [Piece.text,Token.text],.reserved known,fun p fresh => first fresh rfl ⟨_,.nil ..,⟨rfl,rfl,rfl⟩,rfl⟩⟩
    · next free =>
      split at read
      · next called =>
        cases read
        obtain ⟨args,ps,rfl,rfl,same,each,leads⟩ := callArguments_sound sound called
        refine ⟨.token (.word name) :: ps,by rw [text_cons,List.append_assoc]; rfl,?_,fun p fresh =>
          first fresh rfl (leads (p.token (.word name)) ⟨rfl,rfl,rfl⟩ rfl)⟩
        rw [tokens_token,same]
        exact .call free args each
      · cases read
      · cases read
        refine ⟨[.token (.word name)],by simp [Piece.text,Token.text],.ident free,fun p fresh => first fresh rfl ⟨_,.nil ..,⟨rfl,rfl,rfl⟩,rfl⟩⟩
  · cases read
  · cases read

theorem orElse_assoc (p q r : Parser α) : orElse p (orElse q r) = orElse (orElse p q) r := by
  funext s
  unfold orElse
  cases p s <;> rfl

theorem primary_sound {expression : Parser Expr} (sound : Sound 0 expression) (n : Nat) : Sound 8 (primary n expression) := by
  intro s e rest read
  obtain ⟨left,found,rfl⟩ := spaced_eq_ok.mp read
  rw [orElse_assoc] at found
  have closed : Closed (orElse (orElse numberLiteral stringLiteral) (orElse (parenthesized expression) (named n expression))) := by
    intro s e rest read
    rcases orElse_eq_ok read with read | read
    · exact literal_closed read
    · rcases orElse_eq_ok read with read | read
      · exact parenthesized_closed sound read
      · exact named_closed sound n read
  obtain ⟨ps,same,derived,leads⟩ := closed found
  rw [← text_blanks_skipSpace left] at same leads
  refine ⟨blanks s ++ (ps ++ blanks left),text_behind_blanks (by rw [text_append,List.append_assoc,same]),?_,fun p fresh => .blanks fresh.field ?_⟩
  · simpa [tokens_blanks] using derived
  · exact (leads p fresh).append fun q final => ⟨q,.blanks final.2,final.1⟩

theorem postfixed_sound {expression : Parser Expr} (sound : Sound 0 expression) (n : Nat) : Sound 7 (postfixed n expression) := by
  intro s e rest read
  unfold postfixed at read
  split at read
  · next target behind found =>
    obtain ⟨ts,rfl,derived,leads⟩ := primary_sound sound n found
    obtain ⟨ps,rfl,derives,leads'⟩ := accesses_continues sound read
    refine ⟨ts ++ ps,by rw [text_append,List.append_assoc],?_,fun p fresh => (leads p fresh).onward leads'⟩
    rw [tokens_append]
    exact derives _ (.looser (by decide) derived)
  · next other => exact absurd read (other e rest)

theorem expression_sound (n : Nat) : Sound 0 (expression n) := by
  induction n with
  | zero => exact nofun
  | succ n ih =>
    exact chain_sound rfl (chain_sound rfl (chain_sound rfl (chain_sound rfl (chain_sound rfl (chain_sound rfl
      (unary_sound (postfixed_sound ih n) n) n) n) n) n) n) n

end
end Flowgraph.Expr.Grammar
