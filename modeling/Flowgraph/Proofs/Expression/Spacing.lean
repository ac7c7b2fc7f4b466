import Flowgraph.Proofs.Expression.Completeness
import Flowgraph.Proofs.Expression.Tally

/-! A source is accepted exactly if its tokens are derived by the documented grammar and no blank behind
a field is left over. So blanks between tokens change nothing, but for those that are left over. -/

namespace Flowgraph.Expr
namespace Grammar

/-- The second pieces are the first ones with blanks put between them, before or after them. -/
inductive Widens : List Piece → List Piece → Prop where
  | nil : Widens [] []
  | keep {ps qs} (p : Piece) (widens : Widens ps qs) : Widens (p :: ps) (p :: qs)
  | insert {ps qs c} (space : isSpace c = true) (widens : Widens ps qs) : Widens ps (.blank c :: qs)

section
variable {t t' : Tally} {rest : List Char} {ps qs : List Piece}

theorem Widens.spread (widens : Widens ps qs) : Spread (text ps ++ rest) (text qs ++ rest) := by
  induction widens with
  | nil => exact .refl _
  | keep p _ ih =>
    rw [text_cons,text_cons,List.append_assoc,List.append_assoc]
    exact ih.append _
  | insert space _ _ => exact .blank _ _ space

theorem Widens.tokens (widens : Widens ps qs) : tokens qs = tokens ps := by
  induction widens with
  | nil => rfl
  | keep p _ ih =>
    cases p with
    | blank c => exact ih
    | token t => exact congrArg (t :: ·) ih
  | insert _ _ ih => exact ih

theorem Widens.reads (widens : Widens ps qs) {afterDot : Bool} (reads : Reads afterDot ps rest) : Reads afterDot qs rest := by
  induction widens generalizing afterDot with
  | nil => trivial
  | keep p widens ih =>
    cases p with
    | blank c => exact ⟨reads.1,ih reads.2⟩
    | token t => exact ⟨(token?_spread reads.1).2.2 _ widens.spread,ih reads.2⟩
  | insert space _ ih => exact ⟨space,ih reads⟩

theorem Widens.counts (widens : Widens ps qs) {afterDot : Bool} (reads : Reads afterDot ps rest) (outside : t.Outside)
    (counted : (text ps).foldlM Tally.count t = .ok t') : (text qs).foldlM Tally.count t = .ok t' := by
  induction widens generalizing afterDot t with
  | nil => exact counted
  | keep p _ ih =>
    obtain ⟨m,first,others⟩ := count_append.mp counted
    refine count_append.mpr ⟨m,first,?_⟩
    cases p with
    | blank c =>
      obtain ⟨_,counted,⟨⟩⟩ := count_cons.mp first
      cases (count_space outside reads.1).symm.trans counted
      exact ih reads.2 outside others
    | token t => exact ih reads.2 (counts_token reads.1 outside first).1 others
  | insert space _ ih => exact count_cons.mpr ⟨t,count_space outside space,ih reads outside counted⟩

end

theorem tight_nil : Tight 0 [] := tight_head nofun (fun _ => ⟨nofun,nofun⟩) nofun

theorem length_tokens {p q : Place} {ps : List Piece} {rest : List Char} (runs : Runs p ps rest q) : (tokens ps).length ≤ (text ps).length := by
  induction runs with
  | nil => exact Nat.le_refl 0
  | blank _ _ ih => exact Nat.le_succ_of_le ih
  | token read _ _ ih =>
    obtain ⟨-,⟨c,more,spelt,-⟩,-⟩ := token?_spread read
    rw [tokens_token,text_cons,Piece.text,spelt,List.length_cons,List.length_append,List.length_cons]
    omega

end Grammar

open Grammar

theorem parse_eq_ok {source : String} {e : Expr} : parse source = .ok e ↔ (∃ t, tally source.toList = .ok t) ∧
    ∃ ps, layout? source = some ps ∧ Derives 0 (tokens ps) e ∧ settled ps = true := by
  unfold parse
  cases tally source.toList with
  | error => exact ⟨nofun,nofun⟩
  | ok t =>
    simp only [Except.ok.injEq,exists_eq',true_and]
    constructor
    · intro accepted
      split at accepted
      · next read =>
        cases accepted
        obtain ⟨ps,same,derived,leads⟩ := expression_sound _ read
        obtain ⟨q,runs,rested⟩ := leads .start ⟨rfl,rfl,rfl,rfl⟩
        obtain ⟨reads,scanned⟩ := runs_iff.mp runs
        refine ⟨ps,layout?_eq_some.mpr ⟨same.trans (List.append_nil _),reads⟩,derived,?_⟩
        rw [settled,scanned]
        exact congrArg not rested.tight
      · cases accepted
      · cases accepted
      · cases accepted
    · rintro ⟨ps,laid,derived,settled_ps⟩
      obtain ⟨same,reads⟩ := layout?_eq_some.mp laid
      obtain ⟨q,scanned,tight⟩ := (Option.any_eq_true ..).mp settled_ps
      have runs : Runs .start ps [] q := runs_iff.mpr ⟨reads,scanned⟩
      have shorter : (tokens ps).length < source.length + 1 := by
        have bound := length_tokens runs
        rw [← same,String.length_toList] at bound
        omega
      obtain ⟨rest,read,left⟩ := Complete.expression derived.complete rfl runs ⟨rfl,rfl,rfl,rfl⟩ rfl tight_nil shorter
      rw [left.tight (by simpa using tight),List.append_nil,← same] at read
      rw [read]

/-- Blanks put between the tokens of an accepted source, before or after them leave it accepted as the
same expression exactly if none of them is left over behind a field. -/
theorem parse_widened {source : String} {e : Expr} (accepted : parse source = .ok e) : ∃ ps, layout? source = some ps ∧
    ∀ wider, Widens ps wider → (parse (.ofList (text wider)) = .ok e ↔ settled wider = true) := by
  obtain ⟨⟨t,counted⟩,ps,laid,derived,-⟩ := parse_eq_ok.mp accepted
  obtain ⟨same,reads⟩ := layout?_eq_some.mp laid
  refine ⟨ps,laid,fun wider widens => ?_⟩
  have laid_wider : layout? (.ofList (text wider)) = some wider := layout?_eq_some.mpr ⟨String.toList_ofList,widens.reads reads⟩
  constructor
  · intro accepted
    obtain ⟨-,qs,laid_qs,-,settled_qs⟩ := parse_eq_ok.mp accepted
    cases laid_wider.symm.trans laid_qs
    exact settled_qs
  · intro settled_wider
    refine parse_eq_ok.mpr ⟨⟨t,?_⟩,wider,laid_wider,widens.tokens ▸ derived,settled_wider⟩
    rw [String.toList_ofList]
    exact widens.counts reads ⟨rfl,rfl,Nat.zero_le _⟩ (same ▸ counted)

theorem call_widened : parse "f(a.b)" = .ok (.call "f" [.member (.ident "a") "b"]) ∧ ∃ ps, layout? "f(a.b)" = some ps ∧
    ∀ wider, Widens ps wider → (parse (.ofList (text wider)) = .ok (.call "f" [.member (.ident "a") "b"]) ↔ settled wider = true) := by
  have letters : "f(a.b)".toList = ['f','(','a','.','b',')'] := rfl
  have accepted : parse "f(a.b)" = .ok (.call "f" [.member (.ident "a") "b"]) := by
    rw [parse,letters]
    rfl
  exact ⟨accepted,parse_widened accepted⟩

theorem blank_behind_field_is_refused : ¬∀ source e ps wider, parse source = .ok e → layout? source = some ps → Widens ps wider →
    parse (.ofList (text wider)) = .ok e := by
  intro always
  have accepted : parse "a.b" = .ok (.member (.ident "a") "b") := rfl
  have widens : Widens [.token (.word "a"),.token (.mark .dot),.token (.field "b")]
      [.token (.word "a"),.token (.mark .dot),.token (.field "b"),.blank ' '] := .keep _ (.keep _ (.keep _ (.insert rfl .nil)))
  have refused : parse "a.b " = .error (.malformed " ") := rfl
  cases (always _ _ _ _ accepted rfl widens).symm.trans refused

/-- Only behind fields a blank can be left over. -/
theorem settled_of_fieldless {ps : List Piece} (fieldless : ∀ t ∈ tokens ps, t.isField = false) : settled ps = true := by
  have scanned (p : Place) (field : p.last.any Token.isField = false) (tight : p.loose = false) :
      ∃ q, scan p ps = some q ∧ q.loose = false := by
    induction ps generalizing p with
    | nil => exact ⟨p,rfl,tight⟩
    | cons piece ps ih =>
      cases piece with
      | blank c => exact ih fieldless p.blank field (by rw [Place.blank_eq field]; exact tight)
      | token t =>
        simp only [scan,Place.admits_of_tight tight,if_true]
        exact ih (fun u member => fieldless u (List.mem_cons_of_mem _ member)) (p.token t) (fieldless t (List.mem_cons_self ..)) rfl
  obtain ⟨q,found,tight⟩ := scanned .start rfl rfl
  rw [settled,found]
  exact congrArg not tight

end Flowgraph.Expr
