import Flowgraph.Expression.Evaluate
import Flowgraph.Proofs.Expression.Soundness
import Flowgraph.Proofs.Json.Orderly

/-! Expressions over orderly data. The literals that a text can hold are no containers, and every other value is a part of
the data or made by an operator or a function; so the value of an expression is as orderly as the data are. -/

namespace Flowgraph

theorem ok_of_bind {x : Except ε α} {f : α → Except ε β} {b : β} (given : (x >>= f) = .ok b) : ∃ a, x = .ok a ∧ f a = .ok b := by
  cases x with
  | error e => cases given
  | ok a => exact ⟨a,rfl,given⟩

namespace Expr

/-- Expressions whose literals are orderly. -/
inductive Orderly : Expr → Prop where
  | literal {value : Json} (orderly : value.Orderly) : Orderly (.literal value)
  | ident (name : String) : Orderly (.ident name)
  | member {target : Expr} (inner : Orderly target) (field : String) : Orderly (.member target field)
  | index {target key : Expr} (inner : Orderly target) (subscript : Orderly key) : Orderly (.index target key)
  | unary (op : UnaryOp) {operand : Expr} (inner : Orderly operand) : Orderly (.unary op operand)
  | binary (op : BinaryOp) {left right : Expr} (first : Orderly left) (second : Orderly right) : Orderly (.binary op left right)
  | call (name : String) {args : List Expr} (each : ∀ arg ∈ args, Orderly arg) : Orderly (.call name args)

section values

theorem ofResult_orderly {x : Float} {value : Json} (given : ofResult x = .ok value) : value.Orderly := by
  unfold ofResult at given
  split at given
  · cases given
    split <;> exact .number _
  · split at given <;> cases given
    exact .number _

theorem Single.apply_orderly {name : String} {f : Single} {arg value : Json} (given : f.apply name arg = .ok value) : value.Orderly := by
  cases f with
  | upper | lower | trim | string => cases given; exact .string _
  | len => cases arg <;> cases given <;> exact .number _
  | round | floor | ceil | abs | number =>
    obtain ⟨x,-,rounded⟩ := ok_of_bind given
    exact ofResult_orderly rounded

theorem apply_orderly {name : String} {args : List Json} {value : Json} (each : ∀ arg ∈ args, arg.Orderly)
    (given : apply name args = .ok value) : value.Orderly := by
  unfold apply at given
  split at given
  · exact Single.apply_orderly given
  · cases given
  · cases given
    exact .string _
  · cases given
    generalize found : List.find? _ _ = first
    cases first with
    | none => exact .null
    | some arg => exact each arg (List.mem_of_find?_eq_some found)
  · cases given

theorem arithmetic_orderly {op : Operator} {f : Float → Float → Except Error Float} {l r value : Json}
    (given : arithmetic op f l r = .ok value) : value.Orderly := by
  unfold arithmetic at given
  split at given
  · obtain ⟨x,-,made⟩ := ok_of_bind given
    exact ofResult_orderly made
  · cases given

theorem comparing_orderly {holds : Ordering → Bool} {l r value : Json} (given : comparing holds l r = .ok value) : value.Orderly := by
  unfold comparing at given
  split at given <;> cases given
  exact .bool _

end values
end Expr

theorem Operator.apply_orderly {op : Operator} {l r value : Json} (given : op.apply l r = .ok value) : value.Orderly := by
  cases op with
  | eq | ne => cases given; exact .bool _
  | gt | ge | lt | le => exact Expr.comparing_orderly given
  | add =>
    unfold apply at given
    dsimp only at given
    split at given
    · cases given
      exact .string _
    · exact Expr.arithmetic_orderly given
  | sub | mul | div | rem => exact Expr.arithmetic_orderly given

theorem UnaryOp.apply_orderly {op : UnaryOp} {arg value : Json} (given : op.apply arg = .ok value) : value.Orderly := by
  cases op with
  | not => cases given; exact .bool _
  | neg =>
    unfold apply at given
    dsimp only at given
    split at given
    · exact Expr.ofResult_orderly given
    · cases given

namespace Expr

theorem child_orderly {target : Json} (orderly : target.Orderly) (segment : String) : ((Path.child? target segment).getD .null).Orderly := by
  cases found : Path.child? target segment with
  | none => exact .null
  | some child => exact orderly.child? found

/-- Where each argument has orderly values only, so has the list of them. -/
theorem evaluateAll_orderly {data : Json} {args : List Expr} {values : List Json}
    (each : ∀ arg ∈ args, ∀ value, evaluate data arg = .ok value → value.Orderly) (given : evaluateAll data args = .ok values) :
    ∀ value ∈ values, value.Orderly := by
  induction args generalizing values with
  | nil => cases given; exact List.forall_mem_nil _
  | cons arg rest ih =>
    obtain ⟨value,first,given⟩ := ok_of_bind given
    obtain ⟨others,later,given⟩ := ok_of_bind given
    cases given
    exact List.forall_mem_cons.mpr ⟨each arg (List.mem_cons_self ..) value first,
      ih (fun other member => each other (List.mem_cons_of_mem _ member)) later⟩

theorem evaluate_orderly {data value : Json} {e : Expr} (bag : data.Orderly) (orderly : e.Orderly) (given : evaluate data e = .ok value) :
    value.Orderly := by
  induction orderly generalizing value with
  | literal orderly => cases given; exact orderly
  | ident name =>
    unfold evaluate at given
    split at given
    · cases given
      exact bag
    · split at given
      · next found =>
        cases given
        exact bag.field? found
      · cases given
  | member _ field ih =>
    obtain ⟨target,first,given⟩ := ok_of_bind given
    cases given
    exact child_orderly (ih first) field
  | index _ _ ih _ =>
    obtain ⟨key,-,given⟩ := ok_of_bind given
    obtain ⟨target,second,given⟩ := ok_of_bind given
    cases given
    exact child_orderly (ih second) key.plain
  | unary op _ ih =>
    obtain ⟨arg,-,given⟩ := ok_of_bind given
    exact UnaryOp.apply_orderly given
  | binary op _ _ ih ih' =>
    cases op with
    | connective op =>
      obtain ⟨l,first,given⟩ := ok_of_bind given
      split at given
      · cases given
        exact ih first
      · exact ih' given
    | operator op =>
      obtain ⟨l,-,given⟩ := ok_of_bind given
      obtain ⟨r,-,given⟩ := ok_of_bind given
      exact Operator.apply_orderly given
  | call name _ ih =>
    obtain ⟨values,all,given⟩ := ok_of_bind given
    exact apply_orderly (evaluateAll_orderly (fun arg member value => ih arg member) all) given

namespace Grammar

theorem numberOf?_orderly {whole fraction : List Char} {exponent : Option Int} {value : Json} (valued : numberOf? whole fraction exponent = some value) :
    value.Orderly := by
  unfold numberOf? at valued
  split at valued
  · cases valued
    exact .number _
  · dsimp only at valued
    split at valued <;> cases valued
    exact .number _

/-- The literals of a text are numbers and strings. -/
theorem literal_orderly {s rest : List Char} {value : Json} (read : orElse numberLiteral stringLiteral s = .ok (.literal value) rest) :
    value.Orderly := by
  obtain number | string := orElse_eq_ok read
  · obtain ⟨whole,left,found⟩ | stops := digits_cases s
    · rw [numberLiteral_of_digits found] at number
      split at number
      · next valued =>
        cases number
        exact numberOf?_orderly valued
      · cases number
    · rw [numberLiteral,digits_miss stops] at number
      cases number
  · obtain ⟨quote,t,cs,opening,rfl,quoted,same⟩ := stringLiteral_eq_ok.mp string
    cases same
    exact .string _

theorem mem_separated_of_mem {tss : List (List Token)} {ts : List Token} {t : Token} (member : ts ∈ tss) (here : t ∈ ts) : t ∈ separated tss := by
  cases tss with
  | nil => cases member
  | cons first rest =>
    obtain rfl | later := List.mem_cons.mp member
    · exact List.mem_append_left _ here
    · exact List.mem_append_right _ (List.mem_flatMap.mpr ⟨ts,later,List.mem_cons_of_mem _ here⟩)

/-- What a text is read as has no literals but those of its tokens and its words. -/
theorem Derives.orderly {k : Nat} {ts : List Token} {e : Expr} (derives : Derives k ts e)
    (literals : ∀ text value, .literal text value ∈ ts → value.Orderly) : e.Orderly := by
  induction derives with
  | looser _ _ ih => exact ih literals
  | binary _ _ _ _ ih ih' =>
    refine .binary _ (ih fun text value member => literals text value ?_) (ih' fun text value member => literals text value ?_)
    · simp [member]
    · simp [member]
  | unary _ _ ih => exact .unary _ (ih fun text value member => literals text value (List.mem_cons_of_mem _ member))
  | member name _ ih => exact .member (ih fun text value member => literals text value (List.mem_append_left _ member)) name
  | index _ _ ih ih' =>
    refine .index (ih fun text value member => literals text value ?_) (ih' fun text value member => literals text value ?_)
    · simp [member]
    · simp [member]
  | literal text value => exact .literal (literals text value (List.mem_singleton_self _))
  | reserved known =>
    unfold reserved? at known
    split at known <;> cases known
    · exact .literal (.bool _)
    · exact .literal (.bool _)
    · exact .literal .null
    · exact .literal .null
  | ident => exact .ident _
  | @call name free args each ih =>
    refine .call name fun e member => ?_
    obtain ⟨a,inside,rfl⟩ := List.mem_map.mp member
    refine ih a inside fun text value here => literals text value ?_
    have listed := mem_separated_of_mem (List.mem_map_of_mem inside) here
    simp [listed]
  | group _ ih => exact ih fun text value member => literals text value (by simp [member])

/-- Every literal among the pieces that are read is orderly. -/
theorem Runs.literals_orderly {p q : Place} {ps : List Piece} {rest : List Char} (runs : Runs p ps rest q) :
    ∀ text value, .literal text value ∈ tokens ps → value.Orderly := by
  induction runs with
  | nil => exact fun _ _ member => absurd member List.not_mem_nil
  | blank _ _ ih => exact ih
  | @token p ps rest q t read admitted _ ih =>
    intro literal value member
    obtain rfl | later := List.mem_cons.mp member
    · cases dot : p.afterDot with
      | true =>
        rw [dot] at read
        simp only [token?,if_true] at read
        split at read <;> cases read
      | false =>
        rw [dot] at read
        obtain ⟨name,same,-⟩ | ⟨text,value,same,-,found⟩ | ⟨text,same,-⟩ | ⟨m,same,-⟩ := token?_cases read
        · cases same
        · cases same
          exact literal_orderly found
        · cases same
        · cases same
    · exact ih literal value later

end Grammar

theorem parse_orderly {source : String} {e : Expr} (read : parse source = .ok e) : e.Orderly := by
  unfold parse at read
  split at read
  · cases read
  · split at read
    · next found =>
      cases read
      obtain ⟨ps,-,derives,leads⟩ := Grammar.expression_sound _ found
      obtain ⟨q,runs,-⟩ := leads .start ⟨rfl,rfl,rfl,rfl⟩
      exact derives.orderly runs.literals_orderly
    · cases read
    · cases read
    · cases read

/-- The value of a text over orderly data is orderly. -/
theorem evaluateText_orderly {source : String} {data value : Json} (bag : data.Orderly) (given : evaluateText source data = .ok value) :
    value.Orderly := by
  obtain ⟨e,read,given⟩ := ok_of_bind given
  exact evaluate_orderly bag (parse_orderly read) given

end Expr
end Flowgraph
