import Flowgraph.Expression.Evaluate
import Flowgraph.Proofs.Data.Path
import Flowgraph.Proofs.Expression.Printing

/-! Paths written as expressions. A path of names and numbers behind `data` is read as that many accesses, each of what the one
before it gives, and comes to what the path itself leads to. Where the path leads to nothing the accesses come to null. -/

namespace Flowgraph.Expr
open Grammar

theorem isName_data : IsName "data" := ⟨'d',['a','t','a'],rfl,rfl,List.all_eq_true.mp rfl⟩

/-- The accesses of a path, each to what the one before it gives. -/
def accessed (target : Expr) (path : List String) : Expr := path.foldl .member target

section
variable {data value : Json} {target : Expr} {ts : List Token} {name : String} {path : List String}

theorem evaluate_accessed (given : evaluate data target = .ok value) (path : List String) :
    evaluate data (accessed target path) = .ok ((Path.follow value path).getD .null) := by
  induction path generalizing target value with
  | nil => exact given
  | cons segment rest ih =>
    have first : evaluate data (.member target segment) = .ok ((Path.child? value segment).getD .null) := by
      rw [evaluate,given]
      rfl
    rw [← Path.follow_child_getD]
    exact ih first

theorem written_accessed (style : Style) (rank : targetRank target = 7) (bare : ∀ k ≤ 7, written style k target = ts) (path : List String) :
    ∀ k ≤ 7, written style k (accessed target path) = ts ++ path.flatMap fun segment => [.mark .dot,.field segment] := by
  induction path generalizing target ts with
  | nil => simpa [accessed] using bare
  | cons segment rest ih =>
    have member : ∀ k ≤ 7, written style k (.member target segment) = ts ++ [.mark .dot,.field segment] := fun k low => by
      rw [written,enclosed,if_neg (Nat.not_lt.mpr low),rank,bare 7 (Nat.le_refl 7)]
    simpa [accessed] using ih rfl member

theorem writable_accessed (writable : Writable target) (valid : ∀ segment ∈ path, IsName segment ∨ IsNumeral segment) :
    Writable (accessed target path) := by
  induction path generalizing target with
  | nil => exact writable
  | cons segment rest ih =>
    obtain ⟨here,others⟩ := List.forall_mem_cons.mp valid
    exact ih (.member here writable) others

theorem isNameChar_of_valid (valid : IsName name ∨ IsNumeral name) : ∀ c ∈ name.toList, isNameChar c = true := by
  obtain ⟨c,cs,spelt,start,follow⟩ | ⟨-,digits⟩ := valid
  · rw [spelt]
    exact List.forall_mem_cons.mpr ⟨isNameChar_of_isNameStart start,follow⟩
  · exact fun c member => isNameChar_of_isDigit (digits c member)

theorem not_isBlank_of_isNameChar {c : Char} (named : isNameChar c = true) : Text.isBlank c = false := by
  simp only [isNameChar,Bool.or_eq_true,beq_iff_eq] at named
  obtain (letter | rfl) | rfl := named
  · exact Text.not_isBlank_of_isAlphanum letter
  all_goals decide

theorem not_isOperatorChar_of_isNameChar {c : Char} (named : isNameChar c = true) : isOperatorChar c = false := by
  have apart : ∀ c ∈ "+-*/%!<>=&|.,".toList, isNameChar c = false := List.forall_iff_forall_mem.mp (by decide)
  exact Bool.eq_false_iff.mpr fun operator => Bool.false_ne_true ((apart c (List.contains_iff_mem.mp operator)).symm.trans named)

theorem letters_path (some : path ≠ []) :
    ("data." ++ ".".intercalate path).toList = "data".toList ++ path.flatMap fun segment => '.' :: segment.toList := by
  have parts : path.map String.toList ≠ [] := fun none_ => some (List.map_eq_nil_iff.mp none_)
  have joined := Path.cons_intercalate parts
  rw [List.flatMap_map] at joined
  rw [String.toList_append,String.toList_intercalate,← joined]
  rfl

theorem render_accessed (some : path ≠ []) : render .short (accessed (.ident "data") path) = "data." ++ ".".intercalate path := by
  have data : ∀ k ≤ 7, written .short k (.ident "data") = [.word "data"] := fun k low => by
    rw [written,enclosed,if_neg (by omega)]
  rw [← String.toList_inj,render,String.toList_ofList,written_accessed .short rfl data path 0 (Nat.zero_le 7),letters_path some,
    List.flatMap_append,List.flatMap_assoc]
  simp [Token.text,Mark.char]

theorem countP_path (valid : ∀ segment ∈ path, IsName segment ∨ IsNumeral segment) :
    (path.flatMap fun segment => '.' :: segment.toList).countP isOperatorChar = path.length := by
  induction path with
  | nil => rfl
  | cons segment rest ih =>
    obtain ⟨here,others⟩ := List.forall_mem_cons.mp valid
    have silent : segment.toList.countP isOperatorChar = 0 :=
      List.countP_eq_zero.mpr fun c member => by simp [not_isOperatorChar_of_isNameChar (isNameChar_of_valid here c member)]
    rw [List.flatMap_cons,List.cons_append,List.countP_cons_of_pos rfl,List.countP_append,silent,ih others,List.length_cons,Nat.zero_add]

/-- Of the text of a path the scan counts the dots. -/
theorem tally_path (some : path ≠ []) (valid : ∀ segment ∈ path, IsName segment ∨ IsNumeral segment) (within : path.length ≤ maxOperators) :
    tally ("data." ++ ".".intercalate path).toList = .ok ⟨0,path.length,none,false⟩ := by
  have plain : ∀ c ∈ "data".toList ++ path.flatMap fun segment => '.' :: segment.toList, isPlain c = true := by
    rintro c member
    obtain first | behind := List.mem_append.mp member
    · exact isPlain_of_isNameChar (isNameChar_of_valid (.inl isName_data) c first)
    · obtain ⟨segment,known,inside⟩ := List.mem_flatMap.mp behind
      obtain rfl | inside := List.mem_cons.mp inside
      · rfl
      · exact isPlain_of_isNameChar (isNameChar_of_valid (valid segment known) c inside)
  have dots : ("data".toList ++ path.flatMap fun segment => '.' :: segment.toList).countP isOperatorChar = path.length := by
    have silent : "data".toList.countP isOperatorChar = 0 := rfl
    rw [List.countP_append,silent,countP_path valid,Nat.zero_add]
  rw [letters_path some,tally]
  exact (counts_plain ⟨rfl,rfl,Nat.zero_le _⟩ plain).mpr ⟨by rw [dots,Nat.zero_add],within⟩

end

/-- A path of names and numbers behind `data`, of no more segments than operators may stand in an expression, is an
expression whose value is what the path finds in the data, and null where it finds nothing. -/
theorem evaluateText_path (data : Json) {path : List String} (some : path ≠ []) (within : path.length ≤ maxOperators)
    (valid : ∀ segment ∈ path, IsName segment ∨ IsNumeral segment) :
    evaluateText ("data." ++ ".".intercalate path) data = .ok ((Path.lookup data (".".intercalate path)).getD .null) := by
  -- The text is what the accesses are printed as, so it is read as they are.
  have printed := render_accessed some
  have accepted : parse ("data." ++ ".".intercalate path) = .ok (accessed (.ident "data") path) := by
    have derived := render_derives .short (writable_accessed (.ident isName_data rfl) valid)
    rw [printed] at derived
    exact parse_eq_ok.mpr ⟨⟨_,tally_path some valid within⟩,derived⟩
  have solid : ∀ segment ∈ path, segment ≠ "" ∧ ∀ c ∈ segment.toList, c ≠ '.' ∧ Text.isBlank c = false := fun segment member => by
    have named := isNameChar_of_valid (valid segment member)
    refine ⟨?_,fun c inside => ⟨?_,not_isBlank_of_isNameChar (named c inside)⟩⟩
    · rintro rfl
      obtain ⟨c,cs,spelt,-⟩ | ⟨nonempty,-⟩ := valid "" member
      · cases spelt
      · exact nonempty rfl
    · rintro rfl
      cases named '.' inside
  have bag : evaluate data (.ident "data") = .ok data := by rw [evaluate,if_pos rfl]
  rw [evaluateText,accepted,Path.lookup_intercalate data some solid]
  exact evaluate_accessed bag path

theorem listed_field_found :
    let data : Json := .object [("items",.array [.object [("true",.string "A1")]])]
    evaluateText "data.items.0.true" data = .ok (.string "A1") ∧ evaluateText "data.items.1" data = .ok .null := by
  intro data
  have items : IsName "items" := ⟨'i',['t','e','m','s'],rfl,rfl,List.all_eq_true.mp rfl⟩
  have first : IsNumeral "0" := ⟨by decide,List.all_eq_true.mp rfl⟩
  have second : IsNumeral "1" := ⟨by decide,List.all_eq_true.mp rfl⟩
  have held := evaluateText_path data (List.cons_ne_nil "items" ["0","true"]) (by decide) (by simp [items,isName_true,first])
  have missing := evaluateText_path data (List.cons_ne_nil "items" ["1"]) (by decide) (by simp [items,second])
  exact ⟨held,missing⟩

end Flowgraph.Expr
