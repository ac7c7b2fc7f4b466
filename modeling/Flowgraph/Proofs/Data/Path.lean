import Flowgraph.Data.Path
import Flowgraph.Proofs.Json.Fields
import Flowgraph.Proofs.Text.Blank
import Mathlib.Data.List.Basic

/-! Reading and writing at dotted paths. What is written is read again, whatever stood in its way. A write
makes objects of what stands on its path, and where no array stands there nothing else is read differently. Two writes
of which neither leads through the place of the other can be made in either order. Names without dots or blanks that
are joined by dots are a path along them. -/

namespace Flowgraph.Path

theorem splitDots_undotted {part : List Char} (undotted : '.' ∉ part) : splitDots part = [part] := by
  induction part with
  | nil => rfl
  | cons c part ih =>
    obtain ⟨other,undotted⟩ := not_or.mp (fun either => undotted (List.mem_cons.mpr either))
    rw [splitDots,if_neg (Ne.symm other),ih undotted]

theorem splitDots_append {part : List Char} (undotted : '.' ∉ part) (rest : List Char) :
    splitDots (part ++ '.' :: rest) = part :: splitDots rest := by
  induction part with
  | nil => rfl
  | cons c part ih =>
    obtain ⟨other,undotted⟩ := not_or.mp (fun either => undotted (List.mem_cons.mpr either))
    rw [List.cons_append,splitDots,if_neg (Ne.symm other),ih undotted]

theorem splitDots_ne_nil (text : List Char) : splitDots text ≠ [] := by
  cases text with
  | nil => exact List.cons_ne_nil _ _
  | cons c rest =>
    rw [splitDots]
    split
    · exact List.cons_ne_nil _ _
    · split <;> exact List.cons_ne_nil _ _

theorem segments_ne_nil (path : String) : segments path ≠ [] := fun none_ => splitDots_ne_nil _ (List.map_eq_nil_iff.mp none_)

section
variable {root value : Json} {segment name : String} {path other : List String}

theorem child?_object (fields : Fields) (name : String) : child? (.object fields) name = Fields.get? fields name := rfl

/-- Null has no members, so a path that has lost its way comes to null at any later point. -/
theorem follow_child_getD (value : Json) (segment : String) (rest : List String) :
    (follow ((child? value segment).getD .null) rest).getD .null = (follow value (segment :: rest)).getD .null := by
  rw [follow]
  cases child? value segment with
  | some inner => rfl
  | none => cases rest <;> rfl

theorem put_cons_cons (root value : Json) (segment next : String) (rest : List String) : put root value (segment :: next :: rest) =
    .object (Fields.insert segment (put ((Fields.get? (entries root) segment).getD (.object [])) value (next :: rest)) (entries root)) := rfl

/-- What a write at a path sets its first segment to. -/
def inserted (root value : Json) (segment : String) : List String → Json
  | [] => value
  | next :: more => put ((Fields.get? (entries root) segment).getD (.object [])) value (next :: more)

theorem put_cons (root value : Json) (segment : String) (rest : List String) :
    put root value (segment :: rest) = .object (Fields.insert segment (inserted root value segment rest) (entries root)) := by
  cases rest <;> rfl

theorem follow_put (root value : Json) (named : path ≠ []) : follow (put root value path) path = some value := by
  induction path generalizing root with
  | nil => contradiction
  | cons segment rest ih =>
    cases rest with
    | nil => simp only [put,follow,child?_object,Fields.get?,Fields.lookup_insert,if_true,Option.bind_some]
    | cons next more =>
      rw [put_cons_cons,follow,child?_object,Fields.get?,Fields.lookup_insert,if_pos rfl,Option.bind_some]
      exact ih _ (List.cons_ne_nil next more)

/-- Next to the first segment of its path a write changes nothing. -/
theorem child?_put_apart (root value : Json) (rest : List String) (apart : name ≠ segment) :
    child? (put root value (segment :: rest)) name = Fields.get? (entries root) name := by
  rw [put_cons,child?_object]
  exact (Fields.lookup_insert ..).trans (if_neg apart)

/-- An array counts as an empty object where it is written to, but has positions where it is read. -/
theorem child?_eq_entries (unlisted : ∀ items, root ≠ .array items) (name : String) : child? root name = Fields.get? (entries root) name := by
  cases root with
  | array items => exact absurd rfl (unlisted items)
  | object => rfl
  | null | bool | number | string => rfl

/-- No array stands at a place that the path goes through. -/
def Unlisted (root : Json) (path : List String) : Prop :=
  ∀ before, before <+: path → before ≠ path → ∀ items, follow root before ≠ some (.array items)

theorem Unlisted.here (unlisted : Unlisted root (segment :: path)) : ∀ items, root ≠ .array items := fun items same =>
  unlisted [] List.nil_prefix (List.cons_ne_nil segment path).symm items (congrArg some same)

/-- What a write finds at a name, or makes there, is read as what was there. -/
theorem follow_inner (unlisted : ∀ items, root ≠ .array items) (name : String) (onward : path ≠ []) :
    follow ((Fields.get? (entries root) name).getD (.object [])) path = follow root (name :: path) := by
  rw [follow,child?_eq_entries unlisted]
  cases Fields.get? (entries root) name with
  | some inner => rfl
  | none =>
    obtain ⟨first,later,rfl⟩ := List.exists_cons_of_ne_nil onward
    rfl

theorem Unlisted.inner (unlisted : Unlisted root (segment :: path)) :
    Unlisted ((Fields.get? (entries root) segment).getD (.object [])) path := by
  intro before starts shorter items
  have above := unlisted (segment :: before) ((List.prefix_cons_inj segment).mpr starts) (by simpa using shorter) items
  cases before with
  | cons => rwa [follow_inner unlisted.here segment (List.cons_ne_nil _ _)]
  | nil =>
    rw [follow,child?_eq_entries unlisted.here] at above
    cases held : Fields.get? (entries root) segment with
    | some inner => simpa [held] using above
    | none => exact nofun

theorem follow_put_apart (unlisted : Unlisted root path) (beside : ¬path <+: other) (beside' : ¬other <+: path) :
    follow (put root value path) other = follow root other := by
  induction path generalizing root other with
  | nil => exact absurd List.nil_prefix beside
  | cons segment rest ih =>
    cases other with
    | nil => exact absurd List.nil_prefix beside'
    | cons name more =>
      by_cases same : name = segment
      · -- Under one name both paths go on, and they part further down.
        subst same
        rw [List.prefix_cons_inj] at beside beside'
        have onward : more ≠ [] := fun empty => beside' (empty ▸ List.nil_prefix)
        cases rest with
        | nil => exact absurd List.nil_prefix beside
        | cons next rest =>
          rw [put_cons_cons,follow,child?_object,Fields.get?,Fields.lookup_insert,if_pos rfl,Option.bind_some,
            ih unlisted.inner beside beside',follow_inner unlisted.here name onward]
      · rw [follow,follow,child?_put_apart root value rest same,child?_eq_entries unlisted.here]

/-- What a write finds under its first name is what was there, after a write under another name too. -/
theorem inserted_put (root value held : Json) (apart : name ≠ segment) (rest more : List String) :
    inserted (put root value (segment :: rest)) held name more = inserted root held name more := by
  cases more with
  | nil => rfl
  | cons next more =>
    have kept := child?_put_apart root value rest apart
    rw [put_cons,child?_object] at kept
    rw [inserted,inserted,put_cons root,entries,kept]

/-- Two writes can be made in either order, whatever stands on their ways, if neither leads through the place of the other. -/
theorem put_comm (root value held : Json) (beside : ¬path <+: other) (beside' : ¬other <+: path) :
    put (put root value path) held other = put (put root held other) value path := by
  induction path generalizing root other with
  | nil => exact absurd List.nil_prefix beside
  | cons segment rest ih =>
    cases other with
    | nil => exact absurd List.nil_prefix beside'
    | cons name more =>
      by_cases same : name = segment
      · -- Both paths go on in what stands under the one name, which is set last by either of them.
        subst same
        rw [List.prefix_cons_inj] at beside beside'
        cases rest with
        | nil => exact absurd List.nil_prefix beside
        | cons next rest =>
          cases more with
          | nil => exact absurd List.nil_prefix beside'
          | cons next' more =>
            simp only [put_cons_cons,entries,Fields.get?,Fields.lookup_insert,if_true,Option.getD_some,Fields.insert_insert]
            rw [ih _ beside beside']
      · have swapped := Fields.insert_comm same (inserted root held name more) (inserted root value segment rest) (entries root)
        rw [put_cons (put root value (segment :: rest)),inserted_put root value held same,put_cons (put root held (name :: more)),
          inserted_put root held value (Ne.symm same),put_cons,put_cons,entries,entries,swapped]

end

section
variable {parts : List (List Char)} {names : List String}

theorem splitDots_intercalate (some : parts ≠ []) (undotted : ∀ part ∈ parts, '.' ∉ part) : splitDots (['.'].intercalate parts) = parts := by
  induction parts with
  | nil => contradiction
  | cons part rest ih =>
    obtain ⟨here,others⟩ := List.forall_mem_cons.mp undotted
    cases rest with
    | nil => simpa using splitDots_undotted here
    | cons next more =>
      have shape : ['.'].intercalate (part :: next :: more) = part ++ '.' :: ['.'].intercalate (next :: more) := by simp
      rw [shape,splitDots_append here,ih (List.cons_ne_nil next more) others]

theorem cons_intercalate (some : parts ≠ []) : '.' :: ['.'].intercalate parts = parts.flatMap ('.' :: ·) := by
  induction parts with
  | nil => contradiction
  | cons part rest ih =>
    cases rest with
    | nil => simp
    | cons next more =>
      rw [List.flatMap_cons,← ih (List.cons_ne_nil next more)]
      simp

theorem mem_intercalate {c : Char} (member : c ∈ ['.'].intercalate parts) : c = '.' ∨ ∃ part ∈ parts, c ∈ part := by
  cases parts with
  | nil => cases member
  | cons part rest =>
    have either := List.mem_cons_of_mem '.' member
    rw [cons_intercalate (List.cons_ne_nil part rest)] at either
    obtain ⟨here,inside,place⟩ := List.mem_flatMap.mp either
    exact (List.mem_cons.mp place).imp_right fun place => ⟨here,inside,place⟩

theorem trimChars_intercalate (solid : ∀ part ∈ parts, ∀ c ∈ part, Text.isBlank c = false) :
    Text.trimChars (['.'].intercalate parts) = ['.'].intercalate parts := by
  have inked : ∀ c ∈ ['.'].intercalate parts, Text.isBlank c = false := fun c member => by
    obtain rfl | ⟨part,inside,place⟩ := mem_intercalate member
    · decide
    · exact solid part inside c place
  exact Text.trimChars_eq_self (fun c first => inked c (List.mem_of_mem_head? first)) fun c last => inked c (List.mem_of_mem_getLast? last)

theorem lookup_intercalate (data : Json) (some : names ≠ []) (solid : ∀ name ∈ names, name ≠ "" ∧ ∀ c ∈ name.toList, c ≠ '.' ∧ Text.isBlank c = false) :
    lookup data (".".intercalate names) = follow data names := by
  have letters : (".".intercalate names).toList = ['.'].intercalate (names.map String.toList) := String.toList_intercalate
  have undotted : ∀ part ∈ names.map String.toList, '.' ∉ part :=
    List.forall_mem_map.mpr fun name member dotted => ((solid name member).2 '.' dotted).1 rfl
  have split := splitDots_intercalate (fun none_ => some (List.map_eq_nil_iff.mp none_)) undotted
  have inked : ∀ part ∈ names.map String.toList, ∀ c ∈ part, Text.isBlank c = false :=
    List.forall_mem_map.mpr fun name member c place => ((solid name member).2 c place).2
  have whole := trimChars_intercalate inked
  have named : Text.trim (".".intercalate names) ≠ "" := by
    intro empty
    rw [Text.trim,letters,whole,← letters,String.ofList_toList] at empty
    obtain ⟨first,rest,rfl⟩ := List.exists_cons_of_ne_nil some
    rw [← letters,empty] at split
    exact (solid first (List.mem_cons_self ..)).1 (String.toList_inj.mp (List.cons.inj split).1.symm)
  rw [lookup,if_neg named,segments,letters,whole,split,List.map_map]
  simp [Function.comp_def]

end

theorem lookup_trim (root : Json) (path : String) : lookup root (Text.trim path) = lookup root path := by
  rw [lookup,lookup,segments,segments,Text.trim,Text.trim,String.toList_ofList,Text.trimChars_trimChars]

/-- What is written at a path is found there. Where the values on the way to it are objects, if there are any,
all is found as before at paths that neither lead through it nor end on the way. -/
theorem assign_lawful (root value : Json) {path : String} (named : Text.trim path ≠ "") :
    lookup (assign root path value) path = some value ∧
      ((∀ before, before <+: segments path → before ≠ segments path → ∀ held, follow root before = some held → ∃ fields, held = .object fields) →
        ∀ other, ¬segments path <+: segments other → ¬segments other <+: segments path →
          lookup (assign root path value) other = lookup root other) := by
  refine ⟨?_,fun objects other beside beside' => ?_⟩
  · rw [lookup,if_neg named]
    exact follow_put root value (segments_ne_nil path)
  · have unlisted : Unlisted root (segments path) := by
      intro before starts shorter items held
      obtain ⟨fields,same⟩ := objects before starts shorter _ held
      cases same
    unfold lookup
    rw [assign,follow_put_apart unlisted beside beside']

theorem stage_written_beside_id :
    let root : Json := .object [("deal",.object [("id",.ofNat 7)]),("tags",.array [.string "new"])]
    let written := assign root " deal.stage" (.string "won")
    lookup written " deal.stage" = some (.string "won") ∧ lookup written "deal.id" = some (.ofNat 7) ∧
      lookup written "tags.0" = some (.string "new") := by
  intro root written
  have parts : segments " deal.stage" = ["deal","stage"] := by decide
  have named : Text.trim " deal.stage" ≠ "" := by decide
  obtain ⟨found,kept⟩ := assign_lawful root (.string "won") named
  have kept := kept fun before starts shorter held reached => by
    rw [parts] at starts shorter
    obtain rfl | ⟨more,rfl,behind⟩ := List.prefix_cons_iff.mp starts
    · exact ⟨_,(Option.some.inj reached).symm⟩
    · obtain rfl | ⟨last,rfl,none_behind⟩ := List.prefix_cons_iff.mp behind
      · exact ⟨_,(Option.some.inj reached).symm⟩
      · exact absurd (by rw [List.prefix_nil.mp none_behind]) shorter
  exact ⟨found,(kept "deal.id" (by decide) (by decide)).trans rfl,(kept "tags.0" (by decide) (by decide)).trans rfl⟩

end Flowgraph.Path
