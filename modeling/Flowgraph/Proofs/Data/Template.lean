import Flowgraph.Data.Template
import Flowgraph.Proofs.Data.Path

/-! Placeholders in a text. A written placeholder is read as such wherever it stands: nothing before it can
take its braces away, so a text that holds one resolves in three parts. A path of two segments, one
of them a key written as it is, leads to the entry of that key. -/

namespace Flowgraph
namespace Template

/-- What can stand between double braces. -/
def IsInner (inner : List Char) : Prop := inner ≠ [] ∧ ∀ c ∈ inner, isBrace c = false

theorem slot?_written {inner : List Char} (fits : IsInner inner) (after : List Char) : slot? (written inner ++ after) = some (inner,after) := by
  obtain ⟨nonempty,plain⟩ := fits
  have keep : ∀ c ∈ inner, (!isBrace c) = true := fun c member => by rw [plain c member]; rfl
  have taken : (inner ++ '\x7d' :: '\x7d' :: after).takeWhile (!isBrace ·) = inner := by
    rw [List.takeWhile_append_of_pos keep]
    exact List.append_nil _
  have left : (inner ++ '\x7d' :: '\x7d' :: after).dropWhile (!isBrace ·) = '\x7d' :: '\x7d' :: after := by
    rw [List.dropWhile_append_of_pos keep]
    rfl
  have text : written inner ++ after = '\x7b' :: '\x7b' :: (inner ++ '\x7d' :: '\x7d' :: after) := by simp [written]
  rw [text]
  simp only [slot?,taken,left]
  cases inner with
  | nil => exact absurd rfl nonempty
  | cons => rfl

theorem slot?_eq_some {text inner after : List Char} :
    slot? text = some (inner,after) ↔ IsInner inner ∧ text = written inner ++ after := by
  refine ⟨fun found => ?_,?_⟩
  · unfold slot? at found
    split at found
    · next rest =>
      split at found
      · next c inside tail taken left =>
        cases found
        have whole := List.takeWhile_append_dropWhile (p := (!isBrace ·)) (l := rest)
        have plain := List.all_takeWhile (p := (!isBrace ·)) (l := rest)
        rw [taken] at whole plain
        rw [left] at whole
        refine ⟨⟨List.cons_ne_nil _ _,fun d member => by simpa using List.all_eq_true.mp plain d member⟩,?_⟩
        simp [written,← whole]
      · cases found
    · cases found
  · rintro ⟨fits,rfl⟩
    exact slot?_written fits after

/-- Where no placeholder starts, none does when double braces follow. -/
theorem slot?_append_none {text : List Char} (nonempty : text ≠ []) (none_ : slot? text = none) (more : List Char) :
    slot? (text ++ '\x7b' :: '\x7b' :: more) = none := by
  rw [Option.eq_none_iff_forall_ne_some]
  rintro ⟨inner,after⟩ found
  obtain ⟨⟨filled,plain⟩,same⟩ := slot?_eq_some.mp found
  have close : isBrace '\x7b' = true := rfl
  match text with
  | [_] =>
    obtain ⟨d,inner,rfl⟩ := List.exists_cons_of_ne_nil filled
    simp only [written,List.cons_append,List.nil_append,List.cons.injEq] at same
    have := plain d (List.mem_cons_self ..)
    rw [← same.2.2.1] at this
    cases this
  | a :: b :: rest =>
    simp only [written,List.cons_append,List.nil_append,List.append_assoc,List.cons.injEq] at same
    obtain ⟨rfl,rfl,same⟩ := same
    obtain ⟨x,rfl,closes⟩ | ⟨x,rfl,opens⟩ := List.append_eq_append_iff.mp same
    · match x with
      | [] => cases closes
      | c :: x =>
        obtain ⟨rfl,-⟩ := List.cons.inj closes
        cases plain '\x7b' (by simp)
    · match x with
      | [] => cases opens
      | [_] => cases opens
      | _ :: _ :: x =>
        cases opens
        have text : '\x7b' :: '\x7b' :: (inner ++ '\x7d' :: '\x7d' :: x) = written inner ++ x := by simp [written]
        rw [text,slot?_written ⟨filled,plain⟩] at none_
        cases none_

theorem pieces_slot {inner : List Char} (fits : IsInner inner) (after : List Char) :
    pieces (written inner ++ after) = .slot inner :: pieces after := by
  rw [pieces]
  split
  · next found =>
    cases (slot?_written fits after).symm.trans found
    rfl
  · next found => cases (slot?_written fits after).symm.trans found

theorem pieces_char {c : Char} {rest : List Char} (none_ : slot? (c :: rest) = none) : pieces (c :: rest) = .char c :: pieces rest := by
  rw [pieces]
  split
  · next found => cases none_.symm.trans found
  · rfl

/-- A placeholder is read wherever it is written. -/
theorem pieces_append_written {inner : List Char} (fits : IsInner inner) (before after : List Char) :
    pieces (before ++ (written inner ++ after)) = pieces before ++ .slot inner :: pieces after := by
  induction before using pieces.induct with
  | case1 text slot rest found _ ih =>
    obtain ⟨plain,rfl⟩ := slot?_eq_some.mp found
    rw [List.append_assoc,pieces_slot plain,pieces_slot plain,ih]
    rfl
  | case2 c rest none_ ih =>
    have none_after : slot? (c :: (rest ++ (written inner ++ after))) = none := by
      simpa [written] using slot?_append_none (List.cons_ne_nil c rest) none_ (inner ++ '\x7d' :: '\x7d' :: after)
    rw [List.cons_append,pieces_char none_after,pieces_char none_,ih]
    rfl
  | case3 none_ =>
    have empty : pieces [] = [] := by rw [pieces]; rfl
    rw [List.nil_append,pieces_slot fits,empty]
    rfl

/-- A text with its placeholders filled in, as characters. -/
def filled (data : Json) (text : List Char) : List Char := (pieces text).flatMap (·.render data)

theorem toList_resolve (text : String) (data : Json) : (resolve text data).toList = filled data text.toList := String.toList_ofList

theorem filled_append_written {inner : List Char} (fits : IsInner inner) (data : Json) (before after : List Char) :
    filled data (before ++ (written inner ++ after)) = filled data before ++ (Piece.render data (.slot inner) ++ filled data after) := by
  rw [filled,pieces_append_written fits,List.flatMap_append,List.flatMap_cons]
  rfl

/-- Keys that a path can name as they are: in one segment, inside braces, with no blank to lose at the end. -/
def IsKey (key : String) : Prop :=
  '.' ∉ key.toList ∧ (∀ c ∈ key.toList, isBrace c = false) ∧ ∀ c ∈ key.toList.getLast?, Text.isBlank c = false

end Template

namespace Path

theorem trim_contact {key : String} (isKey : Template.IsKey key) :
    Text.trimChars ("contact." ++ key).toList = "contact".toList ++ '.' :: key.toList := by
  have text : ("contact." ++ key).toList = "contact".toList ++ '.' :: key.toList := by rw [String.toList_append]; rfl
  rw [text]
  refine Text.trimChars_eq_self (by rintro c ⟨⟩; decide) fun c last => ?_
  rw [List.getLast?_append_cons,List.getLast?_cons] at last
  cases more : key.toList.getLast? with
  | none =>
    rw [more] at last
    cases last
    decide
  | some d =>
    rw [more] at last
    exact isKey.2.2 c (more ▸ last)

theorem segments_contact {key : String} (isKey : Template.IsKey key) : segments ("contact." ++ key) = ["contact",key] := by
  rw [segments,trim_contact isKey,splitDots_append (by decide),splitDots_undotted isKey.1]
  simp

theorem lookup_contact {key : String} (isKey : Template.IsKey key) (bag : Fields) :
    lookup (.object [("contact",.object bag)]) ("contact." ++ key) = Fields.get? bag key := by
  have named : Text.trim ("contact." ++ key) ≠ "" := by
    rw [Text.trim,trim_contact isKey]
    intro empty
    cases String.toList_ofList.symm.trans (congrArg String.toList empty)
  rw [lookup,if_neg named,segments_contact isKey]
  simp only [follow,child?,Fields.get?,List.lookup_cons_self,Option.bind_some]
  exact Option.bind_fun_some _

end Path

namespace Template

theorem isInner_contact {key : String} (isKey : IsKey key) : IsInner ("contact." ++ key).toList := by
  rw [String.toList_append]
  have plain : ∀ c ∈ "contact.".toList, isBrace c = false := List.forall_iff_forall_mem.mp (by decide)
  exact ⟨List.cons_ne_nil _ _,fun c member => (List.mem_append.mp member).elim (plain c) (isKey.2.1 c)⟩

/-- What stands in the place of `contact.key`, where the data at hand have no such entry, comes from the contact. -/
theorem filled_contact {key : String} (isKey : IsKey key) {data : Json} {bag : Fields} {value : Json} (before after : List Char)
    (own : Fields.get? bag key = some value) (absent : Path.lookup data ("contact." ++ key) = none) :
    filled (.object [("contact",.object bag)]) (filled data (before ++ (written ("contact." ++ key).toList ++ after))) =
      filled (.object [("contact",.object bag)]) (filled data before) ++ (value.plain.toList ++
        filled (.object [("contact",.object bag)]) (filled data after)) := by
  have fits := isInner_contact isKey
  have kept : Piece.render data (.slot ("contact." ++ key).toList) = written ("contact." ++ key).toList := by
    simp only [Piece.render,String.ofList_toList,absent]
  have given : Piece.render (.object [("contact",.object bag)]) (.slot ("contact." ++ key).toList) = value.plain.toList := by
    simp only [Piece.render,String.ofList_toList,Path.lookup_contact isKey,own]
  rw [filled_append_written fits,kept,filled_append_written fits,given]

end Template
end Flowgraph
