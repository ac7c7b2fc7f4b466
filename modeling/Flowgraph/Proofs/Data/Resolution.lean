import Flowgraph.Proofs.Data.Template

/-! Texts with any number of placeholders. A text is cut into its placeholders and what stands between them, and
each placeholder is replaced on its own: neither the braces of its neighbours nor those of values count. -/

namespace Flowgraph.Template

/-- Double braces open somewhere in the text. -/
def Opens (text : List Char) : Prop := ['\x7b','\x7b'] <:+: text

instance (text : List Char) : Decidable (Opens text) := List.instDecidableIsInfixOfDecidableEq _ text

theorem opens_written (inner after : List Char) : Opens (written inner ++ after) :=
  ⟨[],inner ++ ['\x7d','\x7d'] ++ after,by simp [written]⟩

theorem Opens.cons {text : List Char} (opens : Opens text) (c : Char) : Opens (c :: text) := List.infix_cons opens

theorem pieces_of_not_opens {text : List Char} (plain : ¬Opens text) : pieces text = text.map .char := by
  induction text with
  | nil => rw [pieces]; rfl
  | cons c rest ih =>
    have none_ : slot? (c :: rest) = none := by
      refine Option.eq_none_iff_forall_ne_some.mpr fun slot found => plain ?_
      rw [(slot?_eq_some.mp found).2]
      exact opens_written slot.1 slot.2
    rw [pieces_char none_,ih fun opens => plain (opens.cons c),List.map_cons]

theorem filled_of_not_opens (data : Json) {text : List Char} (plain : ¬Opens text) : filled data text = text := by
  rw [filled,pieces_of_not_opens plain,List.flatMap_map]
  exact List.flatMap_singleton' text

def placeholder (inner : String) : String := .ofList (written inner.toList)

/-- What stands for a placeholder: the value at its text without the blanks around it, or else the placeholder. -/
def substitute (data : Json) (inner : String) : String :=
  match Path.lookup data (Text.trim inner) with
  | some value => value.plain
  | none => placeholder inner

theorem toList_substitute (data : Json) (inner : String) : (substitute data inner).toList = Piece.render data (.slot inner.toList) := by
  rw [substitute,Path.lookup_trim,Piece.render,String.ofList_toList]
  cases Path.lookup data inner with
  | some value => rfl
  | none => exact String.toList_ofList

/-- What stands between placeholders stays, and each placeholder is substituted once, whatever its substitute looks like. -/
theorem resolve_in_one_pass (data : Json) (start : String) (slots : List (String × String)) (plain : ¬Opens start.toList)
    (each : ∀ slot ∈ slots, IsInner slot.1.toList ∧ ¬Opens slot.2.toList) :
    resolve (start ++ String.join (slots.map fun slot => placeholder slot.1 ++ slot.2)) data =
      start ++ String.join (slots.map fun slot => substitute data slot.1 ++ slot.2) := by
  rw [← String.toList_inj,toList_resolve]
  -- Behind the first slot stands a text of the same form, with what follows the slot as its start.
  induction slots generalizing start with
  | nil => simpa using filled_of_not_opens data plain
  | cons slot rest ih =>
    obtain ⟨⟨fits,behind⟩,others⟩ := List.forall_mem_cons.mp each
    have first : placeholder slot.1 = .ofList (written slot.1.toList) := rfl
    simp only [List.map_cons,String.join_cons,String.toList_append,first,String.toList_ofList,List.append_assoc]
    rw [filled_append_written fits,filled_of_not_opens data plain,toList_substitute,← String.toList_append,ih slot.2 behind others,String.toList_append]

theorem value_with_braces_stays :
    let data : Json := .object [("a",.string "\x7b\x7bb\x7d\x7d"),("b",.ofNat 5)]
    resolve "\x7b\x7b\x7b a \x7d\x7d\x7d\x7b\x7bb\x7d\x7d\x7b\x7b c \x7d\x7d" data =
      "\x7b\x7b\x7bb\x7d\x7d\x7d5\x7b\x7b c \x7d\x7d" := by
  intro data
  let slots := [(" a ","\x7d"),("b",""),(" c ","")]
  have fitting : slots.Forall fun slot => slot.1.toList ≠ [] ∧ (slot.1.toList.Forall fun c => isBrace c = false) ∧ ¬Opens slot.2.toList := by decide
  have each (slot : String × String) (member : slot ∈ slots) : IsInner slot.1.toList ∧ ¬Opens slot.2.toList := by
    obtain ⟨nonempty,plain,closed⟩ := List.forall_iff_forall_mem.mp fitting slot member
    exact ⟨⟨nonempty,List.forall_iff_forall_mem.mp plain⟩,closed⟩
  exact resolve_in_one_pass data "\x7b" slots (by decide) each

end Flowgraph.Template
