import Flowgraph.Json.Basic
import Mathlib.Data.String.Basic
import Mathlib.Data.List.Pairwise
import Mathlib.Data.List.Lookmap

/-! The entries of an object as a finite map. Setting entries keeps the order of the keys, and looking
up finds what was set last; so an object built from entries with different keys holds just these. -/

namespace Flowgraph.Fields

/-- The keys stand in order, each of them once. -/
def Ordered (fields : List (String × α)) : Prop := fields.Pairwise fun a b => a.1 < b.1

theorem mem_insert {key : String} {value : α} {fields : List (String × α)} :
    ∀ entry ∈ insert key value fields, entry = (key,value) ∨ entry ∈ fields := by
  induction fields with
  | nil => simp [insert]
  | cons head rest ih =>
    intro entry member
    simp only [insert] at member
    split at member
    · simp only [List.mem_cons] at member ⊢
      exact member.imp id Or.inr
    · split at member
      · simpa using member
      · obtain rfl | later := List.mem_cons.mp member
        · exact .inr (List.mem_cons_self ..)
        · exact (ih entry later).imp id (List.mem_cons_of_mem _)

theorem ordered_insert {key : String} {value : α} {fields : List (String × α)} (ordered : Ordered fields) :
    Ordered (insert key value fields) := by
  induction fields with
  | nil => simp [insert,Ordered]
  | cons head rest ih =>
    obtain ⟨above,tail⟩ := List.pairwise_cons.mp ordered
    simp only [insert]
    split
    · next same =>
      exact List.pairwise_cons.mpr ⟨fun entry member => by simpa [same] using above entry member,tail⟩
    · next other =>
      split
      · next before =>
        refine List.pairwise_cons.mpr ⟨?_,ordered⟩
        intro entry member
        obtain rfl | later := List.mem_cons.mp member
        · exact before
        · exact String.lt_trans before (above entry later)
      · next after =>
        refine List.pairwise_cons.mpr ⟨?_,ih tail⟩
        intro entry member
        obtain rfl | later := mem_insert entry member
        · exact lt_of_le_of_ne (not_lt.mp after) (Ne.symm other)
        · exact above entry later

theorem ordered_merge {fields changes : List (String × α)} (ordered : Ordered fields) : Ordered (merge fields changes) := by
  induction changes generalizing fields with
  | nil => exact ordered
  | cons change rest ih => exact ih (ordered_insert ordered)

theorem ordered_ofList (entries : List (String × α)) : Ordered (ofList entries) := ordered_merge List.Pairwise.nil

theorem ordered_map {f : String × α → String × β} {fields : List (String × α)} (keys : ∀ entry, (f entry).1 = entry.1)
    (ordered : Ordered fields) : Ordered (fields.map f) :=
  ordered.map f fun a b before => by rwa [keys a,keys b]

theorem lookup_insert (key name : String) (value : α) (fields : List (String × α)) :
    (insert key value fields).lookup name = if name = key then some value else fields.lookup name := by
  induction fields with
  | nil => simp only [insert,List.lookup_cons,List.lookup_nil]; grind
  | cons head rest ih =>
    simp only [insert]
    split
    · simp only [List.lookup_cons]; grind
    · split
      · simp only [List.lookup_cons]; grind
      · simp only [List.lookup_cons,ih]; grind

section
variable {key name : String} {fields : List (String × α)}

theorem insert_behind (before : name < key) (value held : α) : insert key value ((name,held) :: fields) = (name,held) :: insert key value fields := by
  rw [insert,if_neg (ne_of_gt before),if_neg (not_lt_of_gt before)]

theorem insert_ahead (before : key < name) (value held : α) : insert key value ((name,held) :: fields) = (key,value) :: (name,held) :: fields := by
  rw [insert,if_neg (ne_of_lt before),if_pos before]

theorem insert_here (key : String) (value held : α) : insert key value ((key,held) :: fields) = (key,value) :: fields := by
  rw [insert,if_pos rfl]

/-- Of two settings of a key the later one stays. -/
theorem insert_insert (key : String) (value other : α) (fields : List (String × α)) :
    insert key value (insert key other fields) = insert key value fields := by
  induction fields with
  | nil => exact insert_here key value other
  | cons head rest ih =>
    obtain ⟨here,held⟩ := head
    obtain before | rfl | behind := lt_trichotomy key here
    · rw [insert_ahead before,insert_here,insert_ahead before]
    · rw [insert_here,insert_here,insert_here]
    · rw [insert_behind behind,insert_behind behind,insert_behind behind,ih]

theorem insert_comm_of_lt (before : key < name) (value other : α) (fields : List (String × α)) :
    insert key value (insert name other fields) = insert name other (insert key value fields) := by
  induction fields with
  | nil => rw [insert,insert_ahead before,insert,insert_behind before,insert]
  | cons head rest ih =>
    obtain ⟨here,held⟩ := head
    obtain ahead | rfl | behind := lt_trichotomy key here
    · rw [insert_ahead ahead,insert_behind before]
      obtain first | rfl | last := lt_trichotomy name here
      · rw [insert_ahead first,insert_ahead before]
      · rw [insert_here,insert_ahead before]
      · rw [insert_behind last,insert_ahead ahead]
    · rw [insert_behind before,insert_here,insert_here,insert_behind before]
    · have far : here < name := String.lt_trans behind before
      rw [insert_behind far,insert_behind behind,insert_behind behind,insert_behind far,ih]

/-- Different keys can be set in either order. -/
theorem insert_comm (apart : key ≠ name) (value other : α) (fields : List (String × α)) :
    insert key value (insert name other fields) = insert name other (insert key value fields) := by
  obtain before | same | behind := lt_trichotomy key name
  · exact insert_comm_of_lt before value other fields
  · exact absurd same apart
  · exact (insert_comm_of_lt behind other value fields).symm

end

theorem lookup_merge (name : String) (fields changes : List (String × α)) :
    (merge fields changes).lookup name = (changes.reverse.lookup name).or (fields.lookup name) := by
  induction changes generalizing fields with
  | nil => simp [merge]
  | cons change rest ih =>
    obtain ⟨key,value⟩ := change
    have step : merge fields ((key,value) :: rest) = merge (insert key value fields) rest := rfl
    rw [step,ih,lookup_insert,List.reverse_cons,List.lookup_append,Option.or_assoc]
    congr 1
    simp only [List.lookup_cons,List.lookup_nil]
    grind

theorem lookup_ofList (name : String) (entries : List (String × α)) :
    (ofList entries).lookup name = entries.reverse.lookup name := by
  rw [ofList,lookup_merge,List.lookup_nil,Option.or_none]

theorem Ordered.lookup_tail {key : String} {value : α} {rest : List (String × α)} (ordered : Ordered ((key,value) :: rest)) :
    rest.lookup key = none := by
  have above := (List.pairwise_cons.mp ordered).1
  rw [List.lookup_eq_none_iff]
  intro entry member
  have later := above entry member
  simpa using ne_of_lt later

theorem lookup_reverse {fields : List (String × α)} (ordered : Ordered fields) (key : String) : fields.reverse.lookup key = fields.lookup key := by
  induction fields with
  | nil => rfl
  | cons head rest ih =>
    obtain ⟨name,value⟩ := head
    rw [List.reverse_cons,List.lookup_append,ih (List.pairwise_cons.mp ordered).2,List.lookup_cons,List.lookup_cons,List.lookup_nil]
    cases same : key == name with
    | false => simp
    | true =>
      obtain rfl := eq_of_beq same
      rw [ordered.lookup_tail]
      rfl

theorem lookup_filter {fields : List (String × α)} (ordered : Ordered fields) (keep : String × α → Bool) (key : String) :
    (fields.filter keep).lookup key = (fields.lookup key).filter fun value => keep (key,value) := by
  induction fields with
  | nil => rfl
  | cons head rest ih =>
    obtain ⟨name,value⟩ := head
    have others := ih (List.pairwise_cons.mp ordered).2
    rw [List.filter_cons,List.lookup_cons]
    cases same : key == name with
    | false =>
      rw [← others]
      split
      · rw [List.lookup_cons,same]
      · rfl
    | true =>
      obtain rfl := eq_of_beq same
      cases kept : keep (key,value) with
      | true => rw [if_pos rfl,List.lookup_cons,same,Option.filter_some,if_pos kept]
      | false => rw [if_neg Bool.false_ne_true,others,ordered.lookup_tail,Option.filter_some,if_neg (by simp [kept]),Option.filter_none]

theorem ordered_filter {fields : List (String × α)} (ordered : Ordered fields) (keep : String × α → Bool) : Ordered (fields.filter keep) :=
  List.Pairwise.filter keep ordered

theorem mem_keys_insert {key name : String} {value : α} {fields : List (String × α)} :
    name ∈ (insert key value fields).map (·.1) ↔ name = key ∨ name ∈ fields.map (·.1) := by
  induction fields with
  | nil => simp [insert]
  | cons head rest ih =>
    simp only [insert]
    split
    · next same => simp [same]
    · split
      · simp
      · rw [List.map_cons,List.mem_cons,ih,List.map_cons,List.mem_cons,or_left_comm]

theorem mem_keys_merge {name : String} {fields changes : List (String × α)} :
    name ∈ (merge fields changes).map (·.1) ↔ name ∈ changes.map (·.1) ∨ name ∈ fields.map (·.1) := by
  induction changes generalizing fields with
  | nil => simp [merge]
  | cons change rest ih =>
    rw [List.map_cons,List.mem_cons,or_assoc,or_left_comm,← mem_keys_insert]
    exact ih

end Flowgraph.Fields
