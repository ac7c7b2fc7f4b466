import Flowgraph.Engine.Execution
import Flowgraph.Proofs.Action.Bag
import Flowgraph.Proofs.Action.MassEmail

/-! What is in the data of a run stays in them. Data that are no object take no fields; but those of a run are an object from its
beginning on and after all that is done to its context, so what nodes bring from outside finds its place. -/

namespace Flowgraph
open Act

/-- The context of a run at its beginning, or of one that goes on from a snapshot with an object for its data. -/
inductive Context.Opened : Context → Prop
  | start (executionId : String) (automationId organizationId : Uuid) (input : Json) (now : Instant) :
      Opened (.start executionId automationId organizationId input now)
  | restore {s : Snapshot} (object : s.data.IsObject) : Opened (.restore s)

/-- What becomes of a context: nodes are evaluated on it, entries are added to its trace, it is copied, it is left in a snapshot and
taken up again, and the contexts of branches are joined on it. -/
inductive Context.Becomes (c : Context) : Context → Prop
  | refl : Becomes c c
  | evaluate {d : Context} {σ : Type} (before : Becomes c d) (caps : Capabilities σ) (s : σ) (batchSize : Nat) (nodes : List Node)
      (node : Node) : Becomes c (Action.perform caps batchSize nodes node (d,s)).2.1
  | note {d : Context} (before : Becomes c d) (entry : LogEntry) : Becomes c (d.append entry)
  | copy {d : Context} (before : Becomes c d) : Becomes c d.fork
  | suspend {d : Context} (before : Becomes c d) : Becomes c (.restore d.snapshot)
  | join {d : Context} (before : Becomes c d) (branches : List Branch) : Becomes c (Execution.joined d branches)

namespace Json

theorem mem_keys_iff {data : Json} {key : String} : key ∈ data.keys ↔ (data.field? key).isSome = true := by
  cases data with
  | object fields => simp [keys,Path.entries,field?,Fields.get?,List.lookup_isSome_iff]
  | _ => simp [keys,Path.entries,field?]

end Json

namespace Execution

theorem mem_keys_joined {c : Context} {branches : List Branch} {key : String} : key ∈ (joined c branches).data.keys ↔
    (∃ b ∈ branches, key ∈ (changes c.data b.context.data).map (·.1)) ∨ key ∈ c.data.keys := by
  have gathered (base : Fields) :
      key ∈ (branches.foldl (fun data b => Fields.merge data (changes c.data b.context.data)) base).map (·.1) ↔
        (∃ b ∈ branches, key ∈ (changes c.data b.context.data).map (·.1)) ∨ key ∈ base.map (·.1) := by
    induction branches generalizing base with
    | nil => simp
    | cons b rest ih => rw [List.foldl_cons,ih,Fields.mem_keys_merge,List.exists_mem_cons_iff,or_left_comm,or_assoc]
  exact gathered (Path.entries c.data)

/-- What a branch has not changed is what the seed has. -/
theorem keys_branch (c : Context) {branches : List Branch} {b : Branch} (member : b ∈ branches) :
    b.context.data.keys ⊆ (joined c branches).data.keys := by
  intro key inside
  rw [mem_keys_joined]
  obtain ⟨⟨key,value⟩,entry,rfl⟩ := List.mem_map.mp inside
  by_cases changed : (c.data.field? key != some value) = true
  · exact .inl ⟨b,member,List.mem_map_of_mem (List.mem_filter.mpr ⟨entry,changed⟩)⟩
  · right
    rw [Json.mem_keys_iff]
    cases seeded : c.data.field? key with
    | none => rw [seeded] at changed; exact absurd rfl changed
    | some old => rfl

end Execution

namespace Context

variable {c d e : Context}

theorem isObject_seed (input : Json) : (seed input).IsObject := by
  cases input <;> exact ⟨_,rfl⟩

theorem Opened.isObject (opened : c.Opened) : c.data.IsObject := by
  cases opened with
  | start executionId automationId organizationId input now => exact isObject_seed input
  | restore object => exact object

theorem Becomes.isObject (becomes : c.Becomes d) (object : c.data.IsObject) : d.data.IsObject := by
  induction becomes with
  | refl => exact object
  | @evaluate d σ before caps s batchSize nodes node ih =>
    have stays : Json.StaysObject d.data _ := (Edits.law caps node.id).perform batchSize nodes (d,s)
    exact stays ih
  | note before entry ih => exact ih
  | copy before ih => exact ih
  | suspend before ih => exact ih
  | join before branches ih => exact ⟨_,rfl⟩

theorem Becomes.keys (becomes : c.Becomes d) : c.data.keys ⊆ d.data.keys := by
  induction becomes with
  | refl => exact fun _ => id
  | @evaluate d σ before caps s batchSize nodes node ih =>
    have kept : Json.KeepsKeys d.data _ := (Edits.law caps node.id).perform batchSize nodes (d,s)
    exact fun _ member => kept (ih member)
  | note before entry ih => exact ih
  | copy before ih => exact ih
  | suspend before ih => exact ih
  | join before branches ih => exact fun _ member => Execution.mem_keys_joined.mpr (.inr (ih member))

/-- An object takes all the fields that it is given. -/
theorem field?_merge (object : c.data.IsObject) (changes : Fields) (key : String) :
    (c.merge changes).data.field? key = (changes.reverse.lookup key).or (c.data.field? key) := by
  obtain ⟨fields,shape⟩ := object
  simp only [merge,shape,Json.field?,Fields.get?]
  exact Fields.lookup_merge key fields changes

end Context

namespace Step

variable {σ α β : Type} {c : Context} {s : σ}

theorem context_bind (f : Context → Step σ α) : (Step.context >>= f) (c,s) = f c (c,s) := rfl

/-- A call that has been answered has left the context alone. -/
theorem outside_bind {act : Act σ NodeFault α} {f : α → Step σ β} {b : β} (returned : ((Step.outside act >>= f) (c,s)).1 = .ok b) :
    ∃ a t, act s = (.ok a,t) ∧ (Step.outside act >>= f) (c,s) = f a (c,t) := by
  obtain ⟨a,q,answered,rest⟩ := bind_returned returned
  obtain ⟨result,state⟩ := Prod.ext_iff.mp answered
  exact ⟨a,_,Prod.ext result rfl,rest.trans (congrArg (f a) state.symm)⟩

end Step

/-- A node of this kind brings something from outside that it sets in the data. -/
def NodeKind.brings : NodeKind → Bool
  | .httpRequest _ => true
  | .sendMassEmail _ => true
  | .contacts _ => true
  | _ => false

namespace Action

variable {σ : Type} {caps : Capabilities σ} {batchSize : Nat} {id : String} {c : Context} {s : σ} {flow : Flow}

/-- What a node has for the data when it is done: the response to its request, the account of its mailing or the contact that it has
created. -/
inductive Brings (caps : Capabilities σ) (batchSize : Nat) (id : String) (c : Context) (s : σ) : NodeKind → Fields → Prop
  | http {config : HttpCall} {response : HttpResponse} (answered : (caps.call (.http (request config c.data)) s).1 = .ok response) :
      Brings caps batchSize id c s (.httpRequest config) (responseFields response)
  | massEmail {config : MassEmail} {list : ContactList} {t : σ} {ms : List Contact} {p : Context × σ} {tally : Tally}
      (found : caps.call (.findList (Template.resolve config.listId c.data) c.organizationId) s = (.ok (some list),t))
      (resolved : members caps c.organizationId list.source (c,t) = (.ok ms,p))
      (sent : (sendBatches caps id (config.mailing c) ⟨0,0,0⟩ (chunks (batchSize - 1) ms) p).1 = .ok tally) :
      Brings caps batchSize id c s (.sendMassEmail config) [("massEmailResult",mailingResult list ms.length tally)]
  | contacts {config : ContactChange} {properties : Fields} {contact : Contact}
      (resolved : Template.resolveDeep c.data config.data = .object properties)
      (created : (caps.call (.createContact properties c.organizationId) s).1 = .ok contact) :
      Brings caps batchSize id c s (.contacts config) [("contact",.object (Fields.insert "id" (.string contact.id) contact.properties))]

/-- A node that is done has set all that it has brought. -/
def Keeps (caps : Capabilities σ) (batchSize : Nat) (id : String) (kind : NodeKind) (act : Step σ Flow) : Prop :=
  ∀ c s flow, c.data.IsObject → (act (c,s)).1 = .ok flow →
    ∃ results, Brings caps batchSize id c s kind results ∧ ∀ entry ∈ results, (act (c,s)).2.1.data.field? entry.1 = some entry.2

theorem http_keeps (config : HttpCall) : Keeps caps batchSize id (.httpRequest config) (http caps id config) := by
  intro c s flow object done
  rw [http,Step.context_bind] at done ⊢
  obtain ⟨response,t,answered,rest⟩ := Step.outside_bind done
  rw [rest]
  refine ⟨responseFields response,.http (congrArg Prod.fst answered),fun entry member => ?_⟩
  refine (Context.field?_merge (c := c.append _) object (responseFields response) entry.1).trans ?_
  simp only [responseFields,List.mem_cons,List.not_mem_nil,or_false] at member
  obtain rfl | rfl | rfl := member <;> rfl

theorem contacts_keeps (config : ContactChange) : Keeps caps batchSize id (.contacts config) (contacts caps id config) := by
  intro c s flow object done
  unfold contacts at done ⊢
  cases action : config.action with
  | create =>
    rw [action] at done
    dsimp only at done ⊢
    rw [Step.context_bind] at done ⊢
    cases resolved : Template.resolveDeep c.data config.data with
    | object properties =>
      rw [resolved] at done
      dsimp only at done ⊢
      obtain ⟨contact,t,created,rest⟩ := Step.outside_bind done
      rw [rest]
      refine ⟨_,.contacts resolved (congrArg Prod.fst created),List.forall_mem_singleton.mpr ?_⟩
      exact Context.field?_merge (c := c.append _) object [("contact",_)] "contact"
    | _ => rw [resolved] at done; cases done
  | _ => rw [action] at done; cases done

theorem massEmail_keeps (config : MassEmail) : Keeps caps batchSize id (.sendMassEmail config) (massEmail caps batchSize id config) := by
  intro c s flow object done
  rw [massEmail,Step.context_bind] at done ⊢
  obtain ⟨found?,t,answered,rest⟩ := Step.outside_bind done
  rw [rest] at done ⊢
  cases found? with
  | none => cases done
  | some list =>
    dsimp only at done ⊢
    obtain ⟨ms,p,resolved,rest⟩ := bind_returned done
    rw [rest] at done ⊢
    obtain ⟨tally,q,sent,rest⟩ := bind_returned done
    rw [rest]
    refine ⟨_,.massEmail answered resolved (congrArg Prod.fst sent),List.forall_mem_singleton.mpr ?_⟩
    -- Neither finding the members nor writing to them has changed the data.
    have law := Edits.law (T := Json.StaysObject) caps id
    have first : Json.StaysObject c.data _ := law.members c.organizationId list.source (c,t)
    have second : Json.StaysObject p.1.data _ := law.sendBatches (config.mailing c) ⟨0,0,0⟩ (chunks (batchSize - 1) ms) p
    rw [resolved] at first
    rw [MassEmail.mailing,sent] at second
    have still : q.1.data.IsObject := second (first object)
    split
    · exact Context.field?_merge (c := (q.1.append _).append _) still [("massEmailResult",_)] "massEmailResult"
    · exact Context.field?_merge (c := q.1.append _) still [("massEmailResult",_)] "massEmailResult"

theorem perform_keeps (caps : Capabilities σ) (batchSize : Nat) (nodes : List Node) {node : Node} (brings : node.kind.brings = true) :
    Keeps caps batchSize node.id node.kind (perform caps batchSize nodes node) := by
  unfold perform
  cases kind : node.kind with
  | httpRequest config => exact http_keeps config
  | sendMassEmail config => exact massEmail_keeps config
  | contacts config => exact contacts_keeps config
  | _ => rw [kind] at brings; cases brings

end Action

namespace Context

variable {c d e : Context}

theorem Becomes.trans (first : c.Becomes d) (second : d.Becomes e) : c.Becomes e := by
  induction second with
  | refl => exact first
  | evaluate before caps s batchSize nodes node ih => exact .evaluate ih caps s batchSize nodes node
  | note before entry ih => exact .note ih entry
  | copy before ih => exact .copy ih
  | suspend before ih => exact .suspend ih
  | join before branches ih => exact .join ih branches

/-- A walk evaluates nodes and notes that it has. -/
theorem becomes_walk {σ : Type} (t : Terrain σ) (node : Node) (p : Context × σ) : p.1.Becomes (walk t node p).2.1 := by
  have law : Walk.Law t fun act => ∀ p : Context × σ, p.1.Becomes (act p).2.1 := {
    pure _ _ := .refl
    fail _ _ := .refl
    bind := by
      intro α β act f first rest p
      rw [bind_apply]
      have early := first p
      revert early
      rcases act p with ⟨failure | a,q⟩ <;> intro early
      · exact early
      · exact early.trans (rest a q)
    log _ _ _ _ := .note .refl _
    node node p := by
      rw [attempt_snd]
      exact .evaluate .refl .. }
  exact law.visit (t.maxDepth + 1) node p

/-- The data of a run are an object at all times and keep their keys. The keys of branches are there when they have been joined, and
a node that is done finds the data ready to take what it has brought. -/
theorem data_keep_keys (opened : c.Opened) (earlier : c.Becomes d) (later : d.Becomes e) :
    e.data.IsObject ∧ d.data.keys ⊆ e.data.keys ∧
      (∀ branches, ∀ b ∈ branches, b.context.data.keys ⊆ (Execution.joined e branches).data.keys) ∧
      ∀ {σ : Type} (caps : Capabilities σ) (s : σ) (batchSize : Nat) (nodes : List Node) (node : Node) (flow : Flow),
        node.kind.brings = true → (Action.perform caps batchSize nodes node (e,s)).1 = .ok flow →
        ∃ results, Action.Brings caps batchSize node.id e s node.kind results ∧
          ∀ entry ∈ results, (Action.perform caps batchSize nodes node (e,s)).2.1.data.field? entry.1 = some entry.2 := by
  have object := (earlier.trans later).isObject opened.isObject
  refine ⟨object,later.keys,fun branches b member => Execution.keys_branch e member,?_⟩
  intro σ caps s batchSize nodes node flow brings done
  exact Action.perform_keeps caps batchSize nodes brings e s flow object done

/-- A run that was started with a text. -/
def texted : Context := .start "run" .nil .nil (.string "text") ⟨0,false⟩

/-- No one answers but to requests. -/
def requestsOnly : Capabilities Unit where
  now _ := ⟨0,false⟩
  call
    | .http _ => return ⟨204,[],.null⟩
    | _ => Act.fail (.effect "offline")
  suspend _ _ := Act.fail (.scheduling "offline")

/-- What writes over the text; the e-mail behind it fails. -/
def rewriting : Node := ⟨"write",["mail"],.transform [⟨"payload.part","1"⟩,⟨" ","2"⟩]⟩

def rewritable : Terrain Unit := ⟨requestsOnly,1,5,[rewriting,⟨"mail",[],.sendEmail ⟨"ann@example.org","","",none⟩⟩]⟩

def rewritten : Context := (walk rewritable rewriting (texted,())).2.1

def requesting : Node := ⟨"call",[],.httpRequest ⟨"GET","http://example.org",none,none⟩⟩

theorem texted_data_keep_keys : let c := Execution.joined rewritten [⟨{ rewritten with data := .object [("other",.null)] },.ok []⟩]
    "payload" ∈ c.data.keys ∧
      (Action.perform requestsOnly 1 [] requesting (c,())).2.1.data.field? "httpStatus" = some (.ofNat 204) := by
  intro c
  have walked : texted.Becomes rewritten := becomes_walk rewritable rewriting (texted,())
  obtain ⟨-,kept,-,taken⟩ := data_keep_keys (Opened.start ..) .refl (walked.join [⟨{ rewritten with data := .object [("other",.null)] },.ok []⟩])
  obtain ⟨results,brings,found⟩ := taken requestsOnly () 1 [] requesting .next rfl rfl
  refine ⟨kept (List.mem_cons_self ..),?_⟩
  cases brings with
  | http answered =>
    cases answered
    exact found ("httpStatus",.ofNat 204) (List.mem_cons_of_mem _ (List.mem_cons_self ..))

end Context
end Flowgraph
