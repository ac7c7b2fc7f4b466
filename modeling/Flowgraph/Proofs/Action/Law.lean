import Flowgraph.Engine.Walk
import Flowgraph.Proofs.Effect.Act

/-! Properties of actions that hold of all nodes, and of walks. It is enough that they hold of what a node can do with its context
and the capabilities, and that they are kept where one action comes after another. -/

namespace Flowgraph
open Act

variable {σ : Type}

/-- A transformation writes its values and warns of what has failed. -/
theorem Action.transform_apply (caps : Capabilities σ) (id : String) (steps : List Transformation) (c : Context) (s : σ) :
    transform caps id steps (c,s) = (.ok .next,{ c with
      data := (transformed c.data steps).1
      logs := c.logs ++ (transformed c.data steps).2.map fun message => ⟨caps.now s,id,.warning,"transform",message⟩ },s) := by
  have warned (messages : List String) (c : Context) : messages.forM (Step.log caps id .warning "transform") (c,s) =
      (.ok (),{ c with logs := c.logs ++ messages.map fun message => ⟨caps.now s,id,.warning,"transform",message⟩ },s) := by
    induction messages generalizing c with
    | nil => rw [List.map_nil,List.append_nil]; rfl
    | cons message rest ih =>
      refine (ih (c.append ⟨caps.now s,id,.warning,"transform",message⟩)).trans ?_
      rw [List.map_cons,List.append_cons]
      rfl
  unfold transform
  rw [bind_apply]
  change ((transformed c.data steps).2.forM (Step.log caps id .warning "transform") >>= fun _ => _) (c,s) = _
  rw [bind_ok (warned _ c)]
  rfl

/-- A property that is kept by all that the actions of the node with this id are made of. -/
structure Step.Law (caps : Capabilities σ) (id : String) (Q : ∀ {α : Type}, Step σ α → Prop) : Prop where
  pure : ∀ {α} (a : α), Q (pure a : Step σ α)
  fail : ∀ {α} (fault : NodeFault), Q (Act.fail fault : Step σ α)
  bind : ∀ {α β} {act : Step σ α} {f : α → Step σ β}, Q act → (∀ a, Q (f a)) → Q (act >>= f)
  context : Q (Step.context : Step σ Context)
  note : ∀ {level action message}, level = .info ∨ level = .warning → Q (Step.log caps id level action message)
  merge : ∀ {fields}, Q (Step.change (·.merge fields) : Step σ Unit)
  mark : Q (Step.change ({ · with currentNodeId := some id }) : Step σ Unit)
  transform : ∀ steps, Q (Action.transform caps id steps)
  call : ∀ request, Q (Step.outside (caps.call request))
  attempt : ∀ request, Q (Step.outside (Act.attempt (caps.call request)))
  suspend : ∀ minutes left, Q (Step.outside (caps.suspend minutes left))

namespace Step.Law

variable {caps : Capabilities σ} {id : String} {Q : ∀ {α : Type}, Step σ α → Prop}

theorem info (law : Law caps id Q) {action message : String} : Q (Step.log caps id .info action message) := law.note (.inl rfl)

theorem warning (law : Law caps id Q) {action message : String} : Q (Step.log caps id .warning action message) := law.note (.inr rfl)

theorem http (law : Law caps id Q) (config : HttpCall) : Q (Action.http caps id config) := by
  refine law.bind law.context fun _ => ?_
  refine law.bind (law.call _) fun _ => ?_
  refine law.bind law.info fun _ => ?_
  exact law.bind law.merge fun _ => law.pure _

theorem condition (law : Law caps id Q) (config : Condition) : Q (Action.condition caps id config) := by
  refine law.bind law.context fun _ => ?_
  exact law.bind law.info fun _ => law.pure _

theorem checkRecipient (law : Law caps id Q) (kind recipient : String) : Q (Action.checkRecipient kind recipient : Step σ Unit) := by
  unfold Action.checkRecipient
  split
  · exact law.fail _
  · exact law.pure _

theorem sendEmail (law : Law caps id Q) (draft : EmailDraft) : Q (Action.sendEmail caps id draft) := by
  refine law.bind law.context fun _ => ?_
  refine law.bind (law.checkRecipient _ _) fun _ => ?_
  refine law.bind (law.call _) fun _ => ?_
  exact law.bind law.info fun _ => law.pure _

theorem sendWhatsApp (law : Law caps id Q) (draft : WhatsAppDraft) : Q (Action.sendWhatsApp caps id draft) := by
  refine law.bind law.context fun _ => ?_
  refine law.bind (law.checkRecipient _ _) fun _ => ?_
  refine law.bind (law.call _) fun _ => ?_
  exact law.bind law.info fun _ => law.pure _

theorem contacts (law : Law caps id Q) (config : ContactChange) : Q (Action.contacts caps id config) := by
  unfold Action.contacts
  cases config.action with
  | create =>
    refine law.bind law.context fun _ => ?_
    split
    · refine law.bind (law.call _) fun _ => ?_
      refine law.bind law.info fun _ => ?_
      exact law.bind law.merge fun _ => law.pure _
    · exact law.fail _
  | _ => exact law.fail _

theorem delay {node : Node} (law : Law caps node.id Q) (nodes : List Node) (minutes : Float) : Q (Action.delay caps nodes node minutes) := by
  unfold Action.delay
  split
  · exact law.fail _
  · refine law.bind law.mark fun _ => ?_
    refine law.bind law.context fun _ => ?_
    refine law.bind (law.suspend _ _) fun _ => ?_
    exact law.bind law.info fun _ => law.pure _

theorem sendAll (law : Law caps id Q) (mailing : Action.Mailing) (members : List (Contact × String)) :
    Q (Action.sendAll caps mailing members) := by
  induction members with
  | nil => exact law.pure _
  | cons member rest ih =>
    refine law.bind (law.attempt _) fun _ => ?_
    exact law.bind ih fun _ => law.pure _

theorem warnAll (law : Law caps id Q) (failures : List (String × NodeFault)) : Q (Action.warnAll caps id failures) := by
  induction failures with
  | nil => exact law.pure _
  | cons failure rest ih => exact law.bind law.warning fun _ => ih

theorem sendBatches (law : Law caps id Q) (mailing : Action.Mailing) (tally : Action.Tally) (batches : List (List Contact)) :
    Q (Action.sendBatches caps id mailing tally batches) := by
  induction batches generalizing tally with
  | nil => exact law.pure _
  | cons batch rest ih =>
    refine law.bind (law.sendAll _ _) fun _ => ?_
    exact law.bind (law.warnAll _) fun _ => ih _

theorem members (law : Law caps id Q) (organization : Uuid) (source : ContactSource) : Q (Action.members caps organization source) := by
  cases source with
  | members ids => exact law.call _
  | filter criteria => exact law.call _

theorem massEmail (law : Law caps id Q) (batchSize : Nat) (config : MassEmail) : Q (Action.massEmail caps batchSize id config) := by
  refine law.bind law.context fun _ => ?_
  refine law.bind (law.call _) fun found => ?_
  cases found with
  | none => exact law.fail _
  | some list =>
    refine law.bind (law.members _ _) fun _ => ?_
    refine law.bind (law.sendBatches _ _ _) fun _ => ?_
    dsimp only
    split
    · exact law.bind law.info fun _ => law.bind law.info fun _ => law.bind law.merge fun _ => law.pure _
    · exact law.bind law.info fun _ => law.bind law.merge fun _ => law.pure _

theorem perform {node : Node} (law : Law caps node.id Q) (batchSize : Nat) (nodes : List Node) : Q (Action.perform caps batchSize nodes node) := by
  unfold Action.perform
  cases node.kind with
  | trigger _ => exact law.pure _
  | httpRequest config => exact law.http config
  | condition config => exact law.condition config
  | sendEmail draft => exact law.sendEmail draft
  | sendWhatsApp draft => exact law.sendWhatsApp draft
  | delay minutes => exact law.delay nodes minutes
  | transform steps => exact law.transform steps
  | sendMassEmail config => exact law.massEmail batchSize config
  | contacts config => exact law.contacts config

end Step.Law

/-- A property of walks that is kept by entries in the trace and by single nodes. -/
structure Walk.Law (t : Terrain σ) (Q : ∀ {α : Type}, Walk σ α → Prop) : Prop where
  pure : ∀ {α} (a : α), Q (pure a : Walk σ α)
  fail : ∀ {α} (fault : EngineFault), Q (Act.fail fault : Walk σ α)
  bind : ∀ {α β} {act : Walk σ α} {f : α → Walk σ β}, Q act → (∀ a, Q (f a)) → Q (act >>= f)
  log : ∀ node level message, Q (Walk.log t node level message)
  node : ∀ node, Q (Act.attempt (Action.perform t.caps t.batchSize t.nodes node))

namespace Walk.Law

variable {t : Terrain σ} {Q : ∀ {α : Type}, Walk σ α → Prop}

theorem abort (law : Law t Q) (node : Node) (fault : EngineFault) (message : String) : Q (Walk.abort t node fault message : Walk σ α) :=
  law.bind (law.log ..) fun _ => law.fail _

theorem enter (law : Law t Q) (node : Node) : Q (Walk.enter t node) := by
  refine law.bind (law.log ..) fun _ => law.bind (law.node node) fun result => ?_
  cases result with
  | ok flow => exact law.bind (law.log ..) fun _ => law.pure _
  | error fault => exact law.abort ..

theorem follow (law : Law t Q) {visit : Node → Walk σ (List String)} (visits : ∀ node, Q (visit node)) (origin : Node) (ids : List String) :
    Q (Walk.follow t visit origin ids) := by
  induction ids with
  | nil => exact law.pure _
  | cons id rest ih =>
    unfold Walk.follow
    cases Node.find? t.nodes id with
    | none => exact law.abort ..
    | some node => exact law.bind (visits node) fun _ => law.bind ih fun _ => law.pure _

theorem visit (law : Law t Q) (n : Nat) (node : Node) : Q (Walk.visit t n node) := by
  induction n generalizing node with
  | zero => exact law.abort ..
  | succ n ih =>
    refine law.bind (law.enter node) fun flow => ?_
    cases flow with
    | suspend job => exact law.pure _
    | branch ids => exact law.follow ih node ids
    | next => exact law.follow ih node node.next

end Walk.Law
end Flowgraph
