import Flowgraph.Action.Node
import Flowgraph.Proofs.Effect.Act

/-! Nodes over two sets of capabilities. What a node does depends on the data of its run, on the organization
and on the answers that it gets, and on nothing else; so a relation that single steps keep is kept by nodes. -/

namespace Flowgraph
open Act

variable {σ τ : Type}

/-- A relation that the steps of nodes keep: entries in the trace, changes of the data, and calls. -/
structure Coupling (caps : Capabilities σ) (caps' : Capabilities τ) (strict : Prop) (R : Context × σ → Context × τ → Prop) : Prop where
  data : ∀ {p q}, R p q → p.1.data = q.1.data
  organization : ∀ {p q}, R p q → p.1.organizationId = q.1.organizationId
  log : ∀ {c d s t} (id level action message), R (c,s) (d,t) →
    R (c.append ⟨caps.now s,id,level,action,message⟩,s) (d.append ⟨caps'.now t,id,level,action,message⟩,t)
  change : ∀ {c d s t} (data), R (c,s) (d,t) → R ({ c with data },s) ({ d with data },t)
  call : ∀ {p q} (call), R p q → Agree strict R Eq (Step.outside (caps.call call) p) (Step.outside (caps'.call call) q)

namespace Coupling

variable {caps : Capabilities σ} {caps' : Capabilities τ} {strict : Prop} {R : Context × σ → Context × τ → Prop}
  {p : Context × σ} {q : Context × τ}

theorem context (coupled : Coupling caps caps' strict R) (related : R p q) :
    Agree strict R (fun c d => c.data = d.data ∧ c.organizationId = d.organizationId) (Step.context p) (Step.context q) :=
  .ok ⟨coupled.data related,coupled.organization related⟩ related

theorem logged (coupled : Coupling caps caps' strict R) (id : String) (level : LogLevel) (action message : String) (related : R p q) :
    Agree strict R Eq (Step.log caps id level action message p) (Step.log caps' id level action message q) :=
  .ok rfl (coupled.log id level action message related)

theorem merge (coupled : Coupling caps caps' strict R) (fields : Fields) (related : R p q) :
    Agree strict R Eq (Step.change (·.merge fields) p) (Step.change (·.merge fields) q) := by
  refine .ok rfl ?_
  have same := coupled.data related
  obtain ⟨c,s⟩ := p
  obtain ⟨d,t⟩ := q
  simp only [Context.merge] at same ⊢
  rw [same]
  split
  · exact coupled.change _ related
  · exact related

theorem attempted (coupled : Coupling caps caps' strict R) (call : Call) (related : R p q) :
    Agree strict R Eq (Step.outside (attempt (caps.call call)) p) (Step.outside (attempt (caps'.call call)) q) := by
  have inside {ρ : Type} (act : Act ρ NodeFault call.Answer) (p : Context × ρ) :
      Step.outside (attempt act) p = attempt (Step.outside act) p := by
    simp only [Step.outside,zoom,attempt]
    rcases act p.2 with ⟨e | answer,s⟩
    · cases e <;> rfl
    · rfl
  rw [inside,inside]
  exact (coupled.call call related).attempt_eq

theorem http (coupled : Coupling caps caps' strict R) (id : String) (config : HttpCall) (related : R p q) :
    Agree strict R Eq (Action.http caps id config p) (Action.http caps' id config q) := by
  refine (coupled.context related).bind ?_
  rintro c d p q ⟨data,-⟩ related
  rw [data]
  generalize Action.request config d.data = request
  refine Agree.bind (coupled.call (.http request) related) ?_
  rintro response _ p q rfl related
  refine (coupled.logged _ _ _ _ related).bind ?_
  rintro _ _ p q - related
  refine (coupled.merge _ related).bind ?_
  rintro _ _ p q - related
  exact .ok rfl related

theorem condition (coupled : Coupling caps caps' strict R) (id : String) (config : Condition) (related : R p q) :
    Agree strict R Eq (Action.condition caps id config p) (Action.condition caps' id config q) := by
  refine (coupled.context related).bind ?_
  rintro c d p q ⟨data,-⟩ related
  rw [data]
  refine (coupled.logged _ _ _ _ related).bind ?_
  rintro _ _ p q - related
  exact .ok rfl related

theorem checkRecipient (kind recipient : String) (related : R p q) :
    Agree strict R Eq (Action.checkRecipient kind recipient p) (Action.checkRecipient kind recipient q) := by
  unfold Action.checkRecipient
  split
  · exact .error _ related
  · exact .ok rfl related

theorem sendEmail (coupled : Coupling caps caps' strict R) (id : String) (draft : EmailDraft) (related : R p q) :
    Agree strict R Eq (Action.sendEmail caps id draft p) (Action.sendEmail caps' id draft q) := by
  refine (coupled.context related).bind ?_
  rintro c d p q ⟨data,organization⟩ related
  rw [data,organization]
  refine (checkRecipient _ _ related).bind ?_
  rintro _ _ p q - related
  refine (coupled.call _ related).bind ?_
  rintro _ _ p q - related
  refine (coupled.logged _ _ _ _ related).bind ?_
  rintro _ _ p q - related
  exact .ok rfl related

theorem sendWhatsApp (coupled : Coupling caps caps' strict R) (id : String) (draft : WhatsAppDraft) (related : R p q) :
    Agree strict R Eq (Action.sendWhatsApp caps id draft p) (Action.sendWhatsApp caps' id draft q) := by
  refine (coupled.context related).bind ?_
  rintro c d p q ⟨data,organization⟩ related
  rw [data,organization]
  refine (checkRecipient _ _ related).bind ?_
  rintro _ _ p q - related
  refine (coupled.call _ related).bind ?_
  rintro _ _ p q - related
  refine (coupled.logged _ _ _ _ related).bind ?_
  rintro _ _ p q - related
  exact .ok rfl related

theorem logAll (coupled : Coupling caps caps' strict R) (id : String) (level : LogLevel) (action : String) (messages : List String)
    (related : R p q) :
    Agree strict R Eq (messages.forM (Step.log caps id level action) p) (messages.forM (Step.log caps' id level action) q) := by
  induction messages generalizing p q with
  | nil => exact .ok rfl related
  | cons message rest ih =>
    refine (coupled.logged id level action message related).bind ?_
    rintro _ _ p q - related
    exact ih related

theorem transform (coupled : Coupling caps caps' strict R) (id : String) (steps : List Transformation) (related : R p q) :
    Agree strict R Eq (Action.transform caps id steps p) (Action.transform caps' id steps q) := by
  refine (coupled.context related).bind ?_
  rintro c d p q ⟨data,-⟩ related
  rw [data]
  refine (coupled.logAll _ _ _ _ related).bind ?_
  rintro _ _ ⟨c,s⟩ ⟨d,t⟩ - related
  exact .ok rfl (coupled.change _ related)

theorem contacts (coupled : Coupling caps caps' strict R) (id : String) (config : ContactChange) (related : R p q) :
    Agree strict R Eq (Action.contacts caps id config p) (Action.contacts caps' id config q) := by
  unfold Action.contacts
  cases config.action with
  | create =>
    refine (coupled.context related).bind ?_
    rintro c d p q ⟨data,organization⟩ related
    rw [data,organization]
    cases Template.resolveDeep d.data config.data with
    | object properties =>
      refine (coupled.call _ related).bind ?_
      rintro contact _ p q rfl related
      refine (coupled.logged _ _ _ _ related).bind ?_
      rintro _ _ p q - related
      refine (coupled.merge _ related).bind ?_
      rintro _ _ p q - related
      exact .ok rfl related
    | _ => exact .error _ related
  | _ => exact .error _ related

theorem sendAll (coupled : Coupling caps caps' strict R) (mailing : Action.Mailing) (members : List (Contact × String)) (related : R p q) :
    Agree strict R Eq (Action.sendAll caps mailing members p) (Action.sendAll caps' mailing members q) := by
  induction members generalizing p q with
  | nil => exact .ok rfl related
  | cons member rest ih =>
    refine (coupled.attempted _ related).bind ?_
    rintro result _ p q rfl related
    refine (ih related).bind ?_
    rintro failures _ p q rfl related
    exact .ok rfl related

theorem warnAll (coupled : Coupling caps caps' strict R) (id : String) (failures : List (String × NodeFault)) (related : R p q) :
    Agree strict R Eq (Action.warnAll caps id failures p) (Action.warnAll caps' id failures q) := by
  induction failures generalizing p q with
  | nil => exact .ok rfl related
  | cons failure rest ih =>
    refine (coupled.logged _ _ _ _ related).bind ?_
    rintro _ _ p q - related
    exact ih related

theorem sendBatches (coupled : Coupling caps caps' strict R) (id : String) (mailing : Action.Mailing) (tally : Action.Tally)
    (batches : List (List Contact)) (related : R p q) :
    Agree strict R Eq (Action.sendBatches caps id mailing tally batches p) (Action.sendBatches caps' id mailing tally batches q) := by
  induction batches generalizing tally p q with
  | nil => exact .ok rfl related
  | cons batch rest ih =>
    refine (coupled.sendAll _ _ related).bind ?_
    rintro failures _ p q rfl related
    refine (coupled.warnAll _ _ related).bind ?_
    rintro _ _ p q - related
    exact ih _ related

theorem members (coupled : Coupling caps caps' strict R) (organization : Uuid) (source : ContactSource) (related : R p q) :
    Agree strict R Eq (Action.members caps organization source p) (Action.members caps' organization source q) := by
  cases source with
  | members ids => exact coupled.call (.contactsById ids organization) related
  | filter criteria => exact coupled.call (.contactsMatching criteria organization) related

theorem massEmail (coupled : Coupling caps caps' strict R) (batchSize : Nat) (id : String) (config : MassEmail) (related : R p q) :
    Agree strict R Eq (Action.massEmail caps batchSize id config p) (Action.massEmail caps' batchSize id config q) := by
  refine (coupled.context related).bind ?_
  rintro c d p q ⟨data,organization⟩ related
  rw [data,organization]
  refine (coupled.call _ related).bind ?_
  rintro found _ p q rfl related
  cases found with
  | none => exact .error _ related
  | some list =>
    refine (coupled.members _ _ related).bind ?_
    rintro members _ p q rfl related
    refine (coupled.sendBatches _ _ _ _ related).bind ?_
    rintro tally _ p q rfl related
    have ending {p q} (related : R p q) := (coupled.logged id .info "send_mass_email"
      s!"Mass email to list '{list.name}' finished: {tally.sent} sent, {tally.failed} failed" related).bind fun _ _ _ _ _ related =>
        (coupled.merge [("massEmailResult",Action.mailingResult list members.length tally)] related).bind fun _ _ _ _ _ related =>
          Agree.ok (rfl : Flow.next = Flow.next) related
    dsimp only
    split
    · refine (coupled.logged _ _ _ _ related).bind ?_
      rintro _ _ p q - related
      exact ending related
    · exact ending related

/-- A node that is no delay. The nodes of the walk play no part in what it does. -/
theorem perform (coupled : Coupling caps caps' strict R) (batchSize : Nat) (nodes nodes' : List Node) {node : Node}
    (prompt : ∀ minutes, node.kind ≠ .delay minutes) (related : R p q) :
    Agree strict R Eq (Action.perform caps batchSize nodes node p) (Action.perform caps' batchSize nodes' node q) := by
  unfold Action.perform
  cases kind : node.kind with
  | trigger _ => exact .ok rfl related
  | httpRequest config => exact coupled.http _ _ related
  | condition config => exact coupled.condition _ _ related
  | sendEmail draft => exact coupled.sendEmail _ _ related
  | sendWhatsApp draft => exact coupled.sendWhatsApp _ _ related
  | delay minutes => exact absurd kind (prompt minutes)
  | transform steps => exact coupled.transform _ _ related
  | sendMassEmail config => exact coupled.massEmail _ _ _ related
  | contacts config => exact coupled.contacts _ _ related

end Coupling
end Flowgraph
