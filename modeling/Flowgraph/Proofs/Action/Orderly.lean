import Flowgraph.Proofs.Action.Law
import Flowgraph.Proofs.Data.DeepResolution
import Flowgraph.Proofs.Expression.Orderly
import Flowgraph.Proofs.Node.Decoded

/-! The data of a run stay orderly. What nodes write comes from expressions over the data or from answers, or is made by
themselves; and what they ask for is orderly as well, so that the outside may answer with what it has been told. -/

namespace Flowgraph
open Act

variable {σ κ : Type}

namespace Template

theorem resolveDeep_orderly {data value : Json} (orderly : value.Orderly) : (resolveDeep data value).Orderly := by
  induction orderly with
  | null => exact .null
  | bool value => exact .bool value
  | number value => exact .number value
  | string value => exact .string _
  | array _ ih =>
    rw [resolveDeep,resolveItems_eq_map]
    exact .array (List.forall_mem_map.mpr ih)
  | object ordered _ ih =>
    rw [resolveDeep,resolveFields_eq_map]
    exact .object (Fields.ordered_map (fun _ => rfl) ordered) (List.forall_mem_map.mpr ih)

end Template

/-- A call of which every part is as a document could have it. -/
def Call.Orderly : Call → Prop
  | .http request => Fields.Ordered request.headers ∧ ∀ body ∈ request.body, body.Orderly
  | .contactsMatching filter _ => filter.Orderly
  | .createContact properties _ => Fields.Orderly properties
  | _ => True

def ContactSource.Orderly : ContactSource → Prop
  | .members _ => True
  | .filter criteria => criteria.Orderly

/-- An answer that is orderly, as far as it can get into the data of a run or into its calls. -/
def Call.Fits : (call : Call) → call.Answer → Prop
  | .http _,response => response.body.Orderly ∧ Fields.Orderly response.headers
  | .findList ..,found => ∀ list ∈ found, list.source.Orderly
  | .createContact ..,contact => Fields.Orderly contact.properties
  | _,_ => True

/-- Orderly calls get orderly answers, as long as the state of the outside is of a kind that such calls keep. -/
structure Outside.Orderly (outside : Outside κ) (I : κ → Prop) : Prop where
  answers : ∀ call k, call.Orderly → I k → ∀ answer, (outside call k).1 = .ok answer → call.Fits answer
  keeps : ∀ call k, call.Orderly → I k → I (outside call k).2

structure Capabilities.Orderly (caps : Capabilities σ) (I : σ → Prop) : Prop where
  answers : ∀ call s, call.Orderly → I s → ∀ answer, (caps.call call s).1 = .ok answer → call.Fits answer
  keeps : ∀ call s, call.Orderly → I s → I (caps.call call s).2
  suspend : ∀ minutes left s, I s → I (caps.suspend minutes left s).2

/-- Orderly data, and a state of the kind behind them. -/
structure Tidy (I : σ → Prop) (p : Context × σ) : Prop where
  data : p.1.data.Orderly
  state : I p.2

/-- An action that leaves a tidy state tidy, and then ends in such values only. -/
structure Step.Tidies (I : σ → Prop) (V : α → Prop) (act : Step σ α) : Prop where
  run : ∀ p, Tidy I p → Tidy I (act p).2 ∧ ∀ a, (act p).1 = .ok a → V a

theorem Context.merge_orderly {c : Context} {fields : Fields} (orderly : c.data.Orderly) (each : ∀ entry ∈ fields, entry.2.Orderly) :
    (c.merge fields).data.Orderly := by
  unfold merge
  split
  · next data bag =>
    rw [bag] at orderly
    exact Json.orderly_object.mpr ((Json.orderly_object.mp orderly).merge each)
  · exact orderly

namespace Step.Tidies

variable {I : σ → Prop} {V : α → Prop} {W : β → Prop}

theorem pure {a : α} (value : V a) : Tidies I V (pure a : Step σ α) where
  run p tidy := by
    refine ⟨tidy,?_⟩
    rintro _ ⟨⟩
    exact value

theorem fail (fault : NodeFault) : Tidies I V (Act.fail fault : Step σ α) := ⟨fun _ tidy => ⟨tidy,fun _ => nofun⟩⟩

theorem bind {act : Step σ α} {f : α → Step σ β} (first : Tidies I V act) (rest : ∀ a, V a → Tidies I W (f a)) :
    Tidies I W (act >>= f) where
  run p tidy := by
    have kept := first.run p tidy
    rw [bind_apply]
    revert kept
    rcases act p with ⟨e | a,q⟩ <;> rintro ⟨tidy,values⟩
    · exact ⟨tidy,fun _ => nofun⟩
    · exact (rest a (values a rfl)).run q tidy

/-- An action that ends in no value of interest. -/
theorem of_state {act : Step σ α} (keeps : ∀ p, Tidy I p → Tidy I (act p).2) : Tidies I (fun _ => True) act :=
  ⟨fun p tidy => ⟨keeps p tidy,fun _ _ => trivial⟩⟩

theorem context : Tidies I (fun c : Context => c.data.Orderly) (Step.context : Step σ Context) where
  run p tidy := by
    refine ⟨tidy,?_⟩
    rintro _ ⟨⟩
    exact tidy.data

theorem log (caps : Capabilities σ) (id : String) (level : LogLevel) (action message : String) :
    Tidies I (fun _ => True) (Step.log caps id level action message) := of_state fun _ tidy => ⟨tidy.data,tidy.state⟩

theorem mark (id : String) : Tidies I (fun _ => True) (Step.change ({ · with currentNodeId := some id }) : Step σ Unit) :=
  of_state fun _ tidy => ⟨tidy.data,tidy.state⟩

theorem merge {fields : Fields} (each : ∀ entry ∈ fields, entry.2.Orderly) :
    Tidies I (fun _ => True) (Step.change (·.merge fields) : Step σ Unit) :=
  of_state fun _ tidy => ⟨Context.merge_orderly tidy.data each,tidy.state⟩

section calls

variable {caps : Capabilities σ}

theorem call (orderly : caps.Orderly I) (request : Call) (fit : request.Orderly) :
    Tidies I request.Fits (Step.outside (caps.call request)) :=
  ⟨fun p tidy => ⟨⟨tidy.data,orderly.keeps request p.2 fit tidy.state⟩,orderly.answers request p.2 fit tidy.state⟩⟩

theorem attempt (orderly : caps.Orderly I) (request : Call) (fit : request.Orderly) :
    Tidies I (fun _ => True) (Step.outside (attempt (caps.call request))) := by
  refine of_state fun p tidy => ⟨tidy.data,?_⟩
  change I (Act.attempt (caps.call request) p.2).2
  rw [attempt_snd]
  exact orderly.keeps request p.2 fit tidy.state

theorem suspend (orderly : caps.Orderly I) (minutes : Float) (left : Suspension) :
    Tidies I (fun _ => True) (Step.outside (caps.suspend minutes left)) :=
  of_state fun p tidy => ⟨tidy.data,orderly.suspend minutes left p.2 tidy.state⟩

end calls
end Step.Tidies

namespace Action
open Step

variable {caps : Capabilities σ} {I : σ → Prop} {id : String}

theorem request_orderly {config : HttpCall} (same : config.canonical = config) (data : Json) : (Call.http (request config data)).Orderly := by
  obtain ⟨method,url,headers,body⟩ := config
  simp only [HttpCall.canonical,HttpCall.mk.injEq,true_and] at same
  obtain ⟨sameHeaders,sameBody⟩ := same
  refine ⟨?_,?_⟩
  · refine Fields.ordered_map (fun _ => rfl) ?_
    cases headers with
    | none => exact .nil
    | some headers => exact Option.some.inj sameHeaders ▸ Fields.ordered_ofList headers
  · intro resolved found
    obtain ⟨body,rfl,rfl⟩ := Option.map_eq_some_iff.mp found
    refine Template.resolveDeep_orderly ?_
    rw [Option.bind_some] at sameBody
    split at sameBody
    · cases sameBody
    · exact Json.orderly_iff.mpr (Option.some.inj sameBody)

theorem http_tidies (orderly : caps.Orderly I) {config : HttpCall} (same : config.canonical = config) :
    Tidies I (fun _ => True) (http caps id config) := by
  refine Tidies.context.bind fun c _ => ?_
  refine (Tidies.call orderly _ (request_orderly same c.data)).bind fun response fits => ?_
  refine (Tidies.log ..).bind fun _ _ => ?_
  refine (Tidies.merge ?_).bind fun _ _ => .pure trivial
  simp only [responseFields,List.forall_mem_cons]
  exact ⟨fits.1,.number _,Json.orderly_object.mpr fits.2,List.forall_mem_nil _⟩

theorem condition_tidies (config : Condition) : Tidies I (fun _ => True) (condition caps id config) := by
  refine Tidies.context.bind fun _ _ => ?_
  exact (Tidies.log ..).bind fun _ _ => .pure trivial

theorem checkRecipient_tidies (kind recipient : String) : Tidies I (fun _ => True) (checkRecipient kind recipient : Step σ Unit) := by
  unfold checkRecipient
  split
  · exact .fail _
  · exact .pure trivial

theorem sendEmail_tidies (orderly : caps.Orderly I) (draft : EmailDraft) : Tidies I (fun _ => True) (sendEmail caps id draft) := by
  refine Tidies.context.bind fun _ _ => ?_
  refine (checkRecipient_tidies ..).bind fun _ _ => ?_
  refine (Tidies.call orderly (.email _) trivial).bind fun _ _ => ?_
  exact (Tidies.log ..).bind fun _ _ => .pure trivial

theorem sendWhatsApp_tidies (orderly : caps.Orderly I) (draft : WhatsAppDraft) : Tidies I (fun _ => True) (sendWhatsApp caps id draft) := by
  refine Tidies.context.bind fun _ _ => ?_
  refine (checkRecipient_tidies ..).bind fun _ _ => ?_
  refine (Tidies.call orderly (.whatsApp _) trivial).bind fun _ _ => ?_
  exact (Tidies.log ..).bind fun _ _ => .pure trivial

theorem contacts_tidies (orderly : caps.Orderly I) {config : ContactChange} (same : config.canonical = config) :
    Tidies I (fun _ => True) (contacts caps id config) := by
  have given : config.data.Orderly := Json.orderly_iff.mpr (congrArg ContactChange.data same)
  unfold contacts
  cases config.action with
  | create =>
    refine Tidies.context.bind fun c _ => ?_
    have resolved : (Template.resolveDeep c.data config.data).Orderly := Template.resolveDeep_orderly given
    split
    · next properties found =>
      rw [found] at resolved
      have fit : (Call.createContact properties c.organizationId).Orderly := Json.orderly_object.mp resolved
      refine (Tidies.call orderly _ fit).bind fun contact fits => ?_
      refine (Tidies.log ..).bind fun _ _ => ?_
      refine (Tidies.merge ?_).bind fun _ _ => .pure trivial
      exact List.forall_mem_singleton.mpr (Json.orderly_object.mpr (Fields.Orderly.insert fits (.string _)))
    · exact .fail _
  | _ => exact .fail _

theorem delay_tidies (orderly : caps.Orderly I) (nodes : List Node) (node : Node) (minutes : Float) :
    Tidies I (fun _ => True) (delay caps nodes node minutes) := by
  unfold delay
  split
  · exact .fail _
  · refine (Tidies.mark _).bind fun _ _ => ?_
    refine Tidies.context.bind fun _ _ => ?_
    refine (Tidies.suspend orderly ..).bind fun _ _ => ?_
    exact (Tidies.log ..).bind fun _ _ => .pure trivial

theorem transformed_orderly {data : Json} (orderly : data.Orderly) (steps : List Transformation) : (transformed data steps).1.Orderly := by
  unfold transformed
  refine List.foldlRecOn (motive := fun result : Json × List String => result.1.Orderly) steps _ orderly fun result reached t _ => ?_
  dsimp only
  split
  · next found => exact Json.Orderly.assign reached _ (Expr.evaluateText_orderly orderly found)
  · exact reached

theorem transform_tidies (steps : List Transformation) : Tidies I (fun _ => True) (transform caps id steps) := by
  refine Tidies.of_state fun ⟨c,s⟩ tidy => ?_
  rw [transform_apply]
  exact ⟨transformed_orderly tidy.data steps,tidy.state⟩

theorem sendAll_tidies (orderly : caps.Orderly I) (m : Mailing) (members : List (Contact × String)) :
    Tidies I (fun _ => True) (sendAll caps m members) := by
  induction members with
  | nil => exact .pure trivial
  | cons member rest ih =>
    refine (Tidies.attempt orderly (.email _) trivial).bind fun _ _ => ?_
    exact ih.bind fun _ _ => .pure trivial

theorem warnAll_tidies (failures : List (String × NodeFault)) : Tidies I (fun _ => True) (warnAll caps id failures) := by
  induction failures with
  | nil => exact .pure trivial
  | cons failure rest ih => exact (Tidies.log ..).bind fun _ _ => ih

theorem sendBatches_tidies (orderly : caps.Orderly I) (m : Mailing) (tally : Tally) (batches : List (List Contact)) :
    Tidies I (fun _ => True) (sendBatches caps id m tally batches) := by
  induction batches generalizing tally with
  | nil => exact .pure trivial
  | cons batch rest ih =>
    refine (sendAll_tidies orderly ..).bind fun _ _ => ?_
    exact (warnAll_tidies _).bind fun _ _ => ih _

theorem members_tidies (orderly : caps.Orderly I) (organization : Uuid) {source : ContactSource} (fit : source.Orderly) :
    Tidies I (fun _ => True) (members caps organization source) := by
  cases source with
  | members ids => exact .call orderly (.contactsById ..) trivial
  | filter criteria => exact .call orderly (.contactsMatching ..) fit

theorem mailingResult_orderly (list : ContactList) (total : Nat) (tally : Tally) : (mailingResult list total tally).Orderly := by
  refine Json.orderly_object.mpr (.ofList ?_)
  simp only [List.forall_mem_cons]
  exact ⟨.number _,.number _,.number _,.string _,.string _,List.forall_mem_nil _⟩

theorem massEmail_tidies (orderly : caps.Orderly I) (batchSize : Nat) (config : MassEmail) :
    Tidies I (fun _ => True) (massEmail caps batchSize id config) := by
  refine Tidies.context.bind fun c _ => ?_
  refine (Tidies.call orderly (.findList ..) trivial).bind fun found fits => ?_
  cases found with
  | none => exact .fail _
  | some list =>
    refine (members_tidies orderly c.organizationId (fits list rfl)).bind fun members _ => ?_
    refine (sendBatches_tidies orderly ..).bind fun tally _ => ?_
    have ending : Tidies I (fun _ => True) (Step.change (·.merge [("massEmailResult",mailingResult list members.length tally)]) : Step σ Unit) :=
      .merge (List.forall_mem_singleton.mpr (mailingResult_orderly ..))
    dsimp only
    split
    · exact (Tidies.log ..).bind fun _ _ => (Tidies.log ..).bind fun _ _ => ending.bind fun _ _ => .pure trivial
    · exact (Tidies.log ..).bind fun _ _ => ending.bind fun _ _ => .pure trivial

/-- A node that has been read from a document leaves a tidy state tidy. -/
theorem perform_tidies (orderly : caps.Orderly I) (batchSize : Nat) (nodes : List Node) {node : Node} (decoded : node.Decoded) :
    Tidies I (fun _ => True) (perform caps batchSize nodes node) := by
  have same : node.kind.canonical = node.kind := congrArg Node.kind decoded.canonical_eq
  unfold perform
  cases kind : node.kind with
  | trigger _ => exact .pure trivial
  | httpRequest config =>
    rw [kind] at same
    exact http_tidies orderly (NodeKind.httpRequest.inj same)
  | condition config => exact condition_tidies config
  | sendEmail draft => exact sendEmail_tidies orderly draft
  | sendWhatsApp draft => exact sendWhatsApp_tidies orderly draft
  | delay minutes => exact delay_tidies orderly nodes node minutes
  | transform steps => exact transform_tidies steps
  | sendMassEmail config => exact massEmail_tidies orderly batchSize config
  | contacts config =>
    rw [kind] at same
    exact contacts_tidies orderly (NodeKind.contacts.inj same)

end Action
end Flowgraph
