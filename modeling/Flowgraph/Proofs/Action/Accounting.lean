import Flowgraph.Proofs.Action.MassEmail
import Flowgraph.Proofs.Text.Blank

/-! The account of a mailing, where whether an e-mail is taken depends on the e-mail alone. Every member is counted once: as sent to, as
failed, or as having no address; and the e-mails, the warnings and the counts are the same however the members are divided up. -/

namespace Flowgraph

/-- The text of the `email` property, where it is a text and not blank. -/
def Contact.contactable? (c : Contact) : Option String :=
  match Fields.get? c.properties "email" with
  | some (.string text) => if text.toList.all Text.isBlank then none else some text
  | _ => none

theorem Contact.email?_eq (c : Contact) : c.email? = c.contactable?.map Text.trim := by
  unfold email? contactable?
  rcases Fields.get? c.properties "email" with _ | value
  · rfl
  · cases value with
    | string text =>
      simp only [Text.trim_eq_empty_iff,List.all_eq_true]
      split <;> rfl
    | _ => rfl

namespace Action

variable {κ : Type} {outside : Outside κ} {c : Context} {s : Engine κ} {config : MassEmail} {list : ContactList} {k : κ}
  {ms : List Contact} {t : Context × Engine κ} {reply : EmailMessage → Except NodeFault Unit}

/-- An e-mail that is not taken, and the entry about it. -/
def Refused (reply : EmailMessage → Except NodeFault Unit) (now : Instant) (id : String) (e : EmailMessage) (entry : LogEntry) : Prop :=
  ∃ fault, reply e = .error fault ∧ entry = failureEntry now id (e.recipient,fault)

/-- The members that can be written to, each with its e-mail. -/
theorem contactable_addressed (m : Mailing) (ms : List Contact) :
    List.Forall₂ (fun member e => ∃ text, member.contactable? = some text ∧ e = m.message member (Text.trim text))
      (ms.filter (·.contactable?.isSome)) ((addressed ms).map fun x => m.message x.1 x.2) := by
  induction ms with
  | nil => exact .nil
  | cons member rest ih =>
    unfold addressed at ih ⊢
    rw [List.filterMap_cons,Contact.email?_eq]
    cases own : member.contactable? with
    | none =>
      rw [List.filter_cons_of_neg (by simp [own])]
      exact ih
    | some text =>
      rw [List.filter_cons_of_pos (by simp [own])]
      exact .cons ⟨text,own,rfl⟩ ih

/-- The failures of a mailing are its refused e-mails. -/
theorem refused_deliver (fixed : ∀ e k, (outside (.email e) k).1 = reply e) (now : Instant) (id : String) (m : Mailing)
    (xs : List (Contact × String)) (k : κ) :
    List.Forall₂ (Refused reply now id) ((xs.map fun x => m.message x.1 x.2).filter fun e => !(reply e).isOk)
      ((m.deliver outside xs k).1.map (failureEntry now id)) := by
  induction xs generalizing k with
  | nil => exact .nil
  | cons x rest ih =>
    have others := ih (outside (.email (m.message x.1 x.2)) k).2
    rw [List.map_cons,Mailing.deliver,fixed]
    cases answer : reply (m.message x.1 x.2) with
    | ok _ =>
      rw [List.filter_cons_of_neg (by simp [answer,Except.isOk,Except.toBool])]
      exact others
    | error fault =>
      rw [List.filter_cons_of_pos (by simp [answer,Except.isOk,Except.toBool])]
      exact .cons ⟨fault,answer,rfl⟩ others

/-- Where its answers depend on the e-mails alone, a mailing adds up. There is one e-mail for every member whose address is not blank, in
the order of the members and to the address without the blanks around it. Each is either taken and counted, or refused, counted and
warned of in the same order; and with the members that cannot be written to they are all the members. Nothing of this depends on how
many members a batch has. -/
theorem mailing_adds_up (id : String) {fields : Fields} (bag : c.data = .object fields) (fixed : ∀ e k, (outside (.email e) k).1 = reply e)
    (found : outside (.findList (Template.resolve config.listId c.data) c.organizationId) s.outside = (.ok (some list),k))
    (resolved : members (Engine.capabilities outside) c.organizationId list.source (c,{ s with outside := k }) = (.ok ms,t)) :
    ∃ uses s' warnings,
      let accepted := (emails uses).countP fun e => (reply e).isOk
      let refused := (emails uses).filter fun e => !(reply e).isOk
      let unreachable := ms.filter fun member => !member.contactable?.isSome
      let tally : Tally := ⟨accepted,refused.length,unreachable.length⟩
      (∀ batchSize, massEmail (Engine.capabilities outside).noted batchSize id config (c,[],s) = (.ok .next,
        { c with
          logs := c.logs ++ warnings ++ summary s.clock id list tally
          data := .object (Fields.insert "massEmailResult" (mailingResult list ms.length tally) fields) },uses,s')) ∧
      List.Forall₂ (fun member e => ∃ text, member.contactable? = some text ∧ e = (config.mailing c).message member (Text.trim text))
        (ms.filter (·.contactable?.isSome)) (emails uses) ∧
      List.Forall₂ (Refused reply s.clock id) refused warnings ∧
      ms.length = accepted + refused.length + unreachable.length := by
  obtain ⟨asking,use,k',question,other,done⟩ := massEmail_noted outside id found resolved
  have sent := emails_noted question other (config.mailing c) (addressed ms)
  have written := contactable_addressed (config.mailing c) ms
  have warned := refused_deliver fixed s.clock id (config.mailing c) (addressed ms) k'
  rw [← sent] at written warned
  generalize [asking,use] ++ (config.mailing c).uses (addressed ms) = uses at done sent written warned
  -- Each of the lists is counted on both sides.
  have parts {α : Type} (p : α → Bool) (xs : List α) : xs.length = xs.countP p + (xs.filter fun a => !p a).length := by
    rw [← List.countP_eq_length_filter,List.length_eq_countP_add_countP p]
    simp
  have handed : (emails uses).length = (addressed ms).length := by rw [sent,List.length_map]
  have reached : (ms.countP fun member => member.contactable?.isSome) = (emails uses).length := by
    rw [List.countP_eq_length_filter,written.length_eq]
  have failed := warned.length_eq.trans (List.length_map _)
  have answered := parts (fun e => (reply e).isOk) (emails uses)
  have members := parts (fun member : Contact => member.contactable?.isSome) ms
  have tally : Tally.add ⟨0,0,0⟩ ms.length (addressed ms).length ((config.mailing c).deliver outside (addressed ms) k').1.length =
      ⟨(emails uses).countP fun e => (reply e).isOk,((emails uses).filter fun e => !(reply e).isOk).length,
        (ms.filter fun member => !member.contactable?.isSome).length⟩ := by
    simp only [Tally.add,Tally.mk.injEq]
    omega
  simp only [tally,Context.merge,bag] at done
  exact ⟨uses,_,_,done,written,warned,by omega⟩

def cleo : Contact := ⟨"cleo",[("email",.string " ")]⟩

def dora : Contact := ⟨"dora",[("email",.string " dora@example.org "),("name",.string "Dora")]⟩

def mixed : ContactList := ⟨"all","Mixed",.members ["bob","cleo","dora"]⟩

/-- Whatever comes before, nothing gets through to Bob. -/
def unreliable : Outside Rehearsal := fun call r =>
  Rehearsal.outside call { r with script := { Script.plain with failingEmails := ["bob@example.org"], contacts := [bob,cleo,dora], lists := [mixed] } }

/-- Of three members the first cannot be written to, the second has a blank for an address, and the third is written to. -/
theorem mixed_mailing_adds_up : ∃ uses s' warnings,
    (∀ batchSize, ∃ c', massEmail (Engine.capabilities unreliable).noted batchSize "mail" greeting (holding [],[],reachable) = (.ok .next,c',uses,s') ∧
      c'.logs = warnings ++ summary reachable.clock "mail" mixed ⟨1,1,1⟩ ∧
      c'.data.field? "massEmailResult" = some (mailingResult mixed 3 ⟨1,1,1⟩)) ∧
    (emails uses).map (·.recipient) = ["bob@example.org","dora@example.org"] ∧
    warnings.map (·.message) = ["Failed to send email to bob@example.org: mailbox bob@example.org rejected the message"] := by
  let reply (e : EmailMessage) := (unreliable (.email e) reachable.outside).1
  have fixed (e : EmailMessage) (r : Rehearsal) : (unreliable (.email e) r).1 = reply e := by
    unfold reply unreliable Rehearsal.outside
    dsimp only
    split <;> rfl
  have found : (unreliable (.findList (Template.resolve greeting.listId (holding []).data) .nil) reachable.outside).1 = .ok (some mixed) := by
    rw [resolve_listId]
    rfl
  have resolved : (members (Engine.capabilities unreliable) .nil mixed.source (holding [],reachable)).1 = .ok [bob,cleo,dora] := rfl
  obtain ⟨uses,s',warnings,done,written,warned,-⟩ := mailing_adds_up "mail" rfl fixed (Prod.ext found rfl) (Prod.ext resolved rfl)
  have trimmed : Text.trim "bob@example.org" = "bob@example.org" ∧ Text.trim " dora@example.org " = "dora@example.org" := by decide +kernel
  -- The e-mails are those to Bob and Dora.
  have reached : [bob,cleo,dora].filter (·.contactable?.isSome) = [bob,dora] := rfl
  rw [reached] at written
  obtain ⟨_,_,⟨_,⟨⟩,rfl⟩,others,sent⟩ := List.forall₂_cons_left_iff.mp written
  obtain ⟨_,_,⟨_,⟨⟩,rfl⟩,⟨⟩,rfl⟩ := List.forall₂_cons_left_iff.mp others
  rw [trimmed.1,trimmed.2] at sent
  have accepted : ((emails uses).countP fun e => (reply e).isOk) = 1 := by rw [sent]; rfl
  have refused : ((emails uses).filter fun e => !(reply e).isOk) = [(greeting.mailing (holding [])).message bob "bob@example.org"] := by
    rw [sent]
    rfl
  have unreachable : ([bob,cleo,dora].filter fun member => !member.contactable?.isSome) = [cleo] := rfl
  rw [refused] at warned
  obtain ⟨_,_,⟨_,⟨⟩,rfl⟩,⟨⟩,noted⟩ := List.forall₂_cons_left_iff.mp warned
  refine ⟨uses,s',warnings,fun batchSize => ⟨_,done batchSize,?_,?_⟩,by rw [sent]; rfl,by rw [noted]; rfl⟩
  · rw [accepted,refused,unreachable]
    rfl
  · rw [accepted,refused,unreachable]
    rfl

end Action
end Flowgraph
