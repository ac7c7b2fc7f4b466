import Flowgraph.Action.MassEmail
import Flowgraph.Effect.Rehearsal
import Flowgraph.Engine.Memory
import Flowgraph.Proofs.Data.Template
import Flowgraph.Proofs.Engine.Notes

/-! The e-mails of a mailing. One is handed over for every member with an address, in the order of the members
and whatever becomes of those before it; and each names its member by the member's own entries,
wherever the data of the run have nothing under the same path. -/

namespace Flowgraph
open Act

def Use.email? : Use → Option EmailMessage
  | .call (.email message) => some message
  | _ => none

/-- The e-mails among the uses. -/
def emails (uses : List Use) : List EmailMessage := uses.filterMap Use.email?

/-- The mailing that a run makes of its configuration. -/
def MassEmail.mailing (config : MassEmail) (c : Context) : Action.Mailing :=
  ⟨Template.resolve config.subject c.data,Template.resolve config.body c.data,config.sender.map (Template.resolve · c.data),c.organizationId⟩

namespace Action

theorem flatten_chunks (n : Nat) (xs : List α) : (chunks n xs).flatten = xs := by
  induction xs using chunks.induct n with
  | case1 => rw [chunks,dif_pos rfl]; rfl
  | case2 xs nonempty _ ih => rw [chunks,dif_neg nonempty,List.flatten_cons,ih,List.take_append_drop]

variable {κ : Type} (outside : Outside κ) (c : Context) (before : List Use) (s : Engine κ)

/-- What sending the message to each of the pairs is noted as. -/
def Mailing.uses (m : Mailing) (xs : List (Contact × String)) : List Use := xs.map fun x => .call (.email (m.message x.1 x.2))

/-- What becomes of writing to each of the pairs: the addresses that failed and why, and the outside afterwards. -/
def Mailing.deliver (m : Mailing) : List (Contact × String) → κ → List (String × NodeFault) × κ
  | [],k => ([],k)
  | x :: rest,k =>
    let answer := outside (.email (m.message x.1 x.2)) k
    let others := m.deliver rest answer.2
    (match answer.1 with
      | .ok _ => others.1
      | .error e => (x.2,e) :: others.1,others.2)

theorem Mailing.deliver_append (m : Mailing) (xs ys : List (Contact × String)) (k : κ) : m.deliver outside (xs ++ ys) k =
    ((m.deliver outside xs k).1 ++ (m.deliver outside ys (m.deliver outside xs k).2).1,(m.deliver outside ys (m.deliver outside xs k).2).2) := by
  induction xs generalizing k with
  | nil => rfl
  | cons x rest ih =>
    simp only [List.cons_append,Mailing.deliver,ih]
    rcases (outside (.email (m.message x.1 x.2)) k).1 with e | _ <;> rfl

theorem Mailing.length_deliver_le (m : Mailing) (xs : List (Contact × String)) (k : κ) : (m.deliver outside xs k).1.length ≤ xs.length := by
  induction xs generalizing k with
  | nil => exact Nat.le_refl 0
  | cons x rest ih =>
    have others := ih (outside (.email (m.message x.1 x.2)) k).2
    simp only [Mailing.deliver]
    rcases (outside (.email (m.message x.1 x.2)) k).1 with e | _
    · exact Nat.succ_le_succ others
    · exact Nat.le_succ_of_le others

theorem sendAll_noted (m : Mailing) (xs : List (Contact × String)) : sendAll (Engine.capabilities outside).noted m xs (c,before,s) =
    (.ok (m.deliver outside xs s.outside).1,c,before ++ m.uses xs,{ s with outside := (m.deliver outside xs s.outside).2 }) := by
  induction xs generalizing before s with
  | nil => rw [Mailing.uses,List.map_nil,List.append_nil]; rfl
  | cons x rest ih =>
    have sent : Step.outside (attempt ((Engine.capabilities outside).noted.call (.email (m.message x.1 x.2)))) (c,before,s) =
        ((.ok (outside (.email (m.message x.1 x.2)) s.outside).1 : Except (Failure NodeFault) (Except NodeFault Unit)),c,
          before ++ [.call (.email (m.message x.1 x.2))],{ s with outside := (outside (.email (m.message x.1 x.2)) s.outside).2 }) := by
      simp only [Step.outside,zoom,attempt,Capabilities.noted,noting,beside,Engine.capabilities,Outside.act]
      rcases (outside (.email (m.message x.1 x.2)) s.outside).1 with e | _ <;> rfl
    have split : m.uses (x :: rest) = [.call (.email (m.message x.1 x.2))] ++ m.uses rest := rfl
    rw [sendAll,bind_ok sent,bind_ok (ih ..),split,← List.append_assoc,Mailing.deliver]
    rcases (outside (.email (m.message x.1 x.2)) s.outside).1 with e | _ <;> rfl

/-- The entry about an e-mail that has failed. -/
def failureEntry (now : Instant) (id : String) (failure : String × NodeFault) : LogEntry :=
  ⟨now,id,.warning,"send_mass_email",s!"Failed to send email to {failure.1}: {failure.2.message}"⟩

theorem warnAll_noted (id : String) (failures : List (String × NodeFault)) : warnAll (Engine.capabilities outside).noted id failures (c,before,s) =
    (.ok (),{ c with logs := c.logs ++ failures.map (failureEntry s.clock id) },before,s) := by
  induction failures generalizing c with
  | nil => rw [List.map_nil,List.append_nil]; rfl
  | cons failure rest ih =>
    refine (ih (c.append (failureEntry s.clock id failure))).trans ?_
    rw [List.map_cons,List.append_cons]
    rfl

/-- A tally that goes on over members, of whom some have an address and some of those have failed. -/
def Tally.add (tally : Tally) (members addressed failed : Nat) : Tally :=
  ⟨tally.sent + (addressed - failed),tally.failed + failed,tally.skipped + (members - addressed)⟩

theorem Tally.add_add (tally : Tally) {members members' addressed addressed' failed failed' : Nat} (first : addressed ≤ members)
    (second : addressed' ≤ members') (fewer : failed ≤ addressed) (fewer' : failed' ≤ addressed') :
    (tally.add members addressed failed).add members' addressed' failed' =
      tally.add (members + members') (addressed + addressed') (failed + failed') := by
  simp only [Tally.add,Tally.mk.injEq]
  omega

theorem length_addressed_le (ms : List Contact) : (addressed ms).length ≤ ms.length := List.length_filterMap_le ..

/-- It makes no difference how the members are divided up. -/
theorem sendBatches_noted (id : String) (m : Mailing) (tally : Tally) (batches : List (List Contact)) :
    let xs := addressed batches.flatten
    let (failures,k) := m.deliver outside xs s.outside
    sendBatches (Engine.capabilities outside).noted id m tally batches (c,before,s) =
      (.ok (tally.add batches.flatten.length xs.length failures.length),{ c with logs := c.logs ++ failures.map (failureEntry s.clock id) },
        before ++ m.uses xs,{ s with outside := k }) := by
  induction batches generalizing c before s tally with
  | nil =>
    simp only [List.flatten_nil,addressed,List.filterMap_nil,Mailing.deliver,List.map_nil,List.append_nil,Mailing.uses]
    rfl
  | cons batch rest ih =>
    have split : addressed (batch :: rest).flatten = addressed batch ++ addressed rest.flatten := by
      rw [List.flatten_cons,addressed,List.filterMap_append]
      rfl
    have uses : m.uses (addressed (batch :: rest).flatten) = m.uses (addressed batch) ++ m.uses (addressed rest.flatten) := by
      rw [split]
      exact List.map_append
    have counts := tally.add_add (length_addressed_le batch) (length_addressed_le rest.flatten)
      (m.length_deliver_le outside (addressed batch) s.outside) (m.length_deliver_le outside (addressed rest.flatten) (m.deliver outside (addressed batch) s.outside).2)
    dsimp only
    rw [sendBatches,bind_ok (sendAll_noted ..),bind_ok (warnAll_noted ..),uses,← List.append_assoc]
    refine (ih ..).trans ?_
    rw [split,Mailing.deliver_append]
    simp only [List.flatten_cons,List.length_append,List.map_append,List.append_assoc,← counts]
    rfl

theorem emails_uses (m : Mailing) (xs : List (Contact × String)) : emails (m.uses xs) = xs.map fun x => m.message x.1 x.2 := by
  rw [emails,Mailing.uses,List.filterMap_map]
  exact congrFun List.filterMap_eq_map xs

theorem findList_noted {id : String} {organization : Uuid} {list : ContactList} {k : κ}
    (found : outside (.findList id organization) s.outside = (.ok (some list),k)) : ∃ use, use.email? = none ∧
      Step.outside ((Engine.capabilities outside).noted.call (.findList id organization)) (c,before,s) =
        ((.ok (some list) : Except (Failure NodeFault) (Option ContactList)),c,before ++ [use],{ s with outside := k }) := by
  refine ⟨.call (.findList id organization),rfl,?_⟩
  simp only [Step.outside,zoom,Capabilities.noted,noting,beside,Engine.capabilities,Outside.act,found]
  rfl

theorem members_noted {source : ContactSource} {organization : Uuid} {ms : List Contact} {t : Context × Engine κ}
    (resolved : members (Engine.capabilities outside) organization source (c,s) = (.ok ms,t)) : ∃ use k, use.email? = none ∧
      members (Engine.capabilities outside).noted organization source (c,before,s) = (.ok ms,c,before ++ [use],{ s with outside := k }) := by
  cases source with
  | members ids =>
    obtain ⟨found,-⟩ := Prod.mk.inj resolved
    exact ⟨.call (.contactsById ids organization),_,rfl,Prod.ext found rfl⟩
  | filter criteria =>
    obtain ⟨found,-⟩ := Prod.mk.inj resolved
    exact ⟨.call (.contactsMatching criteria organization),_,rfl,Prod.ext found rfl⟩

/-- The html of an e-mail shows a member's own entry wherever the body names it and the data of the run do not. -/
def Personal (body : String) (data : Json) (member : Contact) (html : String) : Prop :=
  ∀ before key after value, body.toList = before ++ (Template.written ("contact." ++ key).toList ++ after) → Template.IsKey key →
    Fields.get? member.bag key = some value → Path.lookup data ("contact." ++ key) = none →
    html.toList = Template.filled (.object [("contact",.object member.bag)]) (Template.filled data before) ++ (value.plain.toList ++
      Template.filled (.object [("contact",.object member.bag)]) (Template.filled data after))

theorem personal_message (body subject : String) (sender : Option String) (organization : Uuid) (data : Json) (member : Contact) (address : String) :
    Personal body data member (Mailing.message ⟨subject,Template.resolve body data,sender,organization⟩ member address).html := by
  intro before key after value written isKey own absent
  rw [Mailing.message,Template.toList_resolve,Template.toList_resolve,written]
  exact Template.filled_contact isKey before after own absent

variable {batchSize : Nat} {id : String} {config : MassEmail} {list : ContactList} {k : κ} {ms : List Contact} {t : Context × Engine κ}
  {c s}

/-- The entries that a mailing ends with. -/
def summary (now : Instant) (id : String) (list : ContactList) (tally : Tally) : List LogEntry :=
  (if tally.skipped > 0 then [⟨now,id,.info,"send_mass_email",s!"Skipped {tally.skipped} contact(s) without an email address"⟩] else []) ++
    [⟨now,id,.info,"send_mass_email",s!"Mass email to list '{list.name}' finished: {tally.sent} sent, {tally.failed} failed"⟩]

/-- A mailing does all that it does once it has its members, however it divides them up. -/
theorem massEmail_noted (id : String)
    (found : outside (.findList (Template.resolve config.listId c.data) c.organizationId) s.outside = (.ok (some list),k))
    (resolved : members (Engine.capabilities outside) c.organizationId list.source (c,{ s with outside := k }) = (.ok ms,t)) :
    ∃ asking use k', asking.email? = none ∧ use.email? = none ∧ ∀ batchSize,
      let x := (config.mailing c).deliver outside (addressed ms) k'
      let tally := Tally.add ⟨0,0,0⟩ ms.length (addressed ms).length x.1.length
      massEmail (Engine.capabilities outside).noted batchSize id config (c,[],s) = (.ok .next,
        { c with logs := c.logs ++ x.1.map (failureEntry s.clock id) ++ summary s.clock id list tally }.merge
          [("massEmailResult",mailingResult list ms.length tally)],
        [asking,use] ++ (config.mailing c).uses (addressed ms),{ s with outside := x.2 }) := by
  obtain ⟨asking,question,asked⟩ := findList_noted outside c [] s found
  obtain ⟨use,k',other,gathered⟩ := members_noted outside c ([] ++ [asking]) _ resolved
  refine ⟨asking,use,k',question,other,fun batchSize => ?_⟩
  have sent := sendBatches_noted outside c ([] ++ [asking] ++ [use]) { s with outside := k' } id (config.mailing c) ⟨0,0,0⟩ (chunks (batchSize - 1) ms)
  rw [flatten_chunks] at sent
  have context : (Step.context : Step (List Use × Engine κ) Context) (c,[],s) = (.ok c,c,[],s) := rfl
  rw [massEmail,bind_ok context,bind_ok asked]
  dsimp only
  rw [bind_ok gathered]
  change (sendBatches _ _ (config.mailing c) _ _ >>= _) _ = _
  rw [bind_ok sent]
  unfold summary
  split
  · rw [← List.append_assoc]; rfl
  · rfl

theorem emails_noted {asking use : Use} (question : asking.email? = none) (other : use.email? = none) (m : Mailing)
    (xs : List (Contact × String)) : emails ([asking,use] ++ m.uses xs) = xs.map fun x => m.message x.1 x.2 := by
  rw [emails,List.cons_append,List.singleton_append,List.filterMap_cons_none question,List.filterMap_cons_none other,← emails,emails_uses]

theorem emails_massEmail
    (found : outside (.findList (Template.resolve config.listId c.data) c.organizationId) s.outside = (.ok (some list),k))
    (resolved : members (Engine.capabilities outside) c.organizationId list.source (c,{ s with outside := k }) = (.ok ms,t)) :
    ∃ c' uses s', massEmail (Engine.capabilities outside).noted batchSize id config (c,[],s) = (.ok .next,c',uses,s') ∧
      emails uses = (addressed ms).map fun x => (config.mailing c).message x.1 x.2 := by
  obtain ⟨asking,use,k',question,other,done⟩ := massEmail_noted outside id found resolved
  exact ⟨_,_,_,done batchSize,emails_noted question other ..⟩

/-- Every member with an address is written to, and the e-mail shows the member's own entries in the places that the
data of the run leave to them. -/
theorem mailing_is_personal
    (found : outside (.findList (Template.resolve config.listId c.data) c.organizationId) s.outside = (.ok (some list),k))
    (resolved : members (Engine.capabilities outside) c.organizationId list.source (c,{ s with outside := k }) = (.ok ms,t)) :
    ∃ c' uses s', massEmail (Engine.capabilities outside).noted batchSize id config (c,[],s) = (.ok .next,c',uses,s') ∧
      List.Forall₂ (fun x e => e.recipient = x.2 ∧ Personal config.body c.data x.1 e.html) (addressed ms) (emails uses) := by
  obtain ⟨c',uses,s',sent,noted⟩ := emails_massEmail outside found resolved
  refine ⟨c',uses,s',sent,?_⟩
  rw [noted,List.forall₂_map_right_iff,List.forall₂_same]
  exact fun x _ => ⟨rfl,personal_message config.body _ _ _ c.data x.1 x.2⟩

def bob : Contact := ⟨"bob",[("email",.string "bob@example.org"),("name",.string "Bob")]⟩

def everyone : ContactList := ⟨"all","Everyone",.members ["bob"]⟩

def greeting : MassEmail := ⟨"all","Hello",.ofList (Template.written "contact.name".toList),none⟩

/-- A run that has a contact of its own, made by an earlier node. -/
def holding (contact : Fields) : Context := .start "run" .nil .nil (.object [("contact",.object contact)]) ⟨0,false⟩

def reachable : Engine Rehearsal := .start (.start { Script.plain with contacts := [bob], lists := [everyone] }) ⟨0,false⟩

theorem resolve_listId (data : Json) : Template.resolve greeting.listId data = "all" := by
  have plain : Template.pieces greeting.listId.toList = greeting.listId.toList.map .char := by decide +kernel
  rw [Template.resolve,plain]
  rfl

theorem everyone_found (contact : Fields) :
    Rehearsal.outside (.findList (Template.resolve greeting.listId (holding contact).data) .nil) reachable.outside =
      (.ok (some everyone),reachable.outside) := by
  rw [resolve_listId]
  rfl

theorem bob_is_named : ∃ c' uses s', massEmail (Engine.capabilities Rehearsal.outside).noted 10 "mail" greeting
    (holding [("id",.string "ann")],[],reachable) = (.ok .next,c',uses,s') ∧
      List.Forall₂ (fun x e => e.recipient = x.2 ∧ Personal greeting.body (holding [("id",.string "ann")]).data x.1 e.html)
        (addressed [bob]) (emails uses) :=
  mailing_is_personal Rehearsal.outside (everyone_found _) rfl

theorem contact_of_the_run_is_named : ¬∀ (c : Context) (s : Engine Rehearsal) (batchSize : Nat) (id : String) (config : MassEmail)
    (list : ContactList) (k : Rehearsal) (ms : List Contact) (t : Context × Engine Rehearsal),
    Rehearsal.outside (.findList (Template.resolve config.listId c.data) c.organizationId) s.outside = (.ok (some list),k) →
    members (Engine.capabilities Rehearsal.outside) c.organizationId list.source (c,{ s with outside := k }) = (.ok ms,t) →
    ∃ c' uses s', massEmail (Engine.capabilities Rehearsal.outside).noted batchSize id config (c,[],s) = (.ok .next,c',uses,s') ∧
      List.Forall₂ (fun x e => ∀ key value, config.body = .ofList (Template.written ("contact." ++ key).toList) →
        Fields.get? x.1.bag key = some value → e.html = value.plain) (addressed ms) (emails uses) := by
  intro always
  have found := everyone_found [("name",.string "Ann")]
  obtain ⟨_,_,_,sent,own⟩ := always _ reachable 10 "mail" greeting everyone reachable.outside [bob] _ found rfl
  obtain ⟨_,_,_,same,noted⟩ := emails_massEmail Rehearsal.outside found rfl
  cases sent.symm.trans same
  rw [noted] at own
  obtain ⟨named,-⟩ := List.forall₂_cons.mp own
  have html : ((greeting.mailing (holding [("name",.string "Ann")])).message bob "bob@example.org").html = "Ann" := by decide +kernel
  exact absurd (html.symm.trans (named "name" (.string "Bob") rfl rfl)) (by decide)

end Action
end Flowgraph
