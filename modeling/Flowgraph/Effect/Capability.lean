import Flowgraph.Effect.Message

/-! The capabilities that nodes call upon, and actions that use them. An action changes a state and
ends in a value or a failure; what it changed before a failure stays changed. Calls are data, so
that they can be recorded and answered by whatever is at hand. -/

namespace Flowgraph

/-- Why a node cannot do what it is for. -/
inductive NodeFault where
  | effect (message : String)
  | invalidConfig (message : String)
  | notImplemented (message : String)
  | scheduling (message : String)
  deriving DecidableEq, Repr

def NodeFault.message : NodeFault → String
  | .effect m => m
  | .invalidConfig m => "invalid node configuration: " ++ m
  | .notImplemented m => "not implemented: " ++ m
  | .scheduling m => "failed to schedule continuation: " ++ m

/-- How an action fails: for a cause of its own, or by leaving the range of the calendar. -/
inductive Failure (ε : Type) where
  | cause (e : ε)
  | overflow
  deriving DecidableEq, Repr

def Failure.map (f : ε → δ) : Failure ε → Failure δ
  | .cause e => .cause (f e)
  | .overflow => .overflow

abbrev Act (σ ε α : Type) := ExceptT (Failure ε) (StateM σ) α

namespace Act

def fail (e : ε) : Act σ ε α := throw (.cause e)
def overflow : Act σ ε α := throw .overflow

def ofExcept (result : Except ε α) : Act σ ε α := fun s => (result.mapError .cause, s)

/-- The result of an action as a value; leaving the calendar is no result. -/
def attempt (act : Act σ ε α) : Act σ δ (Except ε α) := fun s =>
  match act s with
  | (.ok a, s) => (.ok (.ok a), s)
  | (.error (.cause e), s) => (.ok (.error e), s)
  | (.error .overflow, s) => (.error .overflow, s)

def mapFault (f : ε → δ) (act : Act σ ε α) : Act σ δ α := fun s =>
  let (result, s) := act s
  (result.mapError (Failure.map f), s)

def zoom (get : σ → τ) (set : τ → σ → σ) (act : Act τ ε α) : Act σ ε α := fun s =>
  let (result, t) := act (get s)
  (result, set t s)

end Act

/-- A call to the world outside. -/
inductive Call where
  | http (request : HttpRequest)
  | email (message : EmailMessage)
  | whatsApp (message : WhatsAppMessage)
  | findList (id : String) (organizationId : Uuid)
  | contactsById (ids : List String) (organizationId : Uuid)
  | contactsMatching (filter : Json) (organizationId : Uuid)
  | createContact (properties : Fields) (organizationId : Uuid)
  deriving BEq, Repr

/-- What a call is answered with when it does not fail. -/
abbrev Call.Answer : Call → Type
  | .http _ => HttpResponse
  | .email _ => Unit
  | .whatsApp _ => Unit
  | .findList .. => Option ContactList
  | .contactsById .. => List Contact
  | .contactsMatching .. => List Contact
  | .createContact .. => Contact

/-- Answers to calls, from a state of the world outside. -/
abbrev Outside (κ : Type) := (call : Call) → κ → Except NodeFault call.Answer × κ

def Outside.act (outside : Outside κ) (call : Call) : Act κ NodeFault call.Answer := fun s =>
  let (answer, s) := outside call s
  (answer.mapError .cause, s)

/-- All that nodes may use: the time, calls to the outside, and a place to leave suspended runs. -/
structure Capabilities (σ : Type) where
  now : σ → Instant
  call : (call : Call) → Act σ NodeFault call.Answer
  suspend : (minutes : Float) → Suspension → Act σ NodeFault String

end Flowgraph
