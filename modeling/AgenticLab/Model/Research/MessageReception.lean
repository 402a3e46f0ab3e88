import AgenticLab.Model.Research.MessageBus
import Mathlib.Data.List.Sort
import Mathlib.Data.Prod.Lex

/-! # Reception and processing of messages

The other operations of `app/research/in_memory_research_agent_message_bus.py`, with a clock that
answers. -/

namespace AgenticLab.MessageBus

/-! ## Contents and statuses -/

inductive ResearchAgentMessagePriority where
  | low
  | normal
  | high
  | critical
  deriving DecidableEq, Repr

def ResearchAgentMessagePriority.value : ResearchAgentMessagePriority → ℤ
  | .low => 10
  | .normal => 20
  | .high => 30
  | .critical => 40

/-- The priority of a message and the fields that the bus does not look at. -/
structure MessageContent (ν : Type) where
  priority : ResearchAgentMessagePriority
  rest : ν

open ResearchAgentDeliveryStatus in
def terminalStatuses : List ResearchAgentDeliveryStatus := [acknowledged, failed, cancelled]

/-- `is_terminal` -/
def ResearchAgentMessageDelivery.terminal (delivery : ResearchAgentMessageDelivery) : Bool :=
  terminalStatuses.contains delivery.status

def messageNotFound : Raised :=
  ⟨.external "ResearchAgentMessageNotFoundError" .runtimeOrValueError, "message was not found"⟩

def deliveryNotFound : Raised :=
  ⟨.external "ResearchAgentDeliveryNotFoundError" .runtimeOrValueError, "delivery was not found"⟩

def deliveryStateFailure (message : String) : Raised :=
  ⟨.external "ResearchAgentDeliveryStateError" .runtimeOrValueError, message⟩

/-- `dictionary[key]` for a key that it may not have. -/
def lookUp {α : Type} (dictionary : String → Option α) (key : String) : Except Raised α :=
  match dictionary key with
  | some value => .ok value
  | none => .error ⟨.external "KeyError" .exception, key⟩

variable (casefold : Casefold) {μ : Type}

/-! ## One delivery -/

def requireMessage (state : BusState μ) (messageId : String) :
    Except Raised (ResearchAgentMessage μ) := do
  let messageKey ← normalizeIdentifier casefold messageId "message_id"
  match state.messages messageKey with
  | some message => return message
  | none => .error messageNotFound

def requireDelivery (state : BusState μ) (deliveryId : String) :
    Except Raised ResearchAgentMessageDelivery := do
  let deliveryKey ← normalizeIdentifier casefold deliveryId "delivery_id"
  match state.deliveries deliveryKey with
  | some delivery => return delivery
  | none => .error deliveryNotFound

variable {casefold} in
def validateDeliveryAccess (registry : ResearchAgentRegistry casefold)
    (delivery : ResearchAgentMessageDelivery) (agentId : String) : Except Raised Unit := do
  let registered ← requireAgent registry agentId
  let requestedAgentKey ← normalizeIdentifier casefold registered.agentId "agent_id"
  let recipientKey ← normalizeIdentifier casefold delivery.recipientAgentId "recipient_agent_id"
  raiseIf (requestedAgentKey ≠ recipientKey)
    ⟨.external "ResearchAgentDeliveryAccessError" .runtimeOrValueError,
      "agent cannot access this delivery"⟩

def BusState.replaceDelivery (state : BusState μ) (deliveryKey : String)
    (delivery : ResearchAgentMessageDelivery) : BusState μ :=
  { state with deliveries := Function.update state.deliveries deliveryKey (some delivery) }

/-- `_store_delivery` -/
def replaceDelivery (delivery : ResearchAgentMessageDelivery) : BusProgram μ Unit := do
  let deliveryKey ← normalizeIdentifier casefold delivery.deliveryId "delivery_id"
  let state ← Stateful.get
  Stateful.set (state.replaceDelivery deliveryKey delivery)

def updateDelivery (deliveryId : String)
    (check : ResearchAgentMessageDelivery → Except Raised Unit)
    (copy : ResearchAgentMessageDelivery → ResearchAgentMessageDelivery) :
    BusProgram μ ResearchAgentMessageDelivery := do
  let state ← Stateful.get
  let delivery ← requireDelivery casefold state deliveryId
  check delivery
  replaceDelivery casefold (copy delivery)
  return copy delivery

section

variable {casefold} (registry : ResearchAgentRegistry casefold)

def checkStatus (agentId : String) (status : ResearchAgentDeliveryStatus) (message : String)
    (delivery : ResearchAgentMessageDelivery) : Except Raised Unit := do
  validateDeliveryAccess registry delivery agentId
  raiseIf (delivery.status ≠ status) (deliveryStateFailure message)

def startProcessing (deliveryId agentId : String) : BusProgram μ ResearchAgentMessageDelivery :=
  updateDelivery casefold deliveryId
    (checkStatus registry agentId .delivered "only delivered message can start processing")
    fun delivery => { delivery with status := .processing }

def acknowledge (deliveryId agentId : String) (now : Datetime) :
    BusProgram μ ResearchAgentMessageDelivery :=
  updateDelivery casefold deliveryId
    (checkStatus registry agentId .processing "only processing delivery can be acknowledged")
    fun delivery => { delivery with status := .acknowledged, completedAt := some now }

def fail (deliveryId agentId reason : String) (now : Datetime) :
    BusProgram μ ResearchAgentMessageDelivery := do
  raiseIf (isBlank reason) ⟨.valueError, "reason must not be blank"⟩
  updateDelivery casefold deliveryId
    (checkStatus registry agentId .processing "only processing delivery can fail")
    fun delivery =>
      { delivery with status := .failed, failureReason := some reason, completedAt := some now }

end

def cancel (deliveryId : String) (now : Datetime) : BusProgram μ ResearchAgentMessageDelivery :=
  updateDelivery casefold deliveryId
    (fun delivery =>
      raiseIf delivery.terminal (deliveryStateFailure "terminal delivery cannot be cancelled"))
    fun delivery => { delivery with status := .cancelled, completedAt := some now }

/-! ## Reception -/

variable {ν : Type}

def deliverySortKey (state : BusState (MessageContent ν))
    (delivery : ResearchAgentMessageDelivery) : Except Raised (ℤ ×ₗ ℕ) := do
  let message ← requireMessage casefold state delivery.messageId
  let messageKey ← normalizeIdentifier casefold message.messageId "message_id"
  let order ← lookUp state.publishOrder messageKey
  return toLex (-message.content.priority.value, order)

structure ResearchAgentReceivedMessage (ν : Type) where
  message : ResearchAgentMessage (MessageContent ν)
  delivery : ResearchAgentMessageDelivery

/-- `validate_received_message` -/
def newReceivedMessage (message : ResearchAgentMessage (MessageContent ν))
    (delivery : ResearchAgentMessageDelivery) :
    Except Raised (ResearchAgentReceivedMessage ν) := do
  raiseIf (normalizeId casefold message.messageId ≠ normalizeId casefold delivery.messageId)
    ⟨.validationError, "delivery message_id must match message"⟩
  raiseIf (message.broadcast = false ∧ message.recipient = none)
    ⟨.validationError, "direct received message must have recipient"⟩
  raiseIf (message.broadcast = false ∧ ∃ recipient ∈ message.recipient,
      normalizeId casefold recipient.agentId ≠ normalizeId casefold delivery.recipientAgentId)
    ⟨.validationError, "delivery recipient must match message recipient"⟩
  return ⟨message, delivery⟩

/-- The copy that `receive` stores. -/
def ResearchAgentMessageDelivery.handedOut (delivery : ResearchAgentMessageDelivery)
    (now : Datetime) : ResearchAgentMessageDelivery :=
  { delivery with
    status := .delivered
    attemptCount := delivery.attemptCount + 1
    deliveredAt := some now }

/-- The loop over the deliveries. The clock is read once for each. -/
def handOut (clock : ℕ → Datetime) :
    ℕ → List ResearchAgentMessageDelivery →
      BusProgram (MessageContent ν) (List (ResearchAgentReceivedMessage ν))
  | _, [] => return []
  | number, delivery :: rest => do
      let delivered := delivery.handedOut (clock number)
      replaceDelivery casefold delivered
      let state ← Stateful.get
      let message ← requireMessage casefold state delivered.messageId
      let received ← newReceivedMessage casefold message delivered
      let others ← handOut clock (number + 1) rest
      return received :: others

def recipientDeliveries (state : BusState μ) (agentKey : String) :
    Except Raised (List ResearchAgentMessageDelivery) :=
  ((state.recipientDeliveryIds agentKey).getD []).mapM (lookUp state.deliveries)

def withSortKeys (state : BusState (MessageContent ν))
    (deliveries : List ResearchAgentMessageDelivery) :
    Except Raised (List ((ℤ ×ₗ ℕ) × ResearchAgentMessageDelivery)) :=
  deliveries.mapM fun delivery => do return (← deliverySortKey casefold state delivery, delivery)

variable {casefold} in
def receive (registry : ResearchAgentRegistry casefold) (agentId : String) (limit : ℤ)
    (clock : ℕ → Datetime) :
    BusProgram (MessageContent ν) (List (ResearchAgentReceivedMessage ν)) := do
  raiseIf (limit < 1) ⟨.valueError, "limit must be greater than zero"⟩
  let registered ← requireAgent registry agentId
  let agentKey ← normalizeIdentifier casefold registered.agentId "agent_id"
  let state ← Stateful.get
  let deliveries ← recipientDeliveries state agentKey
  let keyed ← withSortKeys casefold state (deliveries.filter (·.status = .pending))
  let ordered := keyed.insertionSort fun first second => first.1 ≤ second.1
  handOut casefold clock 0 ((ordered.take limit.toNat).map Prod.snd)

inductive BusCall (ν : Type) where
  | publish (message : ResearchAgentMessage (MessageContent ν)) (supplies : ℕ → Supply)
  | receive (agentId : String) (limit : ℤ) (clock : ℕ → Datetime)
  | startProcessing (deliveryId agentId : String)
  | acknowledge (deliveryId agentId : String) (now : Datetime)
  | fail (deliveryId agentId reason : String) (now : Datetime)
  | cancel (deliveryId : String) (now : Datetime)

inductive BusAnswer (ν : Type) where
  | published (deliveries : List ResearchAgentMessageDelivery)
  | received (messages : List (ResearchAgentReceivedMessage ν))
  | updated (delivery : ResearchAgentMessageDelivery)

variable {casefold} in
def perform (registry : ResearchAgentRegistry casefold) :
    BusCall ν → BusProgram (MessageContent ν) (BusAnswer ν)
  | .publish message supplies => do
      let deliveries ← publish registry message supplies
      return .published deliveries
  | .receive agentId limit clock => do
      let messages ← receive registry agentId limit clock
      return .received messages
  | .startProcessing deliveryId agentId => do
      let delivery ← startProcessing registry deliveryId agentId
      return .updated delivery
  | .acknowledge deliveryId agentId now => do
      let delivery ← acknowledge registry deliveryId agentId now
      return .updated delivery
  | .fail deliveryId agentId reason now => do
      let delivery ← fail registry deliveryId agentId reason now
      return .updated delivery
  | .cancel deliveryId now => do
      let delivery ← cancel casefold deliveryId now
      return .updated delivery

/-- `__init__` -/
def emptyBus : BusState μ where
  messages _ := none
  deliveries _ := none
  messageDeliveryIds _ := none
  recipientDeliveryIds _ := none
  publishOrder _ := none
  nextPublishOrder := 0

end AgenticLab.MessageBus
