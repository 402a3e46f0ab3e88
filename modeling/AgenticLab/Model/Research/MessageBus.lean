import AgenticLab.Library.KeyedStore
import AgenticLab.Model.Research.ReviewRevisionLoop
import Mathlib.Data.Finmap

/-! # Publication of messages between agents

`publish` of `app/research/in_memory_research_agent_message_bus.py`, with what it uses of the
registry, the messages and the deliveries. A dictionary of the bus is a function of its keys. -/

namespace AgenticLab

deriving instance DecidableEq for ResearchAgentIdentity

namespace MessageBus

/-! ## Agents -/

inductive ResearchAgentStatus where
  | available
  | busy
  | blocked
  | disabled
  deriving DecidableEq, Repr

/-- An identity with all its fields, which a comparison of two identities looks at. -/
structure AgentIdentity extends ResearchAgentIdentity where
  name : String
  description : String
  status : ResearchAgentStatus
  version : String
  tags : List String
  metadata : Finmap fun _ : String => String
  agentId_notBlank : isBlank agentId = false
  deriving DecidableEq

variable (casefold : Casefold)

def AgentIdentity.key (agent : AgentIdentity) : String := normalizeId casefold agent.agentId

/-- `_agents` of the registry, in the order of registration. -/
abbrev ResearchAgentRegistry := KeyedStore String AgentIdentity (AgentIdentity.key casefold)

def normalizeIdentifier (value fieldName : String) : Except Raised String := do
  raiseIf (isBlank value) ⟨.valueError, fieldName ++ " must not be blank"⟩
  return normalizeId casefold value

variable {casefold} in
def requireAgent (registry : ResearchAgentRegistry casefold) (agentId : String) :
    Except Raised AgentIdentity := do
  let agentKey ← normalizeIdentifier casefold agentId "agent_id"
  match registry.get agentKey with
  | some agent => return agent
  | none =>
    .error ⟨.external "ResearchAgentRegistryError" .runtimeOrValueError, "agent is not registered"⟩

/-- What `publish` reads of a message. The other fields are stored with it. -/
structure ResearchAgentMessage (μ : Type) where
  messageId : String
  sender : AgentIdentity
  recipient : Option AgentIdentity
  broadcast : Bool
  content : μ
  messageId_notBlank : isBlank messageId = false

inductive ResearchAgentDeliveryStatus where
  | pending
  | delivered
  | processing
  | acknowledged
  | failed
  | cancelled
  deriving DecidableEq, Repr

structure ResearchAgentMessageDelivery where
  deliveryId : String
  messageId : String
  recipientAgentId : String
  status : ResearchAgentDeliveryStatus
  attemptCount : ℕ
  failureReason : Option String
  createdAt : Datetime
  deliveredAt : Option Datetime
  completedAt : Option Datetime
  metadata : List (String × String)

/-- The constructor, for the values with which `_create_delivery` calls it. -/
def newDelivery (deliveryId messageId recipientAgentId : String) (createdAt : Datetime) :
    Except Raised ResearchAgentMessageDelivery := do
  requireTexts [("delivery_id", deliveryId), ("message_id", messageId),
    ("recipient_agent_id", recipientAgentId)]
  return {
    deliveryId := deliveryId
    messageId := messageId
    recipientAgentId := recipientAgentId
    status := .pending
    attemptCount := 0
    failureReason := none
    createdAt := createdAt
    deliveredAt := none
    completedAt := none
    metadata := [("transport", "in-memory")] }

/-! ## The bus -/

structure BusState (μ : Type) where
  messages : String → Option (ResearchAgentMessage μ)
  deliveries : String → Option ResearchAgentMessageDelivery
  messageDeliveryIds : String → Option (List String)
  recipientDeliveryIds : String → Option (List String)
  publishOrder : String → Option ℕ
  nextPublishOrder : ℕ

/-- What the factory and the clock answer for one recipient. Either may raise. -/
structure Supply where
  deliveryId : Except Raised String
  now : Except Raised Datetime

variable {μ : Type}

abbrev BusProgram (μ α : Type) := Stateful (BusState μ) Raised α

def alreadyExists : Raised :=
  ⟨.external "ResearchAgentMessageAlreadyExistsError" .runtimeOrValueError,
    "message ID has already been published"⟩

variable {casefold} in
def resolveRecipients (registry : ResearchAgentRegistry casefold)
    (message : ResearchAgentMessage μ) : Except Raised (List String) :=
  if message.broadcast then do
    let senderKey ← normalizeIdentifier casefold message.sender.agentId "sender agent_id"
    let kept ← registry.records.mapM fun agent => do
      let agentKey ← normalizeIdentifier casefold agent.agentId "agent_id"
      return (agent.agentId, agentKey != senderKey)
    return (kept.filter Prod.snd).map Prod.fst
  else
    match message.recipient with
    | none => .error ⟨.valueError, "direct message must define recipient"⟩
    | some recipient => do
        let registered ← requireAgent registry recipient.agentId
        raiseIf (registered ≠ recipient)
          ⟨.external "ResearchAgentRegistryError" .runtimeOrValueError,
            "message recipient must match registered agent"⟩
        return [registered.agentId]

/-- `self._deliveries[delivery_key] = delivery`, with the two indexes. -/
def BusState.storeDelivery (state : BusState μ) (deliveryKey messageKey recipientKey : String)
    (delivery : ResearchAgentMessageDelivery) : BusState μ where
  messages := state.messages
  deliveries := Function.update state.deliveries deliveryKey (some delivery)
  messageDeliveryIds := Function.update state.messageDeliveryIds messageKey
    ((state.messageDeliveryIds messageKey).map (· ++ [deliveryKey]))
  recipientDeliveryIds := Function.update state.recipientDeliveryIds recipientKey
    (some ((state.recipientDeliveryIds recipientKey).getD [] ++ [deliveryKey]))
  publishOrder := state.publishOrder
  nextPublishOrder := state.nextPublishOrder

def createDelivery (message : ResearchAgentMessage μ) (recipientAgentId : String)
    (supply : Supply) : BusProgram μ ResearchAgentMessageDelivery := do
  let deliveryId ← supply.deliveryId
  let deliveryKey ← normalizeIdentifier casefold deliveryId "delivery_id"
  let state ← Stateful.get
  raiseIf (state.deliveries deliveryKey).isSome
    ⟨.external "ResearchAgentDeliveryStateError" .runtimeOrValueError,
      "delivery ID has already been generated"⟩
  let now ← supply.now
  let delivery ← newDelivery deliveryId message.messageId recipientAgentId now
  let messageKey ← normalizeIdentifier casefold message.messageId "message_id"
  let recipientKey ← normalizeIdentifier casefold recipientAgentId "recipient_agent_id"
  Stateful.set (state.storeDelivery deliveryKey messageKey recipientKey delivery)
  return delivery

/-- The loop over the recipients. The factory and the clock are called once for each. -/
def createDeliveries (message : ResearchAgentMessage μ) (supplies : ℕ → Supply) :
    ℕ → List String → BusProgram μ (List ResearchAgentMessageDelivery)
  | _, [] => return []
  | number, recipientAgentId :: rest => do
      let delivery ← createDelivery casefold message recipientAgentId (supplies number)
      let others ← createDeliveries message supplies (number + 1) rest
      return delivery :: others

def BusState.storeMessage (state : BusState μ) (messageKey : String)
    (message : ResearchAgentMessage μ) : BusState μ where
  messages := Function.update state.messages messageKey (some message)
  deliveries := state.deliveries
  messageDeliveryIds := Function.update state.messageDeliveryIds messageKey (some [])
  recipientDeliveryIds := state.recipientDeliveryIds
  publishOrder := Function.update state.publishOrder messageKey (some state.nextPublishOrder)
  nextPublishOrder := state.nextPublishOrder + 1

variable {casefold} in
def publish (registry : ResearchAgentRegistry casefold) (message : ResearchAgentMessage μ)
    (supplies : ℕ → Supply) : BusProgram μ (List ResearchAgentMessageDelivery) := do
  let messageKey ← normalizeIdentifier casefold message.messageId "message_id"
  let state ← Stateful.get
  raiseIf (state.messages messageKey).isSome alreadyExists
  let _ ← requireAgent registry message.sender.agentId
  let recipients ← resolveRecipients registry message
  Stateful.set (state.storeMessage messageKey message)
  createDeliveries casefold message supplies 0 recipients

end MessageBus

end AgenticLab
