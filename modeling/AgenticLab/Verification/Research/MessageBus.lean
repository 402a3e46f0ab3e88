import AgenticLab.Model.Research.MessageBus

/-! # What a failed publication leaves behind

`publish` stores the message before it makes the deliveries. A delivery that fails leaves the
message, and the deliveries made before it, in the bus. -/

namespace AgenticLab.MessageBus

variable {casefold : Casefold} {μ : Type} {registry : ResearchAgentRegistry casefold}
  {message : ResearchAgentMessage μ} {supplies : ℕ → Supply} {state : BusState μ}

theorem normalizeIdentifier_of_not_blank {value fieldName : String} (h : isBlank value = false) :
    normalizeIdentifier casefold value fieldName = .ok (normalizeId casefold value) := by
  rw [normalizeIdentifier, raiseIf_bind_eq_ok]
  exact ⟨by simp [h], rfl⟩

theorem mapM_agents (senderKey : String) (agents : List AgentIdentity) :
    agents.mapM (fun agent => do
      let agentKey ← normalizeIdentifier casefold agent.agentId "agent_id"
      return (agent.agentId, agentKey != senderKey)) =
    (.ok (agents.map fun agent => (agent.agentId, agent.key casefold != senderKey)) :
      Except Raised (List (String × Bool))) :=
  mapM_eq_ok fun agent _ => by
    rw [normalizeIdentifier_of_not_blank agent.agentId_notBlank]
    rfl

variable {recipients : List String}

theorem isBlank_of_resolveRecipients (h : resolveRecipients registry message = .ok recipients) :
    ∀ recipient ∈ recipients, isBlank recipient = false := by
  unfold resolveRecipients at h
  split at h
  · obtain ⟨senderKey, _, h⟩ := bind_eq_ok.mp h
    rw [mapM_agents, ok_bind] at h
    cases h
    intro recipient hrecipient
    obtain ⟨pair, hpair, rfl⟩ := List.mem_map.mp hrecipient
    obtain ⟨agent, _, rfl⟩ := List.mem_map.mp (List.mem_of_mem_filter hpair)
    exact agent.agentId_notBlank
  · split at h
    · cases h
    · obtain ⟨registered, _, h⟩ := bind_eq_ok.mp h
      obtain ⟨_, h⟩ := raiseIf_bind_eq_ok.mp h
      cases h
      exact List.forall_mem_singleton.mpr registered.agentId_notBlank

/-! ## One delivery -/

variable (casefold) in
/-- What the factory and the clock have to answer for a delivery to be made. -/
structure Serves (deliveries : String → Option ResearchAgentMessageDelivery) (supply : Supply)
    (id : String) (createdAt : Datetime) : Prop where
  deliveryId : supply.deliveryId = .ok id
  now : supply.now = .ok createdAt
  notBlank : isBlank id = false
  fresh : deliveries (normalizeId casefold id) = none

variable (message) in
def pendingDelivery (recipientAgentId id : String) (createdAt : Datetime) :
    ResearchAgentMessageDelivery where
  deliveryId := id
  messageId := message.messageId
  recipientAgentId := recipientAgentId
  status := .pending
  attemptCount := 0
  failureReason := none
  createdAt := createdAt
  deliveredAt := none
  completedAt := none
  metadata := [("transport", "in-memory")]

variable {createdAt : Datetime}

theorem newDelivery_eq {recipientAgentId id : String}
    (hid : isBlank id = false) (hrecipient : isBlank recipientAgentId = false) :
    newDelivery id message.messageId recipientAgentId createdAt =
      .ok (pendingDelivery message recipientAgentId id createdAt) := by
  have htexts : requireTexts [("delivery_id", id), ("message_id", message.messageId),
      ("recipient_agent_id", recipientAgentId)] = .ok () := by
    simp only [requireTexts, raiseIf_bind_eq_ok]
    exact ⟨by simp [hid], by simp [message.messageId_notBlank], by simp [hrecipient], trivial⟩
  rw [newDelivery, htexts]
  rfl

section

variable {recipientAgentId : String} {supply : Supply}

variable (message) in
theorem createDelivery_of_serves {id : String} {createdAt : Datetime}
    (hrecipient : isBlank recipientAgentId = false)
    (h : Serves casefold state.deliveries supply id createdAt) :
    createDelivery casefold message recipientAgentId supply state =
      (.ok (pendingDelivery message recipientAgentId id createdAt),
        state.storeDelivery (normalizeId casefold id) (normalizeId casefold message.messageId)
          (normalizeId casefold recipientAgentId)
          (pendingDelivery message recipientAgentId id createdAt)) := by
  have hfresh : raiseIf (state.deliveries (normalizeId casefold id)).isSome
      ⟨.external "ResearchAgentDeliveryStateError" .runtimeOrValueError,
        "delivery ID has already been generated"⟩ = .ok () :=
    raiseIf_eq_ok.mpr (by simp [h.fresh])
  rw [createDelivery, Stateful.run_lift_bind_of_ok h.deliveryId,
    Stateful.run_lift_bind_of_ok (normalizeIdentifier_of_not_blank h.notBlank),
    Stateful.run_get_bind, Stateful.run_lift_bind_of_ok hfresh, Stateful.run_lift_bind_of_ok h.now,
    Stateful.run_lift_bind_of_ok (newDelivery_eq h.notBlank hrecipient),
    Stateful.run_lift_bind_of_ok (normalizeIdentifier_of_not_blank message.messageId_notBlank),
    Stateful.run_lift_bind_of_ok (normalizeIdentifier_of_not_blank hrecipient),
    Stateful.run_set_bind]
  rfl

variable (message recipientAgentId) in
theorem createDelivery_of_not (h : ¬∃ id createdAt, Serves casefold state.deliveries supply id
    createdAt) : ∃ failure, createDelivery casefold message recipientAgentId supply state =
      (.error failure, state) := by
  rw [createDelivery]
  cases hid : supply.deliveryId with
  | error failure => exact ⟨failure, Stateful.run_lift_bind_of_error rfl⟩
  | ok id =>
    rw [Stateful.run_lift_bind_of_ok rfl]
    cases hblank : isBlank id with
    | true =>
      have hraised : normalizeIdentifier casefold id "delivery_id" =
          .error ⟨.valueError, "delivery_id must not be blank"⟩ := by
        rw [normalizeIdentifier, raiseIf, if_pos hblank]
        rfl
      exact ⟨_, Stateful.run_lift_bind_of_error hraised⟩
    | false =>
      rw [Stateful.run_lift_bind_of_ok (normalizeIdentifier_of_not_blank hblank),
        Stateful.run_get_bind]
      cases hused : state.deliveries (normalizeId casefold id) with
      | some delivery =>
        exact ⟨_, Stateful.run_lift_bind_of_error (by rw [Option.isSome_some, raiseIf, if_pos rfl])⟩
      | none =>
        rw [Stateful.run_lift_bind_of_ok (a := ()) (raiseIf_eq_ok.mpr (by simp))]
        cases hnow : supply.now with
        | error failure => exact ⟨failure, Stateful.run_lift_bind_of_error rfl⟩
        | ok createdAt => exact absurd ⟨id, createdAt, hid, hnow, hblank, hused⟩ h

end

variable (casefold) in
/-- The answers serve `count` recipients from the one with number `first` on. -/
def Supplied (deliveries : String → Option ResearchAgentMessageDelivery) (supplies : ℕ → Supply)
    (first count : ℕ) : Prop :=
  ∀ number, first ≤ number → number < first + count →
    ∃ id createdAt, Serves casefold deliveries (supplies number) id createdAt ∧
      ∀ earlier, first ≤ earlier → earlier < number → ∀ other,
        (supplies earlier).deliveryId = .ok other →
          normalizeId casefold other ≠ normalizeId casefold id

theorem supplied_succ {deliveries : String → Option ResearchAgentMessageDelivery} {first : ℕ}
    (count : ℕ) {id : String} (delivery : ResearchAgentMessageDelivery)
    (h : Serves casefold deliveries (supplies first) id createdAt) :
    Supplied casefold deliveries supplies first (count + 1) ↔
      Supplied casefold (Function.update deliveries (normalizeId casefold id) (some delivery))
        supplies (first + 1) count := by
  constructor
  · intro hall number hfirst hcount
    obtain ⟨id', createdAt', hserves, hdistinct⟩ := hall number (by omega) (by omega)
    have hne := hdistinct first le_rfl (by omega) id h.deliveryId
    refine ⟨id', createdAt', ⟨hserves.deliveryId, hserves.now, hserves.notBlank, ?_⟩,
      fun earlier hearlier => hdistinct earlier (by omega)⟩
    rw [Function.update_of_ne hne.symm]
    exact hserves.fresh
  · intro hlater number hfirst hcount
    rcases Nat.eq_or_lt_of_le hfirst with rfl | hbehind
    · exact ⟨id, createdAt, h, fun earlier hearlier hlt => absurd hlt (by omega)⟩
    · obtain ⟨id', createdAt', hserves, hdistinct⟩ := hlater number hbehind (by omega)
      have hfresh := hserves.fresh
      have hne : normalizeId casefold id' ≠ normalizeId casefold id := by
        intro heq
        rw [heq, Function.update_self] at hfresh
        cases hfresh
      rw [Function.update_of_ne hne] at hfresh
      refine ⟨id', createdAt', ⟨hserves.deliveryId, hserves.now, hserves.notBlank, hfresh⟩,
        fun earlier hearlier hlt other hother => ?_⟩
      rcases Nat.eq_or_lt_of_le hearlier with rfl | hbehind'
      · rw [h.deliveryId, Except.ok.injEq] at hother
        exact hother ▸ hne.symm
      · exact hdistinct earlier hbehind' hlt other hother

variable (message supplies state) in
theorem createDeliveries_cases
    (hrecipients : ∀ recipient ∈ recipients, isBlank recipient = false) (first : ℕ) :
    (Supplied casefold state.deliveries supplies first recipients.length →
      ∃ deliveries after, createDeliveries casefold message supplies first recipients state =
        (.ok deliveries, after)) ∧
    (¬Supplied casefold state.deliveries supplies first recipients.length →
      ∃ failure after, createDeliveries casefold message supplies first recipients state =
        (.error failure, after) ∧ after.messages = state.messages) := by
  induction recipients generalizing first state with
  | nil =>
    refine ⟨fun _ => ⟨[], state, rfl⟩, fun h => absurd ?_ h⟩
    intro number hfirst hcount
    exact absurd hcount (by simpa using hfirst)
  | cons recipient recipients ih =>
    obtain ⟨hrecipient, hlater⟩ := List.forall_mem_cons.mp hrecipients
    by_cases hserves : ∃ id createdAt,
        Serves casefold state.deliveries (supplies first) id createdAt
    · obtain ⟨id, createdAt, hserves⟩ := hserves
      have hcreate := createDelivery_of_serves message hrecipient hserves
      have hstep := supplied_succ recipients.length
        (pendingDelivery message recipient id createdAt) hserves
      obtain ⟨hok, herror⟩ := ih (state.storeDelivery
        (normalizeId casefold id) (normalizeId casefold message.messageId)
        (normalizeId casefold recipient) (pendingDelivery message recipient id createdAt)) hlater
        (first + 1)
      rw [List.length_cons, hstep, createDeliveries, Stateful.run_bind_of_ok hcreate]
      constructor
      · intro hsupplied
        obtain ⟨deliveries, after, hrun⟩ := hok hsupplied
        exact ⟨_, after, Stateful.run_bind_of_ok hrun⟩
      · intro hnot
        obtain ⟨failure, after, hrun, hmessages⟩ := herror hnot
        exact ⟨failure, after, Stateful.run_bind_of_error hrun, hmessages⟩
    · constructor
      · intro hsupplied
        obtain ⟨id, createdAt, hserves', _⟩ := hsupplied first le_rfl (by simp)
        exact absurd ⟨id, createdAt, hserves'⟩ hserves
      · intro _
        obtain ⟨failure, hcreate⟩ := createDelivery_of_not message recipient hserves
        exact ⟨failure, state, Stateful.run_bind_of_error hcreate, rfl⟩

/-- What `publish` has checked when it begins to write. -/
structure Accepts (registry : ResearchAgentRegistry casefold) (message : ResearchAgentMessage μ)
    (state : BusState μ) (recipients : List String) : Prop where
  fresh : state.messages (normalizeId casefold message.messageId) = none
  sender : ∃ agent, requireAgent registry message.sender.agentId = .ok agent
  recipients : resolveRecipients registry message = .ok recipients

theorem publish_of_accepts (h : Accepts registry message state recipients) :
    publish registry message supplies state =
      createDeliveries casefold message supplies 0 recipients
        (state.storeMessage (normalizeId casefold message.messageId) message) := by
  obtain ⟨agent, hagent⟩ := h.sender
  have hfresh : raiseIf (state.messages (normalizeId casefold message.messageId)).isSome
      alreadyExists = .ok () := raiseIf_eq_ok.mpr (by simp [h.fresh])
  rw [publish,
    Stateful.run_lift_bind_of_ok (normalizeIdentifier_of_not_blank message.messageId_notBlank),
    Stateful.run_get_bind, Stateful.run_lift_bind_of_ok hfresh,
    Stateful.run_lift_bind_of_ok hagent, Stateful.run_lift_bind_of_ok h.recipients,
    Stateful.run_set_bind]

variable (supplies) in
theorem publish_of_not (h : ¬∃ recipients, Accepts registry message state recipients) :
    ∃ failure, publish registry message supplies state = (.error failure, state) := by
  rw [publish,
    Stateful.run_lift_bind_of_ok (normalizeIdentifier_of_not_blank message.messageId_notBlank),
    Stateful.run_get_bind]
  cases hused : state.messages (normalizeId casefold message.messageId) with
  | some stored =>
    exact ⟨_, Stateful.run_lift_bind_of_error (by rw [Option.isSome_some, raiseIf, if_pos rfl])⟩
  | none =>
    rw [Stateful.run_lift_bind_of_ok (a := ()) (raiseIf_eq_ok.mpr (by simp))]
    cases hsender : requireAgent registry message.sender.agentId with
    | error failure => exact ⟨failure, Stateful.run_lift_bind_of_error rfl⟩
    | ok agent =>
      rw [Stateful.run_lift_bind_of_ok rfl]
      cases hrecipients : resolveRecipients registry message with
      | error failure => exact ⟨failure, Stateful.run_lift_bind_of_error rfl⟩
      | ok recipients => exact absurd ⟨recipients, hused, ⟨agent, hsender⟩, hrecipients⟩ h

/-- A publication that raises leaves the bus as it was. -/
def Atomic (registry : ResearchAgentRegistry casefold) (message : ResearchAgentMessage μ)
    (supplies : ℕ → Supply) (state : BusState μ) : Prop :=
  ∀ failure after, publish registry message supplies state = (.error failure, after) → after = state

/-- It does so exactly when a message that is accepted gets all its deliveries. -/
theorem publish_atomic_iff : Atomic registry message supplies state ↔
    ∀ recipients, Accepts registry message state recipients →
      Supplied casefold state.deliveries supplies 0 recipients.length := by
  constructor
  · intro hatomic recipients haccepts
    by_contra hnot
    obtain ⟨failure, after, hrun, hmessages⟩ := (createDeliveries_cases
      message supplies (state.storeMessage (normalizeId casefold message.messageId) message)
      (isBlank_of_resolveRecipients haccepts.recipients) 0).2 hnot
    have hsame := hatomic failure after ((publish_of_accepts haccepts).trans hrun)
    have hfresh := haccepts.fresh
    rw [← hsame, hmessages] at hfresh
    simp [BusState.storeMessage] at hfresh
  · intro hsupplied failure after hrun
    by_cases haccepts : ∃ recipients, Accepts registry message state recipients
    · obtain ⟨recipients, haccepts⟩ := haccepts
      obtain ⟨deliveries, after', hok⟩ := (createDeliveries_cases
        message supplies (state.storeMessage (normalizeId casefold message.messageId) message)
        (isBlank_of_resolveRecipients haccepts.recipients) 0).1 (hsupplied recipients haccepts)
      rw [publish_of_accepts haccepts, hok] at hrun
      cases hrun
    · obtain ⟨failure', hfails⟩ := publish_of_not supplies haccepts
      rw [hfails] at hrun
      cases hrun
      rfl

def sampleAgent (agentId : String) (h : isBlank agentId = false) : AgentIdentity where
  agentId := agentId
  role := .sourceReader
  name := "agent"
  description := "agent"
  status := .available
  version := "1.0"
  tags := []
  metadata := ∅
  agentId_notBlank := h

def sampleSender : AgentIdentity := sampleAgent "manager" (by decide +kernel)

def sampleRegistry : ResearchAgentRegistry asciiCasefold :=
  ⟨[sampleSender, sampleAgent "reader" (by decide +kernel),
    sampleAgent "critic" (by decide +kernel)], by decide +kernel⟩

def sampleBroadcast : ResearchAgentMessage Unit where
  messageId := "message"
  sender := sampleSender
  recipient := none
  broadcast := true
  content := ()
  messageId_notBlank := by decide +kernel

def sampleBus : BusState Unit where
  messages _ := none
  deliveries _ := none
  messageDeliveryIds _ := none
  recipientDeliveryIds _ := none
  publishOrder _ := none
  nextPublishOrder := 0

def sampleSupply : Supply := ⟨.ok "delivery", .ok ⟨0, some 0, maxWall_pos⟩⟩

/-- The second delivery is refused, and the message and the first delivery stay. -/
theorem publish_not_atomic : ¬Atomic sampleRegistry sampleBroadcast (fun _ => sampleSupply)
    sampleBus := by
  intro hatomic
  have hfails : (publish sampleRegistry sampleBroadcast (fun _ => sampleSupply)
      sampleBus).1.isOk = false := by
    decide +kernel
  have hstays : ((publish sampleRegistry sampleBroadcast (fun _ => sampleSupply)
      sampleBus).2.messages "message").isSome = true := by
    decide +kernel
  cases hrun : publish sampleRegistry sampleBroadcast (fun _ => sampleSupply) sampleBus with
  | mk result after =>
    rw [hrun] at hfails hstays
    cases result with
    | ok deliveries => cases hfails
    | error failure =>
      rw [hatomic failure after hrun] at hstays
      cases hstays

end AgenticLab.MessageBus
