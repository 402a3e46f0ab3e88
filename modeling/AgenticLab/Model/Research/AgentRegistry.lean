import AgenticLab.Model.Research.MessageBus

/-! # The registry of agents and capability profiles

`app/research/research_agent_registry.py`. -/

namespace AgenticLab.AgentRegistry

open MessageBus (AgentIdentity ResearchAgentRegistry normalizeIdentifier)

variable (casefold : Casefold) {ρ : Type}

/-- A profile. The registry compares and copies its capabilities and permissions as they are. -/
structure ResearchAgentCapabilityProfile (ρ : Type) where
  profileId : String
  agent : AgentIdentity
  grants : ρ

def ResearchAgentCapabilityProfile.agentKey (profile : ResearchAgentCapabilityProfile ρ) : String :=
  profile.agent.key casefold

def ResearchAgentCapabilityProfile.key (profile : ResearchAgentCapabilityProfile ρ) : String :=
  normalizeId casefold profile.profileId

variable (ρ) in
/-- `_agents`, `_profiles` and `_profile_id_to_agent_id` -/
structure RegistryState where
  agents : ResearchAgentRegistry casefold
  profiles : KeyedStore String (ResearchAgentCapabilityProfile ρ)
    (ResearchAgentCapabilityProfile.agentKey casefold)
  profileIdToAgentId : String → Option String

def RegistryState.empty : RegistryState casefold ρ := ⟨.empty, .empty, fun _ => none⟩

abbrev RegistryProgram (casefold : Casefold) (ρ α : Type) :=
  Stateful (RegistryState casefold ρ) Raised α

def registryError (message : String) : Raised := ⟨.researchAgentRegistryError, message⟩

/-- A `dict` has no such key. -/
def keyError (key : String) : Raised := ⟨.external "KeyError" .exception, key⟩

variable {casefold}

def registerAgent (agent : AgentIdentity) : RegistryProgram casefold ρ Unit := do
  let _ ← normalizeIdentifier casefold agent.agentId "agent_id"
  let state ← Stateful.get
  match h : state.agents.get (agent.key casefold) with
  | some _ => Stateful.raise (registryError "agent ID is already registered")
  | none => Stateful.set { state with agents := state.agents.insert agent h }

def registerProfile (profile : ResearchAgentCapabilityProfile ρ) :
    RegistryProgram casefold ρ Unit := do
  let profileKey ← normalizeIdentifier casefold profile.profileId "profile_id"
  let agentKey ← normalizeIdentifier casefold profile.agent.agentId "agent_id"
  let state ← Stateful.get
  raiseIf (state.profileIdToAgentId profileKey).isSome
    (registryError "profile ID is already registered")
  match state.agents.get agentKey with
  | none => Stateful.raise (registryError "profile agent must be registered first")
  | some registeredAgent =>
    raiseIf (profile.agent ≠ registeredAgent)
      (registryError "profile agent must match registered agent")
    match h : state.profiles.get (profile.agentKey casefold) with
    | some _ => Stateful.raise (registryError "agent already has a registered profile")
    | none =>
      Stateful.set { state with
        profiles := state.profiles.insert profile h
        profileIdToAgentId :=
          Function.update state.profileIdToAgentId profileKey (some agentKey) }

def unregisterAgent (agentId : String) : RegistryProgram casefold ρ AgentIdentity := do
  let agentKey ← normalizeIdentifier casefold agentId "agent_id"
  let state ← Stateful.get
  match state.agents.get agentKey with
  | none => Stateful.raise (registryError "agent is not registered")
  | some agent =>
    let withoutAgent := { state with agents := state.agents.erase agentKey }
    Stateful.set withoutAgent
    match state.profiles.get agentKey with
    | none => return agent
    | some profile =>
      let withoutProfile := { withoutAgent with profiles := state.profiles.erase agentKey }
      Stateful.set withoutProfile
      let profileKey ← normalizeIdentifier casefold profile.profileId "profile_id"
      Stateful.set { withoutProfile with
        profileIdToAgentId := Function.update state.profileIdToAgentId profileKey none }
      return agent

def unregisterProfile (profileId : String) :
    RegistryProgram casefold ρ (ResearchAgentCapabilityProfile ρ) := do
  let profileKey ← normalizeIdentifier casefold profileId "profile_id"
  let state ← Stateful.get
  match state.profileIdToAgentId profileKey with
  | none => Stateful.raise (registryError "profile is not registered")
  | some agentKey =>
    let withoutId := { state with
      profileIdToAgentId := Function.update state.profileIdToAgentId profileKey none }
    Stateful.set withoutId
    match state.profiles.get agentKey with
    | none => Stateful.raise (keyError agentKey)
    | some profile =>
      Stateful.set { withoutId with profiles := state.profiles.erase agentKey }
      return profile

def profile (state : RegistryState casefold ρ) (profileId : String) :
    Except Raised (Option (ResearchAgentCapabilityProfile ρ)) := do
  let profileKey ← normalizeIdentifier casefold profileId "profile_id"
  match state.profileIdToAgentId profileKey with
  | none => return none
  | some agentKey =>
    match state.profiles.get agentKey with
    | none => .error (keyError agentKey)
    | some found => return some found

def profiles (state : RegistryState casefold ρ) : List (ResearchAgentCapabilityProfile ρ) :=
  state.agents.records.filterMap fun agent => state.profiles.get (agent.key casefold)

inductive RegistryCall (ρ : Type) where
  | registerAgent (agent : AgentIdentity)
  | registerProfile (profile : ResearchAgentCapabilityProfile ρ)
  | unregisterAgent (agentId : String)
  | unregisterProfile (profileId : String)

def perform : RegistryCall ρ → RegistryProgram casefold ρ Unit
  | .registerAgent agent => registerAgent agent
  | .registerProfile profile => registerProfile profile
  | .unregisterAgent agentId => do let _ ← unregisterAgent agentId
  | .unregisterProfile profileId => do let _ ← unregisterProfile profileId

def step (state : RegistryState casefold ρ) (call : RegistryCall ρ) : RegistryState casefold ρ :=
  (perform call state).2

end AgenticLab.AgentRegistry
