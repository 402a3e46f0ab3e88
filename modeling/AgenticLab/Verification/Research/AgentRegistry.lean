import AgenticLab.Library.Runs
import AgenticLab.Model.Research.AgentRegistry
import AgenticLab.Verification.Research.MessageBus

/-! # The dictionaries of the registry agree -/

namespace AgenticLab.AgentRegistry

open MessageBus (AgentIdentity normalizeIdentifier normalizeIdentifier_of_not_blank)

variable {casefold : Casefold} {ρ : Type} {state : RegistryState casefold ρ}

structure Consistent (state : RegistryState casefold ρ) : Prop where
  nonblank : ∀ key profile, state.profiles.get key = some profile →
    isBlank profile.profileId = false
  agent : ∀ key profile, state.profiles.get key = some profile →
    state.agents.get key = some profile.agent
  index : ∀ profileKey agentKey, state.profileIdToAgentId profileKey = some agentKey ↔
    ∃ profile, state.profiles.get agentKey = some profile ∧ profile.key casefold = profileKey

theorem consistent_empty :
    Consistent (RegistryState.empty casefold : RegistryState casefold ρ) := by
  have hnone : ∀ key,
      (RegistryState.empty casefold : RegistryState casefold ρ).profiles.get key = none :=
    fun _ => rfl
  refine ⟨?_, ?_, ?_⟩
  · intro key profile hprofile
    rw [hnone] at hprofile
    cases hprofile
  · intro key profile hprofile
    rw [hnone] at hprofile
    cases hprofile
  · intro profileKey agentKey
    refine iff_of_false (fun hsome => nomatch hsome) ?_
    rintro ⟨profile, hprofile, _⟩
    rw [hnone] at hprofile
    cases hprofile

/-- A call ends in a consistent state, or it raises and leaves the state alone. -/
def Keeps (state : RegistryState casefold ρ) {α : Type} (result : Except Raised α)
    (after : RegistryState casefold ρ) : Prop :=
  match result with
  | .ok _ => Consistent after
  | .error failure => after = state ∧ ∀ key, failure ≠ keyError key

theorem key_of_normalize {value fieldName key : String}
    (h : normalizeIdentifier casefold value fieldName = .ok key) :
    isBlank value = false ∧ key = normalizeId casefold value := by
  obtain ⟨hblank, hkey⟩ := raiseIf_bind_eq_ok.mp h
  exact ⟨by simpa using hblank, (Except.ok.inj hkey).symm⟩

variable {value fieldName : String}

theorem normalize_ne_keyError {failure : Raised}
    (h : normalizeIdentifier casefold value fieldName = .error failure) (key : String) :
    failure ≠ keyError key := by
  unfold normalizeIdentifier raiseIf at h
  split_ifs at h
  · obtain rfl := Except.error.inj h
    exact fun heq => nomatch congrArg Raised.cls heq
  · cases h

theorem registryError_ne_keyError (message key : String) : registryError message ≠ keyError key :=
  fun heq => nomatch congrArg Raised.cls heq

/-! ## The calls -/

theorem keeps_normalize_bind {β : Type} {f : String → RegistryProgram casefold ρ β}
    (h : isBlank value = false → (f (normalizeId casefold value)).Post state (Keeps state)) :
    ((liftM (normalizeIdentifier casefold value fieldName) : RegistryProgram casefold ρ String) >>=
      f).Post state (Keeps state) := by
  refine Stateful.Post.lift_bind ?_ ?_
  · intro key hkey
    obtain ⟨hblank, rfl⟩ := key_of_normalize hkey
    exact h hblank
  · intro failure hfailure
    exact ⟨rfl, normalize_ne_keyError hfailure⟩

theorem keeps_registryError {α : Type} (message : String) :
    (Stateful.raise (registryError message) : RegistryProgram casefold ρ α).Post state
      (Keeps state) :=
  ⟨rfl, registryError_ne_keyError message⟩

theorem keeps_raiseIf_bind {β : Type} {condition : Prop} [Decidable condition] {message : String}
    {f : Unit → RegistryProgram casefold ρ β} (h : ¬condition → (f ()).Post state (Keeps state)) :
    ((liftM (raiseIf condition (registryError message)) : RegistryProgram casefold ρ Unit) >>=
      f).Post state (Keeps state) := by
  refine Stateful.Post.lift_bind ?_ ?_
  · intro _ hpass
    exact h (raiseIf_eq_ok.mp hpass)
  · intro failure hfailure
    unfold raiseIf at hfailure
    split_ifs at hfailure
    obtain rfl := Except.error.inj hfailure
    exact ⟨rfl, registryError_ne_keyError message⟩

variable {after : RegistryState casefold ρ}

theorem keeps_pure {α : Type} {answer : α} (h : Consistent after) :
    (pure answer : RegistryProgram casefold ρ α).Post after (Keeps state) := h

theorem keeps_set (h : Consistent after) :
    (Stateful.set after).Post state (Keeps state) := h

theorem registerAgent_keeps (h : Consistent state) (agent : AgentIdentity) :
    (registerAgent agent : RegistryProgram casefold ρ Unit).Post state (Keeps state) := by
  refine keeps_normalize_bind fun _ => Stateful.post_get_bind ?_
  split
  · exact keeps_registryError _
  · rename_i hnone
    refine keeps_set ⟨h.nonblank, ?_, h.index⟩
    intro key profile hprofile
    have hagent := h.agent key profile hprofile
    have hne : key ≠ agent.key casefold := by
      rintro rfl
      rw [hnone] at hagent
      cases hagent
    rw [KeyedStore.get_insert, if_neg hne]
    exact hagent

theorem registerProfile_keeps (h : Consistent state) (profile : ResearchAgentCapabilityProfile ρ) :
    (registerProfile profile : RegistryProgram casefold ρ Unit).Post state (Keeps state) := by
  refine keeps_normalize_bind fun hblank => keeps_normalize_bind fun _ =>
    Stateful.post_get_bind ?_
  refine keeps_raiseIf_bind fun hnew => ?_
  split
  · exact keeps_registryError _
  · rename_i registered hregistered
    refine keeps_raiseIf_bind fun hsame => ?_
    obtain rfl := not_not.mp hsame
    split
    · exact keeps_registryError _
    · rename_i hnone
      have hkey : ∀ key stored, state.profiles.get key = some stored →
          key ≠ profile.agentKey casefold := by
        rintro key stored hstored rfl
        rw [hnone] at hstored
        cases hstored
      refine keeps_set ⟨?_, ?_, ?_⟩
      · intro key stored hstored
        rw [KeyedStore.get_insert] at hstored
        split_ifs at hstored
        · obtain rfl := Option.some.inj hstored
          exact hblank
        · exact h.nonblank key stored hstored
      · intro key stored hstored
        rw [KeyedStore.get_insert] at hstored
        split_ifs at hstored with heq
        · obtain rfl := Option.some.inj hstored
          rw [heq]
          exact hregistered
        · exact h.agent key stored hstored
      · intro profileKey agentKey
        simp only [KeyedStore.get_insert, Function.update_apply]
        constructor
        · intro hindex
          split_ifs at hindex with hprofile
          · obtain rfl := Option.some.inj hindex
            exact ⟨profile, if_pos rfl, hprofile.symm⟩
          · obtain ⟨stored, hstored, hstoredKey⟩ := (h.index profileKey agentKey).mp hindex
            exact ⟨stored, (if_neg (hkey agentKey stored hstored)).trans hstored, hstoredKey⟩
        · rintro ⟨stored, hstored, rfl⟩
          split_ifs at hstored with hagent
          · obtain rfl := Option.some.inj hstored
            rw [hagent]
            exact if_pos rfl
          · have hindex := (h.index _ agentKey).mpr ⟨stored, hstored, rfl⟩
            have hne : stored.key casefold ≠ normalizeId casefold profile.profileId := by
              intro heq
              rw [heq] at hindex
              exact hnew (hindex ▸ rfl)
            exact (if_neg hne).trans hindex

theorem Consistent.erase (h : Consistent state) {agentKey : String}
    {stored : ResearchAgentCapabilityProfile ρ} (hstored : state.profiles.get agentKey = some stored)
    {agents : MessageBus.ResearchAgentRegistry casefold}
    (hagents : ∀ key, key ≠ agentKey → agents.get key = state.agents.get key) :
    Consistent { agents := agents
                 profiles := state.profiles.erase agentKey
                 profileIdToAgentId := Function.update state.profileIdToAgentId
                   (stored.key casefold) none : RegistryState casefold ρ } := by
  have hkept : ∀ key profile, (state.profiles.erase agentKey).get key = some profile →
      key ≠ agentKey ∧ state.profiles.get key = some profile := by
    intro key profile hprofile
    rw [KeyedStore.get_erase] at hprofile
    split_ifs at hprofile with hkey
    exact ⟨hkey, hprofile⟩
  refine ⟨?_, ?_, ?_⟩
  · intro key profile hprofile
    exact h.nonblank key profile (hkept key profile hprofile).2
  · intro key profile hprofile
    obtain ⟨hkey, hold⟩ := hkept key profile hprofile
    exact (hagents key hkey).trans (h.agent key profile hold)
  · intro profileKey key
    have hindex := h.index profileKey key
    have hof := (h.index (stored.key casefold) agentKey).mpr ⟨stored, hstored, rfl⟩
    simp only [Function.update_apply, KeyedStore.get_erase]
    constructor
    · intro hsome
      split_ifs at hsome with hprofile
      obtain ⟨profile, hprofileGet, hprofileKey⟩ := hindex.mp hsome
      have hkey : key ≠ agentKey := by
        rintro rfl
        obtain rfl := Option.some.inj (hstored.symm.trans hprofileGet)
        exact hprofile hprofileKey.symm
      exact ⟨profile, (if_neg hkey).trans hprofileGet, hprofileKey⟩
    · rintro ⟨profile, hprofile, hprofileKey⟩
      split_ifs at hprofile with hkey
      have hsome := hindex.mpr ⟨profile, hprofile, hprofileKey⟩
      have hne : profileKey ≠ stored.key casefold := by
        rintro rfl
        exact hkey (Option.some.inj (hsome.symm.trans hof))
      exact (if_neg hne).trans hsome

theorem unregisterAgent_keeps (h : Consistent state) (agentId : String) :
    (unregisterAgent agentId : RegistryProgram casefold ρ AgentIdentity).Post state
      (Keeps state) := by
  refine keeps_normalize_bind fun _ => Stateful.post_get_bind ?_
  split
  · exact keeps_registryError _
  · refine Stateful.post_set_bind ?_
    have hothers : ∀ key, key ≠ normalizeId casefold agentId →
        (state.agents.erase (normalizeId casefold agentId)).get key = state.agents.get key := by
      intro key hkey
      rw [KeyedStore.get_erase, if_neg hkey]
    split
    · rename_i hnone
      refine keeps_pure ⟨h.nonblank, ?_, h.index⟩
      intro key profile hprofile
      have hkey : key ≠ normalizeId casefold agentId := by
        rintro rfl
        rw [hnone] at hprofile
        cases hprofile
      exact (hothers key hkey).trans (h.agent key profile hprofile)
    · rename_i profile hprofile
      refine Stateful.post_set_bind ?_
      rw [normalizeIdentifier_of_not_blank (h.nonblank _ profile hprofile)]
      exact h.erase hprofile hothers

theorem unregisterProfile_keeps (h : Consistent state) (profileId : String) :
    (unregisterProfile profileId :
      RegistryProgram casefold ρ (ResearchAgentCapabilityProfile ρ)).Post state (Keeps state) := by
  refine keeps_normalize_bind fun _ => Stateful.post_get_bind ?_
  split
  · exact keeps_registryError _
  · rename_i agentKey hindex
    obtain ⟨profile, hprofile, hkey⟩ := (h.index _ agentKey).mp hindex
    refine Stateful.post_set_bind ?_
    rw [hprofile, ← hkey]
    exact h.erase hprofile fun _ _ => rfl

theorem perform_keeps (h : Consistent state) (call : RegistryCall ρ) :
    (perform call : RegistryProgram casefold ρ Unit).Post state (Keeps state) := by
  have hdiscard : ∀ {α : Type} {x : RegistryProgram casefold ρ α},
      x.Post state (Keeps state) → (do let _ ← x).Post state (Keeps state) :=
    fun hx => hx.bind (fun _ _ ha => ha) fun _ _ he => he
  cases call with
  | registerAgent agent => exact registerAgent_keeps h agent
  | registerProfile profile => exact registerProfile_keeps h profile
  | unregisterAgent agentId => exact hdiscard (unregisterAgent_keeps h agentId)
  | unregisterProfile profileId => exact hdiscard (unregisterProfile_keeps h profileId)

theorem consistent_step (h : Consistent state) (call : RegistryCall ρ) :
    Consistent (step state call) := by
  have hkeeps := perform_keeps h call
  unfold Stateful.Post Keeps at hkeeps
  rw [step]
  split at hkeeps
  · exact hkeeps
  · rw [hkeeps.1]
    exact h

theorem consistent_run (calls : List (RegistryCall ρ)) :
    Consistent (Runs.run step (RegistryState.empty casefold) calls) :=
  (Runs.reachable_run calls).invariant Consistent consistent_empty fun _ call h _ =>
    consistent_step h call

structure Agrees (state : RegistryState casefold ρ) : Prop where
  registered : ∀ profile ∈ state.profiles.records, profile.agent ∈ state.agents.records
  indexed : Set.BijOn (ResearchAgentCapabilityProfile.key casefold)
    {profile | profile ∈ state.profiles.records}
    {profileKey | (state.profileIdToAgentId profileKey).isSome}
  agentOf : ∀ profile ∈ state.profiles.records,
    state.profileIdToAgentId (profile.key casefold) = some (profile.agent.key casefold)
  single : ∀ first ∈ state.profiles.records, ∀ second ∈ state.profiles.records,
    first.agent.key casefold = second.agent.key casefold → first = second
  found : ∀ profileId, isBlank profileId = false → ∃ found, profile state profileId = .ok found ∧
    ∀ stored, found = some stored ↔
      stored ∈ state.profiles.records ∧ stored.key casefold = normalizeId casefold profileId
  listed : ∀ stored, stored ∈ profiles state ↔ stored ∈ state.profiles.records

theorem Consistent.agrees (h : Consistent state) : Agrees state := by
  have hget : ∀ stored, stored ∈ state.profiles.records →
      state.profiles.get (stored.agentKey casefold) = some stored :=
    fun stored hstored => KeyedStore.get_of_mem hstored
  have hindex : ∀ stored ∈ state.profiles.records,
      state.profileIdToAgentId (stored.key casefold) = some (stored.agentKey casefold) :=
    fun stored hstored => (h.index _ _).mpr ⟨stored, hget stored hstored, rfl⟩
  refine ⟨?_, ⟨?_, ?_, ?_⟩, hindex, ?_, ?_, ?_⟩
  · intro stored hstored
    exact (KeyedStore.get_eq_some.mp (h.agent _ stored (hget stored hstored))).1
  · intro stored hstored
    exact Option.isSome_iff_exists.mpr ⟨_, hindex stored hstored⟩
  · intro first hfirst second hsecond hkey
    have hfirstIndex := hindex first hfirst
    rw [hkey, hindex second hsecond] at hfirstIndex
    have hsame := hget first hfirst
    rw [← Option.some.inj hfirstIndex, hget second hsecond] at hsame
    exact (Option.some.inj hsame).symm
  · intro profileKey hsome
    obtain ⟨agentKey, hagentKey⟩ := Option.isSome_iff_exists.mp hsome
    obtain ⟨stored, hstored, hkey⟩ := (h.index _ _).mp hagentKey
    exact ⟨stored, (KeyedStore.get_eq_some.mp hstored).1, hkey⟩
  · intro first hfirst second hsecond hkey
    exact List.inj_on_of_nodup_map state.profiles.nodup hfirst hsecond hkey
  · intro profileId hblank
    rw [profile, normalizeIdentifier_of_not_blank hblank, ok_bind]
    cases hagentKey : state.profileIdToAgentId (normalizeId casefold profileId) with
    | none =>
      refine ⟨none, rfl, fun stored => iff_of_false nofun ?_⟩
      rintro ⟨hstored, hkey⟩
      have hsome := hindex stored hstored
      rw [hkey, hagentKey] at hsome
      cases hsome
    | some agentKey =>
      obtain ⟨stored, hstored, hkey⟩ := (h.index _ _).mp hagentKey
      simp only [hstored]
      refine ⟨some stored, rfl, fun other => ⟨?_, ?_⟩⟩
      · rintro ⟨⟩
        exact ⟨(KeyedStore.get_eq_some.mp hstored).1, hkey⟩
      · rintro ⟨hother, hotherKey⟩
        have hsome := hindex other hother
        rw [hotherKey, hagentKey] at hsome
        have hsame := hget other hother
        rw [← Option.some.inj hsome, hstored] at hsame
        exact hsame
  · intro stored
    rw [profiles, List.mem_filterMap]
    constructor
    · rintro ⟨agent, _, hstored⟩
      exact (KeyedStore.get_eq_some.mp hstored).1
    · intro hstored
      have hagent := h.agent _ stored (hget stored hstored)
      exact ⟨stored.agent, (KeyedStore.get_eq_some.mp hagent).1, hget stored hstored⟩

/-- Any sequence of calls leaves the dictionaries in agreement, and a call that raises behind it
changes nothing and misses no key. -/
theorem registry_stays_consistent (calls : List (RegistryCall ρ)) :
    Agrees (Runs.run step (RegistryState.empty casefold) calls) ∧
      ∀ call failure,
        (perform call (Runs.run step (RegistryState.empty casefold) calls)).1 = .error failure →
          step (Runs.run step (RegistryState.empty casefold) calls) call =
            Runs.run step (RegistryState.empty casefold) calls ∧
          ∀ key, failure ≠ keyError key := by
  refine ⟨(consistent_run calls).agrees, ?_⟩
  intro call failure hfailure
  have hrun : Consistent (Runs.run step (RegistryState.empty casefold) calls) :=
    consistent_run calls
  have hkeeps := perform_keeps hrun call
  unfold Stateful.Post Keeps at hkeeps
  rw [hfailure] at hkeeps
  exact hkeeps

end AgenticLab.AgentRegistry
