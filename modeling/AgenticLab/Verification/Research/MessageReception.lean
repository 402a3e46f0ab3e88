import AgenticLab.Model.Research.MessageReception
import AgenticLab.Verification.Research.MessageBus

/-! # Every delivery is handed out once

The dictionaries of the bus are indexes of two lists, the published messages and the deliveries made
for them, and every call changes these lists in one way. -/

namespace AgenticLab.MessageBus

variable {casefold : Casefold} {μ ν : Type} {registry : ResearchAgentRegistry casefold}

variable (casefold) in
def ResearchAgentMessage.key (message : ResearchAgentMessage μ) : String :=
  normalizeId casefold message.messageId

namespace ResearchAgentMessageDelivery

variable (casefold)

def key (delivery : ResearchAgentMessageDelivery) : String :=
  normalizeId casefold delivery.deliveryId

def messageKey (delivery : ResearchAgentMessageDelivery) : String :=
  normalizeId casefold delivery.messageId

def recipientKey (delivery : ResearchAgentMessageDelivery) : String :=
  normalizeId casefold delivery.recipientAgentId

/-- The fields that no call changes. -/
structure Same (next delivery : ResearchAgentMessageDelivery) : Prop where
  deliveryId : next.deliveryId = delivery.deliveryId
  messageId : next.messageId = delivery.messageId
  recipientAgentId : next.recipientAgentId = delivery.recipientAgentId

variable {casefold} {next delivery : ResearchAgentMessageDelivery}

theorem Same.key (h : Same next delivery) : next.key casefold = delivery.key casefold :=
  congrArg (normalizeId casefold) h.deliveryId

theorem Same.messageKey (h : Same next delivery) :
    next.messageKey casefold = delivery.messageKey casefold :=
  congrArg (normalizeId casefold) h.messageId

theorem Same.recipientKey (h : Same next delivery) :
    next.recipientKey casefold = delivery.recipientKey casefold :=
  congrArg (normalizeId casefold) h.recipientAgentId

end ResearchAgentMessageDelivery

open ResearchAgentMessageDelivery (Same)

def addressees (registry : ResearchAgentRegistry casefold) (message : ResearchAgentMessage μ) :
    List String :=
  if message.broadcast then
    (registry.records.filter fun agent =>
      agent.key casefold != message.sender.key casefold).map (·.agentId)
  else message.recipient.toList.map (·.agentId)

theorem nodup_addressees (registry : ResearchAgentRegistry casefold)
    (message : ResearchAgentMessage μ) :
    ((addressees registry message).map (normalizeId casefold)).Nodup := by
  rw [addressees]
  split
  · rw [List.map_map]
    exact registry.nodup.sublist (List.filter_sublist.map _)
  · cases message.recipient <;> simp

theorem resolveRecipients_eq_ok {message : ResearchAgentMessage μ} {recipients : List String}
    (h : resolveRecipients registry message = .ok recipients) :
    recipients = addressees registry message := by
  unfold resolveRecipients at h
  rw [addressees]
  split at h
  next hbroadcast =>
    rw [normalizeIdentifier_of_not_blank message.sender.agentId_notBlank, ok_bind, mapM_agents,
      ok_bind] at h
    cases h
    rw [if_pos hbroadcast, List.filter_map, List.map_map]
    rfl
  next hbroadcast =>
    rw [if_neg hbroadcast]
    split at h
    next => cases h
    next recipient hrecipient =>
      obtain ⟨registered, _, h⟩ := bind_eq_ok.mp h
      obtain ⟨hsame, h⟩ := raiseIf_bind_eq_ok.mp h
      cases h
      rw [hrecipient, not_not.mp hsame]
      rfl

/-! ## The ledger -/

/-- The messages in the order of their publication, and the deliveries in the order in which they
were made. -/
structure Ledger (casefold : Casefold) (μ : Type) where
  published : KeyedStore String (ResearchAgentMessage μ) (ResearchAgentMessage.key casefold)
  made : KeyedStore String ResearchAgentMessageDelivery (ResearchAgentMessageDelivery.key casefold)

namespace Ledger

variable (ledger : Ledger casefold μ)

def messageKeys : List String := ledger.published.records.map (·.key casefold)

def idsFor (keep : ResearchAgentMessageDelivery → Bool) : List String :=
  (ledger.made.records.filter keep).map (·.key casefold)

end Ledger

structure Represents (state : BusState μ) (ledger : Ledger casefold μ) : Prop where
  messages : state.messages = ledger.published.get
  publishOrder : ∀ key index, state.publishOrder key = some index ↔
    ledger.messageKeys[index]? = some key
  nextPublishOrder : state.nextPublishOrder = ledger.messageKeys.length
  deliveries : state.deliveries = ledger.made.get
  messageDeliveryIds : ∀ message ∈ ledger.published.records,
    state.messageDeliveryIds (message.key casefold) =
      some (ledger.idsFor fun delivery => delivery.messageKey casefold == message.key casefold)
  recipientDeliveryIds : ∀ key, (state.recipientDeliveryIds key).getD [] =
    ledger.idsFor fun delivery => delivery.recipientKey casefold == key
  known : ∀ delivery ∈ ledger.made.records,
    (ledger.published.get (delivery.messageKey casefold)).isSome
  notBlank : ∀ delivery ∈ ledger.made.records,
    isBlank delivery.deliveryId = false ∧ isBlank delivery.messageId = false

theorem represents_emptyBus :
    Represents (emptyBus : BusState μ) (⟨.empty, .empty⟩ : Ledger casefold μ) where
  messages := rfl
  publishOrder := by
    intro key index
    simp [emptyBus, Ledger.messageKeys, KeyedStore.empty]
  nextPublishOrder := rfl
  deliveries := rfl
  messageDeliveryIds := fun _ hmem => absurd hmem List.not_mem_nil
  recipientDeliveryIds := fun _ => rfl
  known := fun _ hmem => absurd hmem List.not_mem_nil
  notBlank := fun _ hmem => absurd hmem List.not_mem_nil

theorem getElem?_concat_eq_some {keys : List String} {last key : String} {index : ℕ} :
    (keys ++ [last])[index]? = some key ↔
      keys[index]? = some key ∨ index = keys.length ∧ last = key := by
  rcases lt_trichotomy index keys.length with hlt | rfl | hgt
  · rw [List.getElem?_append_left hlt]
    exact ⟨.inl, fun h => h.resolve_right fun hlast => absurd hlast.1 hlt.ne⟩
  · simp
  · have hlength : (keys ++ [last]).length ≤ index := by
      rw [List.length_append, List.length_singleton]
      omega
    rw [List.getElem?_eq_none hlength, List.getElem?_eq_none hgt.le]
    simp [hgt.ne']

section

variable {state : BusState μ} {ledger : Ledger casefold μ} {message : ResearchAgentMessage μ}
  {delivery : ResearchAgentMessageDelivery}

theorem Represents.not_mem_messageKeys (hfresh : ledger.published.get (message.key casefold) = none) :
    message.key casefold ∉ ledger.messageKeys := by
  intro hmem
  obtain ⟨other, hother, hkey⟩ := List.mem_map.mp hmem
  exact KeyedStore.get_eq_none.mp hfresh other hother hkey

theorem Represents.storeMessage (h : Represents state ledger)
    (hfresh : ledger.published.get (message.key casefold) = none) :
    Represents (state.storeMessage (message.key casefold) message)
      { ledger with published := ledger.published.insert message hfresh } where
  messages := by
    funext key
    rw [KeyedStore.get_insert, ← h.messages]
    exact Function.update_apply _ _ _ _
  publishOrder := by
    intro key index
    have hkeys : (Ledger.messageKeys
        { ledger with published := ledger.published.insert message hfresh }) =
          ledger.messageKeys ++ [message.key casefold] := List.map_append
    rw [hkeys, getElem?_concat_eq_some, ← h.publishOrder]
    change Function.update state.publishOrder (message.key casefold) (some state.nextPublishOrder)
      key = some index ↔ _
    rw [Function.update_apply]
    split_ifs with hkey
    · have hnone : state.publishOrder key ≠ some index := by
        rw [Ne, h.publishOrder]
        intro hget
        exact Represents.not_mem_messageKeys hfresh (hkey ▸ List.mem_of_getElem? hget)
      rw [Option.some.injEq, h.nextPublishOrder]
      constructor
      · exact fun hindex => .inr ⟨hindex.symm, hkey.symm⟩
      · exact fun hor => (hor.resolve_left hnone).1.symm
    · exact ⟨.inl, fun hor => hor.resolve_right fun hlast => hkey hlast.2.symm⟩
  nextPublishOrder := by
    change state.nextPublishOrder + 1 = _
    rw [h.nextPublishOrder]
    simp [Ledger.messageKeys, KeyedStore.insert]
  deliveries := h.deliveries
  messageDeliveryIds := by
    intro other hother
    change Function.update state.messageDeliveryIds (message.key casefold) (some [])
      (other.key casefold) = _
    rcases (KeyedStore.mem_insert (h := hfresh)).mp hother with hstored | rfl
    · have hne : other.key casefold ≠ message.key casefold :=
        KeyedStore.get_eq_none.mp hfresh other hstored
      rw [Function.update_of_ne hne]
      exact h.messageDeliveryIds other hstored
    · rw [Function.update_self, Ledger.idsFor, List.filter_eq_nil_iff.mpr]
      · rfl
      · intro delivery hdelivery heq
        have hknown := h.known delivery hdelivery
        rw [beq_iff_eq.mp heq, hfresh] at hknown
        cases hknown
  recipientDeliveryIds := h.recipientDeliveryIds
  known := fun delivery hdelivery =>
    KeyedStore.isSome_get_insert hfresh (h.known delivery hdelivery)
  notBlank := h.notBlank

theorem Represents.storeDelivery (h : Represents state ledger)
    (hfresh : ledger.made.get (delivery.key casefold) = none)
    (hknown : (ledger.published.get (delivery.messageKey casefold)).isSome)
    (hblank : isBlank delivery.deliveryId = false ∧ isBlank delivery.messageId = false) :
    Represents (state.storeDelivery (delivery.key casefold) (delivery.messageKey casefold)
        (delivery.recipientKey casefold) delivery)
      { ledger with made := ledger.made.insert delivery hfresh } where
  messages := h.messages
  publishOrder := h.publishOrder
  nextPublishOrder := h.nextPublishOrder
  deliveries := by
    funext key
    rw [KeyedStore.get_insert, ← h.deliveries]
    exact Function.update_apply _ _ _ _
  messageDeliveryIds := by
    intro message hmessage
    have hids := h.messageDeliveryIds message hmessage
    change Function.update state.messageDeliveryIds (delivery.messageKey casefold)
      ((state.messageDeliveryIds (delivery.messageKey casefold)).map (· ++ [delivery.key casefold]))
      (message.key casefold) = _
    rw [Function.update_apply]
    split_ifs with hkey
    · rw [← hkey, hids]
      simp [Ledger.idsFor, KeyedStore.insert, hkey]
    · rw [hids]
      simp [Ledger.idsFor, KeyedStore.insert, Ne.symm hkey]
  recipientDeliveryIds := by
    intro key
    have hids := h.recipientDeliveryIds
    change (Function.update state.recipientDeliveryIds (delivery.recipientKey casefold)
      (some ((state.recipientDeliveryIds (delivery.recipientKey casefold)).getD [] ++
        [delivery.key casefold])) key).getD [] = _
    rw [Function.update_apply]
    split_ifs with hkey
    · rw [Option.getD_some, hids]
      simp [Ledger.idsFor, KeyedStore.insert, hkey]
    · rw [hids]
      simp [Ledger.idsFor, KeyedStore.insert, Ne.symm hkey]
  known := by
    intro other hother
    rcases (KeyedStore.mem_insert (h := hfresh)).mp hother with hstored | rfl
    · exact h.known other hstored
    · exact hknown
  notBlank := by
    intro other hother
    rcases (KeyedStore.mem_insert (h := hfresh)).mp hother with hstored | rfl
    · exact h.notBlank other hstored
    · exact hblank

theorem map_filter_replace {κ ρ α : Type} [DecidableEq κ] {key : ρ → κ}
    {store : KeyedStore κ ρ key} {record stored : ρ} (h : store.get (key record) = some stored)
    {keep : ρ → Bool} {f : ρ → α} (hkeep : keep record = keep stored) (hf : f record = f stored) :
    ((store.replace record).records.filter keep).map f = (store.records.filter keep).map f := by
  obtain ⟨before, after, hrecords, hreplaced⟩ := KeyedStore.exists_records_replace h
  rw [hrecords, hreplaced, List.filter_append, List.filter_append, List.filter_cons,
    List.filter_cons, hkeep]
  split_ifs <;> simp [hf]

theorem Represents.replaceDelivery {copy stored : ResearchAgentMessageDelivery}
    (h : Represents state ledger) (hget : ledger.made.get (copy.key casefold) = some stored)
    (hsame : Same copy stored) :
    Represents (state.replaceDelivery (copy.key casefold) copy)
      { ledger with made := ledger.made.replace copy } where
  messages := h.messages
  publishOrder := h.publishOrder
  nextPublishOrder := h.nextPublishOrder
  deliveries := by
    funext key
    have hne : ledger.made.get (copy.key casefold) ≠ none := by
      rw [hget]
      exact Option.some_ne_none stored
    rw [KeyedStore.get_replace hne, ← h.deliveries]
    exact Function.update_apply _ _ _ _
  messageDeliveryIds := by
    intro message hmessage
    refine (h.messageDeliveryIds message hmessage).trans (congrArg some (Eq.symm ?_))
    exact map_filter_replace hget (by rw [hsame.messageKey]) hsame.key
  recipientDeliveryIds := by
    intro key
    refine (h.recipientDeliveryIds key).trans (Eq.symm ?_)
    exact map_filter_replace hget (by rw [hsame.recipientKey]) hsame.key
  known := by
    intro other hother
    rcases KeyedStore.mem_replace hother with hstored | rfl
    · exact h.known other hstored
    · rw [hsame.messageKey]
      exact h.known stored (KeyedStore.get_eq_some.mp hget).1
  notBlank := by
    intro other hother
    rcases KeyedStore.mem_replace hother with hstored | rfl
    · exact h.notBlank other hstored
    · rw [hsame.deliveryId, hsame.messageId]
      exact h.notBlank stored (KeyedStore.get_eq_some.mp hget).1

end

/-- What is known of the deliveries when `handed` lists those that were handed out, each beside the
key of the agent who got it, and `cancelled` those that were cancelled. -/
structure Kept (registry : ResearchAgentRegistry casefold) (state : BusState μ)
    (handed : List (String × String)) (cancelled : List String) (ledger : Ledger casefold μ) :
    Prop extends Represents state ledger where
  addressed : ∀ message ∈ ledger.published.records,
    (ledger.made.records.filter fun delivery =>
        delivery.messageKey casefold == message.key casefold).map (·.recipientAgentId) =
      addressees registry message
  once : (handed.map Prod.snd).Nodup
  addressee : ∀ pair ∈ handed, ∃ delivery ∈ ledger.made.records,
    delivery.key casefold = pair.2 ∧ delivery.recipientKey casefold = pair.1
  cancelledMade : ∀ key ∈ cancelled, (ledger.made.get key).isSome
  attempts : ∀ delivery ∈ ledger.made.records, delivery.attemptCount =
    if delivery.key casefold ∈ handed.map Prod.snd then 1 else 0
  available : ∀ delivery ∈ ledger.made.records, delivery.status = .pending ↔
    delivery.key casefold ∉ handed.map Prod.snd ∧ delivery.key casefold ∉ cancelled

theorem kept_emptyBus : Kept registry (emptyBus : BusState μ) [] [] ⟨.empty, .empty⟩ where
  toRepresents := represents_emptyBus
  addressed := fun _ hmem => absurd hmem List.not_mem_nil
  once := List.nodup_nil
  addressee := fun _ hmem => absurd hmem List.not_mem_nil
  cancelledMade := fun _ hmem => absurd hmem List.not_mem_nil
  attempts := fun _ hmem => absurd hmem List.not_mem_nil
  available := fun _ hmem => absurd hmem List.not_mem_nil

structure Continues (state next : BusState μ) : Prop where
  messages : ∀ key message, state.messages key = some message → next.messages key = some message
  deliveries : ∀ key delivery, state.deliveries key = some delivery →
    ∃ later, next.deliveries key = some later ∧ Same later delivery ∧
      (delivery.terminal = true → later = delivery)

theorem Continues.refl (state : BusState μ) : Continues state state :=
  ⟨fun _ _ h => h, fun _ delivery h => ⟨delivery, h, ⟨rfl, rfl, rfl⟩, fun _ => rfl⟩⟩

theorem Continues.trans {first second third : BusState μ} (h : Continues first second)
    (h' : Continues second third) : Continues first third := by
  refine ⟨fun key message hkey => h'.messages key message (h.messages key message hkey), ?_⟩
  intro key delivery hkey
  obtain ⟨later, hlater, hsame, hterminal⟩ := h.deliveries key delivery hkey
  obtain ⟨last, hlast, hsame', hterminal'⟩ := h'.deliveries key later hlater
  refine ⟨last, hlast, ⟨hsame'.deliveryId.trans hsame.deliveryId,
    hsame'.messageId.trans hsame.messageId,
    hsame'.recipientAgentId.trans hsame.recipientAgentId⟩, fun hend => ?_⟩
  have hkept := hterminal hend
  rw [← hkept] at hend
  exact (hterminal' hend).trans hkept

/-! ## One delivery changes -/

section

variable {state : BusState μ} {ledger : Ledger casefold μ} {handed : List (String × String)}
  {cancelled : List String} {copy stored : ResearchAgentMessageDelivery}

theorem continues_replaceDelivery {key : String} (hstored : state.deliveries key = some stored)
    (hsame : Same copy stored) (hterminal : stored.terminal = false) :
    Continues state (state.replaceDelivery key copy) := by
  refine ⟨fun _ _ h => h, fun other delivery hother => ?_⟩
  change ∃ later, Function.update state.deliveries key (some copy) other = some later ∧ _
  by_cases hkey : other = key
  · subst hkey
    obtain rfl := Option.some.inj (hstored.symm.trans hother)
    refine ⟨copy, Function.update_self .., hsame, fun hend => ?_⟩
    rw [hterminal] at hend
    cases hend
  · exact ⟨delivery, (Function.update_of_ne hkey _ _).trans hother, ⟨rfl, rfl, rfl⟩, fun _ => rfl⟩

theorem Kept.replaceDelivery {handed' : List (String × String)} {cancelled' : List String}
    (h : Kept registry state handed cancelled ledger)
    (hget : ledger.made.get (copy.key casefold) = some stored) (hsame : Same copy stored)
    (honce : (handed'.map Prod.snd).Nodup)
    (hhanded : ∀ pair ∈ handed', pair ∈ handed ∨
      pair.2 = copy.key casefold ∧ pair.1 = copy.recipientKey casefold)
    (hcancelled : ∀ key ∈ cancelled', key ∈ cancelled ∨ key = copy.key casefold)
    (hothers : ∀ key, key ≠ copy.key casefold →
      (key ∈ handed'.map Prod.snd ↔ key ∈ handed.map Prod.snd) ∧
        (key ∈ cancelled' ↔ key ∈ cancelled))
    (hattempts : copy.attemptCount = if copy.key casefold ∈ handed'.map Prod.snd then 1 else 0)
    (havailable : copy.status = .pending ↔
      copy.key casefold ∉ handed'.map Prod.snd ∧ copy.key casefold ∉ cancelled') :
    Kept registry (state.replaceDelivery (copy.key casefold) copy) handed' cancelled'
      { ledger with made := ledger.made.replace copy } := by
  have hne : ledger.made.get (copy.key casefold) ≠ none := by
    rw [hget]
    exact Option.some_ne_none stored
  refine {
    toRepresents := h.toRepresents.replaceDelivery hget hsame
    addressed := fun message hmessage => ?_
    once := honce
    addressee := fun pair hpair => ?_
    cancelledMade := fun key hkey => ?_
    attempts := fun delivery hdelivery => ?_
    available := fun delivery hdelivery => ?_ }
  · refine (map_filter_replace hget ?_ hsame.recipientAgentId).trans (h.addressed message hmessage)
    rw [hsame.messageKey]
  · rcases hhanded pair hpair with hbefore | ⟨hkey, hrecipient⟩
    · obtain ⟨delivery, hdelivery, hkey, hrecipient⟩ := h.addressee pair hbefore
      by_cases hcopy : delivery.key casefold = copy.key casefold
      · have hstored : delivery = stored := by
          have hfound := KeyedStore.get_of_mem hdelivery
          rw [hcopy, hget] at hfound
          exact (Option.some.inj hfound).symm
        refine ⟨copy, (KeyedStore.mem_replace_iff hne).mpr (.inl rfl), hcopy.symm.trans hkey, ?_⟩
        rw [hsame.recipientKey, ← hstored, hrecipient]
      · exact ⟨delivery, (KeyedStore.mem_replace_iff hne).mpr (.inr ⟨hdelivery, hcopy⟩), hkey,
          hrecipient⟩
    · exact ⟨copy, (KeyedStore.mem_replace_iff hne).mpr (.inl rfl), hkey.symm, hrecipient.symm⟩
  · refine KeyedStore.isSome_get_replace hne ?_
    rcases hcancelled key hkey with hbefore | rfl
    · exact h.cancelledMade key hbefore
    · rw [hget]
      rfl
  · rcases (KeyedStore.mem_replace_iff hne).mp hdelivery with rfl | ⟨hbefore, hkey⟩
    · exact hattempts
    · rw [h.attempts delivery hbefore]
      simp only [(hothers _ hkey).1]
  · rcases (KeyedStore.mem_replace_iff hne).mp hdelivery with rfl | ⟨hbefore, hkey⟩
    · exact havailable
    · rw [h.available delivery hbefore, (hothers _ hkey).1, (hothers _ hkey).2]

theorem Kept.advance (h : Kept registry state handed cancelled ledger)
    (hget : ledger.made.get (copy.key casefold) = some stored) (hsame : Same copy stored)
    (hattempts : copy.attemptCount = stored.attemptCount) (hstored : stored.status ≠ .pending)
    (hcopy : copy.status ≠ .pending) :
    Kept registry (state.replaceDelivery (copy.key casefold) copy) handed cancelled
      { ledger with made := ledger.made.replace copy } := by
  have hmem := (KeyedStore.get_eq_some.mp hget).1
  refine h.replaceDelivery hget hsame h.once (fun _ hpair => .inl hpair) (fun _ hkey => .inl hkey)
    (fun _ _ => ⟨.rfl, .rfl⟩) ?_ ?_
  · rw [hattempts, h.attempts stored hmem, hsame.key]
  · rw [hsame.key, ← h.available stored hmem]
    exact iff_of_false hcopy hstored

theorem Kept.cancelDelivery (h : Kept registry state handed cancelled ledger)
    (hget : ledger.made.get (copy.key casefold) = some stored) (hsame : Same copy stored)
    (hattempts : copy.attemptCount = stored.attemptCount) (hcopy : copy.status ≠ .pending) :
    Kept registry (state.replaceDelivery (copy.key casefold) copy) handed
      (cancelled ++ [copy.key casefold]) { ledger with made := ledger.made.replace copy } := by
  have hmem := (KeyedStore.get_eq_some.mp hget).1
  refine h.replaceDelivery hget hsame h.once (fun _ hpair => .inl hpair)
    (fun key hkey => by simpa using hkey) (fun key hkey => ⟨.rfl, by simp [hkey]⟩) ?_ ?_
  · rw [hattempts, h.attempts stored hmem, hsame.key]
  · exact iff_of_false hcopy fun hnot => hnot.2 (by simp)

theorem Kept.handOutDelivery (h : Kept registry state handed cancelled ledger)
    (hget : ledger.made.get (copy.key casefold) = some stored) (hsame : Same copy stored)
    (hattempts : copy.attemptCount = stored.attemptCount + 1) (hstored : stored.status = .pending)
    (hcopy : copy.status ≠ .pending) :
    Kept registry (state.replaceDelivery (copy.key casefold) copy)
      (handed ++ [(copy.recipientKey casefold, copy.key casefold)]) cancelled
      { ledger with made := ledger.made.replace copy } := by
  have hmem := (KeyedStore.get_eq_some.mp hget).1
  have hfresh := ((h.available stored hmem).mp hstored).1
  have hzero := h.attempts stored hmem
  rw [if_neg hfresh] at hzero
  have hkey : copy.key casefold = stored.key casefold := hsame.key
  rw [← hkey] at hfresh
  refine h.replaceDelivery hget hsame ?_ (fun pair hpair => ?_) (fun _ hkey => .inl hkey)
    (fun key hkey => ⟨by simp [hkey], .rfl⟩) ?_ ?_
  · rw [List.map_append]
    exact h.once.append (List.nodup_singleton _) (by simpa using hfresh)
  · rcases List.mem_append.mp hpair with hbefore | hlast
    · exact .inl hbefore
    · rw [List.mem_singleton.mp hlast]
      exact .inr ⟨rfl, rfl⟩
  · rw [hattempts, hzero, if_pos (by simp)]
  · exact iff_of_false hcopy fun hnot => hnot.1 (by simp)

theorem requireDelivery_eq_ok {deliveryId : String} :
    requireDelivery casefold state deliveryId = .ok stored →
      state.deliveries (normalizeId casefold deliveryId) = some stored := by
  intro h
  obtain ⟨key, hkey, h⟩ := bind_eq_ok.mp h
  obtain ⟨_, hkey⟩ := raiseIf_bind_eq_ok.mp hkey
  cases hkey
  split at h
  next delivery hdelivery =>
    cases h
    exact hdelivery
  next => cases h

theorem updateDelivery_cases (h : Represents state ledger) (deliveryId : String)
    (check : ResearchAgentMessageDelivery → Except Raised Unit)
    (change : ResearchAgentMessageDelivery → ResearchAgentMessageDelivery)
    (hchange : ∀ delivery, Same (change delivery) delivery) :
    (∃ failure, updateDelivery casefold deliveryId check change state = (.error failure, state)) ∨
    ∃ stored, ledger.made.get ((change stored).key casefold) = some stored ∧
      (change stored).key casefold = normalizeId casefold deliveryId ∧ check stored = .ok () ∧
      updateDelivery casefold deliveryId check change state =
        (.ok (change stored),
          state.replaceDelivery ((change stored).key casefold) (change stored)) := by
  rw [updateDelivery, Stateful.run_get_bind]
  cases hrequire : requireDelivery casefold state deliveryId with
  | error failure => exact .inl ⟨failure, Stateful.run_lift_bind_of_error rfl⟩
  | ok stored =>
    rw [Stateful.run_lift_bind_of_ok rfl]
    cases hcheck : check stored with
    | error failure => exact .inl ⟨failure, Stateful.run_lift_bind_of_error rfl⟩
    | ok _ =>
      have hget := requireDelivery_eq_ok hrequire
      rw [h.deliveries] at hget
      obtain ⟨hmem, hkey⟩ := KeyedStore.get_eq_some.mp hget
      have hkeys : (change stored).key casefold = stored.key casefold := (hchange stored).key
      have hblank := (h.notBlank stored hmem).1
      rw [← (hchange stored).deliveryId] at hblank
      refine .inr ⟨stored, ?_, hkeys.trans hkey, hcheck, ?_⟩
      · rw [hkeys, hkey]
        exact hget
      · rw [Stateful.run_lift_bind_of_ok rfl]
        refine Stateful.run_bind_of_ok (t := state.replaceDelivery
          ((change stored).key casefold) (change stored)) (a := ()) ?_
        rw [replaceDelivery, Stateful.run_lift_bind_of_ok (normalizeIdentifier_of_not_blank hblank)]
        rfl

end

section

variable {state : BusState μ} {ledger : Ledger casefold μ} {message : ResearchAgentMessage μ}
  {supplies : ℕ → Supply} {recipients : List String}

theorem createDeliveries_represents
    (hrecipients : ∀ recipient ∈ recipients, isBlank recipient = false)
    (hmessage : (ledger.published.get (message.key casefold)).isSome) (h : Represents state ledger)
    {first : ℕ} (hsupplied : Supplied casefold state.deliveries supplies first recipients.length) :
    ∃ deliveries after made, createDeliveries casefold message supplies first recipients state =
        (.ok deliveries, after) ∧ Represents after { ledger with made := made } ∧
      Continues state after ∧ ∃ new, made.records = ledger.made.records ++ new ∧
        new.map (·.recipientAgentId) = recipients ∧ ∀ delivery ∈ new,
          delivery.messageId = message.messageId ∧ delivery.status = .pending ∧
            delivery.attemptCount = 0 := by
  induction recipients generalizing first state ledger with
  | nil =>
    exact ⟨[], state, ledger.made, rfl, h, .refl state, [], by simp, rfl, by simp⟩
  | cons recipient recipients ih =>
    obtain ⟨hrecipient, hlater⟩ := List.forall_mem_cons.mp hrecipients
    obtain ⟨id, createdAt, hserves, _⟩ := hsupplied first le_rfl (by simp)
    have hcreate := createDelivery_of_serves message hrecipient hserves
    rw [List.length_cons, supplied_succ recipients.length
      (pendingDelivery message recipient id createdAt) hserves] at hsupplied
    have hfresh : ledger.made.get ((pendingDelivery message recipient id createdAt).key
        casefold) = none := by
      rw [← h.deliveries]
      exact hserves.fresh
    have hstored := h.storeDelivery hfresh hmessage ⟨hserves.notBlank, message.messageId_notBlank⟩
    obtain ⟨deliveries, after, made, hrun, hafter, hcontinues, new, hrecords, hmap, hnew⟩ :=
      @ih (state.storeDelivery _ _ _ (pendingDelivery message recipient id createdAt))
        { ledger with made := ledger.made.insert _ hfresh } hlater hmessage hstored _ hsupplied
    have hcontinues' : Continues state (state.storeDelivery (normalizeId casefold id)
        (normalizeId casefold message.messageId) (normalizeId casefold recipient)
        (pendingDelivery message recipient id createdAt)) := by
      refine ⟨fun _ _ hkey => hkey, fun key delivery hkey =>
        ⟨delivery, ?_, ⟨rfl, rfl, rfl⟩, fun _ => rfl⟩⟩
      have hne : key ≠ normalizeId casefold id := by
        rintro rfl
        rw [hserves.fresh] at hkey
        cases hkey
      exact (Function.update_of_ne hne _ _).trans hkey
    refine ⟨pendingDelivery message recipient id createdAt :: deliveries, after, made, ?_,
      hafter, hcontinues'.trans hcontinues,
      pendingDelivery message recipient id createdAt :: new, ?_, ?_, ?_⟩
    · rw [createDeliveries, Stateful.run_bind_of_ok hcreate]
      exact Stateful.run_bind_of_ok hrun
    · rw [hrecords]
      simp [KeyedStore.insert]
    · rw [List.map_cons, hmap]
      rfl
    · exact List.forall_mem_cons.mpr ⟨⟨rfl, rfl, rfl⟩, hnew⟩

theorem publish_kept {handed : List (String × String)} {cancelled : List String}
    (h : Kept registry state handed cancelled ledger)
    (haccepts : Accepts registry message state recipients)
    (hsupplied : Supplied casefold state.deliveries supplies 0 recipients.length) :
    ∃ deliveries after ledger', publish registry message supplies state =
        (.ok deliveries, after) ∧ Kept registry after handed cancelled ledger' ∧
      ledger'.messageKeys = ledger.messageKeys ++ [message.key casefold] ∧
      Continues state after := by
  have hfresh : ledger.published.get (message.key casefold) = none := by
    rw [← h.messages]
    exact haccepts.fresh
  have hstored := h.toRepresents.storeMessage hfresh
  have hmessage : ((ledger.published.insert message hfresh).get (message.key casefold)).isSome := by
    rw [KeyedStore.get_insert, if_pos rfl]
    rfl
  obtain ⟨deliveries, after, made, hrun, hafter, hcontinues, new, hrecords, hmap, hnew⟩ :=
    createDeliveries_represents (isBlank_of_resolveRecipients haccepts.recipients) hmessage hstored
      hsupplied
  have hnodup := made.nodup
  rw [hrecords, List.map_append, List.nodup_append] at hnodup
  have hunused : ∀ delivery ∈ new, ledger.made.get (delivery.key casefold) = none := by
    intro delivery hdelivery
    rw [KeyedStore.get_eq_none]
    intro other hother heq
    exact hnodup.2.2 _ (List.mem_map_of_mem hother) _ (List.mem_map_of_mem hdelivery) heq
  have hstart : Continues state (state.storeMessage (message.key casefold) message) := by
    refine ⟨fun key other hkey => ?_, fun key delivery hkey =>
      ⟨delivery, hkey, ⟨rfl, rfl, rfl⟩, fun _ => rfl⟩⟩
    have hne : key ≠ message.key casefold := by
      rintro rfl
      rw [h.messages, hfresh] at hkey
      cases hkey
    exact (Function.update_of_ne hne _ _).trans hkey
  refine ⟨deliveries, after, ⟨ledger.published.insert message hfresh, made⟩,
    (publish_of_accepts haccepts).trans hrun, ?_, List.map_append, hstart.trans hcontinues⟩
  refine {
    toRepresents := hafter
    addressed := fun other hother => ?_
    once := h.once
    addressee := fun pair hpair => ?_
    cancelledMade := fun key hkey => ?_
    attempts := fun delivery hdelivery => ?_
    available := fun delivery hdelivery => ?_ }
  · change (made.records.filter _).map _ = _
    rw [hrecords, List.filter_append, List.map_append]
    rcases (KeyedStore.mem_insert (h := hfresh)).mp hother with hbefore | rfl
    · have hnone : new.filter (fun delivery =>
          delivery.messageKey casefold == other.key casefold) = [] := by
        refine List.filter_eq_nil_iff.mpr fun delivery hdelivery heq => ?_
        have hkey : message.key casefold = other.key casefold := by
          rw [← beq_iff_eq.mp heq, ResearchAgentMessageDelivery.messageKey,
            (hnew delivery hdelivery).1]
          rfl
        exact KeyedStore.get_eq_none.mp hfresh other hbefore hkey.symm
      rw [hnone, List.map_nil, List.append_nil]
      exact h.addressed other hbefore
    · have hnone : ledger.made.records.filter (fun delivery =>
          delivery.messageKey casefold == other.key casefold) = [] := by
        refine List.filter_eq_nil_iff.mpr fun delivery hdelivery heq => ?_
        have hknown := h.known delivery hdelivery
        rw [beq_iff_eq.mp heq, hfresh] at hknown
        cases hknown
      have hall : new.filter (fun delivery =>
          delivery.messageKey casefold == other.key casefold) = new := by
        refine List.filter_eq_self.mpr fun delivery hdelivery => beq_iff_eq.mpr ?_
        rw [ResearchAgentMessageDelivery.messageKey, (hnew delivery hdelivery).1]
        rfl
      rw [hnone, hall, List.map_nil, List.nil_append, hmap]
      exact resolveRecipients_eq_ok haccepts.recipients
  · obtain ⟨delivery, hdelivery, hpair⟩ := h.addressee pair hpair
    refine ⟨delivery, ?_, hpair⟩
    change delivery ∈ made.records
    rw [hrecords]
    exact List.mem_append_left new hdelivery
  · obtain ⟨delivery, hdelivery⟩ := Option.isSome_iff_exists.mp (h.cancelledMade key hkey)
    obtain ⟨hmem, hsame⟩ := KeyedStore.get_eq_some.mp hdelivery
    have hfound : made.get key = some delivery := by
      rw [KeyedStore.get_eq_some, hrecords]
      exact ⟨List.mem_append_left new hmem, hsame⟩
    exact Option.isSome_of_eq_some hfound
  · change delivery ∈ made.records at hdelivery
    rw [hrecords] at hdelivery
    rcases List.mem_append.mp hdelivery with hbefore | hlast
    · exact h.attempts delivery hbefore
    · rw [(hnew delivery hlast).2.2, if_neg]
      intro hmem
      obtain ⟨pair, hpair, hkey⟩ := List.mem_map.mp hmem
      obtain ⟨other, hother, hsame, _⟩ := h.addressee pair hpair
      exact KeyedStore.get_eq_none.mp (hunused delivery hlast) other hother (hsame.trans hkey)
  · change delivery ∈ made.records at hdelivery
    rw [hrecords] at hdelivery
    rcases List.mem_append.mp hdelivery with hbefore | hlast
    · exact h.available delivery hbefore
    · refine iff_of_true (hnew delivery hlast).2.1 ⟨fun hmem => ?_, fun hmem => ?_⟩
      · obtain ⟨pair, hpair, hkey⟩ := List.mem_map.mp hmem
        obtain ⟨other, hother, hsame, _⟩ := h.addressee pair hpair
        exact KeyedStore.get_eq_none.mp (hunused delivery hlast) other hother (hsame.trans hkey)
      · have hsome := h.cancelledMade _ hmem
        rw [hunused delivery hlast] at hsome
        cases hsome

end

/-! ## Reception -/

section

variable {state : BusState (MessageContent ν)} {ledger : Ledger casefold (MessageContent ν)}
  {handed : List (String × String)} {cancelled : List String} {agentKey : String}
  {delivery : ResearchAgentMessageDelivery}

theorem requireMessage_of_known
    (h : Represents state ledger) (hdelivery : delivery ∈ ledger.made.records) :
    ∃ message ∈ ledger.published.records, message.key casefold = delivery.messageKey casefold ∧
      requireMessage casefold state delivery.messageId = .ok message := by
  obtain ⟨message, hmessage⟩ := Option.isSome_iff_exists.mp (h.known delivery hdelivery)
  obtain ⟨hmem, hkey⟩ := KeyedStore.get_eq_some.mp hmessage
  refine ⟨message, hmem, hkey, ?_⟩
  have hstored : state.messages (normalizeId casefold delivery.messageId) = some message := by
    rw [h.messages]
    exact hmessage
  rw [requireMessage, normalizeIdentifier_of_not_blank (h.notBlank delivery hdelivery).2, ok_bind]
  simp only [hstored]
  rfl

variable (casefold state) in
/-- The key by which `receive` sorts. -/
def sortKey (delivery : ResearchAgentMessageDelivery) : ℤ ×ₗ ℕ :=
  match state.messages (delivery.messageKey casefold),
    state.publishOrder (delivery.messageKey casefold) with
  | some message, some order => toLex (-message.content.priority.value, order)
  | _, _ => toLex (0, 0)

theorem deliverySortKey_eq
    (h : Represents state ledger) (hdelivery : delivery ∈ ledger.made.records) :
    deliverySortKey casefold state delivery = .ok (sortKey casefold state delivery) := by
  obtain ⟨message, hmem, hkey, hrequire⟩ := requireMessage_of_known h hdelivery
  have hmessage : state.messages (delivery.messageKey casefold) = some message := by
    rw [h.messages, ← hkey]
    exact KeyedStore.get_of_mem hmem
  obtain ⟨index, hindex⟩ := List.getElem?_of_mem (List.mem_map_of_mem hmem)
  have horder : state.publishOrder (message.key casefold) = some index :=
    (h.publishOrder _ _).mpr hindex
  have hnormalize : normalizeIdentifier casefold message.messageId "message_id" =
      .ok (message.key casefold) := normalizeIdentifier_of_not_blank message.messageId_notBlank
  rw [deliverySortKey, hrequire, ok_bind, hnormalize, ok_bind, lookUp, horder, sortKey, hmessage,
    ← hkey, horder]
  rfl

variable (casefold state agentKey) in
def IsPending (delivery : ResearchAgentMessageDelivery) : Prop :=
  state.deliveries (delivery.key casefold) = some delivery ∧ delivery.status = .pending ∧
    delivery.recipientKey casefold = agentKey

theorem handOut_kept (clock : ℕ → Datetime) {deliveries : List ResearchAgentMessageDelivery}
    (h : Kept registry state handed cancelled ledger)
    (hpending : ∀ delivery ∈ deliveries, IsPending casefold state agentKey delivery)
    (hnodup : (deliveries.map (·.key casefold)).Nodup) (number : ℕ) :
    ∃ received after ledger', handOut casefold clock number deliveries state =
        (.ok received, after) ∧
      Kept registry after (handed ++ deliveries.map fun delivery =>
        (agentKey, delivery.key casefold)) cancelled ledger' ∧
      ledger'.published = ledger.published ∧ Continues state after ∧
      received.map (·.delivery) = (deliveries.zipIdx number).map
        (fun (delivery, index) => delivery.handedOut (clock index)) ∧
      ∀ answer ∈ received,
        state.messages (answer.delivery.messageKey casefold) = some answer.message := by
  induction deliveries generalizing state ledger handed number with
  | nil =>
    refine ⟨[], state, ledger, rfl, ?_, rfl, .refl state, rfl, by simp⟩
    rwa [List.map_nil, List.append_nil]
  | cons delivery deliveries ih =>
    obtain ⟨⟨hstored, hstatus, hrecipient⟩, hothers⟩ := List.forall_mem_cons.mp hpending
    obtain ⟨hfresh, hnodup⟩ := List.nodup_cons.mp hnodup
    have hsame : Same (delivery.handedOut (clock number)) delivery := ⟨rfl, rfl, rfl⟩
    have hget : ledger.made.get ((delivery.handedOut (clock number)).key casefold) =
        some delivery := by
      rw [← h.deliveries]
      exact hstored
    have hmem := (KeyedStore.get_eq_some.mp hget).1
    have hkept := h.handOutDelivery hget hsame rfl hstatus
      (by simp [ResearchAgentMessageDelivery.handedOut])
    rw [hsame.recipientKey, hrecipient] at hkept
    have hterminal : delivery.terminal = false := by
      rw [ResearchAgentMessageDelivery.terminal, hstatus]
      rfl
    have hcontinues := continues_replaceDelivery hstored hsame hterminal
    have hafter : ∀ other ∈ deliveries, IsPending casefold (state.replaceDelivery
        ((delivery.handedOut (clock number)).key casefold) (delivery.handedOut (clock number)))
        agentKey other := by
      intro other hother
      obtain ⟨hkey, hrest⟩ := hothers other hother
      have hne : other.key casefold ≠ delivery.key casefold := by
        intro heq
        exact hfresh (List.mem_map.mpr ⟨other, hother, heq⟩)
      exact ⟨(Function.update_of_ne hne _ _).trans hkey, hrest⟩
    obtain ⟨received, after, ledger', hrun, hkept', hpublished, hcontinues', hdeliveries,
      hmessages⟩ := ih hkept hafter hnodup (number + 1)
    obtain ⟨message, hmessage, hkey, hrequire⟩ := requireMessage_of_known h.toRepresents hmem
    have hfound : state.messages (delivery.messageKey casefold) = some message := by
      rw [h.messages, ← hkey]
      exact KeyedStore.get_of_mem hmessage
    have hreplace : MessageBus.replaceDelivery casefold (delivery.handedOut (clock number)) state =
        (.ok (), state.replaceDelivery ((delivery.handedOut (clock number)).key casefold)
          (delivery.handedOut (clock number))) := by
      have hblank : isBlank (delivery.handedOut (clock number)).deliveryId = false :=
        (h.notBlank delivery hmem).1
      rw [MessageBus.replaceDelivery,
        Stateful.run_lift_bind_of_ok (normalizeIdentifier_of_not_blank hblank)]
      rfl
    have haddressed : delivery.recipientAgentId ∈ addressees registry message := by
      rw [← h.addressed message hmessage]
      exact List.mem_map_of_mem (List.mem_filter.mpr ⟨hmem, beq_iff_eq.mpr hkey.symm⟩)
    have hanswer : newReceivedMessage casefold message (delivery.handedOut (clock number)) =
        .ok ⟨message, delivery.handedOut (clock number)⟩ := by
      rw [newReceivedMessage, raiseIf_bind_eq_ok, raiseIf_bind_eq_ok, raiseIf_bind_eq_ok]
      refine ⟨not_not.mpr hkey, ?_, ?_, rfl⟩
      · rintro ⟨hdirect, hnone⟩
        rw [addressees, hdirect, hnone] at haddressed
        simp at haddressed
      · rintro ⟨hdirect, recipient, hrecipient', hne⟩
        rw [addressees, hdirect, hrecipient'] at haddressed
        have hid : delivery.recipientAgentId = recipient.agentId := by simpa using haddressed
        exact hne (congrArg (normalizeId casefold) hid.symm)
    refine ⟨⟨message, delivery.handedOut (clock number)⟩ :: received, after, ledger', ?_, ?_,
      hpublished, hcontinues.trans hcontinues', ?_, ?_⟩
    · have hrequire' : requireMessage casefold (state.replaceDelivery
          ((delivery.handedOut (clock number)).key casefold) (delivery.handedOut (clock number)))
          (delivery.handedOut (clock number)).messageId = .ok message := hrequire
      rw [handOut, Stateful.run_bind_of_ok hreplace, Stateful.run_get_bind,
        Stateful.run_lift_bind_of_ok hrequire', Stateful.run_lift_bind_of_ok hanswer,
        Stateful.run_bind_of_ok hrun]
      rfl
    · rw [List.append_assoc] at hkept'
      exact hkept'
    · rw [List.map_cons, hdeliveries, List.zipIdx_cons, List.map_cons]
    · exact List.forall_mem_cons.mpr ⟨hfound, hmessages⟩

end

section

variable {state : BusState (MessageContent ν)} {ledger : Ledger casefold (MessageContent ν)}
  {handed : List (String × String)} {cancelled : List String}

variable (casefold state) in
/-- The first messages, no more than `limit`, of the agent's pending deliveries by descending
priority and in the order of publication. -/
structure InOrder (agentKey : String) (limit : ℤ) (clock : ℕ → Datetime)
    (received : List (ResearchAgentReceivedMessage ν)) : Prop where
  deliveries : ∃ pending : List ResearchAgentMessageDelivery, pending.Nodup ∧
    (∀ delivery, delivery ∈ pending ↔ IsPending casefold state agentKey delivery) ∧
    pending.Pairwise (fun first second => sortKey casefold state first ≤
      sortKey casefold state second) ∧
    received.map (·.delivery) = ((pending.take limit.toNat).zipIdx).map
      fun (delivery, index) => delivery.handedOut (clock index)
  messages : ∀ answer ∈ received,
    state.messages (answer.delivery.messageKey casefold) = some answer.message

theorem lookUp_deliveries (h : Represents state ledger) (agentKey : String) :
    recipientDeliveries state agentKey = .ok (ledger.made.records.filter fun delivery =>
      delivery.recipientKey casefold == agentKey) := by
  rw [recipientDeliveries, h.recipientDeliveryIds, Ledger.idsFor]
  rw [List.mapM_map]
  refine (mapM_eq_ok fun delivery hdelivery => ?_).trans (congrArg Except.ok (List.map_id _))
  have hget : state.deliveries (delivery.key casefold) = some delivery := by
    rw [h.deliveries]
    exact KeyedStore.get_of_mem (List.mem_filter.mp hdelivery).1
  rw [Function.comp_apply, lookUp, hget]
  rfl

variable {agent : AgentIdentity}

theorem requireAgent_key {agentId : String} (h : requireAgent registry agentId = .ok agent) :
    agent.key casefold = normalizeId casefold agentId := by
  obtain ⟨key, hkey, h⟩ := bind_eq_ok.mp h
  obtain ⟨_, hkey⟩ := raiseIf_bind_eq_ok.mp hkey
  cases hkey
  split at h
  next found hfound =>
    cases h
    exact KeyedStore.key_of_get hfound
  next => cases h

theorem receive_kept {agentId : String} {limit : ℤ}
    (clock : ℕ → Datetime) (h : Kept registry state handed cancelled ledger)
    (hagent : requireAgent registry agentId = .ok agent) (hlimit : 1 ≤ limit) :
    ∃ received after ledger', receive registry agentId limit clock state = (.ok received, after) ∧
      Kept registry after (handed ++ received.map fun answer =>
        (normalizeId casefold agentId, answer.delivery.key casefold)) cancelled ledger' ∧
      ledger'.published = ledger.published ∧ Continues state after ∧
      InOrder casefold state (normalizeId casefold agentId) limit clock received := by
  have hkey := requireAgent_key hagent
  have hnormalize : normalizeIdentifier casefold agent.agentId "agent_id" =
      .ok (normalizeId casefold agentId) := by
    rw [normalizeIdentifier_of_not_blank agent.agentId_notBlank]
    exact congrArg Except.ok hkey
  have hpending : ∀ delivery, delivery ∈ (ledger.made.records.filter fun delivery =>
      delivery.recipientKey casefold == normalizeId casefold agentId).filter (·.status = .pending) ↔
      IsPending casefold state (normalizeId casefold agentId) delivery := by
    intro delivery
    rw [List.mem_filter, List.mem_filter, IsPending, h.deliveries, KeyedStore.get_eq_some,
      beq_iff_eq, decide_eq_true_eq]
    constructor
    · exact fun ⟨⟨hmem, hrecipient⟩, hstatus⟩ => ⟨⟨hmem, rfl⟩, hstatus, hrecipient⟩
    · exact fun ⟨⟨hmem, _⟩, hstatus, hrecipient⟩ => ⟨⟨hmem, hrecipient⟩, hstatus⟩
  have hnodup : (((ledger.made.records.filter fun delivery =>
      delivery.recipientKey casefold == normalizeId casefold agentId).filter
        (·.status = .pending)).map (·.key casefold)).Nodup :=
    ledger.made.nodup.sublist ((List.filter_sublist.trans List.filter_sublist).map _)
  generalize hlist : (ledger.made.records.filter fun delivery =>
    delivery.recipientKey casefold == normalizeId casefold agentId).filter
      (·.status = .pending) = pending at hpending hnodup
  have hkeyed : withSortKeys casefold state pending =
      .ok (pending.map fun delivery => (sortKey casefold state delivery, delivery)) := by
    have hone : ∀ delivery ∈ pending, (do
        return (← deliverySortKey casefold state delivery, delivery)) =
        (.ok (sortKey casefold state delivery, delivery) : Except Raised _) := by
      intro delivery hdelivery
      have hmem := ((hpending delivery).mp hdelivery).1
      rw [h.deliveries] at hmem
      rw [deliverySortKey_eq h.toRepresents (KeyedStore.get_eq_some.mp hmem).1]
      rfl
    exact mapM_eq_ok hone
  -- the pairs of keys and deliveries in the order of the keys
  have hordered := List.perm_insertionSort (fun first second : (ℤ ×ₗ ℕ) × _ =>
    first.1 ≤ second.1) (pending.map fun delivery => (sortKey casefold state delivery, delivery))
  have htotal : Std.Total fun first second : (ℤ ×ₗ ℕ) × ResearchAgentMessageDelivery =>
      first.1 ≤ second.1 := ⟨fun first second => le_total first.1 second.1⟩
  have htrans : IsTrans ((ℤ ×ₗ ℕ) × ResearchAgentMessageDelivery) fun first second =>
      first.1 ≤ second.1 := ⟨fun _ _ _ => le_trans⟩
  have hsorted := List.pairwise_insertionSort (fun first second : (ℤ ×ₗ ℕ) × _ =>
    first.1 ≤ second.1) (pending.map fun delivery => (sortKey casefold state delivery, delivery))
  generalize hsort : (pending.map fun delivery =>
    (sortKey casefold state delivery, delivery)).insertionSort
      (fun first second => first.1 ≤ second.1) = ordered at hordered hsorted
  have hpairs : ∀ pair ∈ ordered, pair.1 = sortKey casefold state pair.2 := by
    intro pair hpair
    obtain ⟨delivery, _, rfl⟩ := List.mem_map.mp (hordered.mem_iff.mp hpair)
    rfl
  have hperm : (ordered.map Prod.snd).Perm pending := by
    have hmap := hordered.map Prod.snd
    rwa [List.map_map, show Prod.snd ∘ (fun delivery =>
      (sortKey casefold state delivery, delivery)) = id from rfl, List.map_id] at hmap
  have hascending : (ordered.map Prod.snd).Pairwise fun first second =>
      sortKey casefold state first ≤ sortKey casefold state second := by
    rw [List.pairwise_map]
    refine hsorted.imp_of_mem fun hfirst hsecond hle => ?_
    rwa [hpairs _ hfirst, hpairs _ hsecond] at hle
  have htaken : ∀ delivery ∈ (ordered.map Prod.snd).take limit.toNat,
      IsPending casefold state (normalizeId casefold agentId) delivery := fun delivery hdelivery =>
    (hpending delivery).mp (hperm.mem_iff.mp (List.mem_of_mem_take hdelivery))
  have htakenNodup : (((ordered.map Prod.snd).take limit.toNat).map (·.key casefold)).Nodup :=
    ((hperm.map _).nodup_iff.mpr hnodup).sublist ((List.take_sublist _ _).map _)
  obtain ⟨received, after, ledger', hrun, hkept, hpublished, hcontinues, hdeliveries, hmessages⟩ :=
    handOut_kept clock h htaken htakenNodup 0
  refine ⟨received, after, ledger', ?_, ?_, hpublished, hcontinues, ⟨_,
    (hperm.nodup_iff.mpr hnodup.of_map), fun delivery => ?_, hascending, hdeliveries⟩, hmessages⟩
  · have hlimit' : raiseIf (limit < 1) ⟨.valueError, "limit must be greater than zero"⟩ = .ok () :=
      raiseIf_eq_ok.mpr (by omega)
    rw [receive, Stateful.run_lift_bind_of_ok hlimit', Stateful.run_lift_bind_of_ok hagent,
      Stateful.run_lift_bind_of_ok hnormalize, Stateful.run_get_bind,
      Stateful.run_lift_bind_of_ok (lookUp_deliveries h.toRepresents _), hlist,
      Stateful.run_lift_bind_of_ok hkeyed]
    rw [hsort, List.map_take]
    exact hrun
  · have hkeys : (received.map fun answer =>
        (normalizeId casefold agentId, answer.delivery.key casefold)) =
        ((ordered.map Prod.snd).take limit.toNat).map fun delivery =>
          (normalizeId casefold agentId, delivery.key casefold) := by
      have hcomp := congrArg (List.map fun delivery : ResearchAgentMessageDelivery =>
        (normalizeId casefold agentId, delivery.key casefold)) hdeliveries
      rw [List.map_map, List.map_map] at hcomp
      refine hcomp.trans ?_
      change List.map ((fun delivery : ResearchAgentMessageDelivery =>
        (normalizeId casefold agentId, delivery.key casefold)) ∘ Prod.fst) _ = _
      rw [← List.map_map, List.zipIdx_map_fst]
    rw [hkeys]
    exact hkept
  · rw [hperm.mem_iff, hpending]

/-! ## One call -/

variable (casefold) in
def publishedBy : BusCall ν × Except Raised (BusAnswer ν) → List String
  | (.publish message _, .ok _) => [message.key casefold]
  | _ => []

variable (casefold) in
def handedOutBy : BusCall ν × Except Raised (BusAnswer ν) → List (String × String)
  | (.receive agentId _ _, .ok (.received messages)) =>
    messages.map fun answer => (normalizeId casefold agentId, answer.delivery.key casefold)
  | _ => []

variable (casefold) in
def cancelledBy : BusCall ν × Except Raised (BusAnswer ν) → List String
  | (.cancel deliveryId _, .ok _) => [normalizeId casefold deliveryId]
  | _ => []

/-- The factory answers with new delivery ids, and the clock answers. -/
def Fresh (registry : ResearchAgentRegistry casefold) (state : BusState (MessageContent ν)) :
    BusCall ν → Prop
  | .publish message supplies => ∀ recipients, Accepts registry message state recipients →
      Supplied casefold state.deliveries supplies 0 recipients.length
  | _ => True

/-- What a call makes of the invariant. -/
structure Stepped (registry : ResearchAgentRegistry casefold) (handed : List (String × String))
    (cancelled : List String) (state : BusState (MessageContent ν))
    (ledger : Ledger casefold (MessageContent ν)) (call : BusCall ν)
    (answer : Except Raised (BusAnswer ν)) (next : BusState (MessageContent ν))
    (ledger' : Ledger casefold (MessageContent ν)) : Prop where
  kept : Kept registry next (handed ++ handedOutBy casefold (call, answer))
    (cancelled ++ cancelledBy casefold (call, answer)) ledger'
  messageKeys : ledger'.messageKeys = ledger.messageKeys ++ publishedBy casefold (call, answer)
  continues : Continues state next

theorem stepped_of_error (h : Kept registry state handed cancelled ledger) (call : BusCall ν)
    (failure : Raised) :
    Stepped registry handed cancelled state ledger call (.error failure) state ledger := by
  refine ⟨?_, ?_, .refl state⟩
  · cases call <;> simpa [handedOutBy, cancelledBy] using h
  · cases call <;> simp [publishedBy]

theorem stepped_of_advance (h : Kept registry state handed cancelled ledger) {call : BusCall ν}
    (deliveryId : String) (check : ResearchAgentMessageDelivery → Except Raised Unit)
    (change : ResearchAgentMessageDelivery → ResearchAgentMessageDelivery)
    (hchange : ∀ delivery, Same (change delivery) delivery)
    (hattempts : ∀ delivery, (change delivery).attemptCount = delivery.attemptCount)
    (hcheck : ∀ delivery, check delivery = .ok () →
      delivery.status ≠ .pending ∧ delivery.terminal = false)
    (hpending : ∀ delivery, (change delivery).status ≠ .pending)
    (hlogs : ∀ answer, handedOutBy casefold (call, answer) = [] ∧
      cancelledBy casefold (call, answer) = [] ∧ publishedBy casefold (call, answer) = [])
    (hperform : perform registry call = (do
      let delivery ← updateDelivery casefold deliveryId check change
      return .updated delivery)) :
    ∃ answer next ledger', perform registry call state = (answer, next) ∧
      Stepped registry handed cancelled state ledger call answer next ledger' := by
  rw [hperform]
  rcases updateDelivery_cases h.toRepresents deliveryId check change hchange with
    ⟨failure, hrun⟩ | ⟨stored, hget, _, hok, hrun⟩
  · exact ⟨_, _, ledger, Stateful.run_bind_of_error hrun, stepped_of_error h call failure⟩
  · obtain ⟨hstatus, hterminal⟩ := hcheck stored hok
    refine ⟨_, _, { ledger with made := ledger.made.replace (change stored) },
      Stateful.run_bind_of_ok hrun, ?_, ?_, ?_⟩
    · rw [(hlogs _).1, (hlogs _).2.1, List.append_nil, List.append_nil]
      exact h.advance hget (hchange stored) (hattempts stored) hstatus (hpending stored)
    · rw [(hlogs _).2.2, List.append_nil]
      rfl
    · refine continues_replaceDelivery ?_ (hchange stored) hterminal
      rw [h.deliveries]
      exact hget

theorem checkStatus_eq_ok {agentId message : String} {status : ResearchAgentDeliveryStatus}
    {delivery : ResearchAgentMessageDelivery}
    (h : checkStatus registry agentId status message delivery = .ok ()) :
    delivery.status = status := by
  obtain ⟨_, _, h⟩ := bind_eq_ok.mp h
  exact not_not.mp (raiseIf_eq_ok.mp h)

theorem perform_stepped (h : Kept registry state handed cancelled ledger) (call : BusCall ν)
    (hfresh : Fresh registry state call) :
    ∃ answer next ledger', perform registry call state = (answer, next) ∧
      Stepped registry handed cancelled state ledger call answer next ledger' := by
  have hchecked : ∀ {agentId message : String} {status : ResearchAgentDeliveryStatus},
      status ≠ .pending → status ∉ terminalStatuses → ∀ delivery,
      checkStatus registry agentId status message delivery = .ok () →
        delivery.status ≠ .pending ∧ delivery.terminal = false := by
    intro agentId message status hstatus hterminal delivery hok
    have hsame := checkStatus_eq_ok hok
    refine ⟨hsame ▸ hstatus, ?_⟩
    rw [ResearchAgentMessageDelivery.terminal, hsame]
    simpa using hterminal
  cases call with
  | publish message supplies =>
    by_cases haccepts : ∃ recipients, Accepts registry message state recipients
    · obtain ⟨recipients, haccepts⟩ := haccepts
      obtain ⟨deliveries, after, ledger', hrun, hkept, hkeys, hcontinues⟩ :=
        publish_kept h haccepts (hfresh recipients haccepts)
      refine ⟨_, _, ledger', Stateful.run_bind_of_ok hrun, ?_, hkeys, hcontinues⟩
      change Kept registry after (handed ++ []) (cancelled ++ []) ledger'
      rwa [List.append_nil, List.append_nil]
    · obtain ⟨failure, hrun⟩ := publish_of_not supplies haccepts
      exact ⟨_, _, ledger, Stateful.run_bind_of_error hrun, stepped_of_error h _ failure⟩
  | receive agentId limit clock =>
    by_cases hlimit : limit < 1
    · have hraised : raiseIf (limit < 1) ⟨.valueError, "limit must be greater than zero"⟩ =
          .error ⟨.valueError, "limit must be greater than zero"⟩ := if_pos hlimit
      exact ⟨_, _, ledger, Stateful.run_bind_of_error
        (Stateful.run_lift_bind_of_error hraised), stepped_of_error h _ _⟩
    · cases hagent : requireAgent registry agentId with
      | error failure =>
        have hlimit' : raiseIf (limit < 1)
            ⟨.valueError, "limit must be greater than zero"⟩ = .ok () :=
          raiseIf_eq_ok.mpr hlimit
        refine ⟨_, _, ledger, Stateful.run_bind_of_error (e := failure) ?_,
          stepped_of_error h _ failure⟩
        rw [receive, Stateful.run_lift_bind_of_ok hlimit', Stateful.run_lift_bind_of_error hagent]
      | ok agent =>
        obtain ⟨received, after, ledger', hrun, hkept, hpublished, hcontinues, _⟩ :=
          receive_kept clock h hagent (not_lt.mp hlimit)
        refine ⟨_, _, ledger', Stateful.run_bind_of_ok hrun, ?_, ?_, hcontinues⟩
        · change Kept registry after _ (cancelled ++ []) ledger'
          rwa [List.append_nil]
        · change ledger'.messageKeys = ledger.messageKeys ++ []
          rw [List.append_nil, Ledger.messageKeys, hpublished]
          rfl
  | startProcessing deliveryId agentId =>
    exact stepped_of_advance h deliveryId
      (checkStatus registry agentId .delivered "only delivered message can start processing")
      (fun delivery => { delivery with status := .processing })
      (fun _ => ⟨rfl, rfl, rfl⟩) (fun _ => rfl) (hchecked (by decide) (by decide))
      (fun _ => by simp) (fun _ => ⟨rfl, rfl, rfl⟩) (by rw [perform, startProcessing])
  | acknowledge deliveryId agentId now =>
    exact stepped_of_advance h deliveryId
      (checkStatus registry agentId .processing "only processing delivery can be acknowledged")
      (fun delivery => { delivery with status := .acknowledged, completedAt := some now })
      (fun _ => ⟨rfl, rfl, rfl⟩) (fun _ => rfl) (hchecked (by decide) (by decide))
      (fun _ => by simp) (fun _ => ⟨rfl, rfl, rfl⟩) (by rw [perform, acknowledge])
  | fail deliveryId agentId reason now =>
    by_cases hreason : isBlank reason
    · have hraised : raiseIf (isBlank reason) ⟨.valueError, "reason must not be blank"⟩ =
          .error ⟨.valueError, "reason must not be blank"⟩ := if_pos hreason
      exact ⟨_, _, ledger, Stateful.run_bind_of_error
        (Stateful.run_lift_bind_of_error hraised), stepped_of_error h _ _⟩
    · have hok : raiseIf (isBlank reason) ⟨.valueError, "reason must not be blank"⟩ = .ok () :=
        raiseIf_eq_ok.mpr hreason
      refine stepped_of_advance h deliveryId
        (checkStatus registry agentId .processing "only processing delivery can fail")
        (fun delivery =>
          { delivery with
            status := .failed, failureReason := some reason, completedAt := some now })
        (fun _ => ⟨rfl, rfl, rfl⟩) (fun _ => rfl) (hchecked (by decide) (by decide))
        (fun _ => by simp) (fun _ => ⟨rfl, rfl, rfl⟩) ?_
      rw [perform, fail, hok]
      rfl
  | cancel deliveryId now =>
    rcases updateDelivery_cases h.toRepresents deliveryId (fun delivery =>
        raiseIf delivery.terminal (deliveryStateFailure "terminal delivery cannot be cancelled"))
      (fun delivery => { delivery with status := .cancelled, completedAt := some now })
      (fun _ => ⟨rfl, rfl, rfl⟩) with ⟨failure, hrun⟩ | ⟨stored, hget, hkey, hok, hrun⟩
    · exact ⟨_, _, ledger, Stateful.run_bind_of_error hrun, stepped_of_error h _ failure⟩
    · refine ⟨_, _, { ledger with
          made := ledger.made.replace
            { stored with status := .cancelled, completedAt := some now } },
        Stateful.run_bind_of_ok hrun, ?_, ?_, ?_⟩
      · have hkept := h.cancelDelivery hget ⟨rfl, rfl, rfl⟩ rfl (by simp)
        rw [hkey] at hkept
        change Kept registry _ (handed ++ []) (cancelled ++ [normalizeId casefold deliveryId]) _
        rwa [List.append_nil, hkey]
      · change _ = ledger.messageKeys ++ []
        rw [List.append_nil]
        rfl
      · have hstored := (congrFun h.deliveries _).trans hget
        have hterminal : stored.terminal = false :=
          Bool.eq_false_iff.mpr (raiseIf_eq_ok.mp hok)
        exact continues_replaceDelivery hstored ⟨rfl, rfl, rfl⟩ hterminal

end

/-! ## Runs -/

variable (registry) in
inductive Run : BusState (MessageContent ν) →
    List (BusCall ν × Except Raised (BusAnswer ν)) → Prop
  | start : Run emptyBus []
  | step {state : BusState (MessageContent ν)}
      {log : List (BusCall ν × Except Raised (BusAnswer ν))} (call : BusCall ν) :
      Run state log → Fresh registry state call →
      Run (perform registry call state).2 (log ++ [(call, (perform registry call state).1)])

variable (registry) in
def Next (state next : BusState (MessageContent ν)) : Prop :=
  ∃ call, Fresh registry state call ∧ next = (perform registry call state).2

section

variable {state : BusState (MessageContent ν)}
  {log : List (BusCall ν × Except Raised (BusAnswer ν))}

theorem Run.kept (h : Run registry state log) : ∃ ledger,
    Kept registry state (log.flatMap (handedOutBy casefold)) (log.flatMap (cancelledBy casefold))
      ledger ∧ ledger.messageKeys = log.flatMap (publishedBy casefold) := by
  induction h with
  | start => exact ⟨_, kept_emptyBus, rfl⟩
  | step call _ hfresh ih =>
    obtain ⟨ledger, hkept, hkeys⟩ := ih
    obtain ⟨answer, next, ledger', hperform, hstepped⟩ := perform_stepped hkept call hfresh
    rw [hperform]
    refine ⟨ledger', ?_, ?_⟩
    · rw [List.flatMap_append, List.flatMap_append, List.flatMap_singleton, List.flatMap_singleton]
      exact hstepped.kept
    · rw [List.flatMap_append, List.flatMap_singleton, hstepped.messageKeys, hkeys]

theorem Run.continues (h : Run registry state log) {later : BusState (MessageContent ν)}
    (hlater : Relation.ReflTransGen (Next registry) state later) :
    Continues state later ∧ ∃ log', Run registry later log' := by
  induction hlater with
  | refl => exact ⟨.refl state, log, h⟩
  | tail _ hnext ih =>
    obtain ⟨hcontinues, log', hrun⟩ := ih
    obtain ⟨call, hfresh, rfl⟩ := hnext
    obtain ⟨ledger, hkept, _⟩ := hrun.kept
    obtain ⟨answer, next, ledger', hperform, hstepped⟩ := perform_stepped hkept call hfresh
    refine ⟨hcontinues.trans ?_, _, hrun.step call hfresh⟩
    rw [hperform]
    exact hstepped.continues

variable (registry state) in
structure Addressed (message : ResearchAgentMessage (MessageContent ν)) (ids : List String) :
    Prop where
  distinct : ((addressees registry message).map (normalizeId casefold)).Nodup
  nodup : ids.Nodup
  recipients : ids.map (fun id => (state.deliveries id).map (·.recipientAgentId)) =
    (addressees registry message).map some
  all : ∀ id delivery, state.deliveries id = some delivery →
    (delivery.messageKey casefold = message.key casefold ↔ id ∈ ids)

variable (registry state log) in
structure Delivers : Prop where
  published : ∀ key, (state.messages key).isSome ↔ key ∈ log.flatMap (publishedBy casefold)
  /-- The order of publication is that of the calls. -/
  publishOrder : ∀ key index, state.publishOrder key = some index ↔
    (log.flatMap (publishedBy casefold))[index]? = some key
  addressed : ∀ key message, state.messages key = some message →
    ∃ ids, state.messageDeliveryIds key = some ids ∧ Addressed registry state message ids
  once : ((log.flatMap (handedOutBy casefold)).map Prod.snd).Nodup
  addressee : ∀ pair ∈ log.flatMap (handedOutBy casefold), ∃ delivery,
    state.deliveries pair.2 = some delivery ∧ delivery.recipientKey casefold = pair.1
  attempts : ∀ id delivery, state.deliveries id = some delivery → delivery.attemptCount =
    if id ∈ (log.flatMap (handedOutBy casefold)).map Prod.snd then 1 else 0
  available : ∀ id delivery, state.deliveries id = some delivery → (delivery.status = .pending ↔
    id ∉ (log.flatMap (handedOutBy casefold)).map Prod.snd ∧
      id ∉ log.flatMap (cancelledBy casefold))
  receives : ∀ agentId limit clock agent, requireAgent registry agentId = .ok agent → 1 ≤ limit →
    ∃ received, (receive registry agentId limit clock state).1 = .ok received ∧
      InOrder casefold state (normalizeId casefold agentId) limit clock received
  later : ∀ next, Relation.ReflTransGen (Next registry) state next → Continues state next

end

def sampleCall : BusCall Unit :=
  .publish
    { messageId := "message"
      sender := sampleSender
      recipient := none
      broadcast := true
      content := ⟨.high, ()⟩
      messageId_notBlank := sampleBroadcast.messageId_notBlank }
    fun number => ⟨.ok (if number = 0 then "first" else "second"), .ok ⟨0, some 0, maxWall_pos⟩⟩

theorem sampleCall_fresh : Fresh sampleRegistry emptyBus sampleCall := by
  intro recipients haccepts
  have hrecipients := resolveRecipients_eq_ok haccepts.recipients
  have htwo : recipients.length = 2 := by
    rw [hrecipients]
    decide +kernel
  rw [htwo]
  intro number _ hnumber
  refine ⟨if number = 0 then "first" else "second", ⟨0, some 0, by decide⟩,
    ⟨rfl, rfl, ?_, rfl⟩, fun earlier _ hearlier other hother => ?_⟩
  · split_ifs <;> decide +kernel
  · have hfirst : earlier = 0 := by omega
    have hsecond : number ≠ 0 := by omega
    cases hother
    rw [hfirst, if_pos rfl, if_neg hsecond]
    decide +kernel

end AgenticLab.MessageBus
