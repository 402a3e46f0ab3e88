import AgenticLab.Library.Grouping
import AgenticLab.Library.Periods
import AgenticLab.Model.Application.Values
import Mathlib.Data.List.Sort

/-! # The price registry

`DeterministicPriceRegistry` of `app/research/deterministic_provider_cost_calculator.py` with what
it reads of `app/schemas/provider_cost.py`. -/

namespace AgenticLab

open Periods (Period)

/-- A `date` by its `toordinal()`. -/
abbrev Date := {ordinal : ℕ // 1 ≤ ordinal ∧ ordinal ≤ 3652059}

inductive UsageUnit where
  | request
  | providerCall
  | toolCall
  | externalRequest
  | agentRound
  | recordedToken
  | inputToken
  | cachedInputToken
  | outputToken
  | reasoningToken
  | totalToken
  | embeddingToken
  | searchCredit
  | localComputeSecond
  deriving DecidableEq, Repr

/-- What `validate_entry` reads of a rate. -/
structure PriceRate where
  usageUnit : UsageUnit
  currency : String

/-- `not value.strip() or value != value.strip()` does not hold. -/
def IsNormalizedText (value : String) : Prop := isBlank value = false ∧ value = strip value

/-- An entry with the checks of `validate_entry`. -/
structure ModelPriceEntry where
  priceEntryId : String
  registryVersion : String
  providerName : String
  modelName : Option String
  operation : String
  effectiveFrom : Date
  effectiveThrough : Option Date
  sourceReference : String
  rates : List PriceRate
  texts_normalized : ∀ value ∈ [priceEntryId, registryVersion, providerName, operation,
    sourceReference], IsNormalizedText value
  modelName_normalized : ∀ value ∈ modelName, IsNormalizedText value
  through_ge : ∀ last ∈ effectiveThrough, effectiveFrom ≤ last
  units_nodup : (rates.map fun rate => rate.usageUnit).Nodup
  one_currency : (rates.map fun rate => rate.currency).dedup.length = 1

/-- What `find` reads of an event. -/
structure ProviderUsageEvent where
  providerName : String
  modelName : Option String
  operation : String

namespace DeterministicPriceRegistry

variable (casefold : Casefold)

abbrev Identity := String × Option String × String

def identity (entry : ModelPriceEntry) : Identity :=
  (casefold entry.providerName, entry.modelName.map casefold, casefold entry.operation)

def usageIdentity (usage : ProviderUsageEvent) : Identity :=
  (casefold usage.providerName, usage.modelName.map casefold, casefold usage.operation)

def priceRegistryError (message : String) : Raised :=
  ⟨.external "PriceRegistryError" .runtimeOrValueError, message⟩

def priceNotFoundError : Raised :=
  ⟨.external "PriceNotFoundError" .exception,
    "no exact effective price for provider, model, operation, and date"⟩

def startsBefore (first second : ModelPriceEntry) : Bool :=
  first.effectiveFrom ≤ second.effectiveFrom

/-- The loop over `pairwise(ordered)`. -/
def checkNeighbours : List ModelPriceEntry → Except Raised Unit
  | previous :: current :: rest =>
    match previous.effectiveThrough with
    | none => .error (priceRegistryError "open-ended price entry must be the last effective period")
    | some through => do
        raiseIf (current.effectiveFrom ≤ through)
          (priceRegistryError "price effective periods must not overlap")
        checkNeighbours (current :: rest)
  | _ => .ok ()

/-- The loop over `grouped.values()`. -/
def checkGroups : List (Identity × List ModelPriceEntry) → Except Raised Unit
  | [] => .ok ()
  | (_, values) :: groups => do
      checkNeighbours (values.mergeSort startsBefore)
      checkGroups groups

def validateNonoverlappingPeriods (entries : List ModelPriceEntry) : Except Raised Unit :=
  checkGroups (Grouping.groupBy (identity casefold) entries)

def create (entries : List ModelPriceEntry) : Except Raised (List ModelPriceEntry) := do
  raiseIf (entries = []) (priceRegistryError "price registry must contain at least one entry")
  raiseIf (¬(entries.map fun entry => casefold entry.priceEntryId).Nodup)
    (priceRegistryError "price entry IDs must be unique")
  validateNonoverlappingPeriods casefold entries
  return entries

def isEffective (entry : ModelPriceEntry) (pricingDate : Date) : Bool :=
  entry.effectiveFrom ≤ pricingDate &&
    match entry.effectiveThrough with
    | none => true
    | some through => pricingDate ≤ through

def find (entries : List ModelPriceEntry) (usage : ProviderUsageEvent) (pricingDate : Date) :
    Except Raised ModelPriceEntry :=
  match entries.filter fun entry =>
      identity casefold entry == usageIdentity casefold usage && isEffective entry pricingDate with
  | [] => .error priceNotFoundError
  | [entry] => .ok entry
  | _ => .error (priceRegistryError "effective price lookup is ambiguous")

end DeterministicPriceRegistry

end AgenticLab
