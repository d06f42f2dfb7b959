import ArgosCore.Runtime
import Mathlib.Data.Finset.Basic

/-! Security domains. What a domain does not list explicitly is denied. -/

namespace ArgosCore

def classificationLevels : List String := ["internal", "confidential", "restricted"]

/-- `CLASSIFICATION_LEVELS.index(classification)` -/
def classificationRank (classification : String) : Nat := classificationLevels.idxOf classification

/-- No domain is built with a classification outside the levels. -/
structure SecurityDomain where
  tenantId : String
  domainId : String
  classification : String
  allowedFederation : Finset String
  allowedDestinations : Finset String
  real : classification ∈ classificationLevels

section
variable [Runtime]

def reprTuple (items : List String) : String :=
  "(" ++ String.intercalate ", " (items.map Runtime.reprStr) ++ ")"

def unknownClassification (classification : String) : String :=
  Runtime.reprStr classification ++ " no es una clasificación real: " ++ reprTuple classificationLevels

def transferAllowed (source destination : SecurityDomain) : Bool × String :=
  if source.domainId = destination.domainId then
    (true, "mismo domain_id: no es una transferencia cross-domain")
  else if destination.domainId ∈ source.allowedDestinations then
    (true, Runtime.reprStr destination.domainId ++ " está en allowed_destinations de " ++
      Runtime.reprStr source.domainId)
  else
    (false, Runtime.reprStr destination.domainId ++ " NO está en allowed_destinations de " ++
      Runtime.reprStr source.domainId ++ " (deny-by-default)")

def federationAllowed (here : SecurityDomain) (remoteDomainId : String) : Bool × String :=
  if remoteDomainId ∈ here.allowedFederation then
    (true, Runtime.reprStr remoteDomainId ++ " está en allowed_federation de " ++ Runtime.reprStr here.domainId)
  else
    (false, Runtime.reprStr remoteDomainId ++ " NO está en allowed_federation de " ++
      Runtime.reprStr here.domainId ++ " (deny-by-default)")

@[simp] theorem transferAllowed_iff (source destination : SecurityDomain) :
    (transferAllowed source destination).1 = true ↔
      source.domainId = destination.domainId ∨ destination.domainId ∈ source.allowedDestinations := by
  rw [transferAllowed]
  split_ifs with same listed <;> simp [*]

@[simp] theorem federationAllowed_iff (here : SecurityDomain) (remoteDomainId : String) :
    (federationAllowed here remoteDomainId).1 = true ↔ remoteDomainId ∈ here.allowedFederation := by
  rw [federationAllowed]
  split_ifs with listed <;> simp [listed]

end

end ArgosCore
