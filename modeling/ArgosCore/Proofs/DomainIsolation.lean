import ArgosCore.Federation.Evidence
import ArgosCore.Proofs.FederationReplay
import ArgosCore.Proofs.TransferRelease

/-! Who a domain is. Isolation knows a domain by its id alone, so that one id in two
tenants is one domain to it; and policy judges the domain that the caller names, not the
one that an artifact claims. -/

namespace ArgosCore.Proofs

section
variable [Runtime]

theorem releasable_iff_approved {request : TransferRequest} (approved : request.approverRef ≠ none) :
    Releasable request ↔ ¬ Closed request := by
  constructor
  · intro releasable closed
    exact not_releasable_of_closed closed releasable
  · intro opened
    refine ⟨?_, fun _ => approved⟩
    rw [requestOutcome, judgedOutcome, if_neg opened]
    split_ifs <;> simp

/-- Why a transfer that the domains allow is still not released. -/
def HeldBack (request : TransferRequest) : Prop :=
  ¬ KnownClassifications request ∨ request.exportability = "forbidden" ∨
    request.approverRef = none ∧
      (classificationRank (judgedClassification request) < classificationRank request.originalClassification ∨
        request.trust ∈ ["UNTRUSTED", "UNKNOWN"])

theorem releasable_of_allowed {request : TransferRequest} (held : ¬ HeldBack request)
    (allowed : (transferAllowed request.sourceDomain request.destinationDomain).1 = true) : Releasable request := by
  simp only [HeldBack, not_or, not_not, not_and] at held
  obtain ⟨_, exportable, unapproved⟩ := held
  have opened : ¬ Closed request := by simp [allowed, exportable]
  by_cases approved : request.approverRef = none
  · obtain ⟨ranks, trusted⟩ := unapproved approved
    exact (releasable_iff_unapproved approved).mpr ⟨opened, Nat.le_of_not_lt ranks, trusted⟩
  · exact (releasable_iff_approved approved).mpr opened

/-- Between tenants only listed destinations receive anything, unless the two domains go
by one id: then nothing but the label of the data holds it back. -/
theorem cross_tenant_release_iff (request : TransferRequest) (draw : Draw) :
    (request.sourceDomain.tenantId ≠ request.destinationDomain.tenantId →
        ∀ transfer, requestCrossDomainTransfer request draw = .ok transfer → transfer.outcome = .released →
          request.destinationDomain.domainId ∈ request.sourceDomain.allowedDestinations) ↔
      request.sourceDomain.tenantId = request.destinationDomain.tenantId ∨
        request.sourceDomain.domainId ≠ request.destinationDomain.domainId ∨
        request.destinationDomain.domainId ∈ request.sourceDomain.allowedDestinations ∨ HeldBack request := by
  constructor
  · intro listed
    by_contra exception
    simp only [not_or, not_not] at exception
    obtain ⟨tenants, same, unlisted, held⟩ := exception
    have allowed := (transferAllowed_iff request.sourceDomain request.destinationDomain).mpr (.inl same)
    rcases request_cases request draw with ⟨_, transfer, done, released, _⟩ | ⟨unknown, _⟩
    · exact unlisted (listed tenants transfer done (released.mpr (releasable_of_allowed held allowed)))
    · exact held (.inl unknown)
  · intro condition tenants transfer done released
    obtain ⟨known, releasable, _⟩ := known_of_ok done
    have opened : ¬ Closed request := fun closed => not_releasable_of_closed closed (releasable.mp released)
    simp only [Closed, not_or, Bool.not_eq_false, transferAllowed_iff] at opened
    rcases condition with same | different | listed | held
    · exact absurd same tenants
    · exact opened.1.resolve_left different
    · exact listed
    · rcases held with unknown | forbidden | ⟨unapproved, doubtful⟩
      · exact absurd known unknown
      · exact absurd forbidden opened.2
      · obtain ⟨_, ranks, trusted⟩ := (releasable_iff_unapproved unapproved).mp (releasable.mp released)
        rcases doubtful with lower | untrusted
        · omega
        · exact absurd untrusted trusted

end

def namesakeDomain : SecurityDomain :=
  { sourceDomain with tenantId := "other-tenant", allowedDestinations := ∅ }

def namesakeRequest : TransferRequest :=
  { rawRequest with
    sourceDomain := { sourceDomain with allowedDestinations := ∅ }
    destinationDomain := namesakeDomain
    requestedClassification := "internal" }

/-- A release to another tenant although the source lists no destination at all. -/
theorem namesake_release :
    letI := Runtime.transparent
    namesakeRequest.sourceDomain.tenantId ≠ namesakeRequest.destinationDomain.tenantId ∧
      namesakeRequest.destinationDomain.domainId ∉ namesakeRequest.sourceDomain.allowedDestinations ∧
      ∃ transfer, requestCrossDomainTransfer namesakeRequest someTransferDraw = .ok transfer ∧
        transfer.outcome = .released :=
  ⟨by decide, by decide, _, rfl, rfl⟩

section
variable [Runtime]

def claiming (originDomain : String) (call : FederationCall) : FederationCall :=
  { call with artifact := { call.artifact with originDomain } }

/-- Policy admits the domain that the caller names. What the artifact claims has no part
in it; the record repeats the claim, which policy admitted when it is that domain's id. -/
theorem accept_admits_remote (state : FederationState) (call : FederationCall) (draw recorded : Draw) :
    ((state.evaluate call draw).decision = .accept →
        call.remoteDomain.domainId ∈ call.localDomain.allowedFederation ∧
          (call.remoteDomain.domainId = call.localDomain.domainId ∨
            call.localDomain.domainId ∈ call.remoteDomain.allowedDestinations)) ∧
      (∀ originDomain, state.evaluate (claiming originDomain call) draw = state.evaluate call draw) ∧
      (buildFederationDecisionRecord (state.evaluate call draw) call.artifact recorded).lookup "origin_domain" =
        some (.str call.artifact.originDomain) := by
  refine ⟨?_, fun originDomain => rfl, rfl⟩
  intro accepted
  obtain ⟨acceptable, _⟩ := (accept_iff state call draw).mp accepted
  exact ⟨acceptable.federated, (transferAllowed_iff _ _).mp acceptable.transfer⟩

end

theorem accept_admits_peer :
    letI := Runtime.transparent
    (FederationState.evaluate {} peerCall someDraw).decision = .accept ∧ "peer" ∈ homeDomain.allowedFederation :=
  letI := Runtime.transparent
  ⟨peerCall_accepted, ((accept_admits_remote {} peerCall someDraw someDraw).1 peerCall_accepted).1⟩

/-- The peer passes on an artifact of a domain that is not federated; it is accepted, and
the record names that domain. -/
theorem unfederated_origin_accepted :
    letI := Runtime.transparent
    let call := claiming "unfederated" peerCall
    (FederationState.evaluate {} call someDraw).decision = .accept ∧
      call.artifact.originDomain ≠ call.remoteDomain.domainId ∧
      call.artifact.originDomain ∉ call.localDomain.allowedFederation ∧
      (buildFederationDecisionRecord (FederationState.evaluate {} call someDraw) call.artifact someDraw).lookup
        "origin_domain" = some (.str "unfederated") :=
  letI := Runtime.transparent
  ⟨peerCall_accepted, by decide, by decide, rfl⟩

end ArgosCore.Proofs
