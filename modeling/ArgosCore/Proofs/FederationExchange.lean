import ArgosCore.Federation.Transport
import ArgosCore.Proofs.FederationReplay

/-! Exchanges over the transport. Instances send what they built, the local instance drains its
inbox and evaluates what it received, again and again and in any order, while ids are revoked. -/

namespace ArgosCore.Proofs

inductive ExchangeOp where
  | send (artifact : FederatedArtifact) (destinationInstance : String)
  | receive
  | evaluate (call : FederationCall) (draw : Draw)
  | revoke (artifactId revokedAt reason : String)

structure Exchange where
  transport : InProcessTestTransport := {}
  stores : FederationState := {}
  received : List FederatedArtifact := []

def ExchangeOp.onStores : ExchangeOp → Option FederationOp
  | .send .. | .receive => none
  | .evaluate call draw => some (.evaluate call draw)
  | .revoke artifactId revokedAt reason => some (.revoke artifactId revokedAt reason)

def ExchangeOp.sending : ExchangeOp → Option (String × FederatedArtifact)
  | .send artifact destinationInstance => some (destinationInstance, artifact)
  | _ => none

section
variable [Runtime]

def Exchange.step (exchange : Exchange) : ExchangeOp → Exchange
  | .send artifact destinationInstance =>
    { exchange with transport := (exchange.transport.send artifact destinationInstance).2 }
  | .receive =>
    { exchange with
      transport := exchange.transport.receive.2
      received := exchange.received ++ exchange.transport.receive.1 }
  | .evaluate call draw => { exchange with stores := exchange.stores.step (.evaluate call draw) }
  | .revoke artifactId revokedAt reason =>
    { exchange with stores := exchange.stores.step (.revoke artifactId revokedAt reason) }

def Exchange.run (exchange : Exchange) (ops : List ExchangeOp) : Exchange := ops.foldl Exchange.step exchange

/-- What was sent, in order: the transport keeps all of it, and splits it into what was received and what waits. -/
structure Delivers (exchange : Exchange) (sent : List (String × FederatedArtifact)) : Prop where
  outbox : exchange.transport.outbox = sent
  inOrder : exchange.received ++ exchange.transport.inbox = sent.map Prod.snd

theorem Delivers.step {exchange : Exchange} {sent : List (String × FederatedArtifact)} (delivers : Delivers exchange sent)
    (op : ExchangeOp) : Delivers (exchange.step op) (sent ++ op.sending.toList) := by
  obtain ⟨outbox, inOrder⟩ := delivers
  cases op with
  | send artifact destinationInstance =>
    constructor
    · change exchange.transport.outbox ++ [(destinationInstance, artifact)] = sent ++ [(destinationInstance, artifact)]
      rw [outbox]
    · change exchange.received ++ (exchange.transport.inbox ++ [artifact]) =
        (sent ++ [(destinationInstance, artifact)]).map Prod.snd
      rw [← List.append_assoc, inOrder, List.map_append, List.map_singleton]
  | receive =>
    constructor
    · change exchange.transport.outbox = sent ++ []
      rw [outbox, List.append_nil]
    · change exchange.received ++ exchange.transport.inbox ++ [] = (sent ++ []).map Prod.snd
      rw [inOrder, List.append_nil, List.append_nil]
  | evaluate call draw =>
    change Delivers { exchange with stores := _ } (sent ++ [])
    rw [List.append_nil]
    exact ⟨outbox, inOrder⟩
  | revoke artifactId revokedAt reason =>
    change Delivers { exchange with stores := _ } (sent ++ [])
    rw [List.append_nil]
    exact ⟨outbox, inOrder⟩

theorem run_delivers (ops : List ExchangeOp) : Delivers (Exchange.run {} ops) (ops.filterMap ExchangeOp.sending) := by
  induction ops using List.reverseRecOn with
  | nil => exact ⟨rfl, rfl⟩
  | append_singleton ops op ih =>
    have single : [op].filterMap ExchangeOp.sending = op.sending.toList := by cases op <;> rfl
    rw [Exchange.run, List.foldl_append, List.filterMap_append, single]
    exact ih.step op

theorem run_stores (ops : List ExchangeOp) :
    (Exchange.run {} ops).stores = FederationState.run {} (ops.filterMap ExchangeOp.onStores) := by
  induction ops using List.reverseRecOn with
  | nil => rfl
  | append_singleton ops op ih =>
    rw [Exchange.run, List.foldl_append, List.filterMap_append, FederationState.run, List.foldl_append]
    change (Exchange.step (Exchange.run {} ops) op).stores = List.foldl _ (FederationState.run {} _) _
    rw [← ih]
    cases op <;> rfl

theorem received_sent {ops : List ExchangeOp} {artifact : FederatedArtifact}
    (received : artifact ∈ (Exchange.run {} ops).received) :
    ∃ destinationInstance, .send artifact destinationInstance ∈ ops := by
  have inside := List.mem_append_left (Exchange.run {} ops).transport.inbox received
  rw [(run_delivers ops).inOrder] at inside
  obtain ⟨⟨destinationInstance, _⟩, sent, rfl⟩ := List.mem_map.mp inside
  obtain ⟨op, member, sends⟩ := List.mem_filterMap.mp sent
  cases op with
  | send artifact destinationInstance =>
    cases sends
    exact ⟨_, member⟩
  | receive => cases sends
  | evaluate call draw => cases sends
  | revoke artifactId revokedAt reason => cases sends

structure LocalPolicy (call : FederationCall) (now : String) : Prop where
  provenance : call.artifact.provenance ≠ [] ∨ call.artifact.sourceRefs ≠ []
  source : call.artifact.originInstance ∈ call.knownSourceInstances
  federated : call.remoteDomain.domainId ∈ call.localDomain.allowedFederation
  transfer : (transferAllowed call.remoteDomain call.localDomain).1 = true
  fresh : expired call.artifact now = false
  evidence : call.evidenceResolvable = some true
  settled : call.conflictState = .consistent ∨ call.conflictState = .unknown

/-- What was built here meets every other condition. -/
theorem acceptable_iff_localPolicy {call : FederationCall} {now : String} {request : ArtifactRequest} {draw : Draw}
    (built : buildFederatedArtifact request draw = .ok call.artifact) : Acceptable call now ↔ LocalPolicy call now := by
  obtain ⟨hash, classification, trust⟩ := buildFederatedArtifact_ok built
  constructor
  · intro acceptable
    exact ⟨acceptable.provenance, acceptable.source, acceptable.federated, acceptable.transfer, acceptable.fresh,
      acceptable.evidence, acceptable.settled⟩
  · intro policy
    exact ⟨hash, policy.provenance, policy.source, policy.federated, classification, policy.transfer, policy.fresh, trust,
      policy.evidence, policy.settled⟩

def EvaluatesReceived (ops : List ExchangeOp) : Prop :=
  ∀ before call draw after, ops = before ++ .evaluate call draw :: after → call.artifact ∈ (Exchange.run {} before).received

/-- Peers send what they built, and one id for one content. -/
structure HonestPeers (ops : List ExchangeOp) : Prop where
  built : ∀ artifact destinationInstance, .send artifact destinationInstance ∈ ops →
    ∃ request draw, buildFederatedArtifact request draw = .ok artifact
  identified : ∀ first one second other, .send first one ∈ ops → .send second other ∈ ops →
    first.artifactId = second.artifactId → first.contentHash = second.contentHash

omit [Runtime] in
theorem mem_presented {ops : List FederationOp} {artifactId contentHash : String}
    (member : (artifactId, contentHash) ∈ presented ops) :
    ∃ call draw, .evaluate call draw ∈ ops ∧ call.artifact.artifactId = artifactId ∧
      call.artifact.contentHash = contentHash := by
  induction ops with
  | nil => cases member
  | cons op ops ih =>
    cases op with
    | evaluate call draw =>
      rcases List.mem_cons.mp member with here | later
      · cases here
        exact ⟨call, draw, List.mem_cons_self, rfl, rfl⟩
      · obtain ⟨call, draw, inside, same⟩ := ih later
        exact ⟨call, draw, List.mem_cons_of_mem _ inside, same⟩
    | revoke _ _ _ =>
      obtain ⟨call, draw, inside, same⟩ := ih member
      exact ⟨call, draw, List.mem_cons_of_mem _ inside, same⟩

omit [Runtime] in
theorem mem_onStores {ops : List ExchangeOp} {op : FederationOp} :
    op ∈ ops.filterMap ExchangeOp.onStores ↔ (∃ call draw, op = .evaluate call draw ∧ .evaluate call draw ∈ ops) ∨
      ∃ artifactId revokedAt reason, op = .revoke artifactId revokedAt reason ∧ .revoke artifactId revokedAt reason ∈ ops := by
  rw [List.mem_filterMap]
  constructor
  · rintro ⟨step, inside, seen⟩
    cases step with
    | evaluate call draw => exact .inl ⟨call, draw, (Option.some.inj seen).symm, inside⟩
    | revoke artifactId revokedAt reason =>
      exact .inr ⟨artifactId, revokedAt, reason, (Option.some.inj seen).symm, inside⟩
    | send _ _ => cases seen
    | receive => cases seen
  · rintro (⟨call, draw, rfl, inside⟩ | ⟨artifactId, revokedAt, reason, rfl, inside⟩)
    · exact ⟨_, inside, rfl⟩
    · exact ⟨_, inside, rfl⟩

theorem honest_no_conflict {before after : List ExchangeOp} {call : FederationCall} {draw : Draw}
    (honest : HonestPeers (before ++ .evaluate call draw :: after))
    (handled : EvaluatesReceived (before ++ .evaluate call draw :: after)) :
    ¬ (Exchange.run {} before).stores.ledger.seen.Conflicts call.artifact.artifactId call.artifact.contentHash := by
  rintro ⟨other, held, differs⟩
  rw [run_stores, run_seen, Dict.lookup_claims] at held
  obtain ⟨earlier, drawn, evaluated, sameId, sameHash⟩ := mem_presented (Dict.mem_of_lookup held)
  obtain ⟨_, _, same, inside⟩ | ⟨_, _, _, same, _⟩ := mem_onStores.mp evaluated
  · cases same
    obtain ⟨first, rest, split⟩ := List.append_of_mem inside
    have earlierReceived := handled first earlier drawn (rest ++ .evaluate call draw :: after) (by simp [split])
    obtain ⟨one, sentEarlier⟩ := received_sent earlierReceived
    obtain ⟨two, sentNow⟩ := received_sent (handled before call draw after rfl)
    have earlierInside : .send earlier.artifact one ∈ before ++ .evaluate call draw :: after := by
      rw [split]
      exact List.mem_append_left _ (List.mem_append_left _ sentEarlier)
    have agree := honest.identified _ _ _ _ earlierInside (List.mem_append_left _ sentNow) sameId
    exact differs (sameHash.symm.trans agree)
  · cases same

/-- Nothing is lost, duplicated or reordered on the way, and what honest peers sent is accepted exactly
when the receiver's own policy admits it and its id was not revoked, however often it is evaluated. -/
theorem honest_exchange {ops : List ExchangeOp} (honest : HonestPeers ops) (handled : EvaluatesReceived ops) :
    (Exchange.run {} ops).received ++ (Exchange.run {} ops).transport.inbox =
        (ops.filterMap ExchangeOp.sending).map Prod.snd ∧
      (Exchange.run {} ops).transport.outbox = ops.filterMap ExchangeOp.sending ∧
      ∀ before call draw after, ops = before ++ .evaluate call draw :: after →
        (((Exchange.run {} before).stores.evaluate call draw).decision = .accept ↔
          LocalPolicy call (call.effectiveNow draw) ∧
            ∀ revokedAt reason, .revoke call.artifact.artifactId revokedAt reason ∉ before) := by
  refine ⟨(run_delivers ops).inOrder, (run_delivers ops).outbox, ?_⟩
  rintro before call draw after rfl
  obtain ⟨_, sent⟩ := received_sent (handled before call draw after rfl)
  obtain ⟨request, drawn, built⟩ := honest.built _ _ (List.mem_append_left _ sent)
  have revoked : (Exchange.run {} before).stores.registry.isRevoked call.artifact.artifactId = false ↔
      ∀ revokedAt reason, .revoke call.artifact.artifactId revokedAt reason ∉ before := by
    have onStores (revokedAt reason : String) :
        FederationOp.revoke call.artifact.artifactId revokedAt reason ∈ before.filterMap ExchangeOp.onStores ↔
          .revoke call.artifact.artifactId revokedAt reason ∈ before := by
      rw [mem_onStores]
      simp
    rw [← Bool.not_eq_true, run_stores, run_isRevoked]
    simp only [onStores, not_or, not_exists]
    exact and_iff_right (by simp [RevocationRegistry.isRevoked])
  rw [accept_iff, acceptable_iff_localPolicy built, revoked, and_iff_left (honest_no_conflict honest handled)]

end

private def sentCall [Runtime] (artifact : FederatedArtifact) : FederationCall := { peerCall with artifact }

private def peerRequest : ArtifactRequest where
  artifactType := "IOC"
  originInstance := "peer-instance"
  originDomain := "peer"
  originTenant := "tenant"
  originClassification := "restricted"
  payload := [("indicator", .str "198.51.100.7")]
  sourceRefs := ["alert-1"]

private def peerExchange [Runtime] (artifact : FederatedArtifact) : List ExchangeOp := [
  .send artifact "home-instance",
  .receive,
  .evaluate (sentCall artifact) someDraw,
  .revoke artifact.artifactId "2026-01-16T00:00:00+00:00" "withdrawn",
  .evaluate (sentCall artifact) someDraw]

theorem honest_exchange_peer :
    letI := Runtime.standard
    ∃ artifact, buildFederatedArtifact peerRequest someDraw = .ok artifact ∧
      (Exchange.run {} (peerExchange artifact)).received = [artifact] ∧
      (((Exchange.run {} ((peerExchange artifact).take 2)).stores.evaluate (sentCall artifact) someDraw).decision = .accept) ∧
      (((Exchange.run {} ((peerExchange artifact).take 4)).stores.evaluate (sentCall artifact) someDraw).decision ≠ .accept) := by
  let _ := Runtime.standard
  obtain ⟨artifact, built⟩ : ∃ artifact, buildFederatedArtifact peerRequest someDraw = .ok artifact := ⟨_, rfl⟩
  obtain ⟨instanceName, sources, lasting⟩ :
      artifact.originInstance = "peer-instance" ∧ artifact.sourceRefs = ["alert-1"] ∧ artifact.validUntil = none := by
    have made : buildFederatedArtifact peerRequest someDraw = .ok _ := rfl
    rw [Except.ok.inj (built.symm.trans made)]
    exact ⟨rfl, rfl, rfl⟩
  have honest : HonestPeers (peerExchange artifact) := by
    constructor
    · intro sent destinationInstance member
      obtain ⟨rfl, _⟩ : sent = artifact ∧ destinationInstance = "home-instance" := by simpa [peerExchange] using member
      exact ⟨_, _, built⟩
    · intro first one second other sentFirst sentSecond _
      obtain ⟨rfl, _⟩ : first = artifact ∧ one = "home-instance" := by simpa [peerExchange] using sentFirst
      obtain ⟨rfl, _⟩ : second = first ∧ other = "home-instance" := by simpa [peerExchange] using sentSecond
      rfl
  have handled : EvaluatesReceived (peerExchange artifact) := by
    intro before call draw after split
    rcases before with _ | ⟨one, _ | ⟨two, _ | ⟨three, _ | ⟨four, _ | ⟨five, rest⟩⟩⟩⟩⟩ <;>
      simp [peerExchange] at split
    · obtain ⟨rfl, rfl, ⟨rfl, rfl⟩, rfl⟩ := split
      exact List.mem_singleton_self _
    · obtain ⟨rfl, rfl, rfl, rfl, ⟨rfl, rfl⟩, rfl⟩ := split
      exact List.mem_singleton_self _
  obtain ⟨_, _, decisions⟩ := honest_exchange honest handled
  refine ⟨artifact, built, rfl, ?_, ?_⟩
  · refine (decisions _ _ _ _ (show peerExchange artifact = (peerExchange artifact).take 2 ++ _ :: _ from rfl)).mpr ⟨?_, ?_⟩
    · exact {
        provenance := .inr (by simp [sentCall, sources])
        source := by simp [sentCall, peerCall, instanceName]
        federated := peerCall_acceptable.federated
        transfer := peerCall_acceptable.transfer
        fresh := by rw [expired, sentCall, lasting]; rfl
        evidence := rfl
        settled := .inr rfl }
    · simp [peerExchange]
  · intro accepted
    have allowed := (decisions _ _ _ _ (show peerExchange artifact = (peerExchange artifact).take 4 ++ _ :: _ from rfl)).mp accepted
    exact allowed.2 "2026-01-16T00:00:00+00:00" "withdrawn" (by simp [peerExchange, sentCall])

end ArgosCore.Proofs
