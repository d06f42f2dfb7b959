import ArgosCore.Federation.Decision

/-! The transport of the federation. Its one implementation delivers in memory, within a
process: what is sent to any destination is received by whoever drains the inbox. -/

namespace ArgosCore

structure InProcessTestTransport where
  outbox : List (String × FederatedArtifact) := []
  inbox : List FederatedArtifact := []

namespace InProcessTestTransport

def send (transport : InProcessTestTransport) (artifact : FederatedArtifact) (destinationInstance : String) :
    String × InProcessTestTransport :=
  (artifact.artifactId,
    { outbox := transport.outbox ++ [(destinationInstance, artifact)], inbox := transport.inbox ++ [artifact] })

def receive (transport : InProcessTestTransport) : List FederatedArtifact × InProcessTestTransport :=
  (transport.inbox, { transport with inbox := [] })

end InProcessTestTransport

end ArgosCore
