import ClusterOperator.Entity.Cluster
import ClusterOperator.Entity.Query
import ClusterOperator.Text.Blank

/-!
# Validation of wanted states

* `Invalid` : the reasons to refuse a spec, and `Invalid.message`, their texts;
* `ClusterSpec.validate`, `QuerySpec.validate` : the first reason that applies.
-/

namespace ClusterOperator

/-- A reason to refuse a spec. -/
inductive Invalid where
  | imageMissing
  | replicasNegative
  | portOutOfRange
  | endpointMissing
  | endpointScheme
  | clusterIDMissing
  /-- A refusal with a text of its own. -/
  | other (message : String)
  deriving DecidableEq, Repr

def Invalid.message : Invalid → String
  | .imageMissing => "spec.image is required"
  | .replicasNegative => "spec.replicas must be non-negative"
  | .portOutOfRange => "spec.port must be between 1 and 65535"
  | .endpointMissing => "APIEndpoint required"
  | .endpointScheme => "APIEndpoint must start with http:// or https://"
  | .clusterIDMissing => "ClusterID required for cluster query type"
  | .other message => message

/-- An image is named, the replica count is not negative, and the port exists. -/
def ClusterSpec.validate (s : ClusterSpec) : Except Invalid Unit :=
  if Text.isBlankText s.image then .error .imageMissing
  else if s.replicas.any (· < 0) then .error .replicasNegative
  else if s.port.any (fun p => p < 1 || 65535 < p) then .error .portOutOfRange
  else .ok ()

def hasWebScheme (s : List Char) : Bool :=
  "http://".toList.isPrefixOf s || "https://".toList.isPrefixOf s

/-- The endpoint, without the blanks around it, is a web address, and a lookup of one cluster
names it. -/
def QuerySpec.validate (s : QuerySpec) : Except Invalid Unit :=
  let endpoint := Text.trimChars s.apiEndpoint.toList
  if endpoint.isEmpty then .error .endpointMissing
  else if !hasWebScheme endpoint then .error .endpointScheme
  else if s.query = .cluster ∧ s.clusterID.all Text.isBlankText then .error .clusterIDMissing
  else .ok ()

end ClusterOperator
