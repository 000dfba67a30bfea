import ClusterOperator.Definition.Schema
import ClusterOperator.Entity.Cluster
import ClusterOperator.Entity.Query
import ClusterOperator.Yaml

/-!
# Definitions of the managed entities

* `clusterSpecSchema`, `clusterStatusSchema`, `querySpecSchema`, `queryStatusSchema` : the forms of
  the wanted and of the observed states;
* `EntityDefinition` : what the platform API has to know about a kind of entity;
* `EntityDefinition.encode` : the definition as an object of the platform API;
* `definitionStream` : all definitions as one stream of documents.
-/

namespace ClusterOperator

open Schema

def optionalField (name : String) (s : Schema) : String × Bool × Schema :=
  (name, false, .nullable s)

def conditionSchema : Schema :=
  ofFields [
    optionalField "lastTransitionTime" text,
    optionalField "message" text,
    optionalField "reason" text,
    ("status", true, choice ([.yes, .no, .unknown].map ConditionStatus.name)),
    ("type", true, choice ([.available, .degraded, .unknown].map ConditionType.name))]

def resourceRefSchema : Schema :=
  ofFields [("kind", true, text), ("name", true, text)]

def clusterSpecSchema : Schema :=
  ofFields [
    optionalField "expose"
      (.described "Whether to keep a Service in front of the workload; defaults to true" boolean),
    ("image", false, .emptyByDefault
      (.described "Container image for the cluster workload (required)" text)),
    optionalField "port" (.described "Container and service port; defaults to 8080" int32),
    optionalField "replicas" (.described "Desired replica count; defaults to 1" int32),
    optionalField "version"
      (.described "Informational version, stamped on child labels" text)]

def clusterStatusSchema : Schema :=
  ofFields [
    ("conditions", false, .list conditionSchema),
    optionalField "lastReconcileTime"
      (.described "Time of the last fully successful pass (RFC3339)" text),
    optionalField "message" text,
    optionalField "observedGeneration" int64,
    optionalField "phase"
      (.described (" | ".intercalate (Phase.all.map Phase.name)) text),
    ("resourceRefs", false,
      .described "Children applied by the last successful pass" (.list resourceRefSchema))]

def querySpecSchema : Schema :=
  ofFields [
    ("apiEndpoint", false, .emptyByDefault
      (.described "URL of the BSS API GraphQL endpoint" text)),
    optionalField "clusterID"
      (.described "Cluster to look up; required for \x60cluster\x60 queries" text),
    ("query", true, .described "What to query: a single cluster or the full listing"
      (choice ([.cluster, .clusters].map QueryKind.name))),
    optionalField "refreshInterval"
      (.described "Seconds between refreshes; unset or non-positive uses the default" int32)]

def queryStatusSchema : Schema :=
  ofFields [
    optionalField "clusterCount" (.described "Number of clusters in \x60result\x60" int64),
    ("conditions", false, .list conditionSchema),
    optionalField "lastQueryTime"
      (.described "Time of the last successful query (RFC3339)" text),
    optionalField "observedGeneration" int64,
    optionalField "result" (.described "JSON result of the last successful query" text)]

/-- What the platform API has to know about a kind of entity. -/
structure EntityDefinition where
  kindName : String
  plural : String
  singular : String
  shortName : String
  spec : Schema
  status : Schema

namespace EntityDefinition

def cluster : EntityDefinition where
  kindName := Managed.kindName ClusterSpec
  plural := Managed.plural ClusterSpec
  singular := "bsscluster"
  shortName := "bssc"
  spec := clusterSpecSchema
  status := clusterStatusSchema

def query : EntityDefinition where
  kindName := Managed.kindName QuerySpec
  plural := Managed.plural QuerySpec
  singular := "bssquery"
  shortName := "bssq"
  spec := querySpecSchema
  status := queryStatusSchema

def all : List EntityDefinition :=
  [cluster, query]

def ofKind? (kindName : String) : Option EntityDefinition :=
  all.find? (·.kindName = kindName)

/-- The schema of an entity: the wanted state is needed, the observed state may be missing. -/
def objectSchema (d : EntityDefinition) : Json :=
  .obj [
    ("description",
      .str ("Auto-generated derived type for " ++ d.kindName ++ "Spec via \x60CustomResource\x60")),
    ("properties", .obj [("spec", d.spec.encode), ("status", (Schema.nullable d.status).encode)]),
    ("required", .arr [.str "spec"]),
    ("title", .str d.kindName),
    ("type", .str "object")]

def encode (d : EntityDefinition) : Json :=
  .obj [
    ("apiVersion", .str "apiextensions.k8s.io/v1"),
    ("kind", .str "CustomResourceDefinition"),
    ("metadata", .obj [("name", .str (d.plural ++ "." ++ apiGroup))]),
    ("spec", .obj [
      ("group", .str apiGroup),
      ("names", .obj [
        ("categories", .arr []),
        ("kind", .str d.kindName),
        ("plural", .str d.plural),
        ("shortNames", .arr [.str d.shortName]),
        ("singular", .str d.singular)]),
      ("scope", .str "Namespaced"),
      ("versions", .arr [.obj [
        ("additionalPrinterColumns", .arr []),
        ("name", .str apiVersionName),
        ("schema", .obj [("openAPIV3Schema", d.objectSchema)]),
        ("served", .bool true),
        ("storage", .bool true),
        ("subresources", .obj [("status", .obj [])])]])])]

def document (d : EntityDefinition) : String :=
  Yaml.text d.encode

end EntityDefinition

/-- All definitions as one stream, each behind a separator and before an empty line. -/
def definitionStream : String :=
  String.join (EntityDefinition.all.map fun d => "---\n" ++ d.document ++ "\n")

end ClusterOperator
