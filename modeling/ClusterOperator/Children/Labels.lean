import ClusterOperator.Object.Metadata

/-!
# Labels of child objects

* `selectorLabels` : the labels that select a cluster's pods, a function of its name alone;
* `commonLabels` : all labels of a child; the version is stamped when there is one;
* `managedBySelector` : the selector text of every child this operator manages.
-/

namespace ClusterOperator.Children

def labelName : String := "app.kubernetes.io/name"
def labelInstance : String := "app.kubernetes.io/instance"
def labelVersion : String := "app.kubernetes.io/version"
def labelPartOf : String := "app.kubernetes.io/part-of"
def labelManagedBy : String := "app.kubernetes.io/managed-by"

def applicationName : String := "bss-cluster"

def operatorName : String := "bss-operator"

/-- The labels that select the pods of the cluster called `instance`. -/
def selectorLabels (instanceName : String) : Labels :=
  (({} : Labels).insert labelName applicationName).insert labelInstance instanceName

/-- The labels of the children of the cluster called `instance`. An empty version counts as
none. -/
def commonLabels (instanceName : String) (version : Option String) : Labels :=
  let labels := ((selectorLabels instanceName).insert labelPartOf operatorName).insert
    labelManagedBy operatorName
  match version with
  | none => labels
  | some v => if v.isEmpty then labels else labels.insert labelVersion v

/-- The selector text of every child this operator manages. -/
def managedBySelector : String :=
  labelManagedBy ++ "=" ++ operatorName

end ClusterOperator.Children
