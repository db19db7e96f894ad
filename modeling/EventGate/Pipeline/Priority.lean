/-! # Priorities

The fixed order of the stages that an event passes. Manifests are written for this order.
-/

namespace EventGate

inductive Priority where
  | manifestExclude
  | customOptOut
  | manifestOptOut
  | manifestThrottling
  | manifestPersonal
  | metric
  | setting
  | personal
  | restriction
  | structured
  | suppressEmpty
  | generalThrottling
  | manifestRoute
deriving DecidableEq, Repr

namespace Priority

def all : List Priority :=
  [manifestExclude, customOptOut, manifestOptOut, manifestThrottling, manifestPersonal, metric,
    setting, personal, restriction, structured, suppressEmpty, generalThrottling, manifestRoute]

def value : Priority → Nat
  | manifestExclude => 0
  | customOptOut => 1
  | manifestOptOut => 2
  | manifestThrottling => 3
  | manifestPersonal => 4
  | metric => 50
  | setting => 60
  | personal => 100
  | restriction => 200
  | structured => 250
  | suppressEmpty => 300
  | generalThrottling => 1000
  | manifestRoute => 10000

def label : Priority → String
  | manifestExclude => "ManifestExclude"
  | customOptOut => "CustomOptOut"
  | manifestOptOut => "ManifestOptOut"
  | manifestThrottling => "ManifestThrottling"
  | manifestPersonal => "ManifestPii"
  | metric => "Metric"
  | setting => "Setting"
  | personal => "Pii"
  | restriction => "AiRestrictionEnforcement"
  | structured => "ComplexProperty"
  | suppressEmpty => "SuppressEmptyPostProperty"
  | generalThrottling => "GeneralThrottling"
  | manifestRoute => "ManifestRoute"

def ofLabel? (label : String) : Option Priority :=
  all.find? (·.label == label)

def text (p : Priority) : String :=
  p.label ++ "(" ++ p.value.repr ++ ")"

theorem value_injective {p q : Priority} (h : p.value = q.value) : p = q := by
  cases p <;> cases q <;> first | rfl | exact absurd h (by decide)

theorem ofLabel?_label (p : Priority) : ofLabel? p.label = some p := by
  cases p <;> decide

theorem mem_all (p : Priority) : p ∈ all := by
  cases p <;> decide

theorem all_ordered : all.Pairwise fun p q => p.value < q.value := by
  decide

theorem value_le (p : Priority) : p.value ≤ manifestRoute.value := by
  cases p <;> decide

end Priority

end EventGate
