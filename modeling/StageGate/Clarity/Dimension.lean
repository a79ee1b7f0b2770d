/-!
The eight dimensions along which the clarity of a project's requirements is judged, each with its
weight and the question it asks, and the ratings that a round of judgement gives them.
-/

set_option autoImplicit false

namespace StageGate.Clarity

inductive Dimension where
  | targetUsers | coreFunctionality | dataModel | integrations | edgeCases | security
  | scalePerformance | scopeBoundaries
  deriving DecidableEq, Repr

namespace Dimension

def all : List Dimension :=
  [targetUsers, coreFunctionality, dataModel, integrations, edgeCases, security, scalePerformance,
    scopeBoundaries]

def name : Dimension → String
  | targetUsers => "target_users"
  | coreFunctionality => "core_functionality"
  | dataModel => "data_model"
  | integrations => "integrations"
  | edgeCases => "edge_cases"
  | security => "security"
  | scalePerformance => "scale_performance"
  | scopeBoundaries => "scope_boundaries"

/-- How much the dimension counts in the score of a project, out of ten. -/
def weight : Dimension → UInt32
  | targetUsers => 10
  | coreFunctionality => 10
  | dataModel => 9
  | integrations => 7
  | edgeCases => 9
  | security => 8
  | scalePerformance => 6
  | scopeBoundaries => 8

def question : Dimension → String
  | targetUsers => "Who will use this? Are user roles, personas, and their needs clearly defined?"
  | coreFunctionality => "Are the main features specific enough to implement without guessing?"
  | dataModel => "Are the entities, their fields, and relationships between them defined?"
  | integrations => "Are external systems, APIs, and third-party services identified?"
  | edgeCases => "Are error states, empty states, and unusual inputs accounted for?"
  | security => "Are authentication, authorization, and data protection needs stated?"
  | scalePerformance => "Are expected load, data volume, and response-time targets known?"
  | scopeBoundaries => "Is it clear what is out of scope for this version?"

def ofName? (text : String) : Option Dimension := all.find? (·.name = text)

theorem ofName?_name (d : Dimension) : ofName? d.name = some d := by cases d <;> decide

theorem ofName?_eq_some_iff {text : String} {d : Dimension} :
    ofName? text = some d ↔ text = d.name := by
  refine ⟨fun h => ?_, fun h => h ▸ ofName?_name d⟩
  have := List.find?_some h
  simpa [eq_comm] using this

end Dimension

def maxScore : UInt8 := 100

/-- A dimension needs more than this score to count as covered. -/
def coveredFloor : UInt8 := 30

/-- A dimension with the weight it has in some judgement and the score it got there. -/
structure Rating where
  dimension : Dimension
  weight : UInt32
  score : UInt8
  deriving DecidableEq, Repr

namespace Rating

def isCovered (r : Rating) : Bool := coveredFloor < r.score

end Rating

def blankRatings : List Rating := Dimension.all.map fun d => ⟨d, d.weight, 0⟩

def uncovered (rs : List Rating) : List Dimension :=
  (rs.filter fun r => !r.isCovered).map (·.dimension)

end StageGate.Clarity
