import MeshRouting.Rule.Basic

/-!
The rules of one listener in the order in which they were committed, and an ascending
index of the priorities in use.
-/

namespace MeshRouting

structure RuleSet where
  rules : List Rule
  priorities : List UInt32

namespace RuleSet

def empty : RuleSet := ⟨[], []⟩

def size (set : RuleSet) : Nat := set.rules.length

def isEmpty (set : RuleSet) : Bool := set.rules.isEmpty

def containsPriority (set : RuleSet) (priority : UInt32) : Bool := set.priorities.contains priority

/-- The first rule of this name. -/
def get? (set : RuleSet) (name : String) : Option Rule := set.rules.find? (·.name = name)

/-- Rules are tried from the lowest priority to the highest. -/
def evaluationOrder (set : RuleSet) : List Rule :=
  set.rules.mergeSort fun a b => a.priority ≤ b.priority

/-- Inserts a priority into an ascending list, once. -/
def insertPriority (priority : UInt32) : List UInt32 → List UInt32
  | [] => [priority]
  | other :: rest =>
      if priority < other then priority :: other :: rest
      else if priority = other then other :: rest
      else other :: insertPriority priority rest

def commit (set : RuleSet) (rule : Rule) : RuleSet :=
  ⟨set.rules ++ [rule], insertPriority rule.priority set.priorities⟩

def describe (set : RuleSet) : String := s!"RuleSet({set.size} rules)"

end RuleSet

end MeshRouting
