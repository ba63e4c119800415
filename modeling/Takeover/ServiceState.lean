/-
# Takeover.ServiceState -- the lifecycle of a service

A service is constructed `new`, is `starting`, then `running`, then `stopping`,
and ends `terminated`; a start or a stop that goes wrong ends in `failed`.  A
state is only ever left forwards (`rank_lt_of_leadsTo`), and the two ends are
exactly the states that nothing leaves (`isTerminal_iff`).
-/
namespace Takeover

set_option autoImplicit false

/-- Where a service is in its life. -/
inductive ServiceState where
  | new
  | starting
  | running
  | stopping
  | terminated
  | failed
deriving DecidableEq, Repr, Inhabited

namespace ServiceState

/-- All states, in the order of a life. -/
def all : List ServiceState := [.new, .starting, .running, .stopping, .terminated, .failed]

/-- Whether going from one state to another is a legal step of a life. -/
def leadsTo : ServiceState → ServiceState → Bool
  | .new, .starting => true
  | .starting, .running => true
  | .starting, .failed => true
  | .running, .stopping => true
  | .stopping, .terminated => true
  | .stopping, .failed => true
  | _, _ => false

/-- Whether the service is at the end of its life. -/
def isTerminal : ServiceState → Bool
  | .terminated => true
  | .failed => true
  | _ => false

/-- The state as operators read it. -/
def text : ServiceState → String
  | .new => "new"
  | .starting => "starting"
  | .running => "running"
  | .stopping => "stopping"
  | .terminated => "terminated"
  | .failed => "failed"

/-- The state as a tag in data. -/
def tag : ServiceState → String
  | .new => "New"
  | .starting => "Starting"
  | .running => "Running"
  | .stopping => "Stopping"
  | .terminated => "Terminated"
  | .failed => "Failed"

/-- The state written with the given text. -/
def ofText? (s : String) : Option ServiceState := all.find? fun state => state.text == s

/-- The state with the given tag. -/
def ofTag? (s : String) : Option ServiceState := all.find? fun state => state.tag == s

/-- How many steps of a life lie behind a state at least. -/
def rank : ServiceState → Nat
  | .new => 0
  | .starting => 1
  | .running => 2
  | .stopping => 3
  | .terminated => 4
  | .failed => 4

theorem mem_all (state : ServiceState) : state ∈ all := by cases state <;> decide

theorem rank_lt_of_leadsTo {here there : ServiceState} (h : here.leadsTo there = true) :
    here.rank < there.rank := by
  cases here <;> cases there <;> simp_all [leadsTo, rank]

theorem isTerminal_iff (state : ServiceState) :
    state.isTerminal = true ↔ ∀ next, state.leadsTo next = false := by
  cases state <;> simp only [isTerminal, true_iff, Bool.false_eq_true, false_iff]
  case new => exact fun h => nomatch h .starting
  case starting => exact fun h => nomatch h .running
  case running => exact fun h => nomatch h .stopping
  case stopping => exact fun h => nomatch h .terminated
  case terminated => intro next; cases next <;> rfl
  case failed => intro next; cases next <;> rfl

@[simp] theorem ofTag?_tag (state : ServiceState) : ofTag? state.tag = some state := by
  cases state <;> rfl

theorem ofTag?_eq_some_iff {s : String} {state : ServiceState} :
    ofTag? s = some state ↔ s = state.tag := by
  refine ⟨fun h => ?_, fun h => h ▸ ofTag?_tag state⟩
  have same := @List.find?_some _ (fun state : ServiceState => state.tag == s) _ _ h
  exact (eq_of_beq same).symm

end ServiceState

end Takeover
