import Recollection.Service.Basic
import Recollection.Service.Clock
import Recollection.Text.Blank
/-!
# Policy by rules

Some actions are always denied, some need evidence and go to review without it, and a flag in the
context denies every action. Every rule that applies gives its reason, and the strictest outcome
among the rules that apply is the decision.
-/

set_option autoImplicit false

namespace Recollection

/-- The rules of a policy. -/
structure PolicyRules where
  /-- Actions that are denied. -/
  deniedActions : List String
  /-- Actions that need evidence. -/
  destructiveActions : List String
  /-- The member of the context that denies every action when it is true. -/
  restrictedContextKey : String
deriving DecidableEq, Repr

namespace PolicyRules

/-- Whether an action is among the entries of a list, apart from white space and ASCII case. -/
def matchesAny (entries : List String) (action : String) : Bool :=
  entries.any fun entry => Text.lowerAscii (Text.trim entry) == Text.lowerAscii action

/-- The reasons to deny a request. -/
def denials (rules : PolicyRules) (request : Policy.Request) : List String :=
  let action := Text.trim request.action
  (if matchesAny rules.deniedActions action then ["action_denied"] else []) ++
    (if request.context.member? rules.restrictedContextKey = some (.bool true) then
      ["restricted_context"] else [])

/-- The reasons to review a request. -/
def reviews (rules : PolicyRules) (request : Policy.Request) : List String :=
  if matchesAny rules.destructiveActions (Text.trim request.action) &&
      request.evidenceIds.isEmpty then ["evidence_required"] else []

/-- The decision on a request, taken at an instant. -/
def judge (rules : PolicyRules) (request : Policy.Request) (now : EpochMillis) :
    Policy.Response :=
  let denials := rules.denials request
  let reviews := rules.reviews request
  let decision : Policy.Decision :=
    if !denials.isEmpty then .deny else if !reviews.isEmpty then .review else .allow
  ⟨decision, denials ++ reviews, now⟩

end PolicyRules

namespace InMemory

/-- Decides on a request by rules. -/
def decide (rules : PolicyRules) (request : Policy.Request) (now : EpochMillis) :
    Except Policy.Fault Policy.Response := do
  (Policy.Request.contract.validate request).mapError .rejected
  return rules.judge request now

/-- Policy by rules. -/
def policy {σ : Type} (rules : PolicyRules) (clock : Clock) : PolicyService σ where
  decide timeOfDay request state := (decide rules request (clock.read timeOfDay), state)

end InMemory

end Recollection
