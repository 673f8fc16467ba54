import Recollection.Proofs.Contract.Check
import Recollection.Proofs.Service.Transcript
import Recollection.Proofs.Text.AsciiCase
import Recollection.Settings.Basic
/-!
# Decisions by rules

What rules say of a request is told here without deciding on it: its action is among the denied
ones, its context denies it, or its action asks for evidence that it does not have. Every decision
follows from these three, and so do its reasons. More rules never make a decision milder, more
evidence never makes it stricter, and enforcing lets through exactly what is allowed.
-/

set_option autoImplicit false

namespace Recollection

/-! ## What rules say of a request -/

namespace PolicyRules

/-- An action matches an entry, up to ASCII case and white space at the ends. -/
def Matches (entry action : String) : Prop :=
  Text.EqualUpToCase (Text.trim entry) (Text.trim action)

/-- The action of a request is among the denied ones. -/
def DeniesAction (rules : PolicyRules) (request : Policy.Request) : Prop :=
  ∃ entry ∈ rules.deniedActions, Matches entry request.action

/-- The context of a request holds the truth value that denies every action. -/
def DeniesContext (rules : PolicyRules) (request : Policy.Request) : Prop :=
  ∃ members, request.context = .object members ∧
    members.lookup rules.restrictedContextKey = some (.bool true)

/-- A request is denied. -/
def Denies (rules : PolicyRules) (request : Policy.Request) : Prop :=
  rules.DeniesAction request ∨ rules.DeniesContext request

/-- The action of a request needs evidence, and there is none. -/
def LacksEvidence (rules : PolicyRules) (request : Policy.Request) : Prop :=
  (∃ entry ∈ rules.destructiveActions, Matches entry request.action) ∧ request.evidenceIds = []

/-- A response is the one that the rules give to a request. -/
structure Settles (rules : PolicyRules) (request : Policy.Request) (response : Policy.Response) :
    Prop where
  /-- It denies what is denied. -/
  deny : response.decision = .deny ↔ rules.Denies request
  /-- It sends to review what lacks evidence, unless it is denied. -/
  review : response.decision = .review ↔ ¬rules.Denies request ∧ rules.LacksEvidence request
  /-- It allows everything else. -/
  allow : response.decision = .allow ↔ ¬rules.Denies request ∧ ¬rules.LacksEvidence request
  /-- There are no other reasons than these, each is given once, and denials come first. -/
  ordered : response.reasonCodes.Sublist
    ["action_denied", "restricted_context", "evidence_required"]
  /-- The first reason is that the action is denied. -/
  actionDenied : "action_denied" ∈ response.reasonCodes ↔ rules.DeniesAction request
  /-- The second one is that the context denies it. -/
  restrictedContext : "restricted_context" ∈ response.reasonCodes ↔ rules.DeniesContext request
  /-- The last one is that evidence is needed. -/
  evidenceRequired : "evidence_required" ∈ response.reasonCodes ↔ rules.LacksEvidence request
  /-- There are no reasons exactly if the action is allowed. -/
  unexplained : response.reasonCodes = [] ↔ response.decision = .allow

variable {rules : PolicyRules} {request : Policy.Request} {now : EpochMillis}

theorem matchesAny_eq_true_iff (entries : List String) (action : String) :
    matchesAny entries (Text.trim action) = true ↔ ∃ entry ∈ entries, Matches entry action := by
  simp only [matchesAny, List.any_eq_true, beq_iff_eq, Text.lowerAscii_eq_lowerAscii_iff, Matches]

theorem member?_eq_some_iff {document value : Json} {key : String} :
    document.member? key = some value ↔
      ∃ members, document = .object members ∧ members.lookup key = some value := by
  cases document <;> simp [Json.member?]

open Classical in
/-- The reasons to deny a request, by what the rules say of it. -/
theorem denials_eq :
    rules.denials request =
      (if rules.DeniesAction request then ["action_denied"] else []) ++
        (if rules.DeniesContext request then ["restricted_context"] else []) := by
  simp only [denials, matchesAny_eq_true_iff, member?_eq_some_iff, DeniesAction, DeniesContext]
  congr

open Classical in
/-- The reasons to review a request, by what the rules say of it. -/
theorem reviews_eq :
    rules.reviews request =
      if rules.LacksEvidence request then ["evidence_required"] else [] := by
  simp only [reviews, Bool.and_eq_true, matchesAny_eq_true_iff, List.isEmpty_iff, LacksEvidence]
  congr

theorem denials_eq_nil_iff : rules.denials request = [] ↔ ¬rules.Denies request := by
  rw [denials_eq, List.append_eq_nil_iff, Denies, not_or]
  simp

theorem reviews_eq_nil_iff : rules.reviews request = [] ↔ ¬rules.LacksEvidence request := by
  rw [reviews_eq]
  simp

open Classical in
/-- A decision is the strictest one for which there is a cause. -/
theorem decision_judge :
    (rules.judge request now).decision =
      if rules.Denies request then .deny
      else if rules.LacksEvidence request then .review else .allow := by
  simp only [judge, Bool.not_eq_true', List.isEmpty_eq_false_iff, ne_eq, denials_eq_nil_iff,
    reviews_eq_nil_iff, not_not]

/-- The reasons of a decision are its causes. -/
theorem mem_reasonCodes_judge {code : String} :
    code ∈ (rules.judge request now).reasonCodes ↔
      (rules.DeniesAction request ∧ code = "action_denied") ∨
        (rules.DeniesContext request ∧ code = "restricted_context") ∨
          (rules.LacksEvidence request ∧ code = "evidence_required") := by
  simp only [judge, denials_eq, reviews_eq, List.mem_append, List.mem_ite_nil_right,
    List.mem_singleton, or_assoc]

/-- The reasons of a decision come in one order. -/
theorem reasonCodes_judge_sublist :
    (rules.judge request now).reasonCodes.Sublist
      ["action_denied", "restricted_context", "evidence_required"] := by
  have hpart (p : Prop) [Decidable p] (code : String) :
      (if p then [code] else []).Sublist [code] := by
    split
    · exact List.Sublist.refl _
    · exact List.nil_sublist _
  classical
  rw [judge, denials_eq, reviews_eq]
  exact ((hpart _ _).append (hpart _ _)).append (hpart _ _)

/-- The rules judge a request by what they say of it. -/
theorem settles_judge : rules.Settles request (rules.judge request now) where
  deny := by
    rw [decision_judge]
    split_ifs <;> simp [*]
  review := by
    rw [decision_judge]
    split_ifs <;> simp [*]
  allow := by
    rw [decision_judge]
    split_ifs <;> simp [*]
  ordered := reasonCodes_judge_sublist
  actionDenied := by simp [mem_reasonCodes_judge]
  restrictedContext := by simp [mem_reasonCodes_judge]
  evidenceRequired := by simp [mem_reasonCodes_judge]
  unexplained := by
    rw [decision_judge, judge, List.append_eq_nil_iff, denials_eq_nil_iff, reviews_eq_nil_iff]
    split_ifs <;> simp [*]

end PolicyRules

/-! ## Stricter and milder decisions -/

/-- How strict a decision is. -/
def Policy.Decision.strictness : Policy.Decision → Nat
  | .allow => 0
  | .review => 1
  | .deny => 2

namespace PolicyRules

variable {rules more : PolicyRules} {request other : Policy.Request}

/-- A decision is at most as strict as another one for which every cause of it holds as well. -/
theorem Settles.strictness_le {response answer : Policy.Response}
    (hsettles : rules.Settles request response) (hanswers : more.Settles other answer)
    (hdenies : rules.Denies request → more.Denies other)
    (hlacks : rules.LacksEvidence request → more.LacksEvidence other) :
    response.decision.strictness ≤ answer.decision.strictness := by
  cases hdecision : response.decision with
  | allow => exact Nat.zero_le _
  | review =>
    have hevidence := hlacks (hsettles.review.1 hdecision).2
    cases hanswer : answer.decision with
    | allow => exact absurd hevidence (hanswers.allow.1 hanswer).2
    | review | deny => decide
  | deny =>
    have hanswer := hanswers.deny.2 (hdenies (hsettles.deny.1 hdecision))
    exact Nat.le_of_eq (congrArg Policy.Decision.strictness hanswer.symm)

/-- More entries deny and ask for evidence of no fewer requests. -/
theorem Denies.mono (hdenied : rules.deniedActions ⊆ more.deniedActions)
    (hkey : more.restrictedContextKey = rules.restrictedContextKey)
    (hdenies : rules.Denies request) : more.Denies request := by
  obtain ⟨entry, hmem, hmatches⟩ | hcontext := hdenies
  · exact .inl ⟨entry, hdenied hmem, hmatches⟩
  · right
    rwa [DeniesContext, hkey]

theorem LacksEvidence.mono (hdestructive : rules.destructiveActions ⊆ more.destructiveActions)
    (hlacks : rules.LacksEvidence request) : more.LacksEvidence request := by
  obtain ⟨⟨entry, hmem, hmatches⟩, hnone⟩ := hlacks
  exact ⟨⟨entry, hdestructive hmem, hmatches⟩, hnone⟩

end PolicyRules

/-! ## Deciding and enforcing -/

/-- The denial of a request with the decision and the reasons of a response. -/
def Policy.Response.denial (response : Policy.Response) (request : Policy.Request) :
    Policy.Denial where
  spaceId := request.spaceId
  actorId := request.actorId
  action := request.action
  decision := response.decision
  reasonCodes := response.reasonCodes

/-- Enforcing a decision lets through what is allowed, and denies the request otherwise. -/
theorem PolicyService.enforce_of_decide {σ : Type} {service : PolicyService σ}
    {timeOfDay : EpochMillis} {request : Policy.Request} {state after : σ}
    {response : Policy.Response}
    (hdecide : service.decide timeOfDay request state = (.ok response, after)) :
    service.enforce timeOfDay request state =
      (if response.decision = .allow then .ok response
        else .error (.denied (response.denial request)), after) := by
  rw [enforce, hdecide]
  by_cases hallow : response.decision = .allow
  · simp only [Policy.Response.toDenial?, if_pos hallow]
  · simp only [Policy.Response.toDenial?, if_neg hallow]
    rfl

namespace InMemory

/-- Rules decide on every request that passes its check. -/
theorem decide_eq_judge {request : Policy.Request}
    (hvalid : Policy.Request.contract.validate request = .ok ()) (rules : PolicyRules)
    (now : EpochMillis) : decide rules request now = .ok (rules.judge request now) := by
  rw [decide, hvalid]
  rfl

/-- The decision on a request that passes its check follows from what the rules say of it. More
entries never make it milder, more evidence never makes it stricter, and enforcing it lets the
request through exactly if it is allowed. -/
theorem decisions_follow_rules (rules : PolicyRules) {request : Policy.Request}
    (hvalid : Policy.Request.contract.validate request = .ok ()) (now : EpochMillis) :
    ∃ response, decide rules request now = .ok response ∧ rules.Settles request response ∧
      (∀ (more : PolicyRules) (later : EpochMillis), rules.deniedActions ⊆ more.deniedActions →
        rules.destructiveActions ⊆ more.destructiveActions →
        more.restrictedContextKey = rules.restrictedContextKey →
        ∃ answer, decide more request later = .ok answer ∧
          response.decision.strictness ≤ answer.decision.strictness) ∧
      (∀ (evidence : List EvidenceId) (later : EpochMillis), request.evidenceIds ⊆ evidence →
        ∃ answer, decide rules { request with evidenceIds := evidence } later = .ok answer ∧
          answer.decision.strictness ≤ response.decision.strictness) ∧
      (∀ (σ : Type) (clock : Clock) (timeOfDay : EpochMillis) (state : σ),
        clock.read timeOfDay = now →
        (policy rules clock).enforce timeOfDay request state =
          (if response.decision = .allow then .ok response
            else .error (.denied (response.denial request)), state)) := by
  refine ⟨rules.judge request now, decide_eq_judge hvalid rules now, PolicyRules.settles_judge,
    ?_, ?_, ?_⟩
  · intro more later hdenied hdestructive hkey
    refine ⟨_, decide_eq_judge hvalid more later, ?_⟩
    exact PolicyRules.settles_judge.strictness_le PolicyRules.settles_judge
      (PolicyRules.Denies.mono hdenied hkey) (PolicyRules.LacksEvidence.mono hdestructive)
  · intro evidence later hmore
    -- The check of a request does not look at its evidence, nor does anything that denies it.
    have hother : Policy.Request.contract.validate { request with evidenceIds := evidence } =
      .ok () := hvalid
    refine ⟨_, decide_eq_judge hother rules later, ?_⟩
    refine PolicyRules.settles_judge.strictness_le PolicyRules.settles_judge id ?_
    rintro ⟨hmatches, rfl⟩
    exact ⟨hmatches, List.subset_nil.1 hmore⟩
  · intro σ clock timeOfDay state hclock
    apply PolicyService.enforce_of_decide
    show (decide rules request (clock.read timeOfDay), state) = _
    rw [hclock, decide_eq_judge hvalid]

/-- A request to purge the tongs, without evidence and in an odd hand. -/
def purgeTongs : Policy.Request where
  spaceId := village
  actorId := ⟨"smith", by decide +kernel, by decide⟩
  action := " PURGE "
  resourceId := ⟨"tongs", by decide +kernel, by decide⟩
  evidenceIds := []
  context := .object [("restricted", .string "true")]

/-- The standard rules send the request to review, and enforcing them denies it; the text in the
context is no truth value. -/
theorem purgeTongs_reviewed :
    Policy.Request.contract.validate purgeTongs = .ok () ∧
      ∃ response, decide .standard purgeTongs 7 = .ok response ∧ response.decision = .review ∧
        (policy .standard (.frozen 7)).enforce 9 purgeTongs () =
          (.error (.denied (response.denial purgeTongs)), ()) := by
  have hvalid : Policy.Request.contract.validate purgeTongs = .ok () := by decide +kernel
  obtain ⟨response, hdecide, hsettles, -, -, henforce⟩ :=
    decisions_follow_rules .standard hvalid 7
  have hmatches : PolicyRules.Matches "purge" purgeTongs.action :=
    (Text.lowerAscii_eq_lowerAscii_iff _ _).1 (by decide +kernel)
  have hreview : response.decision = .review := by
    refine hsettles.review.2 ⟨?_, ⟨"purge", by decide, hmatches⟩, rfl⟩
    rintro (⟨entry, hmem, -⟩ | ⟨members, hcontext, hflag⟩)
    · cases hmem
    · cases hcontext
      cases hflag
  refine ⟨hvalid, response, hdecide, hreview, ?_⟩
  rw [henforce Unit (.frozen 7) 9 () rfl, if_neg (by rw [hreview]; decide)]

end InMemory

end Recollection
