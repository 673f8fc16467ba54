import Recollection.Proofs.Benchmark.Capture
import Recollection.Proofs.Benchmark.Sanitized
import Recollection.Proofs.Service.Payloads
/-!
# No secret is kept

The engine writes sanitized texts and nothing else. So a store that is fed by the engine alone keeps
no secret, whatever is asked of it and whatever is removed from it in between.

Of a text that opens no script block, sanitizing takes the values of the keys and the white space at
the end; so what it makes of the text does not depend on these values.
-/

set_option autoImplicit false

namespace Recollection.Benchmark

/-! ## What the engine writes -/

/-- A payload that the engine may write: a text without a secret, and nothing else. -/
def SecretFree (payload : Json) : Prop :=
  ∃ text : String, payload = .object [("text", .string text)] ∧ ¬ secretMarker <:+: text.toList

section Engine

variable {σ : Type} (engine : Engine σ) (state : σ)

theorem state_perform_ingest (event : Event) :
    (engine.perform (.ingest event) state).2 = (engine.ingest event state).2 :=
  rfl

theorem state_perform_replay (event : Event) :
    (engine.perform (.replay event) state).2 = (engine.ingest event state).2 :=
  rfl

theorem state_perform_recollect (query : Query) :
    (engine.perform (.recollect query) state).2 = (engine.recollect query state).2 :=
  rfl

end Engine

namespace ContractEngine

variable (settings : Settings) (clock : Clock) (timeOfDay : EpochMillis)

/-- An event that cannot be made a batch changes nothing; any other is taken in as its batch. -/
theorem state_ingest (event : Event) (state : InMemory.State) :
    (ingest (.inMemory settings clock) timeOfDay event state).2 = state ∨
      ∃ request, batch event (sanitize event.text).text = .ok request ∧
        (ingest (.inMemory settings clock) timeOfDay event state).2 =
          (InMemory.perform settings clock ⟨timeOfDay, .ingest request⟩ state).2 := by
  have hperform : ∀ request, (InMemory.perform settings clock ⟨timeOfDay, .ingest request⟩
      state).2 = (InMemory.ingest clock timeOfDay request state).2 := fun _ => rfl
  rcases ingest_cases settings clock timeOfDay event state with
    ⟨fault, hfailed⟩ | ⟨request, hbatch, ⟨cause, fault, after, hbatched, hfailed⟩ |
      ⟨response, after, hbatched, hanswered⟩⟩
  · left
    rw [hfailed]
  · exact .inr ⟨request, hbatch, by rw [hperform, hbatched, hfailed]⟩
  · exact .inr ⟨request, hbatch, by rw [hperform, hbatched, hanswered]⟩

/-- A recall changes nothing. -/
theorem state_recollect (query : Query) (state : InMemory.State) :
    (recollect (.inMemory settings clock) timeOfDay query state).2 = state := by
  rcases recollect_cases settings clock timeOfDay query state with
    ⟨fault, hfailed⟩ | ⟨spaceId, response, -, -, hanswered⟩
  · rw [hfailed]
  · rw [hanswered]

theorem secretFree_ingest (event : Event) {state : InMemory.State}
    (hstate : state.store.EveryPayload SecretFree) :
    (ingest (.inMemory settings clock) timeOfDay event state).2.store.EveryPayload SecretFree := by
  rcases state_ingest settings clock timeOfDay event state with hsame | ⟨request, hbatch, hafter⟩
  · rw [hsame]
    exact hstate
  · rw [hafter]
    refine InMemory.everyPayload_perform settings clock ?_ hstate
    intro payload hpayload
    obtain ⟨record, hrecord, rfl⟩ := List.mem_map.1 hpayload
    obtain ⟨recordId, spaceId, hrecords⟩ := records_of_batch hbatch
    rw [hrecords, List.mem_singleton] at hrecord
    rw [hrecord]
    exact ⟨_, rfl, not_secret_sanitize event.text⟩

theorem secretFree_perform (call : EngineCall) {state : InMemory.State}
    (hstate : state.store.EveryPayload SecretFree) :
    ((overMemory settings clock timeOfDay).perform call state).2.store.EveryPayload
      SecretFree := by
  cases call with
  | ingest event =>
    rw [state_perform_ingest]
    exact secretFree_ingest settings clock timeOfDay event hstate
  | replay event =>
    rw [state_perform_replay]
    exact secretFree_ingest settings clock timeOfDay event hstate
  | recollect query =>
    have hsame := state_recollect settings clock timeOfDay query state
    rw [state_perform_recollect]
    rw [← hsame] at hstate
    exact hstate

end ContractEngine

/-! ## Stores that are fed by the engine -/

/-- States that services in memory can come to when nothing but the engine writes to them. -/
inductive FedByEngine (settings : Settings) (clock : Clock) : InMemory.State → Prop
  /-- Nothing was written. -/
  | empty : FedByEngine settings clock .empty
  /-- The engine is called. -/
  | engine {state : InMemory.State} (hstate : FedByEngine settings clock state)
    (timeOfDay : EpochMillis) (call : EngineCall) :
    FedByEngine settings clock
      ((ContractEngine.overMemory settings clock timeOfDay).perform call state).2
  /-- A client removes a memory, or asks for something. -/
  | client {state : InMemory.State} (hstate : FedByEngine settings clock state)
    (call : InMemory.Invocation) (hcommand : call.command.payloads = []) :
    FedByEngine settings clock (InMemory.perform settings clock call state).2

theorem FedByEngine.secretFree {settings : Settings} {clock : Clock} {state : InMemory.State}
    (hfed : FedByEngine settings clock state) : state.store.EveryPayload SecretFree := by
  induction hfed with
  | empty => exact Store.EveryPayload.empty _
  | engine _ timeOfDay call ih =>
    exact ContractEngine.secretFree_perform settings clock timeOfDay call ih
  | client _ call hcommand ih =>
    refine InMemory.everyPayload_perform settings clock ?_ ih
    rw [hcommand]
    rintro payload ⟨⟩

/-! ## What is left of a text -/

/-- Redacting depends on the texts around the values alone. -/
theorem redactedText_congr (front : List Char) {mentions others : List Mention}
    (hafter : mentions.map Mention.after = others.map Mention.after) :
    redactedText front mentions = redactedText front others := by
  have hredacted : ∀ all : List Mention, all.flatMap Mention.redacted =
      (all.map Mention.after).flatMap fun after => secretName ++ redaction ++ after := by
    intro all
    rw [List.flatMap_map]
    rfl
  rw [redactedText, redactedText, hredacted, hafter, ← hredacted]

theorem Keyed.sanitize_eq {front : List Char} {mentions : List Mention}
    (hkeyed : Keyed front mentions) (hopening : ¬ scriptOpening <:+: writtenText front mentions) :
    sanitize (.ofList (writtenText front mentions)) =
      ⟨.ofList (Text.trimEndChars (redactedText front mentions)), mentions.length, 0⟩ := by
  rw [Benchmark.sanitize_eq, String.toList_ofList, stripScripts_of_none hopening,
    hkeyed.redactSecrets_eq]

/-- No secret survives: not in a sanitized text, and not in a store that the engine alone has fed.
What becomes of a text that is taken apart at its keys is told by the texts around their values. -/
theorem no_secret_survives :
    (∀ text, ¬ secretMarker <:+: (sanitize text).text.toList) ∧
    (∀ settings clock state, FedByEngine settings clock state →
      ∀ key memory, state.store.get? key = some memory → SecretFree memory.payload) ∧
    (∀ front mentions, Keyed front mentions → ¬ scriptOpening <:+: writtenText front mentions →
      sanitize (.ofList (writtenText front mentions)) =
        ⟨.ofList (Text.trimEndChars (redactedText front mentions)), mentions.length, 0⟩) ∧
    (∀ front mentions others, Keyed front mentions → Keyed front others →
      mentions.map Mention.after = others.map Mention.after →
      ¬ scriptOpening <:+: writtenText front mentions →
      ¬ scriptOpening <:+: writtenText front others →
      sanitize (.ofList (writtenText front mentions)) =
        sanitize (.ofList (writtenText front others))) := by
  refine ⟨not_secret_sanitize, ?store, fun _ _ => Keyed.sanitize_eq, ?alike⟩
  case store =>
    intro settings clock state hfed
    exact hfed.secretFree
  case alike =>
    intro front mentions others hkeyed hother hafter hopening hopening'
    have hlength : mentions.length = others.length := by
      rw [← List.length_map Mention.after, hafter, List.length_map]
    rw [hkeyed.sanitize_eq hopening, hother.sanitize_eq hopening', redactedText_congr front hafter,
      hlength]

/-- The mentions of two keys, the first value of which has a marker in it, and the last nothing but
its mark. -/
def twoMentions : List Mention :=
  [⟨"sk-aapi_key=sk-b".toList, " mill ".toList⟩, ⟨"sk-".toList, []⟩]

/-- The same mentions with other values. -/
def otherMentions : List Mention :=
  [⟨"sk-1".toList, " mill ".toList⟩, ⟨"sk-<script".toList, []⟩]

theorem keyed_twoMentions : Keyed "forge ".toList twoMentions := by
  refine .mention ?_ ⟨?_, Text.solid_of_any_eq_false ?_⟩ ((Option.all_eq_true _ _).1 ?_) ?_
    (.mention ?_ ⟨?_, Text.solid_of_any_eq_false ?_⟩ ((Option.all_eq_true _ _).1 ?_) ?_ (.last ?_))
  all_goals decide +kernel

theorem keyed_otherMentions : Keyed "forge ".toList otherMentions := by
  refine .mention ?_ ⟨?_, Text.solid_of_any_eq_false ?_⟩ ((Option.all_eq_true _ _).1 ?_) ?_
    (.mention ?_ ⟨?_, Text.solid_of_any_eq_false ?_⟩ ((Option.all_eq_true _ _).1 ?_) ?_ (.last ?_))
  all_goals decide +kernel

/-- A note with these keys. -/
def keyedNote : Event :=
  ⟨"village", "anvil", .episodic, 0, "forge api_key=sk-aapi_key=sk-b mill api_key=sk-"⟩

/-- The state of the services once it was taken in. -/
def keyedState : InMemory.State :=
  ((ContractEngine.overMemory .deterministic .deterministic 0).perform (.ingest keyedNote) .empty).2

theorem keyedNote_redacted :
    sanitize "forge api_key=sk-aapi_key=sk-b mill api_key=sk-" =
        ⟨"forge api_key=[REDACTED] mill api_key=[REDACTED]", 2, 0⟩ ∧
      sanitize "forge api_key=sk-aapi_key=sk-b mill api_key=sk-" =
        sanitize "forge api_key=sk-1 mill api_key=sk-<script" ∧
      ∃ memory, keyedState.store.get? ⟨InMemory.village, InMemory.anvil⟩ = some memory ∧
        SecretFree memory.payload := by
  obtain ⟨-, hstore, hsanitize, halike⟩ := no_secret_survives
  have hopening : ¬ scriptOpening <:+: writtenText "forge ".toList twoMentions := by decide +kernel
  have hother : ¬ scriptOpening <:+: writtenText "forge ".toList otherMentions := by
    decide +kernel
  refine ⟨?_, ?_, ?_⟩
  · refine Eq.trans ?_ ((hsanitize _ _ keyed_twoMentions hopening).trans ?_)
    · exact congrArg sanitize (by decide +kernel)
    · decide +kernel
  · refine Eq.trans ?_ ((halike _ _ _ keyed_twoMentions keyed_otherMentions (by decide +kernel)
      hopening hother).trans ?_)
    · exact congrArg sanitize (by decide +kernel)
    · exact congrArg sanitize (by decide +kernel)
  · have hlive : (keyedState.store.get? ⟨InMemory.village, InMemory.anvil⟩).isSome = true := by
      decide +kernel
    obtain ⟨memory, hmemory⟩ := Option.isSome_iff_exists.1 hlive
    have hfed : FedByEngine .deterministic .deterministic keyedState := .engine .empty 0 _
    exact ⟨memory, hmemory, hstore _ _ _ hfed _ _ hmemory⟩

end Recollection.Benchmark
