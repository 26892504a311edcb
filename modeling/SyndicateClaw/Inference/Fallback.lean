import SyndicateClaw.Data.FallbackChain
import SyndicateClaw.Inference.RoutedCandidates
import SyndicateClaw.Inference.Service

/-! The chains of chat and of embedding: which candidates are attempted, and what comes of it. -/

namespace SyndicateClaw.Inference

open Async Authz FallbackChain

variable {F : Type}

/-! ### Surroundings -/

structure Surroundings (F : Type) where
  registry : ProviderRegistry
  catalog : ModelCatalog F
  clock : Time
  answer : String × String → Except Failure AdapterResponse

/-- Adapters that answer by candidate, with an audit service and an idempotency store that accept. -/
def answeringAdapters (answer : String × String → Except Failure AdapterResponse) : Outside where
  adapter call := answer (call.provider.id, call.modelId)
  stream _ := ([], none)
  emit _ := none
  idempotencyBegin := .error { errorType := "OperationalError", message := "" }
  idempotencyUpdate := none

def World.amid (world : World F) (surroundings : Surroundings F) : World F :=
  { world with
    registry := surroundings.registry, catalog := surroundings.catalog, clock := surroundings.clock
    outside := answeringAdapters surroundings.answer }

section

variable (world : World F) (surroundings : Surroundings F)

@[simp] theorem World.registry_amid :
    (world.amid surroundings).registry = surroundings.registry := rfl

@[simp] theorem World.catalog_amid : (world.amid surroundings).catalog = surroundings.catalog := rfl

@[simp] theorem World.clock_amid : (world.amid surroundings).clock = surroundings.clock := rfl

end

variable (turn : Nat → Surroundings F)

def succession (i : Nat) (world : World F) : World F := world.amid (turn (i + 1))

def outcomeIn (i : Nat) (candidate : String × String) : Except Failure AdapterResponse :=
  (turn (i + 1)).answer candidate

def Dispatch.candidate (dispatch : Dispatch) : String × String :=
  (dispatch.call.provider.id, dispatch.call.modelId)

/-- The candidate is attempted when its turn comes. -/
def Pipeline.tries (pipeline : Pipeline F) (binding : ExecutionBinding F) (i : Nat)
    (candidate : String × String) : Bool :=
  (providerFromBinding binding candidate.1).any fun provider =>
    provider.enabled &&
      pipeline.revalidates (turn i).registry (turn i).catalog candidate.1 candidate.2

/-! ### The loop is a walk -/

section

variable (pipeline : Pipeline F) (run : Run F) (decision : RoutingDecision) (started : Time)

/-- What an ending of the walk means to the caller. -/
inductive Pipeline.Returns :
    Ending (String × String) AdapterResponse Failure → Except Failure InferenceResponse → Prop where
  | succeeded (position : Nat) (candidate : String × String) (raw : AdapterResponse) (passed : Time) :
      Returns (.succeeded position candidate raw)
        (.ok
          { inferenceId := run.inferenceId, providerId := candidate.1, modelId := raw.modelId
            routingDecisionId := decision.id
            latency := pipeline.latency raw.latency passed, body := raw.body })
  | stopped (failure : Failure) : Returns (.stopped failure) (.error failure)
  | exhausted (last : Option Failure) :
      Returns (.exhausted last) (.error (executionError "all_candidates_failed" .provider))

variable (i : Nat) (world : World F)

theorem play_emitAudit (eventType : AuditEventType) (action : String) (details : Details) :
    (emitAudit eventType run action details).play (succession turn) i world =
      { points :=
          [(.emit
              { eventType, actor := run.request.envelope.actor, resourceId := run.inferenceId
                action, traceId := run.request.envelope.traceId, details },
            world, world.amid (turn (i + 1)))]
        next := i + 1, state := world.amid (turn (i + 1)), outcome := .ok () } := rfl

theorem play_complete (position : Nat) (candidate : String × String) (raw : AdapterResponse) :
    pipeline.Returns run decision (.succeeded position candidate raw)
        ((complete pipeline run decision started position candidate.1 candidate.2 raw).play
          (succession turn) i world).outcome ∧
      ((complete pipeline run decision started position candidate.1 candidate.2 raw).play
        (succession turn) i world).state.dispatches = world.dispatches := by
  unfold complete
  rw [Co.play_get_bind, Co.play_bind, play_emitAudit turn run]
  cases run.finalize with
  | false => exact ⟨.succeeded position candidate raw _, rfl⟩
  | true => exact ⟨.succeeded position candidate raw _, rfl⟩

theorem play_callAdapter {provider : ProviderConfig} {providerId : String}
    (found : providerFromBinding run.binding providerId = some provider) (modelId : String) :
    ∃ called : World F, called.dispatches.map Dispatch.candidate =
        world.dispatches.map Dispatch.candidate ++ [(providerId, modelId)] ∧
      ((callAdapter { provider, request := run.request.attempt providerId modelId } started).play
          (succession turn) i world).next = i + 1 ∧
      ((callAdapter { provider, request := run.request.attempt providerId modelId } started).play
          (succession turn) i world).state = called.amid (turn (i + 1)) ∧
      ((callAdapter { provider, request := run.request.attempt providerId modelId } started).play
          (succession turn) i world).outcome = .ok (outcomeIn turn i (providerId, modelId)) := by
  have model := modelId_call provider run.request providerId modelId false
  have own : (provider.id, AdapterCall.modelId
      { provider, request := run.request.attempt providerId modelId }) = (providerId, modelId) :=
    Prod.ext (id_of_binding found) model
  let dispatch : Dispatch :=
    ⟨{ provider, request := run.request.attempt providerId modelId }, started⟩
  refine ⟨{ world with dispatches := world.dispatches ++ [dispatch] }, ?_, rfl, rfl, ?_⟩
  · rw [List.map_append, List.map_singleton]
    exact congrArg (fun candidate => _ ++ [candidate]) own
  · exact congrArg (fun candidate => Except.ok ((turn (i + 1)).answer candidate)) own

/-- Within the latency cap, the loop is a walk down the chain. -/
theorem play_attempts
    (inTime : ∀ n, (turn n).clock ≤ started + run.binding.systemConfig.routing.maxTotalLatency)
    (chain : List (String × String)) (position : Nat) (last : Option Failure) :
    pipeline.Returns run decision
        (walk (outcomeIn turn) (pipeline.tries turn run.binding) pipeline.continues i position last
          chain).2
        ((attempts pipeline run decision started position chain last).play (succession turn) i
          (world.amid (turn i))).outcome ∧
      ((attempts pipeline run decision started position chain last).play (succession turn) i
          (world.amid (turn i))).state.dispatches.map Dispatch.candidate =
        world.dispatches.map Dispatch.candidate ++
          (walk (outcomeIn turn) (pipeline.tries turn run.binding) pipeline.continues i position last
            chain).1 := by
  induction chain generalizing i position last world with
  | nil => exact ⟨.exhausted last, (List.append_nil _).symm⟩
  | cons candidate rest ih =>
      obtain ⟨providerId, modelId⟩ := candidate
      unfold attempts
      rw [Co.play_get_bind, World.clock_amid, World.registry_amid, World.catalog_amid,
        if_neg (not_lt.mpr (inTime i))]
      cases found : providerFromBinding run.binding providerId with
      | none =>
          have skipped : pipeline.tries turn run.binding i (providerId, modelId) = false := by
            unfold Pipeline.tries
            rw [found]
            rfl
          rw [walk_skip skipped]
          exact ih i world (position + 1) last
      | some provider =>
          dsimp only
          have tries : pipeline.tries turn run.binding i (providerId, modelId) =
              !(!provider.enabled ||
                !pipeline.revalidates (turn i).registry (turn i).catalog providerId modelId) := by
            unfold Pipeline.tries
            rw [found]
            simp
          cases out : (!provider.enabled ||
              !pipeline.revalidates (turn i).registry (turn i).catalog providerId modelId) with
          | true =>
              rw [out] at tries
              rw [if_pos rfl, walk_skip tries]
              exact ih i world (position + 1) last
          | false =>
              rw [out] at tries
              rw [if_neg Bool.false_ne_true, Co.play_bind]
              obtain ⟨called, recorded, next, state, answered⟩ :=
                play_callAdapter turn run started i (world.amid (turn i)) found modelId
              rw [answered, next, state]
              dsimp only
              rw [Take.outcome_after, Take.state_after]
              cases answer : outcomeIn turn i (providerId, modelId) with
              | ok raw =>
                  obtain ⟨returns, kept⟩ := play_complete turn pipeline run decision started
                    (i + 1) (called.amid (turn (i + 1))) position (providerId, modelId) raw
                  rw [walk_success tries answer]
                  exact ⟨returns, (congrArg (List.map Dispatch.candidate) kept).trans recorded⟩
              | error failure =>
                  dsimp only
                  cases goesOn : pipeline.continues failure with
                  | true =>
                      obtain ⟨returns, later⟩ := ih (i + 1) called (position + 1) (some failure)
                      rw [if_pos rfl, walk_continue tries answer goesOn]
                      refine ⟨returns, later.trans ?_⟩
                      rw [recorded, List.append_assoc]
                      rfl
                  | false =>
                      rw [if_neg Bool.false_ne_true, walk_stop tries answer goesOn]
                      cases pipeline.stopDetails run providerId modelId failure with
                      | none => exact ⟨.stopped failure, recorded⟩
                      | some details => exact ⟨.stopped failure, recorded⟩

/-- What is left of `infer_chat` and `infer_embedding` once the candidates are routed. -/
def settled (pipeline : Pipeline F) (run : Run F) (decision : RoutingDecision) (started : Time) :
    Inferring F InferenceResponse :=
  Co.tryCatch (attempts pipeline run decision started 0 decision.chain none)
    (recordFailure run.finalize)

theorem play_recordFailure (failure : Failure) :
    ((recordFailure run.finalize failure : Inferring F InferenceResponse).play (succession turn) i
        world).outcome = .error failure ∧
      ((recordFailure run.finalize failure : Inferring F InferenceResponse).play (succession turn) i
        world).state.dispatches = world.dispatches := by
  cases run.finalize with
  | false => exact ⟨rfl, rfl⟩
  | true => exact ⟨rfl, rfl⟩

def attempted (before after : World F) : List (String × String) :=
  (after.dispatches.map Dispatch.candidate).drop before.dispatches.length

theorem play_settled
    (inTime : ∀ n, (turn n).clock ≤ started + run.binding.systemConfig.routing.maxTotalLatency) :
    pipeline.Returns run decision
        (walk (outcomeIn turn) (pipeline.tries turn run.binding) pipeline.continues i 0 none
          decision.chain).2
        ((settled pipeline run decision started).play (succession turn) i
          (world.amid (turn i))).outcome ∧
      attempted world ((settled pipeline run decision started).play (succession turn) i
          (world.amid (turn i))).state =
        (walk (outcomeIn turn) (pipeline.tries turn run.binding) pipeline.continues i 0 none
          decision.chain).1 := by
  obtain ⟨returns, recorded⟩ :=
    play_attempts turn pipeline run decision started i world inTime decision.chain 0 none
  unfold settled attempted
  rw [Co.play_tryCatch]
  split
  · rw [recorded, List.drop_left' (List.length_map _)]
    exact ⟨returns, rfl⟩
  · next failure raised =>
      obtain ⟨outcome, dispatches⟩ := play_recordFailure turn run
        ((attempts pipeline run decision started 0 decision.chain none).play (succession turn) i
          (world.amid (turn i))).next
        ((attempts pipeline run decision started 0 decision.chain none).play (succession turn) i
          (world.amid (turn i))).state failure
      rw [Take.outcome_after, Take.state_after, outcome, ← raised, dispatches, recorded,
        List.drop_left' (List.length_map _)]
      exact ⟨returns, rfl⟩

end

section

variable [LinearOrder F] [Add F] [Sub F] [Mul F] [Div F] [IntCast F]

end

/-! ### Chat and embedding -/

section

variable (turn : Nat → Surroundings F) (binding : ExecutionBinding F)

def stillValid (i : Nat) (candidate : String × String) : Bool :=
  (providerFromBinding binding candidate.1).any fun provider =>
    provider.enabled &&
      (!(turn i).registry.isRuntimeDisabled candidate.1 &&
        ((turn i).catalog.get candidate.1 candidate.2).isSome)

def Answers (candidate : String × String) (raw : AdapterResponse)
    (outcome : Except Failure InferenceResponse) : Prop :=
  ∃ response, outcome = .ok response ∧ response.providerId = candidate.1 ∧
    response.modelId = raw.modelId ∧ response.body = raw.body

/-- What both pipelines owe the caller on a chain, from the `i`-th point on. -/
structure Exhaustive (i : Nat) (chain : List (String × String)) (before : World F)
    (chat embedding : Take (World F) Failure Point InferenceResponse) : Prop where
  first : ∀ candidate raw,
    First (outcomeIn turn) (stillValid turn binding) (fun failure => failure.category ≠ some .validation)
        i chain candidate raw →
      Answers candidate raw chat.outcome ∧ Answers candidate raw embedding.outcome
  spentChat : chat.outcome = .error (executionError "all_candidates_failed" .provider) →
    Spent (outcomeIn turn) (stillValid turn binding) i chain (attempted before chat.state)
  spentEmbedding : embedding.outcome = .error (executionError "all_candidates_failed" .provider) →
    Spent (outcomeIn turn) (stillValid turn binding) i chain (attempted before embedding.state)
  same : attempted before chat.state = attempted before embedding.state

end

theorem Pipeline.Returns.answers {pipeline : Pipeline F} {run : Run F} {decision : RoutingDecision}
    {position : Nat} {candidate : String × String} {raw : AdapterResponse}
    {outcome : Except Failure InferenceResponse}
    (returns : pipeline.Returns run decision (.succeeded position candidate raw) outcome) :
    Answers candidate raw outcome := by
  cases returns with
  | succeeded _ _ _ passed => exact ⟨_, rfl, rfl, rfl, rfl⟩

theorem chat_continues {failure : Failure} (category : failure.category ≠ some .validation) :
    (chatPipeline : Pipeline F).continues failure = true := by
  unfold Pipeline.continues chatPipeline
  simp [category]

theorem not_stillValid {turn : Nat → Surroundings F} {binding : ExecutionBinding F} (i : Nat)
    (candidate : String × String)
    (passed : embeddingPipeline.tries turn binding i candidate = false) :
    stillValid turn binding i candidate = false := by
  unfold stillValid
  unfold Pipeline.tries embeddingPipeline at passed
  cases found : providerFromBinding binding candidate.1 with
  | none => rfl
  | some provider =>
      rw [found] at passed
      simp only [Option.any_some, Bool.and_true] at passed
      rw [Option.any_some, passed, Bool.false_and]

/-- Fallback is exhaustive exactly if, as far as the two walks get, they attempt the same candidates. -/
theorem fallback_exhaustive_iff (turn : Nat → Surroundings F) (i : Nat) (world : World F)
    (chat embedding : Run F) (decision decision' : RoutingDecision) (started : Time)
    (binding : embedding.binding = chat.binding) (chain : decision'.chain = decision.chain)
    (inTime : ∀ n, (turn n).clock ≤ started + chat.binding.systemConfig.routing.maxTotalLatency) :
    Exhaustive turn chat.binding i decision.chain world
        ((settled chatPipeline chat decision started).play (succession turn) i
          (world.amid (turn i)))
        ((settled embeddingPipeline embedding decision' started).play (succession turn) i
          (world.amid (turn i))) ↔
      Agree (outcomeIn turn) (stillValid turn chat.binding)
        (embeddingPipeline.tries turn chat.binding) (chatPipeline : Pipeline F).continues
        (embeddingPipeline : Pipeline F).continues i decision.chain := by
  obtain ⟨chatReturns, chatTried⟩ := play_settled turn chatPipeline chat decision started i world inTime
  obtain ⟨embeddingReturns, embeddingTried⟩ :=
    play_settled turn embeddingPipeline embedding decision' started i world (by rwa [binding])
  rw [binding, chain] at embeddingReturns embeddingTried
  have valid : chatPipeline.tries turn chat.binding = stillValid turn chat.binding := rfl
  rw [valid] at chatReturns chatTried
  have goesOn : (chatPipeline : Pipeline F).continues
      (executionError "all_candidates_failed" .provider) = true := chat_continues nofun
  constructor
  · intro exhaustive
    have same := exhaustive.same
    rw [chatTried, embeddingTried] at same
    exact walk_eq_iff.mp same
  · intro agree
    refine ⟨?_, ?_, ?_, ?_⟩
    · intro candidate raw first
      obtain ⟨reached, success⟩ := first.walk (fun _ => chat_continues) 0 none
      have success' := success_of_agree none agree success
      rw [success] at chatReturns
      rw [success'] at embeddingReturns
      exact ⟨chatReturns.answers, embeddingReturns.answers⟩
    · intro failed
      rw [failed] at chatReturns
      rw [chatTried]
      generalize ended : (walk (outcomeIn turn) (stillValid turn chat.binding) chatPipeline.continues i 0
        none decision.chain).2 = ending at chatReturns
      cases chatReturns with
      | stopped => exact absurd (goesOn.symm.trans (continues_of_stopped ended)) nofun
      | exhausted last => exact spent_of_exhausted (fun _ _ skipped => skipped) ended
    · intro failed
      rw [failed] at embeddingReturns
      rw [embeddingTried]
      generalize ended : (walk (outcomeIn turn) (embeddingPipeline.tries turn chat.binding)
        embeddingPipeline.continues i 0 none decision.chain).2 = ending at embeddingReturns
      cases embeddingReturns with
      | stopped =>
          obtain ⟨final, exhausted⟩ := exhausted_of_agree none agree ended goesOn
          rw [← walk_eq_iff.mpr agree]
          exact spent_of_exhausted (fun _ _ skipped => skipped) exhausted
      | exhausted last => exact spent_of_exhausted not_stillValid ended
    · rw [chatTried, embeddingTried]
      exact walk_eq_iff.mpr agree

/-! Two providers behind one another. -/

theorem local_remote_distinct :
    ([localProvider, { localProvider with id := "remote" }].map ProviderConfig.id).Nodup := by
  decide

def pairBinding : ExecutionBinding ℤ where
  systemConfig :=
    systemOf true [localProvider, { localProvider with id := "remote" }] local_remote_distinct
  systemConfigVersion := "1"
  catalogSnapshotVersion := "1"

def pairRows : ModelCatalog ℤ := catalogOf [chatRow "local" "small" 1, chatRow "remote" "small" 1]

def pairRun (request : InferenceRequest) : Run ℤ :=
  { request, binding := pairBinding, inferenceId := "0", finalize := false }

def pairDecision : RoutingDecision where
  id := "1"
  selectedProviderId := "local"
  selectedModelId := "small"
  selectionReason := "lowest_score_lex_tiebreak"
  fallbackChain := [("remote", "small")]
  candidatesConsidered := 2
  candidatesFiltered := 0

def pairWorld : World ℤ := .boot pairBinding.systemConfig pairRows (plainEngine []) silent

def secondAnswers (failure : Failure) (candidate : String × String) :
    Except Failure AdapterResponse :=
  if candidate.1 = "local" then .error failure
  else .ok { modelId := "small", latency := 0, body := [] }

def pairTurn (failure : Failure) (_ : Nat) : Surroundings ℤ where
  registry := .ofConfig pairBinding.systemConfig
  catalog := pairRows
  clock := 0
  answer := secondAnswers failure

def PairExhaustive (failure : Failure) : Prop :=
  Exhaustive (pairTurn failure) pairBinding 0 pairDecision.chain pairWorld
    ((settled chatPipeline (pairRun (chatRequest .none)) pairDecision 0).play
      (succession (pairTurn failure)) 0 (pairWorld.amid (pairTurn failure 0)))
    ((settled embeddingPipeline (pairRun (.embedding (labelled .publicData))) pairDecision 0).play
      (succession (pairTurn failure)) 0 (pairWorld.amid (pairTurn failure 0)))

theorem fallback_past_missing_model : PairExhaustive (executionError "http_404" .provider) := by
  apply (fallback_exhaustive_iff (pairTurn (executionError "http_404" .provider)) 0 pairWorld
    (pairRun (chatRequest .none)) (pairRun (.embedding (labelled .publicData))) pairDecision
    pairDecision 0 rfl rfl
    (fun n => show (0 : Time) ≤ 0 + 120 by decide)).mpr
  have chat : (chatPipeline : Pipeline ℤ).continues (executionError "http_404" .provider) = true := by
    decide +kernel
  have embedding : (embeddingPipeline : Pipeline ℤ).continues
      (executionError "http_404" .provider) = true := by
    decide +kernel
  refine agree_cons (by decide +kernel) (by decide +kernel) rfl chat embedding ?_
  refine ⟨by decide +kernel, ?_⟩
  rw [if_pos (by decide +kernel)]
  exact trivial

/-- Embedding gives up at the first server error. -/
theorem no_fallback_past_server_error :
    ¬ PairExhaustive (executionError "http_500" .provider) := by
  intro exhaustive
  have same := exhaustive.same
  revert same
  decide +kernel

end SyndicateClaw.Inference
