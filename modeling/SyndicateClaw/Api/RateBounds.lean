import SyndicateClaw.Api.RateLimiter

/-! What the limiter admits, and what its `retry_after` promises. -/

namespace SyndicateClaw.Api

structure Arrival where
  request : RateRequest
  now : Rat

structure RateRun where
  redis : Redis
  log : List (Arrival × RateOutcome)

namespace RateRun

variable (settings : RateSettings)

def step (run : RateRun) (arrival : Arrival) : RateRun :=
  let answer := dispatch settings arrival.request arrival.now run.redis
  { redis := answer.2, log := run.log ++ [(arrival, answer.1)] }

def after (arrivals : List Arrival) : RateRun :=
  arrivals.foldl (step settings) { redis := fun _ => {}, log := [] }

theorem after_snoc (arrivals : List Arrival) (arrival : Arrival) :
    after settings (arrivals ++ [arrival]) = (after settings arrivals).step settings arrival := by
  unfold after
  rw [List.foldl_append]
  rfl

def history (actor : String) (run : RateRun) : List (Rat × Bool) :=
  (run.log.filter fun e => limitedActor e.1.request = some actor).map fun e =>
    (e.1.now, e.2.isAdmitted)

end RateRun

def readingsOf (actor : String) (arrivals : List Arrival) : List Rat :=
  (arrivals.filter fun arrival => limitedActor arrival.request = some actor).map Arrival.now

def KeepsApart (actor : String) (arrival : Arrival) : Prop :=
  ∀ other, limitedActor arrival.request = some other → other = actor ∨ ActorsApart other actor

/-- A real bound and an honest `retry_after`. -/
structure RateBound (settings : RateSettings) (actor : String) (arrivals : List Arrival) : Prop where
  sustained : AtMostIn (settings.rateLimitWindowSeconds : Rat) settings.rateLimitRequests
    ((RateRun.after settings arrivals).history actor)
  burst : AtMostIn (1 : Rat) settings.rateLimitBurst
    ((RateRun.after settings arrivals).history actor)
  -- Whatever others send in between, the next request of the actor.
  honest : ∀ before arrival after, arrivals = before ++ arrival :: after →
    limitedActor arrival.request = some actor → ∀ kind count limit retryAfter,
    (dispatch settings arrival.request arrival.now (RateRun.after settings before).redis).1 =
      .rejected kind count limit retryAfter →
    ∀ (between : List Arrival) (next : Arrival), (∀ other ∈ between,
        limitedActor other.request ≠ some actor ∧ KeepsApart actor other) →
      limitedActor next.request = some actor → arrival.now + (retryAfter : Rat) ≤ next.now →
      ∀ count' limit' retryAfter',
        (dispatch settings next.request next.now
          (RateRun.after settings (before ++ arrival :: between)).redis).1 ≠
            .rejected kind count' limit' retryAfter'

/-- The clock advances between the requests of the actor, whose keys are its own. -/
structure SteadyClock (actor : String) (arrivals : List Arrival) : Prop where
  increasing : (readingsOf actor arrivals).Pairwise (· < ·)
  apart : ∀ arrival ∈ arrivals, KeepsApart actor arrival

/-- Where the window is full, a second later it has room again. -/
def RoomInASecond (settings : RateSettings) (actor : String) (arrivals : List Arrival) : Prop :=
  ∀ before arrival after, arrivals = before ++ arrival :: after →
    limitedActor arrival.request = some actor →
    let readings := readingsOf actor (before ++ [arrival])
    settings.rateLimitRequests <
        (inWindow (settings.rateLimitWindowSeconds : Rat) arrival.now readings).length →
      (inWindow (settings.rateLimitWindowSeconds : Rat) (arrival.now + 1) readings).length <
        settings.rateLimitRequests

/-! ### What the keys hold -/

def held (span : Rat) (readings : List Rat) : SortedSet :=
  match readings.getLast? with
  | none => {}
  | some last => { readings := inWindow span last readings, expiresAt := some (last + (span + 1)) }

theorem held_snoc (span : Rat) (readings : List Rat) (now : Rat) :
    held span (readings ++ [now]) =
      { readings := inWindow span now (readings ++ [now]), expiresAt := some (now + (span + 1)) } := by
  unfold held
  rw [List.getLast?_concat]

theorem record_held {span now : Rat} {readings : List Rat} (positive : 0 < span)
    (increasing : (readings ++ [now]).Pairwise (· < ·)) :
    (held span readings).record span now = held span (readings ++ [now]) := by
  have before : ∀ r ∈ readings, r < now := by
    intro r member
    exact (List.pairwise_append.mp increasing).2.2 r member now List.mem_cons_self
  have kept : ((held span readings).live now).readings.filter (fun r => decide (now - span < r)) =
      inWindow span now readings := by
    rcases List.eq_nil_or_concat readings with rfl | ⟨rest, last, rfl⟩
    · rfl
    · rw [List.concat_eq_append] at before increasing ⊢
      rw [held_snoc]
      have le : last ≤ now := (before last (by simp)).le
      unfold SortedSet.live
      split
      · next expired =>
          -- What has expired has left the window as well.
          have late : last + (span + 1) ≤ now := by simpa using expired
          apply Eq.symm
          apply inWindow_eq_nil
          intro r member
          have upTo : r ≤ last := by
            rcases List.mem_append.mp member with early | own
            · have sorted := (List.pairwise_append.mp increasing).1
              exact ((List.pairwise_append.mp sorted).2.2 r early last List.mem_cons_self).le
            · exact (List.mem_singleton.mp own).le
          linarith
      · exact inWindow_inWindow le
  have absent : now ∉ inWindow span now readings := by
    intro member
    exact lt_irrefl now (before now (mem_inWindow.mp member).1)
  rw [held_snoc, inWindow_append, inWindow_self positive]
  unfold SortedSet.record SortedSet.zremrangebyscore SortedSet.zadd SortedSet.expire
  dsimp only
  rw [kept, if_neg absent]

section

variable {settings : RateSettings} {actor : String} {arrivals : List Arrival}

theorem readingsOf_snoc (arrivals : List Arrival) (arrival : Arrival) :
    readingsOf actor (arrivals ++ [arrival]) =
      if limitedActor arrival.request = some actor then readingsOf actor arrivals ++ [arrival.now]
      else readingsOf actor arrivals := by
  unfold readingsOf
  rw [List.filter_append, List.map_append]
  split <;> simp_all

theorem SteadyClock.init {arrival : Arrival} (steady : SteadyClock actor (arrivals ++ [arrival])) :
    SteadyClock actor arrivals where
  increasing := by
    have increasing := steady.increasing
    rw [readingsOf_snoc] at increasing
    split at increasing
    · exact (List.pairwise_append.mp increasing).1
    · exact increasing
  apart other member := steady.apart other (List.mem_append_left _ member)

theorem window_pos (settings : RateSettings) : (0 : Rat) < settings.rateLimitWindowSeconds := by
  exact_mod_cast settings.window

theorem redis_after (settings : RateSettings) (steady : SteadyClock actor arrivals) :
    (RateRun.after settings arrivals).redis (windowKey actor) =
        held settings.rateLimitWindowSeconds (readingsOf actor arrivals) ∧
      (RateRun.after settings arrivals).redis (burstKey actor) =
        held 1 (readingsOf actor arrivals) := by
  induction arrivals using List.reverseRecOn with
  | nil => exact ⟨rfl, rfl⟩
  | append_singleton arrivals arrival ih =>
      obtain ⟨window, burst⟩ := ih steady.init
      have increasing := steady.increasing
      rw [RateRun.after_snoc]
      unfold RateRun.step
      dsimp only
      rw [dispatch_redis]
      rw [readingsOf_snoc] at increasing ⊢
      cases limited : limitedActor arrival.request with
      | none =>
          rw [if_neg nofun]
          exact ⟨window, burst⟩
      | some other =>
          dsimp only
          rcases steady.apart arrival (by simp) other limited with rfl | apart
          · rw [limited, if_pos rfl] at increasing
            rw [if_pos rfl, recorded_window, recorded_burst, window, burst]
            exact ⟨record_held (window_pos settings) increasing,
              record_held one_pos increasing⟩
          · rw [if_neg fun same => apart.different (Option.some.inj same)]
            exact ⟨(recorded_apart apart).1.trans window, (recorded_apart apart).2.trans burst⟩

/-! ### How a request is answered -/

theorem retryAfter_eq (window now : Rat) : truncated (window - (now - (now - window))) + 1 = 1 := by
  rw [sub_sub_cancel, sub_self]
  rfl

theorem dispatch_eq (settings : RateSettings) {arrival : Arrival}
    (steady : SteadyClock actor (arrivals ++ [arrival]))
    (own : limitedActor arrival.request = some actor) :
    let readings := readingsOf actor (arrivals ++ [arrival])
    let windowCount :=
      (inWindow (settings.rateLimitWindowSeconds : Rat) arrival.now readings).length
    let burstCount := (inWindow (1 : Rat) arrival.now readings).length
    (dispatch settings arrival.request arrival.now (RateRun.after settings arrivals).redis).1 =
      if settings.rateLimitRequests < windowCount then
        .rejected .sustained windowCount settings.rateLimitRequests 1
      else if settings.rateLimitBurst < burstCount then
        .rejected .burst burstCount settings.rateLimitBurst 1
      else
        .admitted settings.rateLimitRequests (settings.rateLimitRequests - windowCount)
          (truncated arrival.now + settings.rateLimitWindowSeconds) := by
  have increasing := steady.increasing
  obtain ⟨window, burst⟩ := redis_after settings steady.init
  rw [readingsOf_snoc, if_pos own] at increasing ⊢
  dsimp only
  have windowCount : (recorded settings actor arrival.now (RateRun.after settings arrivals).redis
      (windowKey actor)).zcard = (inWindow (settings.rateLimitWindowSeconds : Rat) arrival.now
        (readingsOf actor arrivals ++ [arrival.now])).length := by
    rw [recorded_window, window, record_held (window_pos settings) increasing, held_snoc]
    rfl
  have burstCount : (recorded settings actor arrival.now (RateRun.after settings arrivals).redis
      (burstKey actor)).zcard =
        (inWindow (1 : Rat) arrival.now (readingsOf actor arrivals ++ [arrival.now])).length := by
    rw [recorded_burst, burst, record_held one_pos increasing, held_snoc]
    rfl
  unfold dispatch
  rw [own]
  dsimp only
  rw [windowCount, burstCount, retryAfter_eq]
  split
  · rfl
  · split <;> rfl

/-! ### The bound -/

theorem history_snoc (arrivals : List Arrival) (arrival : Arrival) :
    (RateRun.after settings (arrivals ++ [arrival])).history actor =
      if limitedActor arrival.request = some actor then
        (RateRun.after settings arrivals).history actor ++
          [(arrival.now, (dispatch settings arrival.request arrival.now
            (RateRun.after settings arrivals).redis).1.isAdmitted)]
      else (RateRun.after settings arrivals).history actor := by
  rw [RateRun.after_snoc]
  unfold RateRun.history RateRun.step
  dsimp only
  rw [List.filter_append, List.map_append]
  split <;> simp_all

theorem history_readings (arrivals : List Arrival) :
    ((RateRun.after settings arrivals).history actor).map Prod.fst = readingsOf actor arrivals := by
  induction arrivals using List.reverseRecOn with
  | nil => rfl
  | append_singleton arrivals arrival ih =>
      rw [history_snoc, readingsOf_snoc]
      split
      · rw [List.map_append, ih]
        rfl
      · exact ih

theorem bounds_of_steady (settings : RateSettings) (steady : SteadyClock actor arrivals) :
    AtMostIn (settings.rateLimitWindowSeconds : Rat) settings.rateLimitRequests
        ((RateRun.after settings arrivals).history actor) ∧
      AtMostIn (1 : Rat) settings.rateLimitBurst
        ((RateRun.after settings arrivals).history actor) := by
  induction arrivals using List.reverseRecOn with
  | nil => exact ⟨AtMostIn.nil, AtMostIn.nil⟩
  | append_singleton arrivals arrival ih =>
      obtain ⟨sustained, burst⟩ := ih steady.init
      rw [history_snoc]
      split
      case isFalse => exact ⟨sustained, burst⟩
      case isTrue own =>
        have answer := dispatch_eq settings steady own
        rw [readingsOf_snoc, if_pos own] at answer
        dsimp only at answer
        constructor
        · apply sustained.snoc (window_pos settings)
          intro admitted
          rw [history_readings]
          by_contra full
          rw [if_pos (Nat.lt_of_not_le full)] at answer
          rw [answer] at admitted
          cases admitted
        · apply burst.snoc one_pos
          intro admitted
          rw [history_readings]
          by_contra full
          rw [answer] at admitted
          split at admitted
          · cases admitted
          · rw [if_pos (Nat.lt_of_not_le full)] at admitted
            cases admitted

/-! ### The next request -/

theorem readingsOf_append (first second : List Arrival) :
    readingsOf actor (first ++ second) = readingsOf actor first ++ readingsOf actor second := by
  unfold readingsOf
  rw [List.filter_append, List.map_append]

theorem length_inWindow_le (span : Rat) {earlier now : Rat} (le : earlier ≤ now) (readings : List Rat) :
    (inWindow span now readings).length ≤ (inWindow span earlier readings).length := by
  rw [← inWindow_inWindow le]
  exact List.length_filter_le _ _

section

variable {before after between : List Arrival} {arrival next : Arrival}

theorem SteadyClock.upTo (steady : SteadyClock actor arrivals)
    (split : arrivals = before ++ arrival :: after) : SteadyClock actor (before ++ [arrival]) := by
  have all : arrivals = (before ++ [arrival]) ++ after := by
    rw [split, List.append_assoc]
    rfl
  constructor
  · have increasing := steady.increasing
    rw [all, readingsOf_append] at increasing
    exact (List.pairwise_append.mp increasing).1
  · intro other member
    rw [all] at steady
    exact steady.apart other (List.mem_append_left _ member)

theorem readings_between (others : ∀ other ∈ between, limitedActor other.request ≠ some actor ∧
      KeepsApart actor other) :
    readingsOf actor (before ++ arrival :: between) = readingsOf actor (before ++ [arrival]) := by
  have none : readingsOf actor between = [] := by
    unfold readingsOf
    rw [List.filter_eq_nil_iff.mpr]
    · rfl
    · intro other member
      simpa using (others other member).1
  have split : before ++ arrival :: between = (before ++ [arrival]) ++ between := by
    rw [List.append_assoc]
    rfl
  rw [split, readingsOf_append, none, List.append_nil]

theorem readings_le (steady : SteadyClock actor (before ++ [arrival]))
    (own : limitedActor arrival.request = some actor) :
    ∀ r ∈ readingsOf actor (before ++ [arrival]), r ≤ arrival.now := by
  have increasing := steady.increasing
  rw [readingsOf_snoc, if_pos own] at increasing ⊢
  intro r member
  rcases List.mem_append.mp member with early | last
  · exact ((List.pairwise_append.mp increasing).2.2 r early arrival.now List.mem_cons_self).le
  · exact (List.mem_singleton.mp last).le

theorem SteadyClock.extend (steady : SteadyClock actor (before ++ [arrival]))
    (own : limitedActor arrival.request = some actor)
    (others : ∀ other ∈ between, limitedActor other.request ≠ some actor ∧
      KeepsApart actor other)
    (own' : limitedActor next.request = some actor) (later : arrival.now < next.now) :
    SteadyClock actor ((before ++ arrival :: between) ++ [next]) := by
  constructor
  · rw [readingsOf_snoc, if_pos own', readings_between others, List.pairwise_append]
    refine ⟨steady.increasing, List.pairwise_singleton _ _, ?_⟩
    intro r member last only
    rw [List.mem_singleton.mp only]
    exact lt_of_le_of_lt (readings_le steady own r member) later
  · intro other member
    rcases List.mem_append.mp member with first | last
    · rcases List.mem_append.mp first with early | middle
      · exact steady.apart other (List.mem_append_left _ early)
      · rcases List.mem_cons.mp middle with rfl | middle
        · exact steady.apart other (by simp)
        · exact (others other middle).2
    · rw [List.mem_singleton.mp last]
      intro name limited
      exact .inl (Option.some.inj (limited.symm.trans own'))

theorem dispatch_next (settings : RateSettings) (between : List Arrival) (next : Arrival)
    (steady : SteadyClock actor (before ++ [arrival]))
    (own : limitedActor arrival.request = some actor)
    (others : ∀ other ∈ between, limitedActor other.request ≠ some actor ∧
      KeepsApart actor other)
    (own' : limitedActor next.request = some actor) (later : arrival.now < next.now) :
    let readings := readingsOf actor (before ++ [arrival])
    let windowCount :=
      (inWindow (settings.rateLimitWindowSeconds : Rat) next.now readings).length + 1
    let burstCount := (inWindow (1 : Rat) next.now readings).length + 1
    (dispatch settings next.request next.now
        (RateRun.after settings (before ++ arrival :: between)).redis).1 =
      if settings.rateLimitRequests < windowCount then
        .rejected .sustained windowCount settings.rateLimitRequests 1
      else if settings.rateLimitBurst < burstCount then
        .rejected .burst burstCount settings.rateLimitBurst 1
      else
        .admitted settings.rateLimitRequests (settings.rateLimitRequests - windowCount)
          (truncated next.now + settings.rateLimitWindowSeconds) := by
  have answer := dispatch_eq settings (steady.extend own others own' later) own'
  rw [readingsOf_snoc, if_pos own', readings_between others] at answer
  dsimp only at answer
  rw [inWindow_append, inWindow_append, inWindow_self (window_pos settings), inWindow_self one_pos,
    List.length_append, List.length_append] at answer
  exact answer

theorem burst_passes (steady : SteadyClock actor (before ++ [arrival]))
    (own : limitedActor arrival.request = some actor) (later : arrival.now + 1 ≤ next.now) :
    (inWindow (1 : Rat) next.now (readingsOf actor (before ++ [arrival]))).length + 1 ≤
      settings.rateLimitBurst := by
  have gone : inWindow (1 : Rat) next.now (readingsOf actor (before ++ [arrival])) = [] := by
    apply inWindow_eq_nil
    intro r member
    have le := readings_le steady own r member
    linarith
  rw [gone]
  exact settings.burst

end

/-- As long as the clock advances between the requests of an actor and its keys are its own, the bounds
are real; and the `retry_after` is honest exactly where a full window has room again in a second. -/
theorem rateBound_iff (steady : SteadyClock actor arrivals) :
    RateBound settings actor arrivals ↔ RoomInASecond settings actor arrivals := by
  constructor
  · intro bound before arrival after split own readings full
    have steady := steady.upTo split
    have answer := dispatch_eq settings steady own
    dsimp only at answer
    rw [if_pos full] at answer
    have honest := bound.honest before arrival after split own _ _ _ _ answer []
      { arrival with now := arrival.now + 1 } nofun own (by simp)
    have next := dispatch_next settings [] { arrival with now := arrival.now + 1 } steady own nofun own
      (lt_add_one arrival.now)
    dsimp only at next
    by_contra fills
    rw [if_pos (Nat.lt_succ_of_le (Nat.le_of_not_lt fills))] at next
    exact honest _ _ _ next
  · intro room
    obtain ⟨sustained, burst⟩ := bounds_of_steady settings steady
    refine ⟨sustained, burst, ?_⟩
    intro before arrival after split own kind count limit retryAfter rejected between next others own'
      later count' limit' retryAfter' again
    have steady := steady.upTo split
    have answer := dispatch_eq settings steady own
    dsimp only at answer
    rw [rejected] at answer
    have one : retryAfter = 1 ∧ (kind = .sustained → settings.rateLimitRequests <
        (inWindow (settings.rateLimitWindowSeconds : Rat) arrival.now
          (readingsOf actor (before ++ [arrival]))).length) := by
      split at answer
      · next full =>
          obtain ⟨rfl, _, _, rfl⟩ := RateOutcome.rejected.inj answer
          exact ⟨rfl, fun _ => full⟩
      · split at answer
        · obtain ⟨rfl, _, _, rfl⟩ := RateOutcome.rejected.inj answer
          exact ⟨rfl, nofun⟩
        · cases answer
    obtain ⟨rfl, full⟩ := one
    have second : arrival.now + 1 ≤ next.now := by simpa using later
    have outcome := dispatch_next settings between next steady own others own'
      (lt_of_lt_of_le (lt_add_one arrival.now) second)
    dsimp only at outcome
    rw [again] at outcome
    split at outcome
    · next fills =>
        obtain ⟨rfl, _⟩ := RateOutcome.rejected.inj outcome
        have stays := length_inWindow_le (settings.rateLimitWindowSeconds : Rat) second
          (readingsOf actor (before ++ [arrival]))
        have few := room before arrival after split own (full rfl)
        omega
    · split at outcome
      · next fills => exact absurd (burst_passes steady own second) (Nat.not_le_of_lt fills)
      · cases outcome

end

/-! Runs of one key. -/

def alphaAt (now : Rat) : Arrival where
  request :=
    { path := "/api/v1/workflows/", stateActor := none, apiKey := some "sk-alpha-1"
      authorization := none }
  now

def onePerSecond : RateSettings where
  rateLimitRequests := 1
  rateLimitWindowSeconds := 1
  rateLimitBurst := 20
  requests := by decide
  window := by decide
  burst := defaultRateSettings.burst

def onePerMinute : RateSettings :=
  { onePerSecond with rateLimitWindowSeconds := 60, window := defaultRateSettings.window }

theorem limited_alphaAt (now : Rat) : limitedActor (alphaAt now).request = some "apikey:sk-alpha" := rfl

theorem rateBound_onePerSecond :
    RateBound onePerSecond "apikey:sk-alpha" [alphaAt 0, alphaAt (1 / 2)] := by
  apply (rateBound_iff ?steady).mpr
  case steady =>
    refine ⟨by decide +kernel, ?_⟩
    intro arrival member other limited
    have own : limitedActor arrival.request = some "apikey:sk-alpha" := by
      simp only [List.mem_cons, List.not_mem_nil, or_false] at member
      rcases member with rfl | rfl <;> exact limited_alphaAt _
    exact .inl (Option.some.inj (limited.symm.trans own))
  intro before arrival after split own readings full
  rcases before with _ | ⟨first, _ | ⟨second, rest⟩⟩
  · obtain ⟨rfl, -⟩ := List.cons.inj split
    revert full
    decide +kernel
  · obtain ⟨rfl, tail⟩ := List.cons.inj split
    obtain ⟨rfl, -⟩ := List.cons.inj tail
    decide +kernel
  · simp at split

/-- Two requests at one reading of the clock are admitted where one may be, and a second after a 429
the next request gets another. -/
theorem rateBound_broken :
    ¬ RateBound onePerMinute "apikey:sk-alpha" [alphaAt 0, alphaAt 0] ∧
      ¬ RateBound onePerMinute "apikey:sk-alpha" [alphaAt 0, alphaAt 1] := by
  constructor
  · intro bound
    have both := bound.sustained 0
    revert both
    decide +kernel
  · intro bound
    have rejected : (dispatch onePerMinute (alphaAt 1).request 1
        (RateRun.after onePerMinute [alphaAt 0]).redis).1 = .rejected .sustained 2 1 1 := by decide +kernel
    have again : (dispatch onePerMinute (alphaAt 2).request 2
        (RateRun.after onePerMinute [alphaAt 0, alphaAt 1]).redis).1 =
          .rejected .sustained 3 1 1 := by decide +kernel
    exact bound.honest [alphaAt 0] (alphaAt 1) [] rfl (limited_alphaAt 1) _ _ _ _ rejected []
      (alphaAt 2) nofun (limited_alphaAt 2) (by decide +kernel) _ _ _ again

end SyndicateClaw.Api
