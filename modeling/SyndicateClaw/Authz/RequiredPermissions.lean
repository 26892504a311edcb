import SyndicateClaw.Authz.RouteLookup

/-! The permission that a request requires: that of its template, unless another entry decides. -/

namespace SyndicateClaw.Authz

/-! ### Requests of a template -/

def Segment.fill (values : String → List Char) : Segment → List Char
  | .lit text => text.toList
  | .param name => values name

def Route.filled (route : Route) (values : String → List Char) : List (List Char) :=
  route.segments.map (Segment.fill values)

def Segment.isParam : Segment → Bool
  | .lit _ => false
  | .param _ => true

def Route.params (route : Route) : Nat := route.segments.countP Segment.isParam

/-- No template of the map with fewer parameters than this one matches a path. -/
def Unrivalled (route : Route) (path : List Char) : Prop :=
  ∀ entry ∈ routePermissionMap, entry.1.method = route.method → entry.1.params < route.params →
    pathMatchesTemplate path entry.1.path = false

def specified (route : Route) (spec : RouteAuthzSpec) : Option String :=
  if route ∈ exemptRoutes then none
  else some (if spec.permission ∈ permissionVocabulary then spec.permission else "admin:*")

/-- A run whose identifier is a word of the templates for workflows, and a memory record whose
identifier is a ULID, a UUID or `{id}`. -/
def Exceptional (route : Route) (values : String → List Char) : Prop :=
  (route = api "GET" ["workflows", "runs", .param "run_id"] ∧
    (values "run_id" = "versions".toList ∨ values "run_id" = "diff".toList)) ∨
  ((route = api "GET" ["workflows", "runs", .param "run_id", "nodes"] ∨
      route = api "GET" ["workflows", "runs", .param "run_id", "timeline"]) ∧
    values "run_id" = "versions".toList) ∨
  (route = api "PUT" ["memory", .param "record_id"] ∧
    normalizePart (values "record_id") = "{id}".toList)

/-! ### Checks of the tables -/

def overlap : List Segment → List Segment → Bool
  | [], [] => true
  | .lit text :: segments, .lit text' :: segments' => text == text' && overlap segments segments'
  | _ :: segments, _ :: segments' => overlap segments segments'
  | _, _ => false

def precedes (route other : Route) : Bool :=
  ((routeRegistry.map Prod.fst).takeWhile fun entry => entry != other).contains route

/-- An entry that does not decide on a path of the template: one of the map with fewer parameters,
or one behind the template that is spelt otherwise. -/
def overtaken (route other : Route) : Bool :=
  ((routePermissionMap.map Prod.fst).contains other && decide (other.params < route.params)) ||
    (!fits route.segments other.texts && (route.params == 0 || precedes route other))

def exceptions : List (Route × Route) :=
  [(api "GET" ["workflows", "runs", .param "run_id"],
      api "GET" ["workflows", .param "workflow_id", "versions"]),
    (api "GET" ["workflows", "runs", .param "run_id"],
      api "GET" ["workflows", .param "workflow_id", "diff"]),
    (api "GET" ["workflows", "runs", .param "run_id", "nodes"],
      api "GET" ["workflows", .param "workflow_id", "versions", .param "version"]),
    (api "GET" ["workflows", "runs", .param "run_id", "timeline"],
      api "GET" ["workflows", .param "workflow_id", "versions", .param "version"]),
    (api "PUT" ["memory", .param "record_id"], api "PUT" ["memory", .param "id"])]

theorem tables_wellFormed : (routePermissionMap.all fun entry => entry.1.wellFormed) = true ∧
    (forwardRoutes.all fun entry => entry.1.wellFormed) = true := by
  constructor
  · decide +kernel
  · decide +kernel

theorem registry_wellFormed : (routeRegistry.all fun entry => entry.1.wellFormed) = true := by
  rw [List.all_eq_true]
  intro entry member
  rcases mem_registry member with mapped | forward
  · obtain ⟨own, listed, rfl⟩ := List.mem_map.mp mapped
    exact List.all_eq_true.mp tables_wellFormed.1 own listed
  · exact List.all_eq_true.mp tables_wellFormed.2 entry forward

/-- Of two entries that fit one path, the other requires the same or does not decide, but for the
exceptions. -/
def settles (own : Route × RouteAuthzSpec) (entry : Route × Option String) : Bool :=
  !(entry.1.method == own.1.method && overlap entry.1.segments own.1.segments) ||
    requirement entry == specified own.1 own.2 || overtaken own.1 entry.1 ||
      exceptions.contains (own.1, entry.1)

theorem tables_settled :
    (routePermissionMap.all fun own =>
      (routePermissionMap.map registration).all (settles own)) = true ∧
    (routePermissionMap.all fun own => forwardRoutes.all (settles own)) = true := by
  have split (test : Route × RouteAuthzSpec → Bool) : routePermissionMap.all test =
      ((routePermissionMap.take 50).all test && (routePermissionMap.drop 50).all test) := by
    rw [← List.all_append, List.take_append_drop]
  rw [split, split, Bool.and_eq_true, Bool.and_eq_true]
  refine ⟨⟨?_, ?_⟩, ?_, ?_⟩
  · decide +kernel
  · decide +kernel
  · decide +kernel
  · decide +kernel

theorem overlaps_settled {own : Route × RouteAuthzSpec} (mapped : own ∈ routePermissionMap)
    {entry : Route × Option String} (member : entry ∈ routeRegistry) :
    settles own entry = true := by
  rcases mem_registry member with registered | forward
  · exact List.all_eq_true.mp (List.all_eq_true.mp tables_settled.1 own mapped) entry registered
  · exact List.all_eq_true.mp (List.all_eq_true.mp tables_settled.2 own mapped) entry forward

theorem map_registered {own : Route × RouteAuthzSpec} (mapped : own ∈ routePermissionMap) :
    ∃ entry ∈ routeRegistry, entry.1 = own.1 := by
  have key : own.1 ∈ (routePermissionMap.map registration).map Prod.fst := by
    rw [List.map_map]
    exact List.mem_map.mpr ⟨own, mapped, rfl⟩
  exact List.mem_map.mp (Dict.mem_keys_update key forwardRoutes)

/-! ### Deciding entries -/

section

variable {method : String} {parts : List String} {entry : Route × Option String}

theorem wellFormed_of_mem (member : entry ∈ routeRegistry) : entry.1.wellFormed = true :=
  List.all_eq_true.mp registry_wellFormed entry member

theorem fits_texts (segments : List Segment) : fits segments (segments.map Segment.text) = true := by
  induction segments with
  | nil => rfl
  | cons segment segments ih => cases segment <;> simp [Segment.text, ih]

/-- An entry that decides fits, and it is spelt like the parts or the first that fits where none is
spelt like them. -/
structure DecidesOn (method : String) (parts : List String) (entry : Route × Option String) :
    Prop where
  member : entry ∈ routeRegistry
  method_eq : entry.1.method = method
  fits : fits entry.1.segments parts = true
  first : entry.1.texts = parts ∨
    (∀ other ∈ routeRegistry, other.1.method = method → other.1.texts ≠ parts) ∧
      ∀ other ∈ (routeRegistry.map Prod.fst).takeWhile fun route => route != entry.1,
        other.method = method → Authz.fits other.segments parts = false

theorem entryFor_some {test : Route → Bool} (found : entryFor method test = some entry) :
    entry ∈ routeRegistry ∧ entry.1.method = method ∧ test entry.1 = true := by
  have passes := List.find?_some found
  simp only [Bool.and_eq_true, beq_iff_eq] at passes
  exact ⟨List.mem_of_find?_eq_some found, passes⟩

theorem entryFor_none {test : Route → Bool} (missing : entryFor method test = none) :
    ∀ other ∈ routeRegistry, other.1.method = method → test other.1 = false := by
  intro other member same
  have fails := List.find?_eq_none.mp missing other member
  simpa [same] using fails

theorem takeWhile_of_split {α : Type} [BEq α] [LawfulBEq α] {items before after : List α}
    {item other : α} (whole : items = before ++ item :: after)
    (front : other ∈ items.takeWhile fun own => own != item) : other ∈ before := by
  subst whole
  induction before with
  | nil => simp at front
  | cons first before ih =>
      rw [List.cons_append, List.takeWhile_cons] at front
      split at front
      · rcases List.mem_cons.mp front with rfl | later
        · exact List.mem_cons_self
        · exact List.mem_cons_of_mem _ (ih later)
      · cases front

theorem decidesOn_of_some (found : decidingEntry method parts = some entry) :
    DecidesOn method parts entry := by
  have spelt {slash : Bool} (found : entryFor method (fun route =>
      route.texts == parts && route.slash == slash) = some entry) :
      DecidesOn method parts entry := by
    obtain ⟨member, same, passes⟩ := entryFor_some found
    simp only [Bool.and_eq_true, beq_iff_eq] at passes
    refine ⟨member, same, ?_, .inl passes.1⟩
    rw [← passes.1]
    exact fits_texts _
  unfold decidingEntry at found
  cases plain : entryFor method (fun route => route.texts == parts && route.slash == false) with
  | some other =>
      rw [plain] at found
      exact spelt (plain.trans found)
  | none =>
      rw [plain] at found
      cases slashed : entryFor method (fun route => route.texts == parts && route.slash == true) with
      | some other =>
          rw [slashed] at found
          exact spelt (slashed.trans found)
      | none =>
          rw [slashed] at found
          have first : entryFor method (fun route => Authz.fits route.segments parts) = some entry :=
            found
          obtain ⟨member, same, passes⟩ := entryFor_some first
          refine ⟨member, same, passes, .inr ⟨fun other inside own => ?_, fun other front own => ?_⟩⟩
          · have unspelt := entryFor_none plain other inside own
            have unspelt' := entryFor_none slashed other inside own
            intro texts
            cases slash : other.1.slash <;> simp [texts, slash] at unspelt unspelt'
          · obtain ⟨-, before, after, whole, passed⟩ := List.find?_eq_some_iff_append.mp first
            have split : routeRegistry.map Prod.fst =
                before.map Prod.fst ++ entry.1 :: after.map Prod.fst := by
              rw [whole, List.map_append, List.map_cons]
            obtain ⟨earlier, inside, rfl⟩ := List.mem_map.mp (takeWhile_of_split split front)
            have fails := passed earlier inside
            simpa [own] using fails

theorem exists_deciding (member : entry ∈ routeRegistry) (same : entry.1.method = method)
    (fitting : fits entry.1.segments parts = true) :
    ∃ other, decidingEntry method parts = some other := by
  have present : (entryFor method fun route => fits route.segments parts).isSome = true := by
    unfold entryFor
    rw [List.find?_isSome]
    exact ⟨entry, member, by simp [same, fitting]⟩
  obtain ⟨first, found⟩ := Option.isSome_iff_exists.mp present
  unfold decidingEntry
  rw [found]
  cases entryFor method (fun route => route.texts == parts && route.slash == false) with
  | some other => exact ⟨other, rfl⟩
  | none =>
      cases entryFor method (fun route => route.texts == parts && route.slash == true) with
      | some other => exact ⟨other, rfl⟩
      | none => exact ⟨first, rfl⟩

end

/-! ### Templates that share a path -/

theorem overlap_of_fits {segments others : List Segment} {values : String → String}
    (fitting : fits others (segments.map fun
      | .lit text => text
      | .param name => values name) = true) : overlap others segments = true := by
  induction segments generalizing others with
  | nil =>
      cases others with
      | nil => rfl
      | cons other others => cases other <;> cases fitting
  | cons segment segments ih =>
      cases others with
      | nil => cases fitting
      | cons other others =>
          cases other with
          | param name =>
              have later := ih fitting
              cases segment <;> exact later
          | lit text =>
              rw [List.map_cons, fits_lit, Bool.and_eq_true] at fitting
              have later := ih fitting.2
              cases segment with
              | lit text' => exact Bool.and_eq_true_iff.mpr ⟨fitting.1, later⟩
              | param name => exact later

section

variable {route : Route} {values : String → List Char}

def Route.shown (route : Route) (values : String → List Char) : List String :=
  route.segments.map fun
    | .lit text => text
    | .param name => String.ofList (normalizePart (values name))

theorem normalized_filled (wellFormed : route.wellFormed = true) (values : String → List Char) :
    ((route.filled values).map normalizePart).map String.ofList = route.shown values := by
  simp only [Route.wellFormed, Bool.and_eq_true, List.all_eq_true] at wellFormed
  unfold Route.filled Route.shown
  rw [List.map_map, List.map_map]
  apply List.map_congr_left
  intro segment member
  have own := wellFormed.2 segment member
  cases segment with
  | param name => rfl
  | lit text =>
      simp only [Segment.wellFormed, plainText, Bool.and_eq_true, beq_iff_eq] at own
      simp [Segment.fill, own.2]

theorem fits_shown (route : Route) (values : String → List Char) :
    fits route.segments (route.shown values) = true := by
  unfold Route.shown
  induction route.segments with
  | nil => rfl
  | cons segment segments ih => cases segment <;> simpa using ih

theorem texts_of_no_params (none : route.params = 0) (values : String → List Char) :
    route.texts = route.shown values := by
  unfold Route.params at none
  rw [List.countP_eq_zero] at none
  unfold Route.texts Route.shown
  apply List.map_congr_left
  intro segment member
  cases segment with
  | lit text => rfl
  | param name => exact absurd rfl (none _ member)

theorem proper_filled (wellFormed : route.wellFormed = true)
    (nonempty : ∀ name, values name ≠ [] ∧ '/' ∉ values name) : Proper (route.filled values) := by
  have texts := proper_texts wellFormed
  intro part member
  obtain ⟨segment, inside, rfl⟩ := List.mem_map.mp member
  cases segment with
  | lit text => exact texts _ (List.mem_map_of_mem inside)
  | param name => exact nonempty name

theorem eq_of_normalizePart {part text : List Char} (same : normalizePart part = text)
    (other : text ≠ "{id}".toList) : part = text := by
  rcases normalizePart_cases part with own | id
  · exact own.symm.trans same
  · exact absurd (same.symm.trans id) other

theorem exceptional_of_decides {entry : Route × Option String}
    (decides : DecidesOn route.method (route.shown values) entry)
    (listed : (route, entry.1) ∈ exceptions) : Exceptional route values := by
  have word {part : List Char} {text : String}
      (same : text = String.ofList (normalizePart part)) (other : text.toList ≠ "{id}".toList) :
      part = text.toList := by
    refine eq_of_normalizePart ?_ other
    rw [same, String.toList_ofList]
  have fitting := decides.fits
  simp only [exceptions, List.mem_cons, Prod.mk.injEq, List.not_mem_nil, or_false] at listed
  rcases listed with ⟨rfl, other⟩ | ⟨rfl, other⟩ | ⟨rfl, other⟩ | ⟨rfl, other⟩ | ⟨rfl, other⟩
  · rw [other] at fitting
    simp [api, Authz.route, Route.shown] at fitting
    exact .inl ⟨rfl, .inl (word fitting.1 (by decide))⟩
  · rw [other] at fitting
    simp [api, Authz.route, Route.shown] at fitting
    exact .inl ⟨rfl, .inr (word fitting.1 (by decide))⟩
  · rw [other] at fitting
    simp [api, Authz.route, Route.shown] at fitting
    exact .inr (.inl ⟨.inl rfl, word fitting.1 (by decide)⟩)
  · rw [other] at fitting
    simp [api, Authz.route, Route.shown] at fitting
    exact .inr (.inl ⟨.inr rfl, word fitting.1 (by decide)⟩)
  · refine .inr (.inr ⟨rfl, ?_⟩)
    rcases decides.first with spelt | ⟨-, first⟩
    · rw [other] at spelt
      simp [api, Authz.route, Route.shown, Route.texts, Segment.text] at spelt
      have chars := congrArg String.toList spelt
      simpa using chars.symm
    · have front : precedes (api "PUT" ["memory", .param "record_id"]) entry.1 = true := by
        rw [other]
        decide +kernel
      have unfit := first _ (List.contains_iff_mem.mp front) rfl
      rw [fits_shown] at unfit
      cases unfit

theorem not_decides_of_overtaken {entry : Route × Option String}
    (wellFormed : route.wellFormed = true) (present : ∃ own ∈ routeRegistry, own.1 = route)
    (nonempty : ∀ name, values name ≠ [] ∧ '/' ∉ values name) {slash : Bool}
    (unrivalled : Unrivalled route (joined (route.filled values) slash))
    (overtaken : overtaken route entry.1 = true) :
    ¬ DecidesOn route.method (route.shown values) entry := by
  intro decides
  simp only [Authz.overtaken, Bool.or_eq_true, Bool.and_eq_true, decide_eq_true_eq,
    List.contains_iff_mem, Bool.not_eq_true', beq_iff_eq] at overtaken
  rcases overtaken with ⟨known, fewer⟩ | ⟨spelling, none | front⟩
  · obtain ⟨twin, member, same⟩ := List.mem_map.mp known
    have unmatched := unrivalled twin member (by rw [same, decides.method_eq]) (by rwa [same])
    have proper := proper_filled wellFormed nonempty
    have some : route.filled values ≠ [] := by
      simp only [Route.wellFormed, Bool.and_eq_true, Bool.not_eq_true',
        List.isEmpty_eq_false_iff] at wellFormed
      simpa [Route.filled] using wellFormed.1
    have fitting : pathMatchesTemplate (normalizePath (joined (route.filled values) slash))
        entry.1.path = true := by
      rw [normalizePath_joined proper some, pathMatches_joined (wellFormed_of_mem decides.member)
        (normalized_proper proper), normalized_filled wellFormed]
      exact decides.fits
    rw [same, pathMatches_of_normalized fitting] at unmatched
    cases unmatched
  · rcases decides.first with spelt | ⟨unspelt, -⟩
    · rw [spelt, fits_shown] at spelling
      cases spelling
    · obtain ⟨own, member, rfl⟩ := present
      exact unspelt own member rfl (texts_of_no_params none values)
  · rcases decides.first with spelt | ⟨-, first⟩
    · rw [spelt, fits_shown] at spelling
      cases spelling
    · have unfit := first route (List.contains_iff_mem.mp front) rfl
      rw [fits_shown] at unfit
      cases unfit

theorem exceptional_requires :
    (decidingEntry "GET" ["api", "v1", "workflows", "runs", "versions"]).map requirement =
      some (some "workflow:manage") ∧
    (decidingEntry "GET" ["api", "v1", "workflows", "runs", "diff"]).map requirement =
      some (some "workflow:manage") ∧
    (decidingEntry "GET" ["api", "v1", "workflows", "runs", "versions", "nodes"]).map requirement =
      some (some "workflow:manage") ∧
    (decidingEntry "GET" ["api", "v1", "workflows", "runs", "versions", "timeline"]).map requirement =
      some (some "workflow:manage") ∧
    (decidingEntry "PUT" ["api", "v1", "memory", "{id}"]).map requirement =
      some (some "memory:update") := by
  simp only [decidingEntry, entryFor_find]
  decide +kernel

theorem required_eq (present : ∃ own ∈ routeRegistry, own.1 = route)
    (nonempty : ∀ name, values name ≠ [] ∧ '/' ∉ values name) (slash : Bool) {method : String}
    (same : upper method = route.method) :
    getRequiredPermission method (joined (route.filled values) slash) =
      ((decidingEntry route.method (route.shown values)).map requirement).getD (some "DENY") := by
  obtain ⟨own, member, rfl⟩ := present
  have wellFormed := wellFormed_of_mem member
  have some : own.1.filled values ≠ [] := by
    simp only [Route.wellFormed, Bool.and_eq_true, Bool.not_eq_true',
      List.isEmpty_eq_false_iff] at wellFormed
    simpa [Route.filled] using wellFormed.1
  rw [getRequiredPermission_joined (fun _ => wellFormed_of_mem) method
    (proper_filled wellFormed nonempty) some, normalized_filled wellFormed, same]

theorem required_of_unexceptional {spec : RouteAuthzSpec}
    (mapped : (route, spec) ∈ routePermissionMap)
    (nonempty : ∀ name, values name ≠ [] ∧ '/' ∉ values name) {slash : Bool}
    (unrivalled : Unrivalled route (joined (route.filled values) slash))
    (usual : ¬ Exceptional route values) {method : String} (same : upper method = route.method) :
    getRequiredPermission method (joined (route.filled values) slash) = specified route spec := by
  have present : ∃ own ∈ routeRegistry, own.1 = route := map_registered mapped
  rw [required_eq present nonempty slash same]
  obtain ⟨own, member, rfl⟩ := present
  obtain ⟨entry, found⟩ := exists_deciding member rfl (fits_shown own.1 values)
  have decides := decidesOn_of_some found
  have overlapping : overlap entry.1.segments own.1.segments = true :=
    overlap_of_fits decides.fits
  have settled := overlaps_settled mapped decides.member
  simp only [settles, decides.method_eq, overlapping, beq_self_eq_true, Bool.and_self, Bool.not_true,
    Bool.false_or, Bool.or_eq_true, beq_iff_eq, List.contains_iff_mem] at settled
  rw [found]
  rcases settled with (requires | overtaken) | listed
  · exact requires
  · exact absurd decides
      (not_decides_of_overtaken (wellFormed_of_mem member) ⟨own, member, rfl⟩ nonempty unrivalled overtaken)
  · exact absurd (exceptional_of_decides decides listed) usual

theorem exceptional_specified : (routePermissionMap.all fun (route, spec) =>
    (route != api "GET" ["workflows", "runs", .param "run_id"] ||
      specified route spec == some "run:read") &&
    (route != api "GET" ["workflows", "runs", .param "run_id", "nodes"] ||
      specified route spec == some "run:read") &&
    (route != api "GET" ["workflows", "runs", .param "run_id", "timeline"] ||
      specified route spec == some "audit:read") &&
    (route != api "PUT" ["memory", .param "record_id"] ||
      specified route spec == some "memory:write")) = true := by
  decide +kernel

/-- For an exceptional value, another entry decides. -/
theorem required_of_exceptional {spec : RouteAuthzSpec}
    (mapped : (route, spec) ∈ routePermissionMap)
    (nonempty : ∀ name, values name ≠ [] ∧ '/' ∉ values name) (slash : Bool)
    (exceptional : Exceptional route values) {method : String}
    (same : upper method = route.method) :
    getRequiredPermission method (joined (route.filled values) slash) ≠ specified route spec := by
  have specifications := List.all_eq_true.mp exceptional_specified _ mapped
  simp only [Bool.and_eq_true, Bool.or_eq_true, bne_iff_ne, beq_iff_eq] at specifications
  obtain ⟨⟨⟨run, nodes⟩, timeline⟩, record⟩ := specifications
  have present : ∃ own ∈ routeRegistry, own.1 = route := map_registered mapped
  have shown (word : String) (other : normalizePart word.toList = word.toList) :
      String.ofList (normalizePart word.toList) = word := by
    rw [other, String.ofList_toList]
  have requires {found : Option (Route × Option String)} {answer other : Option String}
      (answers : found.map requirement = some answer) (differs : answer ≠ other) :
      (found.map requirement).getD (some "DENY") ≠ other := by
    rw [answers]
    exact differs
  obtain ⟨versions, diff, versionsNodes, versionsTimeline, id⟩ := exceptional_requires
  rw [required_eq present nonempty slash same]
  rcases exceptional with ⟨rfl, word | word⟩ | ⟨rfl | rfl, word⟩ | ⟨rfl, word⟩
  · have last : String.ofList (normalizePart (values "run_id")) = "versions" := by
      rw [word]
      exact shown "versions" (by decide)
    have parts : (api "GET" ["workflows", "runs", .param "run_id"]).shown values =
        ["api", "v1", "workflows", "runs", "versions"] := by
      simp [api, Authz.route, Route.shown, last]
    rw [parts, run.resolve_left (not_not_intro rfl)]
    exact requires versions (by decide)
  · have last : String.ofList (normalizePart (values "run_id")) = "diff" := by
      rw [word]
      exact shown "diff" (by decide)
    have parts : (api "GET" ["workflows", "runs", .param "run_id"]).shown values =
        ["api", "v1", "workflows", "runs", "diff"] := by
      simp [api, Authz.route, Route.shown, last]
    rw [parts, run.resolve_left (not_not_intro rfl)]
    exact requires diff (by decide)
  · have inner : String.ofList (normalizePart (values "run_id")) = "versions" := by
      rw [word]
      exact shown "versions" (by decide)
    have parts : (api "GET" ["workflows", "runs", .param "run_id", "nodes"]).shown values =
        ["api", "v1", "workflows", "runs", "versions", "nodes"] := by
      simp [api, Authz.route, Route.shown, inner]
    rw [parts, nodes.resolve_left (not_not_intro rfl)]
    exact requires versionsNodes (by decide)
  · have inner : String.ofList (normalizePart (values "run_id")) = "versions" := by
      rw [word]
      exact shown "versions" (by decide)
    have parts : (api "GET" ["workflows", "runs", .param "run_id", "timeline"]).shown values =
        ["api", "v1", "workflows", "runs", "versions", "timeline"] := by
      simp [api, Authz.route, Route.shown, inner]
    rw [parts, timeline.resolve_left (not_not_intro rfl)]
    exact requires versionsTimeline (by decide)
  · have last : String.ofList (normalizePart (values "record_id")) = "{id}" := by
      rw [word, String.ofList_toList]
    have parts : (api "PUT" ["memory", .param "record_id"]).shown values =
        ["api", "v1", "memory", "{id}"] := by
      simp [api, Authz.route, Route.shown, last]
    rw [parts, record.resolve_left (not_not_intro rfl)]
    exact requires id (by decide)

end

/-! ### Paths that match no template -/

theorem registered_none {method : String} {path : List Char} {test : List Char → Bool}
    (unmatched : ∀ entry ∈ routeRegistry, entry.1.method = method →
      pathMatchesTemplate path entry.1.path = false)
    (fitting : ∀ template, test template = true → pathMatchesTemplate path template = true) :
    registered method test = none := by
  unfold registered
  rw [Option.map_eq_none_iff, List.find?_eq_none]
  intro entry member passes
  rw [Bool.and_eq_true, beq_iff_eq] at passes
  have own := unmatched entry member passes.1
  rw [fitting entry.1.path passes.2] at own
  cases own

theorem required_of_unmatched {method : String} {path : List Char}
    (unmatched : ∀ entry ∈ routeRegistry, entry.1.method = upper method →
      pathMatchesTemplate path entry.1.path = false) :
    getRequiredPermission method path = some "DENY" := by
  have fitting {template : List Char}
      (same : pathParts (normalizePath path) = pathParts template) :
      pathMatchesTemplate path template = true :=
    pathMatches_of_normalized (pathMatches_of_parts same)
  have exact : registered (upper method) (· == normalizePath path) = none := by
    refine registered_none unmatched fun template same => fitting ?_
    rw [eq_of_beq same]
  have alt : registered (upper method) (· == if (normalizePath path).getLast? = some '/'
      then (normalizePath path).dropLast else normalizePath path ++ ['/']) = none := by
    refine registered_none unmatched fun template same => fitting ?_
    rw [eq_of_beq same, pathParts_eq, pathParts_eq]
    split
    · next ends =>
        obtain ⟨front, whole⟩ := List.getLast?_eq_some_iff.mp ends
        rw [whole, List.dropLast_concat, Paths.parts_concat_sep]
    · rw [Paths.parts_concat_sep]
  have first : registered (upper method) (pathMatchesTemplate (normalizePath path)) = none :=
    registered_none unmatched fun _ => pathMatches_of_normalized
  unfold getRequiredPermission
  simp only [exact, alt, first]

/-! ### Main results -/

/-- A request requires what the specification of its template says unless its value is an
exception, and a path that matches no template is denied. -/
theorem required_by_template_iff (method : String) :
    (∀ route spec, (route, spec) ∈ routePermissionMap → upper method = route.method →
      ∀ values : String → List Char, (∀ name, values name ≠ [] ∧ '/' ∉ values name) → ∀ slash,
      Unrivalled route (joined (route.filled values) slash) →
      (getRequiredPermission method (joined (route.filled values) slash) = specified route spec ↔
        ¬ Exceptional route values)) ∧
    ∀ path, (∀ entry ∈ routeRegistry, entry.1.method = upper method →
      pathMatchesTemplate path entry.1.path = false) →
      getRequiredPermission method path = some "DENY" := by
  constructor
  · intro route spec mapped same values nonempty slash unrivalled
    constructor
    · intro required exceptional
      exact required_of_exceptional mapped nonempty slash exceptional same required
    · intro usual
      exact required_of_unexceptional mapped nonempty unrivalled usual same
  · intro path unmatched
    exact required_of_unmatched unmatched

/-- A memory record whose identifier is a ULID is updated with another permission than one whose
identifier is not. -/
theorem ulid_requires_update :
    getRequiredPermission "PUT" "/api/v1/memory/rec1".toList = some "memory:write" ∧
    ¬ ∀ route spec, (route, spec) ∈ routePermissionMap → ∀ values : String → List Char,
      (∀ name, values name ≠ [] ∧ '/' ∉ values name) → ∀ slash,
      Unrivalled route (joined (route.filled values) slash) →
      ∀ method, upper method = route.method →
      getRequiredPermission method (joined (route.filled values) slash) = specified route spec := by
  have listed : (routePermissionMap.any fun entry =>
      entry.1 == api "PUT" ["memory", .param "record_id"]) = true := by
    decide +kernel
  obtain ⟨⟨_, spec⟩, mapped, same⟩ := List.any_eq_true.mp listed
  obtain rfl := eq_of_beq same
  have specifications := List.all_eq_true.mp exceptional_specified _ mapped
  simp only [Bool.and_eq_true, Bool.or_eq_true, bne_self_eq_false, Bool.false_eq_true, false_or,
    beq_iff_eq] at specifications
  constructor
  · have usual : ¬ Exceptional (api "PUT" ["memory", .param "record_id"])
        fun _ => "rec1".toList := by
      unfold Exceptional
      decide
    have unrivalled : Unrivalled (api "PUT" ["memory", .param "record_id"])
        (joined ((api "PUT" ["memory", .param "record_id"]).filled fun _ => "rec1".toList)
          false) := by
      unfold Unrivalled
      decide +kernel
    have required := required_of_unexceptional mapped (fun _ => by decide) unrivalled usual
      (show upper "PUT" = "PUT" from rfl)
    exact required.trans specifications.2
  · intro always
    have unrivalled : Unrivalled (api "PUT" ["memory", .param "record_id"])
        (joined ((api "PUT" ["memory", .param "record_id"]).filled
          fun _ => "01ARZ3NDEKTSV4RRFFQ69G5FAV".toList) false) := by
      unfold Unrivalled
      decide +kernel
    have exceptional : Exceptional (api "PUT" ["memory", .param "record_id"])
        fun _ => "01ARZ3NDEKTSV4RRFFQ69G5FAV".toList :=
      .inr (.inr ⟨rfl, by decide⟩)
    exact required_of_exceptional mapped (fun _ => by decide) false exceptional rfl
      (always _ spec mapped _ (fun _ => by decide) false unrivalled "PUT" rfl)

end SyndicateClaw.Authz
