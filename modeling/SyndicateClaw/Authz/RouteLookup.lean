import Mathlib.Data.List.Find
import SyndicateClaw.Authz.Routes

/-! The lookup of a path by its parts: an entry spelt like the path, one with a slash at the end,
or the first template that fits. -/

namespace SyndicateClaw.Authz

/-! ### Paths in parts -/

def joined (parts : List (List Char)) (slash : Bool) : List Char :=
  ['/'].intercalate ([] :: parts ++ if slash then [[]] else [])

def Proper (parts : List (List Char)) : Prop := ∀ part ∈ parts, part ≠ [] ∧ '/' ∉ part

theorem Proper.clean {parts : List (List Char)} (proper : Proper parts) (slash : Bool) :
    Paths.Clean '/' ([] :: parts ++ if slash then [[]] else []) := by
  intro part member
  rw [List.mem_append, List.mem_cons] at member
  rcases member with (rfl | inside) | last
  · exact List.not_mem_nil
  · exact (proper part inside).2
  · cases slash with
    | false => cases last
    | true =>
        obtain rfl := List.mem_singleton.mp last
        exact List.not_mem_nil

theorem pathParts_eq (path : List Char) : pathParts path = Paths.parts '/' path := by
  unfold pathParts
  rw [Paths.parts_rdropWhile, Paths.parts_dropWhile]

theorem pathParts_joined {parts : List (List Char)} (proper : Proper parts) (slash : Bool) :
    pathParts (joined parts slash) = parts := by
  have kept : parts.filter (fun part => !part.isEmpty) = parts := by
    rw [List.filter_eq_self]
    intro part member
    simpa using (proper part member).1
  rw [pathParts_eq, joined, Paths.parts_intercalate (proper.clean slash), List.filter_append,
    List.filter_cons_of_neg (by simp), kept]
  cases slash <;> simp

theorem joined_inj {parts others : List (List Char)} (proper : Proper parts)
    (proper' : Proper others) {slash slash' : Bool} :
    joined parts slash = joined others slash' ↔ parts = others ∧ slash = slash' := by
  constructor
  · intro same
    have inner : parts = others := by
      rw [← pathParts_joined proper slash, same, pathParts_joined proper']
    subst inner
    have whole := (Paths.intercalate_inj (proper.clean slash) (proper.clean slash') (by simp)
      (by simp)).mp same
    refine ⟨rfl, ?_⟩
    cases slash <;> cases slash' <;> simp_all
  · rintro ⟨rfl, rfl⟩
    rfl

theorem joined_slash (parts : List (List Char)) : joined parts true = joined parts false ++ ['/'] := by
  unfold joined
  rw [if_pos rfl, if_neg Bool.false_ne_true, List.append_nil]
  exact Paths.intercalate_concat_nil (by simp)

theorem rdropWhile_joined {parts : List (List Char)} (proper : Proper parts) (some : parts ≠ [])
    (slash : Bool) : (joined parts slash).rdropWhile (· == '/') = joined parts false := by
  obtain ⟨front, last, rfl⟩ := (List.eq_nil_or_concat parts).resolve_left some
  have ends := proper last (by simp)
  have plain : (joined (front.concat last) false).rdropWhile (· == '/') =
      joined (front.concat last) false := by
    have kept := @Paths.rdropWhile_intercalate Char _ _ '/' ([] :: front) last ends.2 ends.1
    simpa [joined] using kept
  cases slash with
  | false => exact plain
  | true => rw [joined_slash, List.rdropWhile_concat_pos _ _ _ (by simp), plain]

theorem getLast?_joined {parts : List (List Char)} (proper : Proper parts) (some : parts ≠ []) :
    (joined parts false).getLast? ≠ .some '/' := by
  intro ends
  obtain ⟨front, whole⟩ := List.getLast?_eq_some_iff.mp ends
  have kept := rdropWhile_joined proper some false
  rw [whole, List.rdropWhile_concat_pos _ _ _ (by simp)] at kept
  have shorter := (List.rdropWhile_prefix (· == '/') front).length_le
  rw [kept, List.length_append, List.length_singleton] at shorter
  omega

/-! ### Normalised paths -/

theorem normalizePart_proper {part : List Char} (proper : part ≠ [] ∧ '/' ∉ part) :
    normalizePart part ≠ [] ∧ '/' ∉ normalizePart part := by
  unfold normalizePart
  split
  · decide
  · exact proper

theorem normalized_proper {parts : List (List Char)} (proper : Proper parts) :
    Proper (parts.map normalizePart) := by
  intro part member
  obtain ⟨own, inside, rfl⟩ := List.mem_map.mp member
  exact normalizePart_proper (proper own inside)

theorem normalizePath_joined {parts : List (List Char)} (proper : Proper parts)
    (some : parts ≠ []) (slash : Bool) :
    normalizePath (joined parts slash) = joined (parts.map normalizePart) false := by
  have nonempty : joined parts false ≠ [] := by
    intro none
    have own := pathParts_joined proper false
    rw [none, pathParts_eq, Paths.parts_nil] at own
    exact some own.symm
  have whole : joined parts slash ≠ [] := by
    intro none
    have own := pathParts_joined proper slash
    rw [none, pathParts_eq, Paths.parts_nil] at own
    exact some own.symm
  have split : (joined parts false).splitOn '/' = [] :: parts := by
    have clean := proper.clean false
    rw [if_neg Bool.false_ne_true, List.append_nil] at clean
    rw [joined, if_neg Bool.false_ne_true, List.append_nil,
      List.splitOn_intercalate '/' clean (by simp)]
  unfold normalizePath
  simp only [if_neg whole, rdropWhile_joined proper some slash, if_neg nonempty, split]
  simp [joined]

theorem normalizePart_cases (part : List Char) :
    normalizePart part = part ∨ normalizePart part = "{id}".toList := by
  unfold normalizePart
  split
  · exact .inr rfl
  · exact .inl rfl

theorem normalizePart_isEmpty (part : List Char) :
    (normalizePart part).isEmpty = part.isEmpty := by
  rcases normalizePart_cases part with same | id
  · rw [same]
  · cases part with
    | nil => decide
    | cons first rest =>
        have some : "{id}".toList.isEmpty = false := by decide
        rw [id, some]
        rfl

/-- The parts of a normalised path are those of the path, or `{id}`. -/
theorem normalized_parts (path : List Char) :
    List.Forall₂ (fun part normal => normal = part ∨ normal = "{id}".toList) (pathParts path)
      (pathParts (normalizePath path)) := by
  have alike (parts : List (List Char)) : List.Forall₂
      (fun part normal => normal = part ∨ normal = "{id}".toList) parts
      (parts.map normalizePart) := by
    induction parts with
    | nil => exact .nil
    | cons part parts ih => exact .cons (normalizePart_cases part) ih
  unfold normalizePath
  split
  · exact List.forall₂_same.mpr fun part _ => .inl rfl
  next nonempty =>
  have trimmed : pathParts path = Paths.parts '/' (path.rdropWhile (· == '/')) := by
    rw [pathParts_eq, Paths.parts_rdropWhile]
  rw [trimmed, pathParts_eq]
  dsimp only
  split
  · next none =>
      rw [none]
      exact .nil
  cases split : (path.rdropWhile (· == '/')).splitOn '/' with
  | nil => exact absurd split (List.splitOn_ne_nil _ _)
  | cons first rest =>
      have clean := @Paths.clean_splitOn Char _ _ '/' (path.rdropWhile (· == '/'))
      rw [split] at clean
      obtain ⟨own, others⟩ := List.forall_mem_cons.mp clean
      have normal : Paths.Clean '/' (first :: rest.map normalizePart) := by
        refine List.forall_mem_cons.mpr ⟨own, fun part member => ?_⟩
        obtain ⟨other, inside, rfl⟩ := List.mem_map.mp member
        rcases normalizePart_cases other with same | id
        · rw [same]
          exact others other inside
        · rw [id]
          decide
      have kept : (rest.map normalizePart).filter (fun part => !part.isEmpty) =
          (rest.filter fun part => !part.isEmpty).map normalizePart := by
        rw [List.filter_map]
        congr 2
        funext part
        exact congrArg _ (normalizePart_isEmpty part)
      unfold Paths.parts
      rw [split]
      dsimp only
      rw [List.splitOn_intercalate '/' normal (by simp), List.filter_cons, List.filter_cons, kept]
      split
      · exact .cons (.inl rfl) (alike _)
      · exact alike _

theorem pathMatches_of_normalized {path template : List Char}
    (fitting : pathMatchesTemplate (normalizePath path) template = true) :
    pathMatchesTemplate path template = true := by
  have related := normalized_parts path
  have inner {parts normals : List (List Char)} (tplParts : List (List Char))
      (related : List.Forall₂ (fun part normal => normal = part ∨ normal = "{id}".toList) parts
        normals)
      (all : ((normals.zip tplParts).all fun pair =>
        isParameter pair.2 || pair.1 == pair.2) = true) :
      ((parts.zip tplParts).all fun pair => isParameter pair.2 || pair.1 == pair.2) = true := by
    induction related generalizing tplParts with
    | nil => rfl
    | @cons part normal parts normals same _ ih =>
        cases tplParts with
        | nil => rfl
        | cons tplPart tplParts =>
            rw [List.zip_cons_cons, List.all_cons, Bool.and_eq_true] at all ⊢
            refine ⟨?_, ih tplParts all.2⟩
            rcases same with rfl | rfl
            · exact all.1
            · have own := all.1
              simp only [Bool.or_eq_true, beq_iff_eq] at own ⊢
              rcases own with parameter | literal
              · exact .inl parameter
              · rw [← literal]
                exact .inl (by decide)
  unfold pathMatchesTemplate at fitting ⊢
  dsimp only at fitting ⊢
  rw [related.length_eq]
  split at fitting
  · cases fitting
  · next same =>
      rw [if_neg same]
      exact inner _ related fitting

theorem pathMatches_of_parts {path template : List Char}
    (same : pathParts path = pathParts template) : pathMatchesTemplate path template = true := by
  have twins (parts : List (List Char)) : ((parts.zip parts).all fun pair =>
      isParameter pair.2 || pair.1 == pair.2) = true := by
    induction parts with
    | nil => rfl
    | cons part parts ih =>
        rw [List.zip_cons_cons, List.all_cons, ih]
        simp
  unfold pathMatchesTemplate
  rw [same]
  simpa using twins (pathParts template)

/-! ### Templates in parts -/

def Route.texts (route : Route) : List String := route.segments.map Segment.text

def plainText (text : List Char) : Bool :=
  !text.isEmpty && !text.contains '/' && !isParameter text && normalizePart text == text

/-- Parameters are in braces and hold no slash, and nothing else is in braces or looks like an
identifier. -/
def Segment.wellFormed : Segment → Bool
  | .lit text => plainText text.toList
  | .param name => !name.toList.contains '/'

def Route.wellFormed (route : Route) : Bool :=
  !route.segments.isEmpty && route.segments.all Segment.wellFormed

def fits : List Segment → List String → Bool
  | [], [] => true
  | .lit text :: segments, part :: parts => text == part && fits segments parts
  | .param _ :: segments, _ :: parts => fits segments parts
  | _, _ => false

@[simp] theorem fits_lit (text part : String) (segments : List Segment) (parts : List String) :
    fits (.lit text :: segments) (part :: parts) = (text == part && fits segments parts) := rfl

@[simp] theorem fits_param (name part : String) (segments : List Segment) (parts : List String) :
    fits (.param name :: segments) (part :: parts) = fits segments parts := rfl

theorem param_toList (name : String) :
    (Segment.param name).text.toList = '{' :: name.toList ++ ['}'] := by
  simp [Segment.text]

theorem isParameter_iff {segment : Segment} (wellFormed : segment.wellFormed = true) :
    isParameter segment.text.toList = true ↔ ∃ name, segment = .param name := by
  cases segment with
  | lit text =>
      simp only [Segment.wellFormed, plainText, Bool.and_eq_true, Bool.not_eq_true'] at wellFormed
      simp [Segment.text, wellFormed.1.2]
  | param name =>
      have ends : ('{' :: name.toList ++ ['}']).getLast? = some '}' := List.getLast?_concat
      rw [param_toList, isParameter, ends]
      simp

theorem proper_text {segment : Segment} (wellFormed : segment.wellFormed = true) :
    segment.text.toList ≠ [] ∧ '/' ∉ segment.text.toList := by
  cases segment with
  | lit text =>
      simp only [Segment.wellFormed, plainText, Bool.and_eq_true, Bool.not_eq_true',
        List.isEmpty_eq_false_iff, List.contains_eq_mem, decide_eq_false_iff_not] at wellFormed
      exact wellFormed.1.1
  | param name =>
      simp only [Segment.wellFormed, Bool.not_eq_true', List.contains_eq_mem,
        decide_eq_false_iff_not] at wellFormed
      rw [param_toList]
      simp [wellFormed]

section

variable {route : Route}

theorem proper_texts (wellFormed : route.wellFormed = true) :
    Proper (route.segments.map fun segment => segment.text.toList) := by
  simp only [Route.wellFormed, Bool.and_eq_true, List.all_eq_true] at wellFormed
  intro part member
  obtain ⟨segment, inside, rfl⟩ := List.mem_map.mp member
  exact proper_text (wellFormed.2 segment inside)

theorem path_eq (route : Route) : route.path =
    joined (route.segments.map fun segment => segment.text.toList) route.slash := rfl

theorem map_ofList_inj {parts : List (List Char)} {texts : List String} :
    texts.map String.toList = parts ↔ texts = parts.map String.ofList := by
  constructor
  · rintro rfl
    simp
  · rintro rfl
    simp

theorem path_eq_joined (wellFormed : route.wellFormed = true) {parts : List (List Char)}
    (proper : Proper parts) (slash : Bool) :
    route.path = joined parts slash ↔
      route.texts = parts.map String.ofList ∧ route.slash = slash := by
  rw [path_eq, joined_inj (proper_texts wellFormed) proper, ← map_ofList_inj, Route.texts,
    List.map_map]
  rfl

theorem matches_eq_fits {segments : List Segment} (wellFormed : ∀ s ∈ segments, s.wellFormed = true)
    (parts : List (List Char)) :
    (decide (parts.length = segments.length) &&
      (parts.zip (segments.map fun segment => segment.text.toList)).all
        fun (part, tplPart) => isParameter tplPart || part == tplPart) =
      fits segments (parts.map String.ofList) := by
  induction segments generalizing parts with
  | nil => cases parts <;> simp [fits]
  | cons segment segments ih =>
      obtain ⟨own, others⟩ := List.forall_mem_cons.mp wellFormed
      cases parts with
      | nil => cases segment <;> simp [fits]
      | cons part parts =>
          have later := ih others parts
          have parameter := isParameter_iff own
          cases segment with
          | lit text =>
              have literal : isParameter (Segment.lit text).text.toList = false := by
                rw [← Bool.not_eq_true, parameter]
                exact nofun
              have same : (part == text.toList) = (text == String.ofList part) := by
                rw [Bool.eq_iff_iff, beq_iff_eq, beq_iff_eq]
                constructor <;> rintro rfl <;> simp
              simp only [List.map_cons, fits_lit, ← later, ← same, List.zip_cons_cons,
                List.all_cons, literal, Bool.false_or, List.length_cons, Nat.add_right_cancel_iff]
              exact Bool.and_left_comm _ _ _
          | param name =>
              have braces : isParameter (Segment.param name).text.toList = true :=
                parameter.mpr ⟨name, rfl⟩
              simp only [List.map_cons, fits_param, ← later, List.zip_cons_cons, List.all_cons,
                braces, Bool.true_or, Bool.true_and, List.length_cons, Nat.add_right_cancel_iff]

theorem pathMatches_joined (wellFormed : route.wellFormed = true) {parts : List (List Char)}
    (proper : Proper parts) (slash : Bool) :
    pathMatchesTemplate (joined parts slash) route.path =
      fits route.segments (parts.map String.ofList) := by
  have segments := wellFormed
  simp only [Route.wellFormed, Bool.and_eq_true, List.all_eq_true] at segments
  rw [← matches_eq_fits segments.2, path_eq]
  unfold pathMatchesTemplate
  rw [pathParts_joined proper, pathParts_joined (proper_texts wellFormed)]
  by_cases same : parts.length = route.segments.length <;> simp [same]

/-! ### The lookup -/

def registration : Route × RouteAuthzSpec → Route × Option String
  | (route, spec) =>
      (route, some (if spec.permission ∈ permissionVocabulary then spec.permission else "admin:*"))

theorem mem_registry {entry : Route × Option String} (member : entry ∈ routeRegistry) :
    entry ∈ routePermissionMap.map registration ∨ entry ∈ forwardRoutes :=
  Dict.mem_update member

theorem find?_registry (test : Route → Bool) :
    routeRegistry.find? (fun entry => test entry.1) =
      (((routePermissionMap.map registration).find? fun entry => test entry.1).map fun entry =>
        (entry.1, (Dict.get? forwardRoutes entry.1).getD entry.2)).or
          (forwardRoutes.find? fun entry => test entry.1) :=
  Dict.find?_update _ _ test

def entryFor (method : String) (test : Route → Bool) : Option (Route × Option String) :=
  routeRegistry.find? fun entry => entry.1.method == method && test entry.1

theorem entryFor_find (method : String) (test : Route → Bool) :
    entryFor method test =
      (((routePermissionMap.map registration).find? fun entry =>
          entry.1.method == method && test entry.1).map fun entry =>
        (entry.1, (Dict.get? forwardRoutes entry.1).getD entry.2)).or
          (forwardRoutes.find? fun entry => entry.1.method == method && test entry.1) :=
  find?_registry fun route => route.method == method && test route

/-- The entry that decides on the parts of a path: one spelt like them without a slash at the end,
one with a slash, or the first that fits. -/
def decidingEntry (method : String) (parts : List String) : Option (Route × Option String) :=
  entryFor method (fun route => route.texts == parts && route.slash == false) <|>
    entryFor method (fun route => route.texts == parts && route.slash == true) <|>
    entryFor method fun route => fits route.segments parts

theorem registered_eq {method : String} {test : List Char → Bool} {test' : Route → Bool}
    (same : ∀ entry ∈ routeRegistry, test entry.1.path = test' entry.1) :
    registered method test = (entryFor method test').map requirement := by
  unfold registered entryFor
  congr 1
  apply List.find?_congr
  intro entry member
  rw [same entry member]

theorem getRequiredPermission_joined
    (wellFormed : ∀ entry ∈ routeRegistry, entry.1.wellFormed = true) (method : String)
    {parts : List (List Char)} (proper : Proper parts) (some : parts ≠ []) (slash : Bool) :
    getRequiredPermission method (joined parts slash) =
      ((decidingEntry (upper method) ((parts.map normalizePart).map String.ofList)).map
        requirement).getD (.some "DENY") := by
  have proper' := normalized_proper proper
  have some' : parts.map normalizePart ≠ [] := by simpa using some
  have spelt (slash : Bool) : registered (upper method) (· == joined (parts.map normalizePart) slash) =
      (entryFor (upper method) fun route =>
        route.texts == (parts.map normalizePart).map String.ofList && route.slash == slash).map
          requirement := by
    apply registered_eq
    intro entry member
    rw [Bool.eq_iff_iff, beq_iff_eq, path_eq_joined (wellFormed entry member) proper']
    simp
  have fitting : registered (upper method)
      (pathMatchesTemplate (joined (parts.map normalizePart) false)) =
      (entryFor (upper method) fun route =>
        fits route.segments ((parts.map normalizePart).map String.ofList)).map requirement := by
    apply registered_eq
    intro entry member
    exact pathMatches_joined (wellFormed entry member) proper' false
  unfold getRequiredPermission decidingEntry
  simp only [normalizePath_joined proper some slash, if_neg (getLast?_joined proper' some'),
    ← joined_slash, spelt, fitting]
  cases entryFor (upper method) fun route =>
    route.texts == (parts.map normalizePart).map String.ofList && route.slash == false with
  | some entry => rfl
  | none =>
      cases entryFor (upper method) fun route =>
        route.texts == (parts.map normalizePart).map String.ofList && route.slash == true with
      | some entry => rfl
      | none =>
          cases entryFor (upper method) fun route =>
            fits route.segments ((parts.map normalizePart).map String.ofList) <;> rfl

end

end SyndicateClaw.Authz
