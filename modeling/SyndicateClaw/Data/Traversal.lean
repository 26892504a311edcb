import SyndicateClaw.Data.Keyed

/-! Walks over a table whose rows name others, first come first, and descents, last come first. -/

namespace SyndicateClaw.Keyed

variable {α κ ε : Type} {key : α → κ} [DecidableEq κ] (table : Keyed key)
  (names : α → Except ε (List κ))

def unvisited (visited : List κ) : List α := table.rows.filter fun row => key row ∉ visited

theorem length_unvisited_of_grows {visited later : List κ} (grows : ∀ k ∈ visited, k ∈ later) :
    (table.unvisited later).length ≤ (table.unvisited visited).length := by
  unfold unvisited
  rw [← List.countP_eq_length_filter, ← List.countP_eq_length_filter]
  apply List.countP_mono_left
  intro row _ new
  rw [decide_eq_true_eq] at new ⊢
  exact fun before => new (grows (key row) before)

theorem length_unvisited_le (visited : List κ) (k : κ) :
    (table.unvisited (k :: visited)).length ≤ (table.unvisited visited).length :=
  table.length_unvisited_of_grows fun _ => List.mem_cons_of_mem k

theorem length_unvisited_lt {visited : List κ} {k : κ} {row : α} (new : k ∉ visited)
    (found : table.get? k = some row) :
    (table.unvisited (k :: visited)).length < (table.unvisited visited).length := by
  obtain ⟨member, rfl⟩ := get?_eq_some.mp found
  have fewer : table.unvisited (key row :: visited) =
      (table.unvisited visited).filter fun other => key other ≠ key row := by
    unfold unvisited
    rw [List.filter_filter]
    apply List.filter_congr
    intro other _
    simp
  rw [fewer]
  apply List.length_filter_lt_length_iff_exists.mpr
  exact ⟨row, List.mem_filter.mpr ⟨member, by simpa using new⟩, by simp⟩

/-- The rows that a queue of keys leads to: a row is visited once, and the keys that it names are
put at the end. -/
def walk (queue visited : List κ) : Except ε (List α) :=
  match queue with
  | [] => .ok []
  | k :: rest =>
      if k ∈ visited then walk rest visited
      else
        match found : table.get? k with
        | none => walk rest (k :: visited)
        | some row =>
            match names row with
            | .error error => .error error
            | .ok ks => (walk (rest ++ ks) (k :: visited)).map (row :: ·)
termination_by ((table.unvisited visited).length, queue.length)
decreasing_by
  · exact .right _ (Nat.lt_succ_self _)
  · rcases Nat.lt_or_eq_of_le (table.length_unvisited_le visited k) with less | same
    · exact .left _ _ less
    · rw [same]
      exact .right _ (Nat.lt_succ_self _)
  · next new => exact .left _ _ (table.length_unvisited_lt new found)

inductive Reaches : κ → α → Prop where
  | here {k : κ} {row : α} (found : table.get? k = some row) : Reaches k row
  | onward {k next : κ} {row other : α} {ks : List κ} (found : table.get? k = some row)
      (named : names row = .ok ks) (member : next ∈ ks) (reaches : Reaches next other) :
      Reaches k other

def Closed (queue visited : List κ) : Prop :=
  ∀ row, table.get? (key row) = some row → key row ∈ visited → ∀ ks, names row = .ok ks →
    ∀ k ∈ ks, k ∈ visited ∨ k ∈ queue

variable {table names} {queue rest visited : List κ} {k : κ} {row : α} {chain : List α}

theorem Reaches.stored (reaches : table.Reaches names k row) :
    table.get? (key row) = some row := by
  induction reaches with
  | here found => exact get?_of_mem (get?_eq_some.mp found).1
  | onward _ _ _ _ ih => exact ih

theorem Closed.reaches (closed : table.Closed names [] visited)
    (reaches : table.Reaches names k row) (inside : k ∈ visited) : key row ∈ visited := by
  induction reaches with
  | here found => rwa [(get?_eq_some.mp found).2]
  | onward found named member _ ih =>
      obtain ⟨there, rfl⟩ := get?_eq_some.mp found
      apply ih
      exact (closed _ (get?_of_mem there) inside _ named _ member).resolve_right List.not_mem_nil

/-! ### The steps of a walk -/

theorem walk_visited (inside : k ∈ visited) :
    table.walk names (k :: rest) visited = table.walk names rest visited := by
  rw [walk, if_pos inside]

theorem walk_missing (new : k ∉ visited) (absent : table.get? k = none) :
    table.walk names (k :: rest) visited = table.walk names rest (k :: visited) := by
  rw [walk, if_neg new]
  split
  · rfl
  · next present =>
      rw [absent] at present
      cases present

theorem walk_row (new : k ∉ visited) (found : table.get? k = some row) :
    table.walk names (k :: rest) visited =
      match names row with
      | .error error => .error error
      | .ok ks => (table.walk names (rest ++ ks) (k :: visited)).map (row :: ·) := by
  rw [walk, if_neg new]
  split
  · next absent =>
      rw [found] at absent
      cases absent
  · next same =>
      obtain rfl := Option.some.inj (found.symm.trans same)
      rfl

theorem walk_row_ok (new : k ∉ visited) (found : table.get? k = some row)
    (walked : table.walk names (k :: rest) visited = .ok chain) :
    ∃ ks later, names row = .ok ks ∧ table.walk names (rest ++ ks) (k :: visited) = .ok later ∧
      chain = row :: later := by
  rw [walk_row new found] at walked
  cases named : names row with
  | error error =>
      rw [named] at walked
      cases walked
  | ok ks =>
      rw [named] at walked
      dsimp only at walked
      cases onward : table.walk names (rest ++ ks) (k :: visited) with
      | error error =>
          rw [onward] at walked
          cases walked
      | ok later =>
          rw [onward] at walked
          exact ⟨ks, later, rfl, onward, (Except.ok.inj walked).symm⟩

/-! ### What a walk lists -/

theorem reaches_of_walk (walked : table.walk names queue visited = .ok chain)
    (member : row ∈ chain) : ∃ k ∈ queue, table.Reaches names k row := by
  induction queue, visited using walk.induct table names generalizing chain with
  | case1 visited =>
      rw [walk] at walked
      obtain rfl := Except.ok.inj walked
      cases member
  | case2 visited k rest inside ih =>
      rw [walk_visited inside] at walked
      obtain ⟨other, listed, reaches⟩ := ih walked member
      exact ⟨other, List.mem_cons_of_mem k listed, reaches⟩
  | case3 visited k rest new absent ih =>
      rw [walk_missing new absent] at walked
      obtain ⟨other, listed, reaches⟩ := ih walked member
      exact ⟨other, List.mem_cons_of_mem k listed, reaches⟩
  | case4 visited k rest new parent found error refused =>
      obtain ⟨ks, _, named, _⟩ := walk_row_ok new found walked
      rw [refused] at named
      cases named
  | case5 visited k rest new parent found ks named ih =>
      obtain ⟨_, later, same, onward, rfl⟩ := walk_row_ok new found walked
      obtain rfl := Except.ok.inj (named.symm.trans same)
      rcases List.mem_cons.mp member with rfl | member
      · exact ⟨k, List.mem_cons_self, .here found⟩
      · obtain ⟨other, listed, reaches⟩ := ih onward member
        rcases List.mem_append.mp listed with listed | listed
        · exact ⟨other, List.mem_cons_of_mem k listed, reaches⟩
        · exact ⟨k, List.mem_cons_self, .onward found named listed reaches⟩

theorem named_of_walk (walked : table.walk names queue visited = .ok chain)
    (member : row ∈ chain) : ∃ ks, names row = .ok ks := by
  induction queue, visited using walk.induct table names generalizing chain with
  | case1 visited =>
      rw [walk] at walked
      obtain rfl := Except.ok.inj walked
      cases member
  | case2 visited k rest inside ih =>
      rw [walk_visited inside] at walked
      exact ih walked member
  | case3 visited k rest new absent ih =>
      rw [walk_missing new absent] at walked
      exact ih walked member
  | case4 visited k rest new parent found error refused =>
      obtain ⟨ks, _, named, _⟩ := walk_row_ok new found walked
      rw [refused] at named
      cases named
  | case5 visited k rest new parent found ks named ih =>
      obtain ⟨_, later, same, onward, rfl⟩ := walk_row_ok new found walked
      obtain rfl := Except.ok.inj (named.symm.trans same)
      rcases List.mem_cons.mp member with rfl | member
      · exact ⟨ks, named⟩
      · exact ih onward member

theorem reaches_of_walk_error {error : ε} (failed : table.walk names queue visited = .error error) :
    ∃ k ∈ queue, ∃ row, table.Reaches names k row ∧ names row = .error error := by
  induction queue, visited using walk.induct table names with
  | case1 visited =>
      rw [walk] at failed
      cases failed
  | case2 visited k rest inside ih =>
      rw [walk_visited inside] at failed
      obtain ⟨other, listed, reached⟩ := ih failed
      exact ⟨other, List.mem_cons_of_mem k listed, reached⟩
  | case3 visited k rest new absent ih =>
      rw [walk_missing new absent] at failed
      obtain ⟨other, listed, reached⟩ := ih failed
      exact ⟨other, List.mem_cons_of_mem k listed, reached⟩
  | case4 visited k rest new parent found first refused =>
      rw [walk_row new found, refused] at failed
      obtain rfl := Except.error.inj failed
      exact ⟨k, List.mem_cons_self, parent, .here found, refused⟩
  | case5 visited k rest new parent found ks named ih =>
      rw [walk_row new found, named] at failed
      dsimp only at failed
      cases onward : table.walk names (rest ++ ks) (k :: visited) with
      | ok later =>
          rw [onward] at failed
          cases failed
      | error last =>
          rw [onward] at failed
          obtain rfl := Except.error.inj failed
          obtain ⟨other, listed, row, reaches, refused⟩ := ih onward
          rcases List.mem_append.mp listed with listed | listed
          · exact ⟨other, List.mem_cons_of_mem k listed, row, reaches, refused⟩
          · exact ⟨k, List.mem_cons_self, row, .onward found named listed reaches, refused⟩

omit [DecidableEq κ] in
theorem known_moved {rest : List κ} {first other : κ}
    (known : other ∈ visited ∨ other ∈ first :: rest) :
    other ∈ first :: visited ∨ other ∈ rest := by
  rcases known with before | listed
  · exact .inl (List.mem_cons_of_mem first before)
  · rcases List.mem_cons.mp listed with rfl | later
    · exact .inl List.mem_cons_self
    · exact .inr later

theorem mem_walk (walked : table.walk names queue visited = .ok chain)
    (closed : table.Closed names queue visited) (reaches : table.Reaches names k row)
    (starts : k ∈ visited ∨ k ∈ queue) : key row ∈ visited ∨ row ∈ chain := by
  induction queue, visited using walk.induct table names generalizing chain with
  | case1 visited => exact .inl (closed.reaches reaches (starts.resolve_right List.not_mem_nil))
  | case2 visited first rest inside ih =>
      rw [walk_visited inside] at walked
      -- What is in the queue and was visited can be dropped from it.
      have dropped (other : κ) (listed : other ∈ visited ∨ other ∈ first :: rest) :
          other ∈ visited ∨ other ∈ rest := by
        rcases known_moved listed with before | later
        · rcases List.mem_cons.mp before with rfl | before
          · exact .inl inside
          · exact .inl before
        · exact .inr later
      apply ih walked ?_ (dropped k starts)
      intro other stored member ks named next mentioned
      exact dropped next (closed other stored member ks named next mentioned)
  | case3 visited first rest new absent ih =>
      rw [walk_missing new absent] at walked
      have unstored (other : α) (stored : table.get? (key other) = some other) :
          key other ≠ first := by
        rintro rfl
        rw [absent] at stored
        cases stored
      have listed := ih walked ?_ (known_moved starts)
      · rcases listed with before | after
        · exact .inl ((List.mem_cons.mp before).resolve_left (unstored row reaches.stored))
        · exact .inr after
      · intro other stored member ks named next mentioned
        have before := (List.mem_cons.mp member).resolve_left (unstored other stored)
        exact known_moved (closed other stored before ks named next mentioned)
  | case4 visited first rest new parent found error refused =>
      obtain ⟨ks, _, named, _⟩ := walk_row_ok new found walked
      rw [refused] at named
      cases named
  | case5 visited first rest new parent found ks named ih =>
      obtain ⟨_, later, same, onward, rfl⟩ := walk_row_ok new found walked
      obtain rfl := Except.ok.inj (named.symm.trans same)
      have moved (other : κ) (listed : other ∈ visited ∨ other ∈ first :: rest) :
          other ∈ first :: visited ∨ other ∈ rest ++ ks :=
        (known_moved listed).imp_right (List.mem_append_left ks)
      have own (other : α) (stored : table.get? (key other) = some other)
          (same : key other = first) : other = parent := by
        rw [same, found] at stored
        exact (Option.some.inj stored).symm
      have listed := ih onward ?_ (moved k starts)
      · rcases listed with before | after
        · rcases List.mem_cons.mp before with same | before
          · rw [own row reaches.stored same]
            exact .inr List.mem_cons_self
          · exact .inl before
        · exact .inr (List.mem_cons_of_mem parent after)
      · intro other stored member others mentions next mentioned
        rcases List.mem_cons.mp member with same | before
        · obtain rfl := own other stored same
          obtain rfl := Except.ok.inj (named.symm.trans mentions)
          exact .inr (List.mem_append_right rest mentioned)
        · exact moved next (closed other stored before others mentions next mentioned)

theorem Reaches.transfer {ε' : Type} {names' : α → Except ε' (List κ)}
    (reaches : table.Reaches names k row)
    (agrees : ∀ other, table.Reaches names' k other → ∀ ks, names other = .ok ks →
      names' other = .ok ks) : table.Reaches names' k row := by
  induction reaches with
  | here found => exact .here found
  | onward found named member _ ih =>
      have same := agrees _ (.here found) _ named
      exact .onward found same member (ih fun other onward =>
        agrees other (.onward found same member onward))

/-! ### Descents -/

/-- The keys that a descent has come to, and what it has read. -/
structure Descent (β κ : Type) where
  visited : List κ := []
  chain : List β := []

/-- What a key leads to, where the keys that a row names are gone down to before the next one. Each of
them is one level deeper. -/
def descend {β : Type} (table : Keyed key) (read : α → Except ε β) (mentions : β → List κ)
    (tooDeep : ε) : Nat → Descent β κ → κ → Except ε (Descent β κ)
  | 0, _, _ => .error tooDeep
  | depth + 1, state, k =>
      if k ∈ state.visited then .ok state
      else
        match table.get? k with
        | none => .ok { state with visited := k :: state.visited }
        | some row =>
            match read row with
            | .error error => .error error
            | .ok content =>
                (mentions content).foldlM (descend table read mentions tooDeep depth)
                  ⟨k :: state.visited, state.chain ++ [content]⟩

section

variable {β : Type} {read : α → Except ε β} {mentions : β → List κ} {tooDeep : ε} {depth : Nat}
  {state before after : Descent β κ} {starts ks : List κ} {found later : List β} {content : β}

def mentioned (read : α → Except ε β) (mentions : β → List κ) (row : α) : Except ε (List κ) :=
  (read row).map mentions

omit [DecidableEq κ] in
theorem mentioned_ok : mentioned read mentions row = .ok ks ↔
    ∃ content, read row = .ok content ∧ mentions content = ks := by
  unfold mentioned
  cases read row with
  | error error => simp [Except.map]
  | ok content => simp [Except.map]

structure Finds (table : Keyed key) (read : α → Except ε β) (mentions : β → List κ)
    (starts : List κ) (before after : Descent β κ) (found : List (α × β)) : Prop where
  grows : ∀ k ∈ before.visited, k ∈ after.visited
  visits : ∀ k ∈ starts, k ∈ after.visited
  chain : after.chain = before.chain ++ found.map Prod.snd
  reaches : ∀ pair ∈ found, read pair.1 = .ok pair.2 ∧
    ∃ k ∈ starts, table.Reaches (mentioned read mentions) k pair.1
  new : ∀ pair ∈ found, key pair.1 ∉ before.visited ∧ key pair.1 ∈ after.visited
  once : (found.map fun pair => key pair.1).Nodup
  closed : ∀ row, table.get? (key row) = some row → key row ∈ after.visited →
    key row ∈ before.visited ∨
      ∃ content, (row, content) ∈ found ∧ ∀ k ∈ mentions content, k ∈ after.visited

namespace Finds

theorem none (grows : ∀ k ∈ before.visited, k ∈ after.visited)
    (visits : ∀ k ∈ starts, k ∈ after.visited) (same : after.chain = before.chain)
    (closed : ∀ row, table.get? (key row) = some row → key row ∈ after.visited →
      key row ∈ before.visited) : Finds table read mentions starts before after [] where
  grows := grows
  visits := visits
  chain := by rw [same, List.map_nil, List.append_nil]
  reaches := List.forall_mem_nil _
  new := List.forall_mem_nil _
  once := List.nodup_nil
  closed row stored visited := .inl (closed row stored visited)

theorem cons {between : Descent β κ} {found later : List (α × β)}
    (first : Finds table read mentions [k] before between found)
    (others : Finds table read mentions ks between after later) :
    Finds table read mentions (k :: ks) before after (found ++ later) where
  grows other visited := others.grows other (first.grows other visited)
  visits := by
    intro other listed
    rcases List.mem_cons.mp listed with rfl | listed
    · exact others.grows other (first.visits other List.mem_cons_self)
    · exact others.visits other listed
  chain := by rw [others.chain, first.chain, List.map_append, List.append_assoc]
  reaches := by
    intro pair member
    rcases List.mem_append.mp member with member | member
    · obtain ⟨readable, start, listed, reaches⟩ := first.reaches pair member
      rw [List.mem_singleton.mp listed] at reaches
      exact ⟨readable, k, List.mem_cons_self, reaches⟩
    · obtain ⟨readable, start, listed, reaches⟩ := others.reaches pair member
      exact ⟨readable, start, List.mem_cons_of_mem k listed, reaches⟩
  new := by
    intro pair member
    rcases List.mem_append.mp member with member | member
    · obtain ⟨new, visited⟩ := first.new pair member
      exact ⟨new, others.grows _ visited⟩
    · obtain ⟨new, visited⟩ := others.new pair member
      exact ⟨fun before => new (first.grows _ before), visited⟩
  once := by
    rw [List.map_append, List.nodup_append]
    refine ⟨first.once, others.once, ?_⟩
    intro one there other after same
    obtain ⟨pair, member, rfl⟩ := List.mem_map.mp there
    obtain ⟨second, listed, rfl⟩ := List.mem_map.mp after
    apply (others.new second listed).1
    rw [← same]
    exact (first.new pair member).2
  closed := by
    intro row stored visited
    rcases others.closed row stored visited with between | ⟨content, listed, inside⟩
    · rcases first.closed row stored between with before | ⟨content, listed, inside⟩
      · exact .inl before
      · exact .inr ⟨content, List.mem_append_left later listed,
          fun other named => others.grows other (inside other named)⟩
    · exact .inr ⟨content, List.mem_append_right found listed, inside⟩

/-- A row, and then what it names. -/
theorem visit {found : List (α × β)} (new : k ∉ before.visited) (stored : table.get? k = some row)
    (readable : read row = .ok content)
    (below : Finds table read mentions (mentions content)
      ⟨k :: before.visited, before.chain ++ [content]⟩ after found) :
    Finds table read mentions [k] before after ((row, content) :: found) where
  grows other visited := below.grows other (List.mem_cons_of_mem k visited)
  visits := by
    intro other listed
    rw [List.mem_singleton.mp listed]
    exact below.grows k List.mem_cons_self
  chain := by rw [below.chain, List.map_cons, List.append_assoc, List.singleton_append]
  reaches := by
    intro pair member
    refine ⟨?_, k, List.mem_cons_self, ?_⟩
    · rcases List.mem_cons.mp member with rfl | member
      · exact readable
      · exact (below.reaches pair member).1
    · rcases List.mem_cons.mp member with rfl | member
      · exact .here stored
      · obtain ⟨_, next, named, reaches⟩ := below.reaches pair member
        exact .onward stored (mentioned_ok.mpr ⟨content, readable, rfl⟩) named reaches
  new := by
    intro pair member
    rcases List.mem_cons.mp member with rfl | member
    · rw [(get?_eq_some.mp stored).2]
      exact ⟨new, below.grows k List.mem_cons_self⟩
    · obtain ⟨unseen, visited⟩ := below.new pair member
      exact ⟨fun before => unseen (List.mem_cons_of_mem k before), visited⟩
  once := by
    rw [List.map_cons, (get?_eq_some.mp stored).2, List.nodup_cons]
    refine ⟨?_, below.once⟩
    intro again
    obtain ⟨pair, member, same⟩ := List.mem_map.mp again
    apply (below.new pair member).1
    rw [show key pair.1 = k from same]
    exact List.mem_cons_self
  closed := by
    intro other own visited
    rcases below.closed other own visited with before | ⟨content, listed, inside⟩
    · rcases List.mem_cons.mp before with same | before
      · rw [same, stored] at own
        obtain rfl := Option.some.inj own
        exact .inr ⟨content, List.mem_cons_self, below.visits⟩
      · exact .inl before
    · exact .inr ⟨content, List.mem_cons_of_mem _ listed, inside⟩

end Finds

theorem finds_foldlM {step : Descent β κ → κ → Except ε (Descent β κ)}
    (finds : ∀ before k after, step before k = .ok after →
      ∃ found, Finds table read mentions [k] before after found)
    (done : ks.foldlM step before = .ok after) :
    ∃ found, Finds table read mentions ks before after found := by
  induction ks generalizing before with
  | nil =>
      rw [List.foldlM_nil] at done
      obtain rfl := Except.ok.inj done
      exact ⟨[], .none (fun _ => id) (List.forall_mem_nil _) rfl fun _ _ => id⟩
  | cons k ks ih =>
      rw [List.foldlM_cons] at done
      cases stepped : step before k with
      | error error =>
          rw [stepped] at done
          cases done
      | ok between =>
          rw [stepped] at done
          obtain ⟨found, first⟩ := finds before k between stepped
          obtain ⟨later, others⟩ := ih done
          exact ⟨found ++ later, first.cons others⟩

theorem finds_descend (done : table.descend read mentions tooDeep depth before k = .ok after) :
    ∃ found, Finds table read mentions [k] before after found := by
  induction depth generalizing before k after with
  | zero => cases done
  | succ depth ih =>
      unfold descend at done
      split at done
      · next inside =>
          obtain rfl := Except.ok.inj done
          refine ⟨[], .none (fun _ => id) ?_ rfl fun _ _ => id⟩
          intro other listed
          rwa [List.mem_singleton.mp listed]
      · next new =>
          split at done
          · next absent =>
              obtain rfl := Except.ok.inj done
              refine ⟨[], .none (fun _ => List.mem_cons_of_mem k) ?_ rfl ?_⟩
              · intro other listed
                rw [List.mem_singleton.mp listed]
                exact List.mem_cons_self
              · intro row stored visited
                refine (List.mem_cons.mp visited).resolve_left ?_
                rintro rfl
                rw [absent] at stored
                cases stored
          · next row stored =>
              split at done
              · cases done
              · next content readable =>
                  obtain ⟨found, below⟩ := finds_foldlM (fun _ _ _ => ih) done
                  exact ⟨(row, content) :: found, .visit new stored readable below⟩

theorem foldlM_error {error : ε} {step : Descent β κ → κ → Except ε (Descent β κ)}
    (finds : ∀ before k after, step before k = .ok after →
      ∃ found, Finds table read mentions [k] before after found)
    (fails : ∀ before k, (table.unvisited before.visited).length < depth →
      step before k = .error error →
      ∃ row, table.Reaches (mentioned read mentions) k row ∧ read row = .error error)
    (deep : (table.unvisited before.visited).length < depth)
    (failed : ks.foldlM step before = .error error) :
    ∃ k ∈ ks, ∃ row, table.Reaches (mentioned read mentions) k row ∧ read row = .error error := by
  induction ks generalizing before with
  | nil => cases failed
  | cons k ks ih =>
      rw [List.foldlM_cons] at failed
      cases stepped : step before k with
      | error first =>
          rw [stepped] at failed
          obtain rfl := Except.error.inj failed
          exact ⟨k, List.mem_cons_self, fails before k deep stepped⟩
      | ok between =>
          rw [stepped] at failed
          obtain ⟨found, one⟩ := finds before k between stepped
          have fewer := table.length_unvisited_of_grows one.grows
          obtain ⟨other, listed, reached⟩ := ih (Nat.lt_of_le_of_lt fewer deep) failed
          exact ⟨other, List.mem_cons_of_mem k listed, reached⟩

theorem descend_error {error : ε} (deep : (table.unvisited before.visited).length < depth)
    (failed : table.descend read mentions tooDeep depth before k = .error error) :
    ∃ row, table.Reaches (mentioned read mentions) k row ∧ read row = .error error := by
  induction depth generalizing before k with
  | zero => exact absurd deep (Nat.not_lt_zero _)
  | succ depth ih =>
      unfold descend at failed
      split at failed
      · cases failed
      · next new =>
          split at failed
          · cases failed
          · next row stored =>
              split at failed
              · next refused =>
                  obtain rfl := Except.error.inj failed
                  exact ⟨row, .here stored, refused⟩
              · next content readable =>
                  -- The row is visited, so that one level less is enough below it.
                  have less := table.length_unvisited_lt new stored
                  obtain ⟨next, named, row, reaches, refused⟩ :=
                    foldlM_error (fun _ _ _ => finds_descend) (fun _ _ => ih)
                      (Nat.lt_of_lt_of_le less (Nat.le_of_lt_succ deep)) failed
                  exact ⟨row, .onward stored (mentioned_ok.mpr ⟨content, readable, rfl⟩) named reaches,
                    refused⟩

/-! ### What a descent reads from the start -/

theorem read_of_descend (done : table.descend read mentions tooDeep depth {} k = .ok after)
    (reaches : table.Reaches (mentioned read mentions) k row) :
    ∃ content ∈ after.chain, read row = .ok content := by
  obtain ⟨found, finds⟩ := finds_descend done
  have known (row : α) (stored : table.get? (key row) = some row)
      (visited : key row ∈ after.visited) : ∃ content, (row, content) ∈ found ∧
        ∀ k ∈ mentions content, k ∈ after.visited :=
    (finds.closed row stored visited).resolve_left List.not_mem_nil
  have closed : table.Closed (mentioned read mentions) [] after.visited := by
    intro row stored visited ks named k listed
    obtain ⟨content, member, inside⟩ := known row stored visited
    obtain ⟨same, readable, rfl⟩ := mentioned_ok.mp named
    rw [(finds.reaches _ member).1] at readable
    obtain rfl := Except.ok.inj readable
    exact .inl (inside k listed)
  obtain ⟨content, member, _⟩ := known row reaches.stored
    (closed.reaches reaches (finds.visits k List.mem_cons_self))
  refine ⟨content, ?_, (finds.reaches _ member).1⟩
  rw [finds.chain]
  exact List.mem_append_right _ (List.mem_map_of_mem member)

theorem mem_descend (done : table.descend read mentions tooDeep depth {} k = .ok after) :
    content ∈ after.chain ↔
      ∃ row, table.Reaches (mentioned read mentions) k row ∧ read row = .ok content := by
  constructor
  · intro member
    obtain ⟨found, finds⟩ := finds_descend done
    rw [finds.chain, List.nil_append] at member
    obtain ⟨pair, listed, rfl⟩ := List.mem_map.mp member
    obtain ⟨readable, start, only, reaches⟩ := finds.reaches pair listed
    rw [List.mem_singleton.mp only] at reaches
    exact ⟨pair.1, reaches, readable⟩
  · rintro ⟨row, reaches, readable⟩
    obtain ⟨same, member, known⟩ := read_of_descend done reaches
    rw [known] at readable
    rwa [← Except.ok.inj readable]

theorem descend_ok_iff (deep : table.rows.length < depth) :
    (∃ after, table.descend read mentions tooDeep depth {} k = .ok after) ↔
      ∀ row, table.Reaches (mentioned read mentions) k row → ∃ content, read row = .ok content := by
  constructor
  · rintro ⟨after, done⟩ row reaches
    obtain ⟨content, _, readable⟩ := read_of_descend done reaches
    exact ⟨content, readable⟩
  · intro readable
    cases done : table.descend read mentions tooDeep depth {} k with
    | ok after => exact ⟨after, rfl⟩
    | error error =>
        have enough : (table.unvisited []).length < depth :=
          Nat.lt_of_le_of_lt (List.length_filter_le _ _) deep
        obtain ⟨row, reaches, refused⟩ := descend_error enough done
        obtain ⟨content, fine⟩ := readable row reaches
        rw [refused] at fine
        cases fine

theorem once_descend (done : table.descend read mentions tooDeep depth {} k = .ok after) :
    ∃ rows : List α, (rows.map key).Nodup ∧
      List.Forall₂ (fun row content => read row = .ok content) rows after.chain := by
  obtain ⟨found, finds⟩ := finds_descend done
  refine ⟨found.map Prod.fst, ?_, ?_⟩
  · rw [List.map_map]
    exact finds.once
  · rw [finds.chain, List.nil_append, List.forall₂_map_left_iff, List.forall₂_map_right_iff,
      List.forall₂_same]
    exact fun pair member => (finds.reaches pair member).1

theorem head_descend (stored : table.get? k = some row) (readable : read row = .ok content)
    (done : table.descend read mentions tooDeep depth {} k = .ok after) :
    after.chain.head? = some content := by
  cases depth with
  | zero => cases done
  | succ depth =>
      unfold descend at done
      rw [if_neg List.not_mem_nil, stored] at done
      dsimp only at done
      rw [readable] at done
      obtain ⟨found, finds⟩ := finds_foldlM (fun _ _ _ => finds_descend) done
      rw [finds.chain]
      rfl

end

end SyndicateClaw.Keyed
