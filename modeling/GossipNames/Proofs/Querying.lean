import GossipNames.Proofs.Queries

/-! A service with many queries at once. Whatever the network reports, and in whatever order, each
query is answered by its own news alone, and once. -/

namespace GossipNames

/-- A service with its queries. Requests are numbered as they come in and queries as they begin. -/
structure Querying where
  queries : Queries
  asked : Nat
  begun : Nat
  /-- The streams that nobody reads any more. -/
  dropped : List Nat
  effects : List QueryEffect

namespace Querying

inductive Event where
  /-- Something is asked for; `taken` is whether an announcement or a put is taken. -/
  | command (command : NetworkCommand) (taken : Except String Unit)
  | news (query : Nat) (news : QueryNews) (isLast : Bool)
  /-- The reader of a stream is gone. It may be before the search begins. -/
  | drop (stream : Nat)

def start : Querying where
  queries := .empty
  asked := 0
  begun := 0
  dropped := []
  effects := []

def isDropped (node : Querying) (stream : Nat) : Bool :=
  node.dropped.contains stream

/-- The stream that the query fills is dropped. -/
def isUnread (node : Querying) (query : Nat) : Bool :=
  (node.queries.get? query).any (node.isDropped ·.request)

def command (node : Querying) (command : NetworkCommand) (taken : Except String Unit) : Querying :=
  let begins := (Queries.ofCommand node.asked taken command).1.isSome
  let next := node.queries.dispatch node.begun node.asked taken command
  { node with
    queries := next.1
    asked := node.asked + 1
    begun := if begins then node.begun + 1 else node.begun
    effects := node.effects ++ next.2 }

def news (node : Querying) (query : Nat) (news : QueryNews) (isLast : Bool) : Querying :=
  let next := node.queries.progress query news isLast (node.isUnread query)
  { node with queries := next.1, effects := node.effects ++ next.2 }

def step (node : Querying) : Event → Querying
  | .command command taken => node.command command taken
  | .news query news isLast => node.news query news isLast
  | .drop stream => { node with dropped := node.dropped ++ [stream] }

def run (node : Querying) (events : List Event) : Querying :=
  events.foldl step node

theorem run_cons (node : Querying) (event : Event) (events : List Event) :
    node.run (event :: events) = (node.step event).run events :=
  rfl

theorem run_append (node : Querying) (first second : List Event) :
    node.run (first ++ second) = (node.run first).run second :=
  List.foldl_append

/-- What a request was sent. -/
def sent (node : Querying) (request : Nat) : List QueryEffect :=
  QueryEffect.sentFor request node.effects

/-- The news of a query among the events; the stream that it fills may be unread from the start. -/
def newsOf (query stream : Nat) (unread : Bool) : List Event → List QueryProgress
  | [] => []
  | .command .. :: rest => newsOf query stream unread rest
  | .drop other :: rest => newsOf query stream (unread || stream = other) rest
  | .news other news isLast :: rest =>
    if other = query then ⟨news, isLast, unread⟩ :: newsOf query stream unread rest
    else newsOf query stream unread rest

variable {node : Querying} {id request : Nat}

theorem get?_command (command : NetworkCommand) (taken : Except String Unit) (other : Nat) :
    (node.command command taken).queries.get? other
      = if other = node.begun then
          (Queries.ofCommand node.asked taken command).1.or (node.queries.get? node.begun)
        else node.queries.get? other :=
  (node.queries.dispatch_ofCommand node.begun node.asked taken command).2 other

theorem effects_command (command : NetworkCommand) (taken : Except String Unit) :
    (node.command command taken).effects
      = node.effects ++ (Queries.ofCommand node.asked taken command).2 :=
  congrArg (node.effects ++ ·)
    (node.queries.dispatch_ofCommand node.begun node.asked taken command).1

/-- What news makes of its query, and what is done for it. -/
def outcome (node : Querying) (query : Nat) (news : QueryNews) (isLast : Bool) :
    Option Query × List QueryEffect :=
  QueryProgress.follow query (node.queries.get? query) [⟨news, isLast, node.isUnread query⟩]

theorem get?_news (query : Nat) (news : QueryNews) (isLast : Bool) (other : Nat) :
    (node.news query news isLast).queries.get? other
      = if other = query then (node.outcome query news isLast).1 else node.queries.get? other :=
  (node.queries.progress_follow query ⟨news, isLast, node.isUnread query⟩).2 other

theorem effects_news (query : Nat) (news : QueryNews) (isLast : Bool) :
    (node.news query news isLast).effects
      = node.effects ++ (node.outcome query news isLast).2 :=
  congrArg (node.effects ++ ·)
    (node.queries.progress_follow query ⟨news, isLast, node.isUnread query⟩).1

/-- News does something only for a query that is under way, and for its request. -/
theorem outcome_cases (node : Querying) (query : Nat) (news : QueryNews) (isLast : Bool) :
    (node.outcome query news isLast = (none, []))
    ∨ ∃ before, node.queries.get? query = some before
      ∧ Queries.Owns before.request (node.outcome query news isLast) := by
  unfold outcome
  cases node.queries.get? query with
  | none => exact .inl (QueryProgress.follow_none ..)
  | some before =>
    refine .inr ⟨before, rfl, ?_⟩
    dsimp only [QueryProgress.follow]
    rw [List.append_nil]
    exact Queries.owns_after ..

/-- A query that is under way after an event was so before, for the same request, or is what has
been asked for. -/
theorem get?_step (event : Event) {other : Nat} {query : Query}
    (tracked : (node.step event).queries.get? other = some query) :
    (∃ before, node.queries.get? other = some before ∧ before.request = query.request)
    ∨ other = node.begun ∧ (node.step event).begun = node.begun + 1
      ∧ query.request = node.asked ∧ (node.step event).asked = node.asked + 1 := by
  cases event with
  | drop stream => exact .inl ⟨query, tracked, rfl⟩
  | command command taken =>
    rw [step, get?_command] at tracked
    split at tracked
    · rename_i new
      cases begins : (Queries.ofCommand node.asked taken command).1 with
      | none =>
        rw [begins, Option.none_or, ← new] at tracked
        exact .inl ⟨query, tracked, rfl⟩
      | some begun =>
        rw [begins, Option.some_or] at tracked
        cases tracked
        refine .inr ⟨new, ?_, (Queries.owns_ofCommand ..).query begins, rfl⟩
        simp [step, Querying.command, begins]
    · exact .inl ⟨query, tracked, rfl⟩
  | news id news isLast =>
    rw [step, get?_news] at tracked
    split at tracked
    · rename_i own
      rcases node.outcome_cases id news isLast with nothing | ⟨before, found, owns⟩
      · rw [nothing] at tracked
        cases tracked
      · exact .inl ⟨before, own ▸ found, (owns.query tracked).symm⟩
    · exact .inl ⟨query, tracked, rfl⟩

/-- Numbers count what was given out. -/
theorem counted_step (node : Querying) (event : Event) :
    node.begun ≤ (node.step event).begun ∧ node.asked ≤ (node.step event).asked := by
  cases event with
  | command command taken =>
    simp only [step, Querying.command]
    split
    · omega
    · omega
  | _ => exact ⟨Nat.le_refl _, Nat.le_refl _⟩

/-- Numbers that are in use were given out. -/
structure Numbered (node : Querying) : Prop where
  begun : ∀ {id query}, node.queries.get? id = some query → id < node.begun
  asked : ∀ {id query}, node.queries.get? id = some query → query.request < node.asked
  sent : ∀ effect ∈ node.effects, ∀ request, effect.request? = some request → request < node.asked

theorem Numbered.start : Numbered start where
  begun tracked := by cases tracked
  asked tracked := by cases tracked
  sent := nofun

theorem Numbered.step (numbered : Numbered node) (event : Event) : Numbered (node.step event) := by
  obtain ⟨begun, asked⟩ := node.counted_step event
  refine ⟨?_, ?_, ?_⟩
  · intro id query tracked
    rcases get?_step event tracked with ⟨before, found, -⟩ | ⟨rfl, more, -⟩
    · exact Nat.lt_of_lt_of_le (numbered.begun found) begun
    · omega
  · intro id query tracked
    rcases get?_step event tracked with ⟨before, found, same⟩ | ⟨-, -, own, more⟩
    · exact same ▸ Nat.lt_of_lt_of_le (numbered.asked found) asked
    · omega
  · cases event with
    | drop stream => exact numbered.sent
    | command command taken =>
      rw [Querying.step, effects_command]
      refine List.forall_mem_append.mpr ⟨fun effect before request own => ?_, ?_⟩
      · exact Nat.lt_succ_of_lt (numbered.sent effect before request own)
      · intro effect refused request own
        rw [(Queries.owns_ofCommand ..).sent effect refused request own]
        exact Nat.lt_succ_self _
    | news id news isLast =>
      rw [Querying.step, effects_news]
      refine List.forall_mem_append.mpr ⟨numbered.sent, ?_⟩
      intro effect sent request own
      rcases node.outcome_cases id news isLast with nothing | ⟨query, found, owns⟩
      · rw [nothing] at sent
        cases sent
      · rw [owns.sent effect sent request own]
        exact numbered.asked found

theorem Numbered.run (events : List Event) : Numbered (Querying.start.run events) := by
  induction events using List.reverseRecOn with
  | nil => exact start
  | append_singleton events event ih =>
    rw [run_append]
    exact ih.step event

/-- The query and the request are for each other and for nothing else. -/
structure Assigned (node : Querying) (id request : Nat) : Prop where
  begun : id < node.begun
  asked : request < node.asked
  own : ∀ {other query}, node.queries.get? other = some query →
    (query.request = request ↔ other = id)

theorem Assigned.step (assigned : Assigned node id request) (event : Event) :
    Assigned (node.step event) id request := by
  obtain ⟨begun, asked⟩ := node.counted_step event
  refine ⟨Nat.lt_of_lt_of_le assigned.begun begun, Nat.lt_of_lt_of_le assigned.asked asked, ?_⟩
  intro other query tracked
  rcases get?_step event tracked with ⟨before, found, same⟩ | ⟨rfl, -, own, -⟩
  · rw [← same]
    exact assigned.own found
  · rw [own]
    exact iff_of_false (Nat.ne_of_gt assigned.asked) (Nat.ne_of_gt assigned.begun)

theorem sent_append {later : Querying} {effects : List QueryEffect}
    (more : later.effects = node.effects ++ effects) (request : Nat) :
    later.sent request = node.sent request ++ QueryEffect.sentFor request effects := by
  rw [sent, more, QueryEffect.sentFor_append]
  rfl

/-- Nothing but its own news does anything to the query or for its request. -/
theorem Assigned.untouched (assigned : Assigned node id request) (event : Event)
    (foreign : ∀ news isLast, event ≠ .news id news isLast) :
    (node.step event).queries.get? id = node.queries.get? id
      ∧ (node.step event).sent request = node.sent request := by
  cases event with
  | drop stream => exact ⟨rfl, rfl⟩
  | command command taken =>
    refine ⟨?_, ?_⟩
    · rw [Querying.step, get?_command, if_neg (Nat.ne_of_lt assigned.begun)]
    · rw [Querying.step, sent_append (effects_command ..),
        (Queries.owns_ofCommand ..).sentFor (Nat.ne_of_lt assigned.asked), List.append_nil]
  | news other news isLast =>
    have unlike : id ≠ other := fun same => foreign news isLast (same ▸ rfl)
    refine ⟨?_, ?_⟩
    · rw [Querying.step, get?_news, if_neg unlike]
    · rw [Querying.step, sent_append (effects_news ..)]
      rcases node.outcome_cases other news isLast with nothing | ⟨query, found, owns⟩
      · rw [nothing]
        exact List.append_nil _
      · have apart : request ≠ query.request := fun same =>
          unlike ((assigned.own found).mp same.symm).symm
        rw [owns.sentFor apart, List.append_nil]

theorem Assigned.lasting (assigned : Assigned node id request) (events : List Event) :
    Assigned (node.run events) id request := by
  induction events generalizing node with
  | nil => exact assigned
  | cons event rest ih => exact ih (assigned.step event)

theorem Assigned.outcome_eq (assigned : Assigned node id request) (news : QueryNews)
    (isLast : Bool) :
    node.outcome id news isLast
      = QueryProgress.follow id (node.queries.get? id)
        [⟨news, isLast, node.isDropped request⟩] := by
  rw [outcome, isUnread]
  cases found : node.queries.get? id with
  | none => simp
  | some query => rw [Option.any_some, (assigned.own found).mpr rfl]

/-- A query and its request see of all events the news of the query. -/
theorem Assigned.run (assigned : Assigned node id request) (events : List Event) :
    let left := QueryProgress.follow id (node.queries.get? id)
      (newsOf id request (node.isDropped request) events)
    (node.run events).queries.get? id = left.1
      ∧ (node.run events).sent request
        = node.sent request ++ QueryEffect.sentFor request left.2 := by
  induction events generalizing node with
  | nil => exact ⟨rfl, (List.append_nil _).symm⟩
  | cons event rest ih =>
    have later := ih (assigned.step event)
    rw [run_cons]
    cases event with
    | command command taken =>
      obtain ⟨query, sent⟩ := assigned.untouched (.command command taken) nofun
      rw [query, sent] at later
      exact later
    | drop stream =>
      have unread : (node.step (.drop stream)).isDropped request
          = (node.isDropped request || request = stream) := by
        simp [isDropped, Querying.step]
      rw [unread] at later
      exact later
    | news other news isLast =>
      by_cases own : other = id
      · subst own
        rw [Querying.step, get?_news, if_pos rfl, sent_append (effects_news ..)] at later
        obtain ⟨query, sent⟩ := later
        rw [newsOf, if_pos rfl, QueryProgress.follow_cons, ← assigned.outcome_eq]
        refine ⟨query, sent.trans ?_⟩
        rw [List.append_assoc, ← QueryEffect.sentFor_append]
        rfl
      · obtain ⟨query, sent⟩ := assigned.untouched (.news other news isLast)
          (by rintro _ _ ⟨⟩; exact own rfl)
        rw [query, sent] at later
        rw [newsOf, if_neg own]
        exact later

theorem news_over (isOver : node.queries.get? id = none) (news : QueryNews) (isLast : Bool) :
    node.news id news isLast = node := by
  simp [Querying.news, Queries.progress, isOver]

theorem Numbered.assigned (numbered : Numbered node) {command : NetworkCommand}
    {taken : Except String Unit} {query : Query}
    (begins : (Queries.ofCommand node.asked taken command).1 = some query) :
    Assigned (node.command command taken) node.begun node.asked := by
  refine ⟨?_, Nat.lt_succ_self _, ?_⟩
  · simp [Querying.command, begins]
  · intro other tracked found
    rcases get?_step (.command command taken) found with
      ⟨before, under, same⟩ | ⟨rfl, -, own, -⟩
    · rw [← same]
      exact iff_of_false (Nat.ne_of_lt (numbered.asked under)) (Nat.ne_of_lt (numbered.begun under))
    · exact iff_of_true own rfl

theorem Numbered.sent_asked (numbered : Numbered node) : node.sent node.asked = [] := by
  rw [Querying.sent, QueryEffect.sentFor, List.filter_eq_nil_iff]
  intro effect member own
  exact Nat.lt_irrefl _ (numbered.sent effect member _ (of_decide_eq_true own))

open QueryProgress

/-- Whatever else goes on, the account of the news of a query tells what becomes of it and what its
request is sent. -/
theorem Numbered.tells (numbered : Numbered node) {command : NetworkCommand}
    {taken : Except String Unit} {query : Query} (events : List Event)
    (begins : (Queries.ofCommand node.asked taken command).1 = some query) :
    let history := newsOf node.begun node.asked (node.isDropped node.asked) events
    let account := QueryAccount.ofQuery query
    let later := (node.command command taken).run events
    (∀ progress ∈ history, progress.news.suits query) →
      later.queries.get? node.begun
          = (if account.isOver (upTo account.ends history) then none
            else some (account.query (upTo account.ends history)))
      ∧ later.sent node.asked = account.sent (upTo account.ends history) := by
  intro history account later suited
  obtain ⟨accepted, own, fresh⟩ := QueryAccount.start_ofCommand begins
  obtain ⟨under, unsent⟩ := QueryAccount.start_ofQuery query
  have begun : (node.command command taken).queries.get? node.begun = some query := by
    rw [get?_command, if_pos rfl, begins, Option.some_or]
  have silent : (node.command command taken).sent node.asked = [] := by
    rw [sent_append (effects_command ..), numbered.sent_asked, accepted]
    rfl
  have right := QueryAccount.right_ofQuery node.begun query
  have told := right.follow under rfl suited
  rw [fresh, own, unsent, List.nil_append] at told
  obtain ⟨tracked, sent⟩ := (numbered.assigned begins).run events
  rw [begun] at tracked sent
  rw [silent] at sent
  exact ⟨tracked.trans told.query, sent.trans told.sent⟩

/-- A query is told by its own news all that becomes of it and all that its request is sent,
whatever else goes on. Its request is sent nothing twice, and one last thing just when the query is
over, as it is with news that ends it. From then on its news changes nothing. No other event ever
does anything to the query or for its request. -/
theorem answered_once (before after : List Event) {command : NetworkCommand}
    {taken : Except String Unit} {query : Query}
    (begins : (Queries.ofCommand (start.run before).asked taken command).1 = some query) :
    let node := start.run before
    let history := newsOf node.begun node.asked (node.isDropped node.asked) after
    let account := QueryAccount.ofQuery query
    let heard := upTo account.ends history
    let later := (node.command command taken).run after
    (∀ progress ∈ history, progress.news.suits query) →
      later.queries.get? node.begun
          = (if account.isOver heard then none else some (account.query heard))
      ∧ later.sent node.asked = account.sent heard
      ∧ (later.sent node.asked).Nodup
      ∧ ((later.sent node.asked).filter (·.isFinal)).length
          = (if account.isOver heard then 1 else 0)
      ∧ (history.any account.ends = true → account.isOver heard = true)
      ∧ (account.isOver heard = true →
          ∀ news isLast, later.step (.news node.begun news isLast) = later)
      ∧ ∀ event, (∀ news isLast, event ≠ .news node.begun news isLast) →
          (later.step event).queries.get? node.begun = later.queries.get? node.begun
          ∧ (later.step event).sent node.asked = later.sent node.asked := by
  intro node history account heard later suited
  have numbered : Numbered node := .run before
  obtain ⟨tracked, sent⟩ := numbered.tells after begins suited
  refine ⟨tracked, sent, ?_, ?_, ?_, ?_, ?_⟩
  · rw [sent]
    exact QueryAccount.nodup_sent query heard
  · rw [sent]
    exact QueryAccount.length_isFinal_sent fun progress member =>
      suited progress ((upTo_isPrefix ..).subset member)
  · intro ended
    obtain ⟨past, progress, -, -, -, last, split⟩ := exists_first ended
    rw [show heard = past ++ [progress] from split]
    exact (QueryAccount.right_ofQuery node.begun query).ending last
  · intro isOver news isLast
    rw [if_pos isOver] at tracked
    exact news_over tracked news isLast
  · intro event foreign
    exact ((numbered.assigned begins).lasting after).untouched event foreign

namespace Sample

def near : PeerId :=
  ⟨.identity, [6], by decide⟩

def far : PeerId :=
  ⟨.identity, [7], by decide⟩

def searching : List Event := [.command (.findProviders [0] 1) (.ok ())]

/-- News of a search for one provider and of a lookup. More comes of both once they are over. -/
def reports : List Event := [
  .news 1 .valueNotFound false, .news 1 (.value [7]) false, .news 0 (.providers [near, far]) false,
  .news 1 (.value [7]) false, .news 1 (.valueFailed "timeout") false, .news 1 (.value [8]) true,
  .news 0 (.providers [far]) true, .news 1 (.value [9]) true]

end Sample

open Sample in
theorem answered_once_together :
    ((start.run searching).command (.getValues [1]) (.ok ()) |>.run reports).sent 1
        = [.values 1 (.ok [[7], [8]])]
      ∧ (start.command (.findProviders [0] 1) (.ok ())
          |>.run (.command (.getValues [1]) (.ok ()) :: reports)).sent 0
        = [.provider 0 near, .closeStream 0] := by
  have lookup := answered_once searching reports
    (show (Queries.ofCommand 1 (.ok ()) (.getValues [1])).1 = some (.getValues 1 []) from rfl)
    (by decide)
  have search := answered_once [] (.command (.getValues [1]) (.ok ()) :: reports)
    (show (Queries.ofCommand 0 (.ok ()) (.findProviders [0] 1)).1
      = some (.findProviders 0 1 []) from rfl)
    (by decide)
  exact ⟨lookup.2.1.trans rfl, search.2.1.trans rfl⟩

end Querying

end GossipNames
