import Mathlib.Data.List.Basic
import Mathlib.Data.List.Induction
import Mathlib.Data.List.Nodup
import GossipNames.Network.Queries

/-! What becomes of a query with its news. All that there is to say of it, and all that its request
has been sent, is told by what was heard of the query so far. -/

namespace GossipNames

/-- The request that the query is for, or the stream that it fills. -/
def Query.request : Query → Nat
  | .provide request | .putValue request | .getValues request _ => request
  | .findProviders stream .. => stream

namespace QueryEffect

/-- The request that the effect is for, or the stream. -/
def request? : QueryEffect → Option Nat
  | .done request _ | .values request _ => some request
  | .provider stream _ | .closeStream stream => some stream
  | .finish _ => none

/-- Nothing more is sent for the request after it. -/
def isFinal : QueryEffect → Bool
  | .done .. | .values .. | .closeStream _ => true
  | .provider .. | .finish _ => false

/-- Those of the effects that the request is sent. -/
def sentFor (request : Nat) (effects : List QueryEffect) : List QueryEffect :=
  effects.filter (·.request? = some request)

@[simp] theorem sentFor_nil (request : Nat) : sentFor request [] = [] :=
  rfl

@[simp] theorem sentFor_cons (request : Nat) (effect : QueryEffect) (rest : List QueryEffect) :
    sentFor request (effect :: rest)
      = if effect.request? = some request then effect :: sentFor request rest
        else sentFor request rest := by
  by_cases own : effect.request? = some request
  · simp [sentFor, own]
  · simp [sentFor, own]

theorem sentFor_append (request : Nat) (first second : List QueryEffect) :
    sentFor request (first ++ second) = sentFor request first ++ sentFor request second :=
  List.filter_append ..

end QueryEffect

namespace QueryNews

def value? : QueryNews → Option Bytes
  | .value found => some found
  | _ => none

def peers : QueryNews → List PeerId
  | .providers found => found
  | _ => []

/-- The outcome of an announcement or a put. -/
def result? : QueryNews → Option (Except String Unit)
  | .provided result | .put result => some result
  | _ => none

/-- Whether the query can have such news. -/
def suits : Query → QueryNews → Bool
  | .provide _, .provided _ | .putValue _, .put _ => true
  | .findProviders .., .providers _ | .findProviders .., .noMoreProviders
  | .findProviders .., .providersFailed _ => true
  | .getValues .., .value _ | .getValues .., .noMoreValues | .getValues .., .valueNotFound
  | .getValues .., .valueFailed _ => true
  | _, _ => false

end QueryNews

section

variable {α : Type} [BEq α] [LawfulBEq α]

theorem eraseDups_concat (items : List α) (item : α) :
    (items ++ [item]).eraseDups
      = if item ∈ items then items.eraseDups else items.eraseDups ++ [item] := by
  rw [List.eraseDups_append]
  by_cases known : item ∈ items
  · simp [List.removeAll, known]
  · simp [List.removeAll, known, List.eraseDups_cons]

theorem nodup_eraseDups (items : List α) :
    items.eraseDups.Nodup := by
  induction items using List.reverseRecOn with
  | nil => exact List.nodup_nil
  | append_singleton items item ih =>
    rw [eraseDups_concat]
    split
    · exact ih
    · rename_i new
      rw [← List.concat_eq_append, List.nodup_concat]
      exact ⟨mt List.mem_eraseDups.mp new, ih⟩

/-- More items change nothing about the first ones. -/
theorem eraseDups_append_of_full {items : List α} {limit : Nat}
    (full : limit ≤ items.eraseDups.length) (more : List α) :
    limit ≤ (items ++ more).eraseDups.length
      ∧ (items ++ more).eraseDups.take limit = items.eraseDups.take limit := by
  rw [List.eraseDups_append, List.length_append, List.take_append_of_le_length full]
  exact ⟨Nat.le_add_right_of_le full, rfl⟩

end

/-- News of a query as it comes in. -/
structure QueryProgress where
  news : QueryNews
  isLast : Bool
  /-- Nobody reads the stream any more that the query fills. -/
  receiverGone : Bool

namespace QueryProgress

/-- What comes in up to the end. -/
def upTo (ends : QueryProgress → Bool) : List QueryProgress → List QueryProgress
  | [] => []
  | progress :: rest => if ends progress then [progress] else progress :: upTo ends rest

theorem upTo_isPrefix (ends : QueryProgress → Bool) (history : List QueryProgress) :
    upTo ends history <+: history := by
  induction history with
  | nil => exact List.prefix_rfl
  | cons progress rest ih =>
    rw [upTo]
    split
    · exact List.prefix_append [progress] rest
    · exact List.prefix_cons_inj progress |>.mpr ih

theorem upTo_append {ends : QueryProgress → Bool} {past : List QueryProgress}
    (before : past.any ends = false) (rest : List QueryProgress) :
    upTo ends (past ++ rest) = past ++ upTo ends rest := by
  induction past with
  | nil => rfl
  | cons progress past ih =>
    obtain ⟨more, before⟩ := Bool.or_eq_false_iff.mp before
    rw [List.cons_append, upTo, if_neg (Bool.eq_false_iff.mp more), ih before]
    rfl

/-- If there is an end, what comes in goes up to the first one. -/
theorem exists_first {ends : QueryProgress → Bool} {history : List QueryProgress}
    (ended : history.any ends = true) :
    ∃ past progress rest, history = past ++ progress :: rest ∧ past.any ends = false
      ∧ ends progress = true ∧ upTo ends history = past ++ [progress] := by
  rw [← List.isSome_find?, Option.isSome_iff_exists] at ended
  obtain ⟨progress, found⟩ := ended
  obtain ⟨last, past, rest, rfl, earlier⟩ := List.find?_eq_some_iff_append.mp found
  have before : past.any ends = false := by simpa using earlier
  refine ⟨past, progress, rest, rfl, before, last, ?_⟩
  rw [upTo_append before, upTo, if_pos last]

/-- The values in the order in which each came first. -/
def gathered (heard : List QueryProgress) : List Bytes :=
  (heard.filterMap (·.news.value?)).eraseDups

/-- The reason of a failure that came before any value. -/
def failure? : List QueryProgress → Option String
  | [] => none
  | progress :: rest =>
    match progress.news with
    | .value _ => none
    | .valueFailed reason => some reason
    | _ => failure? rest

/-- What a lookup is answered: the first values there is room for, unless it failed before there
were any. -/
def answer (heard : List QueryProgress) : Except String (List Bytes) :=
  match failure? heard with
  | some reason => .error ("get value failed: " ++ reason)
  | none => .ok ((gathered heard).take Queries.valueLimit)

/-- A lookup is over with its last news, with a failure that comes first, or when there is no room
for more values. -/
def isAnswered (heard : List QueryProgress) : Bool :=
  heard.any (·.isLast) || (failure? heard).isSome
    || decide (Queries.valueLimit ≤ (gathered heard).length)

/-- The providers in the order in which each came first. -/
def discovered (heard : List QueryProgress) : List PeerId :=
  (heard.flatMap (·.news.peers)).eraseDups

def endsSearch (progress : QueryProgress) : Bool :=
  progress.isLast || progress.receiverGone

/-- A search is over with its last news, with news that nobody receives, or when news finds as many
providers as are wanted. -/
def isClosed (limit : Nat) (heard : List QueryProgress) : Bool :=
  heard.any endsSearch || (!heard.isEmpty && decide (limit ≤ (discovered heard).length))

/-- What becomes of a query with its news, one after the other, and what is done for it. -/
def follow (id : Nat) : Option Query → List QueryProgress → Option Query × List QueryEffect
  | query?, [] => (query?, [])
  | none, _ :: _ => (none, [])
  | some query, progress :: rest =>
    let next := Queries.after id progress.isLast progress.receiverGone query progress.news
    let later := follow id next.1 rest
    (later.1, next.2 ++ later.2)

@[simp] theorem follow_none (id : Nat) (history : List QueryProgress) :
    follow id none history = (none, []) := by
  cases history with
  | nil => rfl
  | cons progress rest => rfl

theorem follow_cons (id : Nat) (query? : Option Query) (progress : QueryProgress)
    (rest : List QueryProgress) :
    let next := follow id query? [progress]
    let later := follow id next.1 rest
    follow id query? (progress :: rest) = (later.1, next.2 ++ later.2) := by
  cases query? with
  | none => simp
  | some query => simp [follow]

variable {past : List QueryProgress} {progress : QueryProgress}

theorem failure?_append (past rest : List QueryProgress) :
    failure? (past ++ rest)
      = (failure? past).or (if gathered past = [] then failure? rest else none) := by
  induction past with
  | nil => rfl
  | cons progress past ih =>
    obtain ⟨news, isLast, receiverGone⟩ := progress
    cases news with
    | value found => simp [failure?, gathered, QueryNews.value?, List.eraseDups_cons]
    | valueFailed reason => rfl
    | _ => exact ih

theorem gathered_concat {found : Bytes} (value : progress.news.value? = some found) :
    gathered (past ++ [progress])
      = if found ∈ gathered past then gathered past else gathered past ++ [found] := by
  unfold gathered
  rw [List.filterMap_append]
  simp only [List.filterMap_cons, value, List.filterMap_nil, eraseDups_concat, List.mem_eraseDups]

theorem gathered_concat_silent (silent : progress.news.value? = none) :
    gathered (past ++ [progress]) = gathered past := by
  unfold gathered
  rw [List.filterMap_append]
  simp only [List.filterMap_cons, silent, List.filterMap_nil, List.append_nil]

theorem gathered_append {limit : Nat} (full : limit ≤ (gathered past).length)
    (more : List QueryProgress) :
    limit ≤ (gathered (past ++ more)).length
      ∧ (gathered (past ++ more)).take limit = (gathered past).take limit := by
  unfold gathered at full ⊢
  rw [List.filterMap_append]
  exact eraseDups_append_of_full full _

/-- A lookup that goes on has not heard the last of it, nor a failure, and has room for a value. -/
theorem isAnswered_eq_false_iff : isAnswered past = false ↔
    past.any (·.isLast) = false ∧ failure? past = none
      ∧ (gathered past).length < Queries.valueLimit := by
  simp [isAnswered, and_assoc]

/-- What was discovered grows by the peers of the news. -/
theorem discovered_concat (past : List QueryProgress) (progress : QueryProgress) :
    discovered (past ++ [progress])
      = (past.flatMap (·.news.peers) ++ progress.news.peers).eraseDups := by
  simp [discovered]

theorem discovered_append {limit : Nat} (full : limit ≤ (discovered past).length)
    (more : List QueryProgress) :
    limit ≤ (discovered (past ++ more)).length
      ∧ (discovered (past ++ more)).take limit = (discovered past).take limit := by
  unfold discovered at full ⊢
  rw [List.flatMap_append]
  exact eraseDups_append_of_full full _

theorem isClosed_concat (limit : Nat) (progress : QueryProgress)
    (before : past.any endsSearch = false) :
    isClosed limit (past ++ [progress])
      = (progress.isLast || (progress.receiverGone
        || decide (limit ≤ (discovered (past ++ [progress])).length))) := by
  have begun : (past ++ [progress]).isEmpty = false := by simp
  rw [isClosed, begun, List.any_append, before, List.any_cons, List.any_nil, endsSearch]
  simp [Bool.or_assoc]

end QueryProgress

open QueryEffect QueryProgress

namespace Queries

variable {request : Nat} {effects : List QueryEffect}

/-- What is left of a query is for the request, and so is all that is sent. -/
structure Owns (request : Nat) (left : Option Query × List QueryEffect) : Prop where
  query : ∀ {query}, left.1 = some query → query.request = request
  sent : ∀ effect ∈ left.2, ∀ other, effect.request? = some other → other = request

theorem Owns.sentFor {left : Option Query × List QueryEffect} (owns : Owns request left)
    {other : Nat} (unlike : other ≠ request) : sentFor other left.2 = [] := by
  rw [QueryEffect.sentFor, List.filter_eq_nil_iff]
  intro effect sent own
  exact unlike (owns.sent effect sent other (of_decide_eq_true own))

theorem sent_passProviders (stream limit : Nat) (seen found : List PeerId) :
    ∀ effect ∈ (passProviders stream limit seen found).2, effect.request? = some stream := by
  induction found generalizing seen with
  | nil => nofun
  | cons peer rest ih =>
    rw [passProviders]
    split
    · nofun
    · split
      · exact ih seen
      · exact List.forall_mem_cons.mpr ⟨rfl, ih _⟩

theorem sentFor_passProviders (stream limit : Nat) (seen found : List PeerId) :
    sentFor stream (passProviders stream limit seen found).2
      = (passProviders stream limit seen found).2 :=
  List.filter_eq_self.mpr fun effect member =>
    decide_eq_true (sent_passProviders stream limit seen found effect member)

theorem owns_afterProviders {stream limit : Nat} {seen : List PeerId} (id : Nat)
    (isLast receiverGone : Bool) (sent : ∀ effect ∈ effects, effect.request? = some stream) :
    Owns stream (afterProviders id stream limit isLast receiverGone (seen, effects)) := by
  have passed : ∀ effect ∈ effects, ∀ other, effect.request? = some other → other = stream := by
    intro effect member other own
    exact Option.some.inj (own.symm.trans (sent effect member))
  simp only [afterProviders]
  split
  · refine ⟨nofun, List.forall_mem_append.mpr ⟨passed, ?_⟩⟩
    simp [request?]
  · split
    · refine ⟨nofun, List.forall_mem_append.mpr ⟨passed, ?_⟩⟩
      simp [request?]
    · exact ⟨by rintro query ⟨⟩; rfl, passed⟩

theorem owns_afterValues (id request : Nat) (isLast : Bool) (values : List Bytes) :
    Owns request (afterValues id request isLast values) := by
  unfold afterValues
  split
  · exact ⟨nofun, by simp [request?]⟩
  · split
    · exact ⟨nofun, by simp [request?]⟩
    · exact ⟨by rintro query ⟨⟩; rfl, nofun⟩

theorem owns_after (id : Nat) (isLast receiverGone : Bool) (query : Query) (news : QueryNews) :
    Owns query.request (after id isLast receiverGone query news) := by
  have answered (request : Nat) {effect : QueryEffect} (own : effect.request? = some request) :
      Owns request (none, [effect]) := by
    refine ⟨nofun, ?_⟩
    simp [own]
  have mismatched (request : Nat) : Owns request (none, []) := ⟨nofun, nofun⟩
  cases query with
  | provide request =>
    cases news with
    | provided result => exact answered request rfl
    | _ => exact mismatched request
  | putValue request =>
    cases news with
    | put result => exact answered request rfl
    | _ => exact mismatched request
  | findProviders stream limit seen =>
    cases news with
    | providers found =>
      exact owns_afterProviders id isLast receiverGone (sent_passProviders stream limit seen found)
    | noMoreProviders | providersFailed =>
      exact owns_afterProviders id isLast receiverGone nofun
    | _ => exact answered stream rfl
  | getValues request values =>
    cases news with
    | value | noMoreValues | valueNotFound => exact owns_afterValues id request isLast _
    | valueFailed reason =>
      rw [after]
      split
      · exact answered request rfl
      · exact owns_afterValues id request isLast values
    | _ => exact mismatched request

theorem owns_ofCommand (request : Nat) (taken : Except String Unit) (command : NetworkCommand) :
    Owns request (ofCommand request taken command) := by
  cases command with
  | provide | putValue =>
    cases taken with
    | ok _ => exact ⟨by rintro query ⟨⟩; rfl, nofun⟩
    | error reason => exact ⟨nofun, by simp [ofCommand, request?]⟩
  | findProviders | getValues => exact ⟨by rintro query ⟨⟩; rfl, nofun⟩
  | _ => exact ⟨nofun, nofun⟩

/-- News of a query changes nothing about the others. -/
theorem progress_follow (queries : Queries) (id : Nat) (heard : QueryProgress) :
    let next := progress queries id heard.news heard.isLast heard.receiverGone
    let left := follow id (queries.get? id) [heard]
    next.2 = left.2
      ∧ ∀ other, next.1.get? other = if other = id then left.1 else queries.get? other := by
  intro next left
  simp only [next, left, progress]
  cases found : queries.get? id with
  | none =>
    refine ⟨rfl, fun other => ?_⟩
    by_cases own : other = id
    · rw [if_pos own, own]
      exact found
    · exact (if_neg own).symm
  | some query =>
    dsimp only [follow]
    rw [List.append_nil]
    split
    · rename_i later effects after
      rw [after]
      exact ⟨rfl, fun other => Table.get?_put ..⟩
    · rename_i effects after
      rw [after]
      exact ⟨rfl, fun other => Table.get?_erase ..⟩

theorem dispatch_ofCommand (queries : Queries) (id request : Nat) (taken : Except String Unit)
    (command : NetworkCommand) :
    let next := dispatch queries id request taken command
    let begun := ofCommand request taken command
    next.2 = begun.2 ∧ ∀ other, next.1.get? other
      = if other = id then begun.1.or (queries.get? id) else queries.get? other := by
  intro next begun
  simp only [next, begun, dispatch]
  split
  · rename_i query effects begins
    rw [begins]
    exact ⟨rfl, fun other => Table.get?_put ..⟩
  · rename_i effects refused
    rw [refused]
    refine ⟨rfl, fun other => ?_⟩
    split
    · rename_i own
      rw [own]
      rfl
    · rfl

end Queries

/-- What there is to say of a query by what was heard of it. -/
structure QueryAccount where
  /-- News that comes later does not count. -/
  ends : QueryProgress → Bool
  query : List QueryProgress → Query
  isOver : List QueryProgress → Bool
  /-- What its request has been sent. -/
  sent : List QueryProgress → List QueryEffect

namespace QueryAccount

/-- The first news tells what became of an announcement or a put. -/
def deed (request : Nat) (query : Query) (failure : String) : QueryAccount where
  ends _ := true
  query _ := query
  isOver heard := !heard.isEmpty
  sent heard := (heard.head?.bind (·.news.result?)).toList.map fun result =>
    .done request (result.mapError (failure ++ ·))

def lookup (request : Nat) : QueryAccount where
  ends := (·.isLast)
  query heard := .getValues request (gathered heard)
  isOver := isAnswered
  sent heard := if isAnswered heard then [.values request (answer heard)] else []

/-- Each provider is sent once and no more than the limit; the end of the search closes the stream.
-/
def search (stream limit : Nat) : QueryAccount where
  ends := endsSearch
  query heard := .findProviders stream limit ((discovered heard).take limit)
  isOver := isClosed limit
  sent heard := ((discovered heard).take limit).map (.provider stream)
    ++ if isClosed limit heard then [.closeStream stream] else []

def ofQuery : Query → QueryAccount
  | .provide request => deed request (.provide request) "provide failed: "
  | .putValue request => deed request (.putValue request) "put value failed: "
  | .findProviders stream limit _ => search stream limit
  | .getValues request _ => lookup request

variable {account : QueryAccount} {id request : Nat} {past : List QueryProgress}
  {progress : QueryProgress}

/-- The account has it right what the query is like after what was heard and what was sent on the
way, which began with `earlier`. -/
structure Tells (account : QueryAccount) (request : Nat) (earlier : List QueryEffect)
    (heard : List QueryProgress) (left : Option Query × List QueryEffect) : Prop where
  query : left.1 = if account.isOver heard then none else some (account.query heard)
  sent : earlier ++ sentFor request left.2 = account.sent heard

/-- The account is right as long as each news is what the query asks for. -/
structure Right (account : QueryAccount) (id request : Nat) (suits : QueryNews → Bool) : Prop where
  after : ∀ {past progress}, account.isOver past = false → suits progress.news →
    account.Tells request (account.sent past) (past ++ [progress])
      (Queries.after id progress.isLast progress.receiverGone (account.query past) progress.news)
  ending : ∀ {past progress}, account.ends progress = true →
    account.isOver (past ++ [progress]) = true
  /-- What is over before its last news stays as it is. -/
  settled : ∀ {heard}, account.isOver heard = true → heard.any account.ends = false → ∀ more,
    account.isOver (heard ++ more) = true ∧ account.sent (heard ++ more) = account.sent heard

theorem Tells.append {earlier : List QueryEffect} {heard : List QueryProgress}
    {left : Option Query × List QueryEffect} {suits : QueryNews → Bool}
    (tells : account.Tells request earlier heard left) (right : account.Right id request suits)
    (isOver : account.isOver heard = true) (before : heard.any account.ends = false)
    (more : List QueryProgress) : account.Tells request earlier (heard ++ more) left := by
  obtain ⟨stays, same⟩ := right.settled isOver before more
  constructor
  · rw [tells.query, isOver, stays]
    rfl
  · rw [tells.sent, same]

/-- A query that goes on is as the account of all its news tells. -/
theorem Right.follow {suits : QueryNews → Bool} {history : List QueryProgress}
    (right : account.Right id request suits) (under : account.isOver past = false)
    (before : past.any account.ends = false) (suited : ∀ progress ∈ history, suits progress.news) :
    account.Tells request (account.sent past) (past ++ upTo account.ends history)
      (QueryProgress.follow id (some (account.query past)) history) := by
  induction history generalizing past with
  | nil =>
    refine ⟨?_, by simp [QueryProgress.follow, upTo, sentFor]⟩
    rw [upTo, List.append_nil, under]
    rfl
  | cons progress rest ih =>
    obtain ⟨suit, suited⟩ := List.forall_mem_cons.mp suited
    have next := right.after under suit
    by_cases isOver : account.isOver (past ++ [progress]) = true
    · have ended := next.query.trans (if_pos isOver)
      have left : QueryProgress.follow id (some (account.query past)) (progress :: rest)
          = Queries.after id progress.isLast progress.receiverGone (account.query past)
            progress.news := by
        rw [QueryProgress.follow, ended, follow_none, List.append_nil]
        exact Prod.ext ended.symm rfl
      rw [left, upTo]
      split
      · exact next
      · rename_i more
        rw [List.append_cons]
        exact next.append right isOver (by simpa [before] using more) _
    · have more : account.ends progress ≠ true := fun last => isOver (right.ending last)
      have later := ih (Bool.eq_false_iff.mpr isOver) (by simpa [before] using more) suited
      rw [QueryProgress.follow, next.query, if_neg isOver, upTo, if_neg more, List.append_cons]
      refine ⟨later.query, ?_⟩
      rw [sentFor_append, ← List.append_assoc, next.sent]
      exact later.sent

/-- An announcement or a put has one news, which ends it. -/
theorem right_deed {query : Query} {failure : String} (id request : Nat)
    (once : ∀ {progress : QueryProgress}, progress.news.suits query →
      ∃ result, progress.news.result? = some result
        ∧ Queries.after id progress.isLast progress.receiverGone query progress.news
          = (none, [.done request (result.mapError (failure ++ ·))])) :
    (deed request query failure).Right id request (QueryNews.suits query) where
  after := by
    intro past progress under suits
    obtain rfl : past = [] := by simpa [deed] using under
    obtain ⟨result, known, after⟩ := once suits
    constructor
    · simp [deed, after]
    · simp [deed, after, known, request?]
  ending := by simp [deed]
  settled := by
    intro heard isOver before
    cases heard with
    | nil => cases isOver
    | cons progress rest => cases before

/-- Values that came without a failure end a lookup as they should. -/
theorem tells_values {heard : List QueryProgress} {isLast : Bool} (good : failure? heard = none)
    (last : heard.any (·.isLast) = isLast) (room : (gathered heard).length ≤ Queries.valueLimit) :
    (lookup request).Tells request [] heard
      (Queries.afterValues id request isLast (gathered heard)) := by
  have whole : answer heard = .ok (gathered heard) := by
    rw [answer, good, List.take_of_length_le room]
  have isOver : isAnswered heard
      = (isLast || decide (Queries.valueLimit ≤ (gathered heard).length)) := by
    rw [isAnswered, good, last, Option.isSome_none, Bool.or_false]
  unfold Queries.afterValues
  split
  · rename_i final
    constructor <;> simp [lookup, isOver, final, whole, request?]
  · rename_i more
    split
    · rename_i full
      constructor <;> simp [lookup, isOver, full, whole, request?]
    · rename_i space
      constructor <;> simp [lookup, isOver, more, space]

theorem right_lookup (id request : Nat) (seen : List Bytes) :
    (lookup request).Right id request (QueryNews.suits (.getValues request seen)) where
  after := by
    intro past progress under suits
    obtain ⟨before, good, room⟩ := isAnswered_eq_false_iff.mp under
    have last : (past ++ [progress]).any (·.isLast) = progress.isLast := by simp [before]
    have failure := failure?_append past [progress]
    rw [good, Option.none_or] at failure
    have unsent : (lookup request).sent past = [] := if_neg (Bool.eq_false_iff.mp under)
    rw [unsent]
    -- Without a value the lookup has still room for those that it has.
    have silent (unvalued : progress.news.value? = none)
        (still : failure? (past ++ [progress]) = none) :
        (lookup request).Tells request [] (past ++ [progress])
          (Queries.afterValues id request progress.isLast (gathered past)) := by
      rw [← gathered_concat_silent unvalued] at room ⊢
      exact tells_values still last (Nat.le_of_lt room)
    obtain ⟨news, isLast, receiverGone⟩ := progress
    cases news with
    | value found =>
      have same : gathered (past ++ [⟨.value found, isLast, receiverGone⟩]) = _ :=
        gathered_concat rfl
      have fits : (gathered (past ++ [⟨.value found, isLast, receiverGone⟩])).length
          ≤ Queries.valueLimit := by
        rw [same]
        split
        · exact Nat.le_of_lt room
        · exact List.length_append ▸ room
      dsimp only [lookup, Queries.after]
      rw [← same]
      exact tells_values (by simpa [failure?] using failure) last fits
    | noMoreValues | valueNotFound => exact silent rfl (by simpa [failure?] using failure)
    | valueFailed reason =>
      by_cases empty : gathered past = []
      · have failed : failure? (past ++ [⟨.valueFailed reason, isLast, receiverGone⟩])
            = some reason := by simpa [failure?, empty] using failure
        constructor <;> simp [lookup, Queries.after, empty, isAnswered, answer, failed, request?]
      · dsimp only [lookup, Queries.after]
        rw [if_neg (by simpa using empty)]
        exact silent rfl (by simpa [empty] using failure)
    | _ => cases suits
  ending := by
    intro past progress last
    simp [lookup, isAnswered, show progress.isLast = true from last]
  settled := by
    intro heard isOver before more
    replace before : heard.any (·.isLast) = false := before
    have failure := failure?_append heard more
    have same : isAnswered (heard ++ more) = true ∧ answer (heard ++ more) = answer heard := by
      cases failed : failure? heard with
      | some reason =>
        rw [failed, Option.some_or] at failure
        simp [isAnswered, answer, failed, failure]
      | none =>
        have full : Queries.valueLimit ≤ (gathered heard).length := by
          simpa [lookup, isAnswered, before, failed] using isOver
        have nonempty : gathered heard ≠ [] :=
          List.ne_nil_of_length_pos (Nat.lt_of_lt_of_le (by decide) full)
        rw [failed, if_neg nonempty, Option.or_none] at failure
        obtain ⟨still, taken⟩ := gathered_append full more
        exact ⟨by simp [isAnswered, still], by rw [answer, answer, failure, failed, taken]⟩
    replace isOver : isAnswered heard = true := isOver
    simp [lookup, same, isOver]

/-- The peers that are passed on follow those that were passed on before. -/
theorem passProviders_taken (stream limit : Nat) (before found : List PeerId) :
    let passed := Queries.passProviders stream limit (before.eraseDups.take limit) found
    passed.1 = (before ++ found).eraseDups.take limit
      ∧ (before.eraseDups.take limit).map (.provider stream) ++ passed.2
        = ((before ++ found).eraseDups.take limit).map (.provider stream) := by
  induction found generalizing before with
  | nil => simp [Queries.passProviders]
  | cons peer rest ih =>
    replace ih := ih (before ++ [peer])
    rw [← List.append_cons, eraseDups_concat] at ih
    by_cases full : limit ≤ before.eraseDups.length
    · have enough : limit ≤ (before.eraseDups.take limit).length := by
        rw [List.length_take]
        exact Nat.le_min.mpr ⟨Nat.le_refl _, full⟩
      rw [Queries.passProviders, if_pos enough, (eraseDups_append_of_full full _).2]
      exact ⟨rfl, List.append_nil _⟩
    · have whole : before.eraseDups.take limit = before.eraseDups :=
        List.take_of_length_le (Nat.le_of_not_le full)
      rw [whole, Queries.passProviders, if_neg full]
      by_cases known : peer ∈ before
      · rw [if_pos known, whole] at ih
        rw [if_pos (List.mem_eraseDups.mpr known)]
        exact ih
      · have more : (before.eraseDups ++ [peer]).take limit = before.eraseDups ++ [peer] :=
          List.take_of_length_le (by rw [List.length_append]; exact Nat.lt_of_not_le full)
        rw [if_neg known, more] at ih
        rw [if_neg (mt List.mem_eraseDups.mp known)]
        refine ⟨ih.1, ?_⟩
        rw [← ih.2, List.map_append, List.append_assoc]
        rfl

/-- A search goes on until one of the ends there are. -/
theorem tells_afterProviders {stream limit : Nat} {earlier effects : List QueryEffect}
    (before : past.any endsSearch = false)
    (sent : earlier ++ sentFor stream effects
      = ((discovered (past ++ [progress])).take limit).map (.provider stream)) :
    (search stream limit).Tells stream earlier (past ++ [progress])
      (Queries.afterProviders id stream limit progress.isLast progress.receiverGone
        ((discovered (past ++ [progress])).take limit, effects)) := by
  have isOver := isClosed_concat limit progress before
  have closes (closed : isClosed limit (past ++ [progress]) = true) {tail : List QueryEffect}
      (close : sentFor stream tail = [.closeStream stream]) :
      (search stream limit).Tells stream earlier (past ++ [progress]) (none, effects ++ tail) := by
    refine ⟨(if_pos closed).symm, ?_⟩
    rw [sentFor_append, ← List.append_assoc, sent, close]
    simp only [search, closed, if_true]
  have enough : limit ≤ ((discovered (past ++ [progress])).take limit).length
      ↔ limit ≤ (discovered (past ++ [progress])).length := by
    rw [List.length_take, Nat.le_min]
    exact and_iff_right (Nat.le_refl _)
  simp only [Queries.afterProviders, enough]
  split
  · rename_i final
    exact closes (by simp [isOver, final]) (by simp [request?])
  · rename_i more
    split
    · rename_i ended
      exact closes (by simpa [isOver, more, or_comm] using ended) (by simp [request?])
    · rename_i goesOn
      have under : isClosed limit (past ++ [progress]) = false := by
        simpa [isOver, more, and_comm] using goesOn
      constructor
      · simp only [search, under]
        rfl
      · simp only [search, under, sent]
        exact (List.append_nil _).symm

theorem right_search (id stream limit : Nat) (seen : List PeerId) :
    (search stream limit).Right id stream (QueryNews.suits (.findProviders stream limit seen)) where
  after := by
    intro past progress under suits
    have before : past.any endsSearch = false := (Bool.or_eq_false_iff.mp under).1
    have unclosed : (search stream limit).sent past
        = ((discovered past).take limit).map (.provider stream) := by
      simp only [search, show isClosed limit past = false from under]
      exact List.append_nil _
    have grown := discovered_concat past progress
    rw [unclosed]
    -- Without providers the search has still passed on those that it has.
    have silent (unfound : progress.news.peers = []) : (search stream limit).Tells stream
        (((discovered past).take limit).map (.provider stream)) (past ++ [progress])
        (Queries.afterProviders id stream limit progress.isLast progress.receiverGone
          ((discovered past).take limit, [])) := by
      have same : discovered (past ++ [progress]) = discovered past := by
        rw [grown, unfound, List.append_nil, discovered]
      rw [← same]
      exact tells_afterProviders before (List.append_nil _)
    obtain ⟨news, isLast, receiverGone⟩ := progress
    cases news with
    | providers found =>
      replace grown : _ = (past.flatMap (·.news.peers) ++ found).eraseDups := grown
      obtain ⟨taken, sent⟩ := passProviders_taken stream limit (past.flatMap (·.news.peers)) found
      rw [← Queries.sentFor_passProviders, ← grown] at sent
      rw [← grown] at taken
      dsimp only [search, Queries.after]
      rw [show Queries.passProviders stream limit ((discovered past).take limit) found = (_, _) from
        Prod.ext taken rfl]
      exact tells_afterProviders before sent
    | noMoreProviders | providersFailed => exact silent rfl
    | _ => cases suits
  ending := by
    intro past progress last
    simp [search, isClosed, show endsSearch progress = true from last]
  settled := by
    intro heard isOver before more
    replace isOver : isClosed limit heard = true := isOver
    obtain ⟨begun, full⟩ : heard ≠ [] ∧ limit ≤ (discovered heard).length := by
      simpa [isClosed, show heard.any endsSearch = false from before] using isOver
    obtain ⟨grown, taken⟩ := discovered_append full more
    have still : isClosed limit (heard ++ more) = true := by
      simp [isClosed, begun, grown]
    exact ⟨still, by simp only [search, still, isOver, taken]⟩

/-- An account for what a command begins is right from the start. -/
theorem right_ofQuery (id : Nat) (query : Query) :
    (ofQuery query).Right id query.request (QueryNews.suits query) := by
  cases query with
  | provide request =>
    refine right_deed id request fun {progress} suits => ?_
    obtain ⟨news, isLast, receiverGone⟩ := progress
    cases news with
    | provided result => exact ⟨result, rfl, rfl⟩
    | _ => cases suits
  | putValue request =>
    refine right_deed id request fun {progress} suits => ?_
    obtain ⟨news, isLast, receiverGone⟩ := progress
    cases news with
    | put result => exact ⟨result, rfl, rfl⟩
    | _ => cases suits
  | findProviders stream limit seen => exact right_search id stream limit seen
  | getValues request values => exact right_lookup id request values

/-- What a command begins is there for its request and has heard nothing. -/
theorem start_ofCommand {taken : Except String Unit} {command : NetworkCommand} {query : Query}
    (begins : (Queries.ofCommand request taken command).1 = some query) :
    (Queries.ofCommand request taken command).2 = [] ∧ query.request = request
      ∧ (ofQuery query).query [] = query := by
  cases command with
  | provide | putValue =>
    cases taken with
    | ok _ => cases begins; exact ⟨rfl, rfl, rfl⟩
    | error reason => cases begins
  | findProviders key limit =>
    cases begins
    exact ⟨rfl, rfl, congrArg (Query.findProviders request limit) List.take_nil⟩
  | getValues key => cases begins; exact ⟨rfl, rfl, rfl⟩
  | _ => cases begins

theorem start_ofQuery (query : Query) :
    (ofQuery query).isOver [] = false ∧ (ofQuery query).sent [] = [] := by
  cases query with
  | findProviders stream limit seen => simp [ofQuery, search, isClosed, discovered]
  | _ => exact ⟨rfl, rfl⟩

/-- Nothing is sent twice. -/
theorem nodup_sent (query : Query) (heard : List QueryProgress) :
    ((ofQuery query).sent heard).Nodup := by
  cases query with
  | provide | putValue =>
    simp only [ofQuery, deed]
    cases heard.head?.bind (·.news.result?) with
    | none => exact List.nodup_nil
    | some result => exact List.nodup_singleton _
  | getValues request values =>
    simp only [ofQuery, lookup]
    split
    · exact List.nodup_singleton _
    · exact List.nodup_nil
  | findProviders stream limit seen =>
    have once : (((discovered heard).take limit).map (QueryEffect.provider stream)).Nodup := by
      refine List.Nodup.map (fun first second same => ?_) ((nodup_eraseDups _).take)
      cases same
      rfl
    refine List.nodup_append.mpr ⟨once, ?_, ?_⟩
    · split
      · exact List.nodup_singleton _
      · exact List.nodup_nil
    · rintro effect passed _ last rfl
      obtain ⟨peer, -, rfl⟩ := List.mem_map.mp passed
      split at last
      · cases List.mem_singleton.mp last
      · cases last

/-- Once a query is over one last thing was sent. -/
theorem length_isFinal_sent {query : Query} {heard : List QueryProgress}
    (suited : ∀ progress ∈ heard, progress.news.suits query) :
    (((ofQuery query).sent heard).filter (·.isFinal)).length
      = if (ofQuery query).isOver heard then 1 else 0 := by
  cases query with
  | provide request =>
    cases heard with
    | nil => rfl
    | cons progress rest =>
      obtain ⟨news, isLast, receiverGone⟩ := progress
      have suits := suited _ List.mem_cons_self
      cases news with
      | provided result => rfl
      | _ => cases suits
  | putValue request =>
    cases heard with
    | nil => rfl
    | cons progress rest =>
      obtain ⟨news, isLast, receiverGone⟩ := progress
      have suits := suited _ List.mem_cons_self
      cases news with
      | put result => rfl
      | _ => cases suits
  | getValues request values =>
    by_cases isOver : isAnswered heard = true
    · simp [ofQuery, lookup, isOver, isFinal]
    · simp [ofQuery, lookup, isOver]
  | findProviders stream limit seen =>
    have unfinal : (((discovered heard).take limit).map (QueryEffect.provider stream)).filter
        (·.isFinal) = [] := by
      rw [List.filter_eq_nil_iff]
      rintro effect passed
      obtain ⟨peer, -, rfl⟩ := List.mem_map.mp passed
      exact Bool.false_ne_true
    simp only [ofQuery, search, List.filter_append, unfinal, List.nil_append]
    by_cases isOver : isClosed limit heard = true
    · simp [isOver, isFinal]
    · simp [isOver]

end QueryAccount

end GossipNames
