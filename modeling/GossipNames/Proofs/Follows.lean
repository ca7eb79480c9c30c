import Mathlib.Data.List.Basic
import Mathlib.Data.List.Induction
import GossipNames.Name.Follows
import GossipNames.Proofs.Wire
import GossipNames.Proofs.Path
import GossipNames.Proofs.Table

/-! Names that begin and cease to be followed while tasks resolve them. A task may see late that its
follow is over, and still answer after the name has been followed anew; what is shown for a name is
the last good answer of the task of its present follow. -/

namespace GossipNames

/-- A task resolves its name again and again, with a pause in between. -/
structure FollowTask where
  name : String
  resolving : Bool

inductive FollowNotice where
  | followed (name : String) (id : Nat)
  | unfollowed (name : String)
  | shutDown
  /-- The task of the follow has resolved the name, or given up waiting for an answer. -/
  | resolved (id : Nat) (result : Option (Except NameError Path))
  deriving DecidableEq

structure Following where
  follows : Follows
  /-- The tasks that have not stopped, by the numbers of their follows. -/
  tasks : Table Nat FollowTask
  log : List FollowNotice

namespace Following

inductive Event where
  | follow (name : String)
  | unfollow (name : String)
  | shutdown
  | tick (id : Nat)
  | finish (id : Nat) (result : Option (Except NameError Path))
  | stop (id : Nat)

def start : Following where
  follows := .empty
  tasks := .empty
  log := []

/-- A new follow gets a task of its own. -/
def follow (node : Following) (name : String) : Following :=
  match node.follows.follow name with
  | .error _ => node
  | .ok follows =>
    let id := node.follows.nextId
    { follows
      tasks := node.tasks.put id { name, resolving := false }
      log := node.log ++ [.followed name id] }

def unfollow (node : Following) (name : String) : Following :=
  match node.follows.unfollow name with
  | .error _ => node
  | .ok follows => { node with follows, log := node.log ++ [.unfollowed name] }

def shutdown (node : Following) : Following :=
  { node with follows := node.follows.shutdown, log := node.log ++ [.shutDown] }

/-- The pause is over. -/
def tick (node : Following) (id : Nat) : Following :=
  match node.tasks.get? id with
  | some task => { node with tasks := node.tasks.put id { task with resolving := true } }
  | none => node

def finish (node : Following) (id : Nat) (result : Option (Except NameError Path)) : Following :=
  match node.tasks.get? id with
  | some { name, resolving := true } =>
    { follows := node.follows.resolved id result
      tasks := node.tasks.put id { name, resolving := false }
      log := node.log ++ [.resolved id result] }
  | _ => node

/-- A task stops once it sees that its follow is over. -/
def stop (node : Following) (id : Nat) : Following :=
  match node.tasks.get? id with
  | some task =>
    if node.follows.isActive task.name id then node
    else { node with tasks := node.tasks.erase id }
  | none => node

def step (node : Following) : Event → Following
  | .follow name => node.follow name
  | .unfollow name => node.unfollow name
  | .shutdown => node.shutdown
  | .tick id => node.tick id
  | .finish id result => node.finish id result
  | .stop id => node.stop id

def run (node : Following) (events : List Event) : Following :=
  events.foldl step node

/-- The present follow of a name, and what has happened since it began. -/
def Present (log : List FollowNotice) (name : String) (id : Nat) (since : List FollowNotice) :
    Prop :=
  (∃ before, log = before ++ .followed name id :: since)
    ∧ .unfollowed name ∉ since ∧ .shutDown ∉ since

/-- The paths that the task of a follow has found. -/
def answersOf (id : Nat) (log : List FollowNotice) : List Path :=
  log.filterMap fun
    | .resolved other (some (.ok path)) => if other = id then some path else none
    | _ => none

section Present

variable {log since : List FollowNotice} {notice : FollowNotice} {name : String} {id : Nat}

theorem not_present_nil : ¬ Present [] name id since := by
  rintro ⟨⟨before, split⟩, -⟩
  simp at split

/-- A notice begins the present follow, or has come in since then and did not end it. -/
theorem present_concat :
    Present (log ++ [notice]) name id since ↔
      since = [] ∧ notice = .followed name id
        ∨ ∃ earlier, since = earlier ++ [notice] ∧ Present log name id earlier
            ∧ notice ≠ .unfollowed name ∧ notice ≠ .shutDown := by
  constructor
  · rintro ⟨⟨before, split⟩, kept, opened⟩
    cases since using List.reverseRecOn with
    | nil =>
      obtain ⟨-, same⟩ := List.append_inj' split rfl
      exact .inl ⟨rfl, List.singleton_inj.mp same⟩
    | append_singleton earlier last =>
      rw [← List.cons_append, ← List.append_assoc] at split
      obtain ⟨rest, same⟩ := List.append_inj' split rfl
      cases List.singleton_inj.mp same
      rw [List.mem_append, List.mem_singleton, not_or] at kept opened
      exact .inr ⟨earlier, rfl, ⟨⟨before, rest⟩, kept.1, opened.1⟩, Ne.symm kept.2,
        Ne.symm opened.2⟩
  · rintro (⟨rfl, rfl⟩ | ⟨earlier, rfl, ⟨⟨before, rfl⟩, kept, opened⟩, stays, unended⟩)
    · exact ⟨⟨log, rfl⟩, List.not_mem_nil, List.not_mem_nil⟩
    · refine ⟨⟨before, by simp⟩, ?_, ?_⟩
      · simp [kept, stays.symm]
      · simp [opened, unended.symm]

theorem answersOf_concat :
    answersOf id (log ++ [notice]) = answersOf id log ++ answersOf id [notice] :=
  List.filterMap_append

end Present

/-- What is known of the follows and their answers is what the log says. -/
structure Faithful (node : Following) : Prop where
  distinct : node.follows.entries.keys.Nodup
  tasks : ∀ {id}, node.follows.nextId ≤ id → node.tasks.get? id = none
  answers : ∀ {id}, node.follows.nextId ≤ id → node.follows.answers.get? id = none
  present : ∀ {name id}, node.follows.entries.get? name = some id ↔
    ∃ since, Present node.log name id since
  current : ∀ {name id since}, Present node.log name id since →
    node.follows.answers.get? id = (answersOf id since).getLast?
  closed : node.follows.closed = true ↔ .shutDown ∈ node.log

namespace Faithful

variable {node : Following}

theorem start : Faithful start where
  distinct := List.nodup_nil
  tasks _ := rfl
  answers _ := rfl
  present := by
    intro name id
    constructor
    · rintro ⟨⟩
    · rintro ⟨since, present⟩
      exact absurd present not_present_nil
  current present := absurd present not_present_nil
  closed := by simp [Following.start, Follows.empty]

/-- Nothing has changed but the tasks, and none of them is new. -/
theorem onlyTasks (faithful : Faithful node) {tasks : Table Nat FollowTask}
    (known : ∀ {id}, node.tasks.get? id = none → tasks.get? id = none) :
    Faithful { node with tasks } where
  distinct := faithful.distinct
  tasks ahead := known (faithful.tasks ahead)
  answers := faithful.answers
  present := faithful.present
  current := faithful.current
  closed := faithful.closed

/-- The number of a new follow is one that nothing was known of. -/
theorem follow (faithful : Faithful node) (name : String) : Faithful (node.follow name) := by
  unfold Following.follow
  split
  · exact faithful
  · rename_i follows begun
    unfold Follows.follow at begun
    split at begun
    · cases begun
    · rename_i opened
      split at begun
      · cases begun
      · rename_i absent
        cases begun
        have unfollowed : node.follows.entries.get? name = none := by
          simpa [Table.contains] using absent
        constructor
        · exact Table.nodup_keys_put faithful.distinct name _
        · intro id ahead
          dsimp only at ahead ⊢
          rw [Table.get?_put, if_neg (by omega)]
          exact faithful.tasks (by omega)
        · intro id ahead
          exact faithful.answers (Nat.le_of_succ_le ahead)
        · intro other id
          dsimp only
          rw [Table.get?_put]
          constructor
          · intro found
            split at found
            · rename_i own
              subst own
              cases found
              exact ⟨[], present_concat.mpr (.inl ⟨rfl, rfl⟩)⟩
            · obtain ⟨since, present⟩ := faithful.present.mp found
              exact ⟨_, present_concat.mpr (.inr ⟨since, rfl, present, by simp, by simp⟩)⟩
          · rintro ⟨since, present⟩
            rcases present_concat.mp present with ⟨-, same⟩ | ⟨earlier, -, before, -, -⟩
            · cases same
              exact if_pos rfl
            · have found := faithful.present.mpr ⟨earlier, before⟩
              rw [if_neg, found]
              rintro rfl
              rw [unfollowed] at found
              cases found
        · intro other id since present
          rcases present_concat.mp present with ⟨rfl, same⟩ | ⟨earlier, rfl, before, -, -⟩
          · cases same
            exact faithful.answers (Nat.le_refl _)
          · rw [answersOf_concat]
            simpa [answersOf] using faithful.current before
        · dsimp only
          rw [faithful.closed]
          simp

/-- Something happens that begins no follow. -/
theorem carry (faithful : Faithful node) {later : Following} (notice : FollowNotice)
    (log : later.log = node.log ++ [notice]) (old : ∀ name id, notice ≠ .followed name id)
    (distinct : later.follows.entries.keys.Nodup)
    (nextId : later.follows.nextId = node.follows.nextId)
    (tasks : ∀ {id}, node.tasks.get? id = none → later.tasks.get? id = none)
    (entries : ∀ {name id}, later.follows.entries.get? name = some id ↔
      node.follows.entries.get? name = some id ∧ notice ≠ .unfollowed name ∧ notice ≠ .shutDown)
    (answers : ∀ id, later.follows.answers.get? id
      = (answersOf id [notice]).getLast?.or (node.follows.answers.get? id))
    (known : ∀ {id}, node.follows.nextId ≤ id → answersOf id [notice] = [])
    (closed : later.follows.closed = true ↔ node.follows.closed = true ∨ notice = .shutDown) :
    Faithful later where
  distinct := distinct
  tasks ahead := tasks (faithful.tasks (nextId ▸ ahead))
  answers ahead := by
    rw [nextId] at ahead
    rw [answers, known ahead, faithful.answers ahead]
    rfl
  present := by
    intro name id
    rw [entries, faithful.present, log]
    constructor
    · rintro ⟨⟨since, present⟩, stays, opened⟩
      exact ⟨_, present_concat.mpr (.inr ⟨since, rfl, present, stays, opened⟩)⟩
    · rintro ⟨since, present⟩
      rcases present_concat.mp present with ⟨-, begun⟩ | ⟨earlier, -, before, stays, opened⟩
      · exact absurd begun (old name id)
      · exact ⟨⟨earlier, before⟩, stays, opened⟩
  current := by
    intro name id since present
    rw [log] at present
    rcases present_concat.mp present with ⟨-, begun⟩ | ⟨earlier, rfl, before, -, -⟩
    · exact absurd begun (old name id)
    · rw [answers, answersOf_concat, List.getLast?_append, faithful.current before]
  closed := by
    rw [closed, faithful.closed, log, List.mem_append, List.mem_singleton, @eq_comm _ notice]

theorem unfollow (faithful : Faithful node) (name : String) : Faithful (node.unfollow name) := by
  unfold Following.unfollow
  split
  · exact faithful
  · rename_i follows ended
    unfold Follows.unfollow at ended
    split at ended
    · cases ended
      refine faithful.carry (.unfollowed name) rfl (by simp)
        (Table.nodup_keys_erase faithful.distinct name) rfl id ?_ (fun _ => rfl) (fun _ => rfl)
        (by simp)
      intro other id
      dsimp only
      rw [Table.get?_erase]
      by_cases own : other = name
      · simp [own]
      · simp [own, Ne.symm own]
    · cases ended

theorem shutdown (faithful : Faithful node) : Faithful node.shutdown :=
  faithful.carry .shutDown rfl (by simp) List.nodup_nil rfl id
    (by simp [Following.shutdown, Follows.shutdown]) (fun _ => rfl) (fun _ => rfl)
    (by simp [Following.shutdown, Follows.shutdown])

/-- Only a path becomes the answer of a follow, and only of the follow it was found for. -/
theorem answer_resolved (follows : Follows) (id other : Nat)
    (result : Option (Except NameError Path)) :
    (follows.resolved id result).answers.get? other
      = (answersOf other [.resolved id result]).getLast?.or (follows.answers.get? other) := by
  match result with
  | none | some (.error error) => rfl
  | some (.ok path) =>
    simp only [Follows.resolved, Table.get?_put]
    by_cases own : other = id
    · simp [answersOf, own]
    · simp [answersOf, own, Ne.symm own]

/-- A resolve changes nothing else. -/
theorem entries_resolved (follows : Follows) (id : Nat) (result : Option (Except NameError Path)) :
    (follows.resolved id result).entries = follows.entries
      ∧ (follows.resolved id result).nextId = follows.nextId
      ∧ (follows.resolved id result).closed = follows.closed := by
  unfold Follows.resolved
  split <;> exact ⟨rfl, rfl, rfl⟩

theorem finish (faithful : Faithful node) (id : Nat) (result : Option (Except NameError Path)) :
    Faithful (node.finish id result) := by
  unfold Following.finish
  split
  · rename_i name resolving
    obtain ⟨entries, nextId, closed⟩ := entries_resolved node.follows id result
    -- A task that is there has begun, so that its answers are none of a follow to come.
    have begun : id < node.follows.nextId := by
      apply Nat.lt_of_not_le
      intro ahead
      rw [faithful.tasks ahead] at resolving
      cases resolving
    refine faithful.carry (.resolved id result) rfl (by simp)
      (entries ▸ faithful.distinct) nextId ?_ (by simp [entries])
      (answer_resolved node.follows id · result) ?_ (by simp [closed])
    · intro other absent
      rw [Table.get?_put, if_neg, absent]
      rintro rfl
      rw [absent] at resolving
      cases resolving
    · intro other ahead
      have apart : id ≠ other := by omega
      match result with
      | none | some (.error error) => rfl
      | some (.ok path) => simp [answersOf, apart]
  · exact faithful

theorem step (faithful : Faithful node) (event : Event) : Faithful (node.step event) := by
  cases event with
  | follow name => exact faithful.follow name
  | unfollow name => exact faithful.unfollow name
  | shutdown => exact faithful.shutdown
  | finish id result => exact faithful.finish id result
  | tick id =>
    change Faithful (node.tick id)
    unfold tick
    split
    · rename_i task found
      apply faithful.onlyTasks
      intro other absent
      rw [Table.get?_put, if_neg, absent]
      rintro rfl
      rw [absent] at found
      cases found
    · exact faithful
  | stop id =>
    change Faithful (node.stop id)
    unfold stop
    split
    · split
      · exact faithful
      · apply faithful.onlyTasks
        intro other absent
        rw [Table.get?_erase, absent]
        split <;> rfl
    · exact faithful

theorem run (events : List Event) : Faithful (Following.start.run events) := by
  induction events using List.reverseRecOn with
  | nil => exact start
  | append_singleton events event ih =>
    rw [Following.run, List.foldl_concat]
    exact ih.step event

end Faithful

section Calls

variable (follows : Follows) (name : String)

theorem mem_names : name ∈ follows.names ↔ (follows.entries.get? name).isSome = true := by
  rw [Follows.names, List.mem_mergeSort]
  exact (follows.entries.isSome_get?_iff name).symm

theorem follow_error_iff {error : NameError} :
    follows.follow name = .error error ↔
      follows.closed = true ∧ error = .closed
        ∨ follows.closed = false ∧ name ∈ follows.names ∧ error = .alreadyFollowing name := by
  rw [mem_names, @eq_comm _ error, @eq_comm _ error]
  cases closed : follows.closed with
  | true => simp [Follows.follow, closed]
  | false =>
    by_cases known : (follows.entries.get? name).isSome = true
    · simp [Follows.follow, Table.contains, closed, known]
    · simp [Follows.follow, Table.contains, closed, known]

theorem unfollow_error_iff {error : NameError} :
    follows.unfollow name = .error error ↔
      name ∉ follows.names ∧ error = .notFollowing name := by
  rw [mem_names, @eq_comm _ error]
  by_cases known : (follows.entries.get? name).isSome = true
  · simp [Follows.unfollow, Table.contains, known]
  · simp [Follows.unfollow, Table.contains, known]

end Calls

/-- The names that are listed are those that were followed and not unfollowed or shut down since,
each once and in order. A follow fails just when the name is listed, or after the shutdown, and
ceasing to follow just when it is not, and then all stays as it is. Nothing is shown for a name that
is not listed; for one that is, what the task of its present follow has found last is shown, whatever
failed or took too long after that and whatever the tasks of earlier follows still find. -/
theorem current_eq_lastAnswer (events : List Event) :
    let node := start.run events
    node.follows.names.Pairwise (· < ·)
    ∧ (∀ name, name ∈ node.follows.names ↔ ∃ id since, Present node.log name id since)
    ∧ (∀ name error, node.follows.follow name = .error error ↔
        .shutDown ∈ node.log ∧ error = .closed
          ∨ .shutDown ∉ node.log ∧ name ∈ node.follows.names ∧ error = .alreadyFollowing name)
    ∧ (∀ name error, node.follows.unfollow name = .error error ↔
        name ∉ node.follows.names ∧ error = .notFollowing name)
    ∧ (∀ name error, node.follows.follow name = .error error → node.step (.follow name) = node)
    ∧ (∀ name error, node.follows.unfollow name = .error error →
        node.step (.unfollow name) = node)
    ∧ (∀ name, name ∉ node.follows.names → node.follows.current? name = none)
    ∧ ∀ name id since, Present node.log name id since →
        node.follows.current? name = (answersOf id since).getLast? := by
  intro node
  have faithful : Faithful node := .run events
  refine ⟨pairwise_lt_mergeSort faithful.distinct, ?_, ?_, ?_, ?_, ?_, ?_, ?_⟩
  · intro name
    rw [mem_names, Option.isSome_iff_exists]
    exact exists_congr fun id => faithful.present
  · intro name error
    rw [follow_error_iff, ← faithful.closed, Bool.not_eq_true]
  · intro name error
    exact unfollow_error_iff node.follows name
  · intro name error refused
    simp only [step, follow, refused]
  · intro name error refused
    simp only [step, unfollow, refused]
  · intro name absent
    rw [mem_names, Bool.not_eq_true, Option.isSome_eq_false_iff, Option.isNone_iff_eq_none] at absent
    rw [Follows.current?, absent]
    rfl
  · intro name id since present
    rw [Follows.current?, faithful.present.mpr ⟨since, present⟩]
    exact faithful.current present

namespace Sample

def path (root : String) (nonempty : root.toList ≠ []) (plain : '/' ∉ root.toList) : Path :=
  ⟨.ipfs, root, "", nonempty, plain, Path.absolute_empty⟩

def early : Path := path "Qm444" (by decide) (by decide)

def stray : Path := path "Qm555" (by decide) (by decide)

def latest : Path := path "Qm666" (by decide) (by decide)

/-- A name is followed anew while the task of its first follow still resolves it. -/
def events : List Event := [
  .follow "b", .follow "a", .tick 1, .finish 1 (some (.ok early)), .tick 1, .unfollow "a",
  .follow "a", .tick 2, .finish 2 (some (.ok latest)), .finish 1 (some (.ok stray)), .stop 1,
  .tick 2, .finish 2 none, .tick 2, .finish 2 (some (.error (.notFound "a")))]

end Sample

open Sample in
/-- The answer of the first follow comes last and is not shown. -/
theorem current_eq_lastAnswer_again :
    (start.run events).follows.current? "a" = some latest
    ∧ (start.run events).follows.follow "a" = .error (.alreadyFollowing "a")
    ∧ (start.run events).follows.current? "c" = none := by
  obtain ⟨-, -, refused, -, -, -, unlisted, current⟩ := current_eq_lastAnswer events
  refine ⟨?_, ?_, ?_⟩
  · exact current "a" 2 _
      ⟨⟨[.followed "b" 0, .followed "a" 1, .resolved 1 (some (.ok early)), .unfollowed "a"], rfl⟩,
        by simp, by simp⟩
  · exact (refused "a" _).mpr (.inr ⟨by decide, (mem_names _ _).mpr (by decide), rfl⟩)
  · exact unlisted "c" (mt (mem_names _ _).mp (by decide))

end Following

end GossipNames
