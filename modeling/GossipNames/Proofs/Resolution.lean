import GossipNames.Name.Resolution
import GossipNames.Proofs.Path

/-! Following a name goes where the answers lead, one question for each hop, and what is left over of
the names on the way ends up behind the path at the end. -/

namespace GossipNames

/-- A resolver whose answers do not change during a call, whatever else asking it does. -/
structure SteadyResolver (m : Type → Type) where
  ask : String → m Unit
  answer : String → Except NameError Path

namespace SteadyResolver

variable {m : Type → Type}

/-- Whether another resolver may know the name. -/
def passes (resolver : SteadyResolver m) (name : String) : Bool :=
  match resolver.answer name with
  | .ok _ => false
  | .error error => error.isNotFound

/-- The resolvers up to the first that does not pass a name on. -/
def asked (name : String) : List (SteadyResolver m) → List (SteadyResolver m)
  | [] => []
  | resolver :: rest => if resolver.passes name then resolver :: asked name rest else [resolver]

theorem asked_of_passes {resolvers : List (SteadyResolver m)} {name : String}
    (pass : ∀ resolver ∈ resolvers, resolver.passes name = true) :
    asked name resolvers = resolvers := by
  induction resolvers with
  | nil => rfl
  | cons resolver rest ih =>
    rw [asked, if_pos (pass resolver (by simp)), ih fun other member => pass other (by simp [member])]

theorem asked_of_decides {before : List (SteadyResolver m)} {resolver : SteadyResolver m}
    {name : String} (pass : ∀ other ∈ before, other.passes name = true)
    (decides : resolver.passes name = false) (after : List (SteadyResolver m)) :
    asked name (before ++ resolver :: after) = before ++ [resolver] := by
  induction before with
  | nil => rw [List.nil_append, asked, decides]; rfl
  | cons first rest ih =>
    rw [List.cons_append, asked, if_pos (pass first (by simp)),
      ih fun other member => pass other (by simp [member]), List.cons_append]

variable [Monad m]

def hop (resolver : SteadyResolver m) : Hop m := fun name => do
  resolver.ask name
  return resolver.answer name

/-- Several resolvers in place of one. The last one that is asked has the word. -/
def inTurn (resolvers : List (SteadyResolver m)) : SteadyResolver m where
  ask name := (asked name resolvers).forM (·.ask name)
  answer name :=
    ((asked name resolvers).getLast?.map (·.answer name)).getD (.error (.notFound name))

variable [LawfulMonad m]

private theorem askInTurn_hop (name : String) (last : NameError)
    (resolvers : List (SteadyResolver m)) :
    Hop.askInTurn name last (resolvers.map hop) = do
      (asked name resolvers).forM (·.ask name)
      return ((asked name resolvers).getLast?.map (·.answer name)).getD (.error last) := by
  induction resolvers generalizing last with
  | nil => simp [Hop.askInTurn, asked]
  | cons resolver rest ih =>
    rw [List.map_cons, Hop.askInTurn, hop, asked, passes]
    cases found : resolver.answer name with
    | ok path => simp [found]
    | error error =>
      by_cases unknown : error.isNotFound = true
      · simp only [unknown, if_true, ih, bind_assoc, pure_bind, List.getLast?_cons,
          Option.map_some, Option.getD_some]
        -- When nobody is left to ask, the error carried along is this resolver's own answer.
        cases (asked name rest).getLast? <;> simp [found]
      · simp [unknown, found]

theorem firstOf_hop (resolvers : List (SteadyResolver m)) :
    Hop.firstOf (resolvers.map hop) = (inTurn resolvers).hop :=
  funext fun name => askInTurn_hop name (.notFound name) resolvers

end SteadyResolver

namespace Hop

/-- The answers on the way from one name to another, all of them names. -/
inductive Trail (answer : String → Except NameError Path) : String → List Path → String → Prop where
  | here (name : String) : Trail answer name [] name
  | onward {name last : String} {path : Path} {visited : List Path}
      (found : answer name = .ok path) (isName : path.isName = true)
      (rest : Trail answer path.root visited last) : Trail answer name (path :: visited) last

/-- What is left over of the names on the way, that of the last one first. -/
def leftOver (visited : List Path) : String :=
  String.join (visited.reverse.map (·.remainder))

theorem leftOver_cons (path : Path) (visited : List Path) :
    leftOver (path :: visited) = leftOver visited ++ path.remainder := by
  simp [leftOver, String.join_append, String.join_cons]

theorem leftOver_absolute (visited : List Path) :
    ∀ char ∈ (leftOver visited).toList.head?, char = '/' := by
  induction visited with
  | nil => exact Path.absolute_empty
  | cons path rest ih =>
    rw [leftOver_cons]
    exact Path.absolute_append ih path.remainderAbsolute

theorem Trail.names {answer : String → Except NameError Path} {name last : String}
    {visited : List Path} (trail : Trail answer name visited last) :
    (name :: visited.map (·.root)).take visited.length ++ [last]
      = name :: visited.map (·.root) := by
  induction trail with
  | here name => rfl
  | onward found isName rest ih =>
    simp only [List.map_cons, List.length_cons, List.take_succ_cons, List.cons_append, ih]

/-- From every name there is a trail of any length, or one that ends before. -/
theorem Trail.continues_or_ends (answer : String → Except NameError Path) (name : String)
    (length : Nat) :
    (∃ visited last, Trail answer name visited last ∧ visited.length = length)
      ∨ ∃ visited last, Trail answer name visited last ∧ visited.length < length
        ∧ ∀ path, answer last = .ok path → path.isName = false := by
  induction length generalizing name with
  | zero => exact .inl ⟨[], name, .here name, rfl⟩
  | succ length ih =>
    by_cases further : ∃ path, answer name = .ok path ∧ path.isName = true
    · obtain ⟨path, found, isName⟩ := further
      rcases ih path.root with ⟨visited, last, trail, count⟩ | ⟨visited, last, trail, count, ends⟩
      · exact .inl ⟨path :: visited, last, .onward found isName trail, congrArg (· + 1) count⟩
      · exact .inr ⟨path :: visited, last, .onward found isName trail, Nat.succ_lt_succ count, ends⟩
    · refine .inr ⟨[], name, .here name, Nat.succ_pos length, fun path found => ?_⟩
      exact Bool.eq_false_iff.mpr fun isName => further ⟨path, found, isName⟩

variable {m : Type → Type} [Monad m] [LawfulMonad m] {resolver : SteadyResolver m}
  {current last : String} {path : Path} {visited : List Path} {limit : Nat}

section Step

variable (asked suffix : String) (patience : Nat)

theorem chain_onward (found : resolver.answer current = .ok path) (isName : path.isName = true)
    (more : limit ≠ 1) :
    chain resolver.hop asked (patience + 1) limit suffix current = (do
      resolver.ask current
      chain resolver.hop asked patience (limit - 1) (path.remainder ++ suffix) path.root) := by
  simp [chain, SteadyResolver.hop, found, isName, more]

theorem chain_limit (found : resolver.answer current = .ok path) (isName : path.isName = true) :
    chain resolver.hop asked (patience + 1) 1 suffix current = do
      resolver.ask current
      return some (.error (.depthExceeded asked)) := by
  simp [chain, SteadyResolver.hop, found, isName]

theorem chain_final (found : resolver.answer current = .ok path) (isFinal : path.isName = false) :
    chain resolver.hop asked (patience + 1) limit suffix current = do
      resolver.ask current
      return some ((path.join suffix).mapError .invalidPath) := by
  simp [chain, SteadyResolver.hop, found, isFinal]

theorem chain_error {error : NameError} (failed : resolver.answer current = .error error) :
    chain resolver.hop asked (patience + 1) limit suffix current = do
      resolver.ask current
      return some (.error error) := by
  simp [chain, SteadyResolver.hop, failed]

end Step

/-- While the limit is not reached, following a name comes to the end of a trail with what is left
over on it put in front. -/
theorem chain_trail (trail : Trail resolver.answer current visited last)
    (more : limit = 0 ∨ visited.length < limit) (asked suffix : String) (patience : Nat) :
    chain resolver.hop asked (patience + visited.length) limit suffix current = (do
      ((current :: visited.map (·.root)).take visited.length).forM resolver.ask
      chain resolver.hop asked patience (limit - visited.length) (leftOver visited ++ suffix)
        last) := by
  -- Every hop puts what is left over of its answer in front, so the suffix changes on the way.
  induction trail generalizing limit suffix with
  | here name => simp [leftOver]
  | @onward name last path visited found isName rest ih =>
    rw [List.length_cons] at more
    rw [List.length_cons, ← Nat.add_assoc, chain_onward asked suffix _ found isName (by omega),
      ih (by omega), Nat.sub_sub, Nat.add_comm 1, leftOver_cons, String.append_assoc]
    simp only [List.map_cons, List.take_succ_cons, List.forM_eq_forM, List.forM_cons, bind_assoc]

theorem chain_exceeds (trail : Trail resolver.answer current visited last) (named : visited ≠ [])
    (asked suffix : String) (patience : Nat) :
    chain resolver.hop asked (patience + visited.length) visited.length suffix current = do
      ((current :: visited.map (·.root)).take visited.length).forM resolver.ask
      return some (.error (.depthExceeded asked)) := by
  induction trail generalizing suffix with
  | here name => exact absurd rfl named
  | @onward name last path visited found isName rest ih =>
    rw [List.length_cons, ← Nat.add_assoc]
    cases visited with
    | nil => simp [chain_limit asked suffix _ found isName]
    | cons next others =>
      rw [chain_onward asked suffix _ found isName (by simp), Nat.add_sub_cancel, ih (by simp)]
      simp only [List.map_cons, List.length_cons, List.take_succ_cons, List.forM_eq_forM,
        List.forM_cons, bind_assoc]

section Resolve

variable {name : String} {patience depth : Nat}

/-- When the end of the trail is within reach, what is made of the answer there is the result. -/
theorem resolve_within (trail : Trail resolver.answer name visited last)
    (within : visited.length < if depth = 0 then patience else depth)
    {result : Except NameError Path}
    (ends : ∀ patience limit, chain resolver.hop name (patience + 1) limit (leftOver visited) last
      = do
        resolver.ask last
        return some result) :
    resolve resolver.hop patience depth name = do
      (name :: visited.map (·.root)).forM resolver.ask
      return some result := by
  obtain ⟨extra, reach⟩ := Nat.exists_eq_add_of_lt within
  have more : depth = 0 ∨ visited.length < depth := by
    by_cases unlimited : depth = 0
    · exact .inl unlimited
    · rw [if_neg unlimited] at within
      exact .inr within
  rw [resolve, show (if depth = 0 then patience else depth) = extra + 1 + visited.length by omega,
    chain_trail trail more, String.append_empty, ends,
    ← congrArg (·.forM resolver.ask) trail.names]
  simp only [List.forM_eq_forM, List.forM_append, List.forM_cons, List.forM_nil, bind_assoc,
    pure_bind]

theorem resolve_final (trail : Trail resolver.answer name visited last)
    (found : resolver.answer last = .ok path) (isFinal : path.isName = false)
    (within : visited.length < if depth = 0 then patience else depth) :
    ∃ joined : Path, resolve resolver.hop patience depth name = (do
        (name :: visited.map (·.root)).forM resolver.ask
        return some (.ok joined))
      ∧ joined.text = path.text ++ leftOver visited
      ∧ joined.space = path.space ∧ joined.root = path.root := by
  obtain ⟨joined, same, text, space, root, -⟩ := path.join_ok (leftOver_absolute visited)
  have ends : ∀ patience limit, chain resolver.hop name (patience + 1) limit (leftOver visited)
      last = do
        resolver.ask last
        return some (.ok joined) := by
    intro patience limit
    rw [chain_final name _ _ found isFinal, same]
    rfl
  exact ⟨joined, resolve_within trail within ends, text, space, root⟩

theorem resolve_error (trail : Trail resolver.answer name visited last) {error : NameError}
    (failed : resolver.answer last = .error error)
    (within : visited.length < if depth = 0 then patience else depth) :
    resolve resolver.hop patience depth name = do
      (name :: visited.map (·.root)).forM resolver.ask
      return some (.error error) :=
  resolve_within trail within fun _ _ => chain_error name _ _ failed

theorem resolve_exceeds (trail : Trail resolver.answer name visited last) (limited : 0 < depth)
    (full : visited.length = depth) :
    resolve resolver.hop patience depth name = do
      ((name :: visited.map (·.root)).take depth).forM resolver.ask
      return some (.error (.depthExceeded name)) := by
  have named : visited ≠ [] := List.ne_nil_of_length_pos (by omega)
  have exceeds := chain_exceeds trail named name "" 0
  rw [Nat.zero_add, full] at exceeds
  rw [resolve, if_neg (by omega), exceeds]

/-- With a depth there is always a result, after no more questions than the depth. -/
theorem resolve_answers (limited : 0 < depth) (patience : Nat) :
    ∃ (names : List String) (result : Except NameError Path), names.length ≤ depth
      ∧ resolve resolver.hop patience depth name = do
        names.forM resolver.ask
        return some result := by
  rcases Trail.continues_or_ends resolver.answer name depth with
    ⟨visited, last, trail, full⟩ | ⟨visited, last, trail, short, ends⟩
  · exact ⟨_, _, List.length_take_le _ _, resolve_exceeds trail limited full⟩
  · have within : visited.length < if depth = 0 then patience else depth := by
      rwa [if_neg (by omega)]
    have count : (name :: visited.map (·.root)).length ≤ depth := by
      simpa using Nat.succ_le_of_lt short
    cases answer : resolver.answer last with
    | ok path =>
      obtain ⟨joined, resolved, -⟩ := resolve_final trail answer (ends path answer) within
      exact ⟨_, _, count, resolved⟩
    | error error => exact ⟨_, _, count, resolve_error trail answer within⟩

end Resolve

/-- What following a name comes to. When the end of its trail is within reach, the answer there is
the result: a path, with what is left over on the trail behind it, or an error as it is. When the
first answers are all names, as many as the depth allows, the result is that the depth is exceeded.
Nothing is asked but the names on the way, in order. Several resolvers in place of one are asked in
order up to the first that does not pass the name on, and are together a resolver of this kind. -/
theorem resolve_trail (resolver : SteadyResolver m) {name : String}
    (trail : Trail resolver.answer name visited last) (patience depth : Nat) :
    let names := name :: visited.map (·.root)
    let reach := if depth = 0 then patience else depth
    (∀ final, resolver.answer last = .ok final → final.isName = false → visited.length < reach →
      ∃ path : Path, resolve resolver.hop patience depth name = (do
          names.forM resolver.ask
          return some (.ok path))
        ∧ path.text = final.text ++ leftOver visited
        ∧ path.space = final.space ∧ path.root = final.root)
    ∧ (∀ error, resolver.answer last = .error error → visited.length < reach →
      resolve resolver.hop patience depth name = do
        names.forM resolver.ask
        return some (.error error))
    ∧ (0 < depth → visited.length = depth →
      resolve resolver.hop patience depth name = do
        (names.take depth).forM resolver.ask
        return some (.error (.depthExceeded name)))
    ∧ (∀ resolvers : List (SteadyResolver m),
      firstOf (resolvers.map (·.hop)) = (SteadyResolver.inTurn resolvers).hop)
    ∧ (∀ (before after : List (SteadyResolver m)) (decider : SteadyResolver m) (asked : String),
      (∀ other ∈ before, other.passes asked = true) → decider.passes asked = false →
        firstOf ((before ++ decider :: after).map (·.hop)) asked = do
          before.forM (·.ask asked)
          decider.ask asked
          return decider.answer asked)
    ∧ ∀ (resolvers : List (SteadyResolver m)) (asked : String),
      (∀ other ∈ resolvers, other.passes asked = true) →
        firstOf (resolvers.map (·.hop)) asked = do
          resolvers.forM (·.ask asked)
          return (resolvers.getLast?.map (·.answer asked)).getD (.error (.notFound asked)) := by
  intro names reach
  refine ⟨?final, ?error, ?exceeded, SteadyResolver.firstOf_hop, ?decided, ?passed⟩
  case final =>
    intro final found isFinal within
    exact resolve_final trail found isFinal within
  case error =>
    intro error failed within
    exact resolve_error trail failed within
  case exceeded =>
    intro limited full
    exact resolve_exceeds trail limited full
  case decided =>
    intro before after decider asked pass decides
    have order := SteadyResolver.asked_of_decides pass decides after
    rw [SteadyResolver.firstOf_hop]
    simp [SteadyResolver.hop, SteadyResolver.inTurn, order]
  case passed =>
    intro resolvers asked pass
    have order := SteadyResolver.asked_of_passes pass
    rw [SteadyResolver.firstOf_hop]
    simp [SteadyResolver.hop, SteadyResolver.inTurn, order]

namespace Sample

/-- A resolver that puts down what it is asked under its own label. -/
def logging (label : String) (answer : String → Except NameError Path) :
    SteadyResolver (StateM (List (String × String))) where
  ask name := modify (· ++ [(label, name)])
  answer

/-- A name and what follows it. -/
def toSecond : Path where
  space := .ipns
  root := "second"
  remainder := "/a"
  rootNonempty := by decide
  rootPlain := by decide
  remainderAbsolute := by rintro char ⟨⟩; rfl

def toThird : Path where
  space := .ipns
  root := "third"
  remainder := "/b"
  rootNonempty := by decide
  rootPlain := by decide
  remainderAbsolute := by rintro char ⟨⟩; rfl

def content : Path where
  space := .ipfs
  root := "Qm111"
  remainder := "/c"
  rootNonempty := by decide
  rootPlain := by decide
  remainderAbsolute := by rintro char ⟨⟩; rfl

/-- Knows the first name only. -/
def gossip : SteadyResolver (StateM (List (String × String))) :=
  logging "gossip" fun name =>
    if name = "first" then .ok toSecond else .error (.notFound name)

/-- Knows the names after the first. -/
def store : SteadyResolver (StateM (List (String × String))) :=
  logging "store" fun name =>
    if name = "second" then .ok toThird
    else if name = "third" then .ok content
    else .error (.notFound name)

theorem trail : Trail (SteadyResolver.inTurn [gossip, store]).answer "first" [toSecond, toThird]
    "third" :=
  .onward (by rfl) (by rfl) (.onward (by rfl) (by rfl) (.here _))

end Sample

open Sample in
/-- Three hops, the first of them answered by the first of two resolvers. -/
theorem resolve_trail_inTurn :
    ∃ path : Path,
      (resolve (firstOf [gossip.hop, store.hop]) 0 3 "first").run [] =
        (some (.ok path),
          [("gossip", "first"), ("gossip", "second"), ("store", "second"), ("gossip", "third"),
            ("store", "third")])
        ∧ path.text = "/ipfs/Qm111/c/b/a" := by
  obtain ⟨final, -, -, together, -⟩ := resolve_trail _ trail 0 3
  obtain ⟨path, resolved, text, -⟩ := final content (by rfl) (by rfl) (by decide)
  refine ⟨path, ?_, text⟩
  rw [show [gossip.hop, store.hop] = [gossip, store].map (·.hop) from rfl, together, resolved]
  rfl

end Hop

end GossipNames
