import GossipNames.Proofs.KeySource
import GossipNames.ValueStore.Resolver

/-! Names with something behind them. What stands behind a name on the way is carried along, but the
name that is asked for first may have nothing behind it: the resolvers take all of it for the identity,
and refuse it. Whether it is written with or without its leading part makes no difference. -/

namespace GossipNames

/-- An error without the name that it quotes. -/
def NameError.unnamed : NameError → NameError
  | .notFound _ => .notFound ""
  | .invalidName _ reason => .invalidName "" reason
  | .badSignature _ => .badSignature ""
  | .depthExceeded _ => .depthExceeded ""
  | .alreadyFollowing _ => .alreadyFollowing ""
  | .notFollowing _ => .notFollowing ""
  | error => error

@[simp] theorem NameError.unnamed_unnamed (error : NameError) :
    error.unnamed.unnamed = error.unnamed := by
  cases error <;> rfl

@[simp] theorem NameError.isNotFound_unnamed (error : NameError) :
    error.unnamed.isNotFound = error.isNotFound := by
  cases error <;> rfl

/-- A result, whatever name an error quotes. -/
def unnamed (result : Except NameError Path) : Except NameError Path :=
  result.mapError .unnamed

@[simp] theorem unnamed_ok (path : Path) : unnamed (.ok path) = .ok path := rfl

@[simp] theorem unnamed_error (error : NameError) :
    unnamed (.error error) = .error error.unnamed := rfl

@[simp] theorem unnamed_unnamed (result : Except NameError Path) :
    unnamed (unnamed result) = unnamed result := by
  cases result with
  | ok path => rfl
  | error error => rw [unnamed_error, unnamed_error, NameError.unnamed_unnamed]

section Alike

variable {m : Type → Type} [Monad m]

/-- Two ways to a result that do the same and come to the same, whatever names the errors quote. -/
def Alike (first second : m (Except NameError Path)) : Prop :=
  unnamed <$> first = unnamed <$> second

theorem Alike.bind [LawfulMonad m] {α β : Type} {first second : m (Except NameError Path)}
    (alike : Alike first second) (form : α → β) {follow other : Except NameError Path → m α}
    (same : ∀ result result', unnamed result = unnamed result' →
      form <$> follow result = form <$> other result') :
    form <$> (first >>= follow) = form <$> (second >>= other) := by
  have before : ∀ result, form <$> follow result = form <$> other (unnamed result) :=
    fun result => same result (unnamed result) (unnamed_unnamed result).symm
  have after : ∀ result, form <$> other result = form <$> other (unnamed result) :=
    fun result => (same result result rfl).symm.trans (before result)
  calc form <$> (first >>= follow)
      = (unnamed <$> first) >>= fun result => form <$> other result := by
        simp only [map_bind, before, bind_map_left]
    _ = (unnamed <$> second) >>= fun result => form <$> other result := by rw [alike]
    _ = form <$> (second >>= other) := by
        simp only [map_bind, bind_map_left, ← after]

namespace Hop

variable [LawfulMonad m] {first second : String}

theorem askInTurn_alike {hops : List (Hop m)}
    (alike : ∀ hop ∈ hops, Alike (hop first) (hop second)) {last last' : NameError}
    (same : last.unnamed = last'.unnamed) :
    Alike (askInTurn first last hops) (askInTurn second last' hops) := by
  induction hops generalizing last last' with
  | nil => simp [Alike, askInTurn, same]
  | cons hop rest ih =>
    refine (alike hop List.mem_cons_self).bind unnamed fun result result' agree => ?_
    cases result with
    | ok path =>
      cases result' with
      | ok path' => rw [unnamed_ok, unnamed_ok] at agree; cases agree; rfl
      | error error' => cases agree
    | error error =>
      cases result' with
      | ok path' => cases agree
      | error error' =>
        rw [unnamed_error, unnamed_error] at agree
        have agreed : error.unnamed = error'.unnamed := Except.error.inj agree
        have passes : error.isNotFound = error'.isNotFound := by
          rw [← NameError.isNotFound_unnamed, agreed, NameError.isNotFound_unnamed]
        dsimp only
        rw [passes]
        split
        · exact ih (fun other member => alike other (List.mem_cons_of_mem hop member)) agreed
        · rw [map_pure, map_pure, unnamed_error, unnamed_error, agreed]

/-- The hops after the first ask for the same names, so that only the name which an exceeded depth is
put down to differs. -/
theorem chain_alike {hop : Hop m} (alike : Alike (hop first) (hop second)) (asked asked' : String)
    (patience limit : Nat) (suffix : String) :
    Option.map unnamed <$> chain hop asked patience limit suffix first
      = Option.map unnamed <$> chain hop asked' patience limit suffix second := by
  induction patience generalizing first second limit suffix with
  | zero => rfl
  | succ patience ih =>
    refine alike.bind (Option.map unnamed) fun result result' agree => ?_
    cases result with
    | error error =>
      cases result' with
      | ok path' => cases agree
      | error error' =>
        dsimp only
        rw [map_pure, map_pure, Option.map_some, Option.map_some, agree]
    | ok path =>
      cases result' with
      | error error' => cases agree
      | ok path' =>
        rw [unnamed_ok, unnamed_ok] at agree
        cases agree
        dsimp only
        split
        · rfl
        · split
          · rw [map_pure, map_pure]
            rfl
          · exact ih rfl (limit - 1) _

theorem resolve_alike {hop : Hop m} (alike : Alike (hop first) (hop second))
    (patience depth : Nat) :
    Option.map unnamed <$> resolve hop patience depth first
      = Option.map unnamed <$> resolve hop patience depth second :=
  chain_alike alike first second _ depth ""

end Hop

end Alike

/-- A gossip resolver as a part of a state, and where it has keys and topics from. -/
structure GossipSource (σ : Type) (m : Type → Type) where
  resolver : σ → GossipResolver
  keep : GossipResolver → σ → σ
  keep_same : ∀ state, keep (resolver state) state = state
  fetchKey : PeerId → StateT σ m (Except KeyFault PublicKey)
  subscribe : String → StateT σ m (Except String Unit)

/-- What a name can be resolved from. -/
inductive NameSource (σ : Type) (m : Type → Type) where
  | gossip (source : GossipSource σ m)
  | values (getValues : Bytes → StateT σ m (Except String (List Bytes)))
    (fetchKey : PeerId → StateT σ m (Except KeyFault PublicKey))

variable {σ : Type} {m : Type → Type} [Monad m]

def GossipSource.hop (source : GossipSource σ m) (clock : σ → Timestamp) : Hop (StateT σ m) :=
  fun name => do
    let state ← get
    let (resolver, result) ←
      (source.resolver state).lookup source.fetchKey source.subscribe (clock state) name
    modify (source.keep resolver)
    return result

namespace GossipResolver

variable {fetchKey : PeerId → m (Except KeyFault PublicKey)}
  {subscribe : String → m (Except String Unit)} {now : Timestamp} {resolver : GossipResolver}

/-- Only the identity matters to a gossip resolver. -/
theorem lookup_congr {first second : String} {peer : PeerId} (parsed : Name.parse first = .ok peer)
    (parsed' : Name.parse second = .ok peer) :
    resolver.lookup fetchKey subscribe now first
      = resolver.lookup fetchKey subscribe now second := by
  simp only [lookup, locate, parsed, parsed', mapError_ok]

/-- A closed resolver does not even look at the name. -/
theorem lookup_refused {name : String} {reason : RecordError}
    (refused : Name.parse name = .error reason) :
    resolver.lookup fetchKey subscribe now name = pure (resolver, .error
      (if resolver.closed then .closed else .invalidName name reason)) := by
  unfold lookup locate
  rw [refused]
  cases resolver.closed <;> rfl

end GossipResolver

section

variable {first second : String} {peer : PeerId}

theorem GossipSource.hop_alike (source : GossipSource σ m) (clock : σ → Timestamp)
    (parsed : Name.parse first = .ok peer) (parsed' : Name.parse second = .ok peer) :
    Alike (source.hop clock first) (source.hop clock second) := by
  unfold Alike hop
  simp only [GossipResolver.lookup_congr parsed parsed']

theorem GossipSource.hop_refused [LawfulMonad m] (source : GossipSource σ m) (clock : σ → Timestamp)
    {name : String} {reason : RecordError} (refused : Name.parse name = .error reason) :
    source.hop clock name = do
      let state ← get
      return .error (if (source.resolver state).closed then .closed else .invalidName name reason) := by
  apply StateT.ext
  intro state
  unfold hop
  simp only [GossipResolver.lookup_refused refused, StateT.run_bind, StateT.run_get, pure_bind,
    StateT.run_pure, StateT.run_modify, source.keep_same]

theorem explainRejections_alike (first second : String) (rejections : List Rejection) :
    (explainRejections first rejections).unnamed = (explainRejections second rejections).unnamed := by
  induction rejections with
  | nil => rfl
  | cons rejection rest ih =>
    cases rejection with
    | malformed error => rfl
    | badSignature => rfl
    | _ => exact ih

section

variable [SignatureScheme]

theorem chooseValue_alike (first second : String) (key : PublicKey) (now : Timestamp)
    (candidates : List Bytes) :
    unnamed (chooseValue first key now candidates)
      = unnamed (chooseValue second key now candidates) := by
  unfold chooseValue
  dsimp only
  split
  · rfl
  · rw [unnamed_error, unnamed_error, explainRejections_alike first second]

theorem resolveFromValues_alike [LawfulMonad m] {getValues : Bytes → m (Except String (List Bytes))}
    {fetchKey : PeerId → m (Except KeyFault PublicKey)} {now : Timestamp}
    (parsed : Name.parse first = .ok peer) (parsed' : Name.parse second = .ok peer) :
    Alike (resolveFromValues getValues fetchKey now first)
      (resolveFromValues getValues fetchKey now second) := by
  unfold Alike resolveFromValues
  rw [parsed, parsed']
  simp only [map_bind]
  refine bind_congr fun reply => ?_
  cases reply with
  | error reason => rfl
  | ok candidates =>
    cases candidates with
    | nil => simp [NameError.unnamed]
    | cons candidate rest =>
      simp only [map_bind]
      refine bind_congr fun fetched => ?_
      cases fetched with
      | error fault => rfl
      | ok key => simp [chooseValue_alike first second]

theorem resolveFromValues_refused {getValues : Bytes → m (Except String (List Bytes))}
    {fetchKey : PeerId → m (Except KeyFault PublicKey)} {now : Timestamp} {name : String}
    {reason : RecordError} (refused : Name.parse name = .error reason) :
    resolveFromValues getValues fetchKey now name = pure (.error (.invalidName name reason)) := by
  unfold resolveFromValues
  rw [refused]

end

end

namespace NameSource

/-- What is made of a name that is none: the first source has the word. -/
def refusal (name : String) (reason : RecordError) (state : σ) : List (NameSource σ m) → NameError
  | [] => .notFound name
  | .gossip source :: _ =>
    if (source.resolver state).closed then .closed else .invalidName name reason
  | .values _ _ :: _ => .invalidName name reason

omit [Monad m] in
theorem not_isNotFound_refusal (name : String) (reason : RecordError) (state : σ)
    (source : NameSource σ m) (rest : List (NameSource σ m)) :
    (refusal name reason state (source :: rest)).isNotFound = false := by
  cases source with
  | gossip source =>
    rw [refusal]
    split <;> rfl
  | values getValues fetchKey => rfl

theorem resolve_refused [LawfulMonad m] {hop : Hop (StateT σ m)} {name : String}
    {error : σ → NameError} (refused : hop name = do return .error (error (← get)))
    (patience depth : Nat) :
    hop.resolve (patience + 1) depth name = do return some (.error (error (← get))) := by
  obtain ⟨hops, left⟩ : ∃ hops, (if depth = 0 then patience + 1 else depth) = hops + 1 := by
    split
    · exact ⟨patience, rfl⟩
    · rename_i limited
      exact Nat.exists_eq_succ_of_ne_zero limited
  unfold Hop.resolve
  rw [left, Hop.chain, refused]
  simp only [bind_assoc, pure_bind]

variable [SignatureScheme]

def hop (clock : σ → Timestamp) : NameSource σ m → Hop (StateT σ m)
  | .gossip source => source.hop clock
  | .values getValues fetchKey => fun name => do
    resolveFromValues getValues fetchKey (clock (← get)) name

/-- Several sources in place of one. -/
def system (sources : List (NameSource σ m)) (clock : σ → Timestamp) : Hop (StateT σ m) :=
  Hop.firstOf (sources.map (hop clock))

variable [LawfulMonad m] {sources : List (NameSource σ m)} {clock : σ → Timestamp}

theorem hop_alike (source : NameSource σ m) {first second : String} {peer : PeerId}
    (parsed : Name.parse first = .ok peer) (parsed' : Name.parse second = .ok peer) :
    Alike (source.hop clock first) (source.hop clock second) := by
  cases source with
  | gossip source => exact source.hop_alike clock parsed parsed'
  | values getValues fetchKey =>
    unfold Alike hop
    simp only [map_bind]
    exact bind_congr fun state => resolveFromValues_alike parsed parsed'

theorem hop_refused (source : NameSource σ m) (rest : List (NameSource σ m)) {name : String}
    {reason : RecordError} (refused : Name.parse name = .error reason) :
    source.hop clock name = do
      return .error (refusal name reason (← get) (source :: rest)) := by
  cases source with
  | gossip source => exact source.hop_refused clock refused
  | values getValues fetchKey => simp only [hop, resolveFromValues_refused refused, refusal]

/-- What is no name is refused by the first source. Nobody is asked for anything. -/
theorem system_refused {name : String} {reason : RecordError}
    (refused : Name.parse name = .error reason) :
    system sources clock name = do return .error (refusal name reason (← get) sources) := by
  unfold system Hop.firstOf
  cases sources with
  | nil => simp [Hop.askInTurn, refusal]
  | cons source rest =>
    rw [List.map_cons, Hop.askInTurn, hop_refused source rest refused]
    simp only [bind_assoc, pure_bind, not_isNotFound_refusal, Bool.false_eq_true, if_false]

theorem system_alike {first second : String} {peer : PeerId}
    (parsed : Name.parse first = .ok peer) (parsed' : Name.parse second = .ok peer) :
    Alike (system sources clock first) (system sources clock second) := by
  apply Hop.askInTurn_alike
  · intro hop member
    obtain ⟨source, -, rfl⟩ := List.mem_map.mp member
    exact source.hop_alike parsed parsed'
  · rfl

/-- The name of an identity is resolved like the peer id alone, hop for hop, to the same path or the
same error but for the name that this one quotes. With a slash behind it, whatever follows, the name
is not resolved at all, to whatever path the identity's own would be: the peer id and all that stands
behind it are together taken for an identity, which they are none of, and the first source refuses
them, unless it is closed and does not look at them. -/
theorem resolve_trailing (sources : List (NameSource σ m)) (clock : σ → Timestamp) (peer : PeerId)
    (patience depth : Nat) :
    Option.map unnamed <$> (system sources clock).resolve patience depth (Name.topic peer)
        = Option.map unnamed <$> (system sources clock).resolve patience depth peer.toString
      ∧ ∀ rest : String, let name := Name.topic peer ++ "/" ++ rest
        ∃ fault, Name.parse name
            = .error (.peerId (peer.toString ++ "/" ++ rest) (.base58 fault))
          ∧ (system sources clock).resolve (patience + 1) depth name = do
            let reason := .peerId (peer.toString ++ "/" ++ rest) (.base58 fault)
            return some (.error (refusal name reason (← get) sources)) := by
  constructor
  · exact Hop.resolve_alike (system_alike (Name.parse_topic peer) (Name.parse_toString peer))
      patience depth
  · intro rest name
    obtain ⟨fault, refused⟩ := Name.parse_topic_slash peer rest
    exact ⟨fault, refused, resolve_refused (system_refused refused) patience depth⟩

end NameSource

theorem form_run_fst {α β : Type} (form : α → β) (question : StateT σ Id α) (state : σ) :
    form (question.run state).1 = ((form <$> question).run state).1 :=
  rfl

namespace NameSource.Sample

open Resolving.Sample

/-- A gossip resolver, and a value store behind it that has the same value under every key. -/
def sources (value : Bytes) : List (NameSource GossipResolver Id) := [
  .gossip {
    resolver := id
    keep := fun resolver _ => resolver
    keep_same := fun _ => rfl
    fetchKey := fetchPublicKey none
    subscribe := fun _ => return .ok () },
  .values (fun _ => return .ok [value]) (fetchPublicKey none)]

/-- The result of a resolver that is not subscribed to anything yet. -/
def resolve (name : String) : Option (Except NameError Path) :=
  (((system (sources older) fun _ => early).resolve 1 0 name).run .empty).1

end NameSource.Sample

open Resolving.Sample NameSource.Sample in
/-- The name of an identity is resolved to the path that its record states. With `/docs` behind it
the same resolvers refuse it. -/
theorem trailing_refused :
    resolve topic = some oldValue
      ∧ oldValue.isOk = true
      ∧ resolve (topic ++ "/docs") = some (.error (.invalidName (topic ++ "/docs")
        (.peerId (name ++ "/docs") (.base58 (.invalidCharacter '/' 52))))) := by
  decide +kernel

open Resolving.Sample NameSource.Sample PeerId.Sample in
/-- The gossip resolver refuses a name with `/docs` behind it before the value store is asked. -/
theorem NameSource.resolve_trailing_docs :
    Option.map unnamed (resolve (Name.topic written))
        = Option.map unnamed (resolve written.toString)
      ∧ ∃ reason, resolve (Name.topic written ++ "/" ++ "docs")
        = some (.error (.invalidName (Name.topic written ++ "/" ++ "docs") reason)) := by
  constructor
  · have alike := (resolve_trailing (sources older) (fun _ => early) written 1 0).1
    rw [resolve, resolve, form_run_fst (Option.map unnamed), form_run_fst (Option.map unnamed),
      alike]
  · obtain ⟨fault, -, refused⟩ :=
      (resolve_trailing (sources older) (fun _ => early) written 0 0).2 "docs"
    refine ⟨.peerId (written.toString ++ "/" ++ "docs") (.base58 fault), ?_⟩
    rw [resolve, refused]
    rfl

end GossipNames
