import GossipNames.Proofs.Bootstrap
import GossipNames.Proofs.Querying

/-! Bootstraps whose search is served by the network. The limit is kept twice: the network passes on
so many providers, and the bootstrap dials so many of those passed on. It has announced its own
peer, which only the bootstrap leaves out. -/

namespace GossipNames

open QueryEffect QueryProgress

def QueryEffect.peer? : QueryEffect → Option PeerId
  | .provider _ peer => some peer
  | _ => none

theorem QueryAccount.peers_search (stream limit : Nat) (heard : List QueryProgress) :
    ((search stream limit).sent heard).filterMap (·.peer?) = (discovered heard).take limit := by
  have peerless : (if isClosed limit heard then [QueryEffect.closeStream stream] else []).filterMap
      (·.peer?) = [] := by
    split
    · rfl
    · rfl
  simp only [search]
  rw [List.filterMap_append, peerless, List.append_nil, List.filterMap_map]
  exact List.filterMap_some

namespace QueryProgress

/-- What a search passes on does not depend on when its stream is dropped, as long as it was closed
before. -/
theorem discovered_upTo {limit : Nat} {history : List QueryProgress}
    (read : ∀ past progress rest, history = past ++ progress :: rest →
      progress.receiverGone = true → isClosed limit past = true) :
    (discovered (upTo endsSearch history)).take limit
      = (discovered (upTo (·.isLast) history)).take limit := by
  have sooner {heard : List QueryProgress} (before : heard.any endsSearch = false) :
      heard.any (·.isLast) = false := by
    rw [List.any_eq_false] at before ⊢
    exact fun progress member last => before progress member (by simp [endsSearch, last])
  cases ended : history.any endsSearch with
  | false =>
    have all := upTo_append ended []
    have same := upTo_append (sooner ended) []
    rw [List.append_nil] at all same
    rw [all, same]
    rfl
  | true =>
    obtain ⟨past, progress, rest, rfl, before, ends, -⟩ := exists_first ended
    rw [upTo_append before, upTo_append (sooner before)]
    by_cases last : progress.isLast = true
    · rw [upTo, upTo, if_pos ends, if_pos last]
    · have gone : progress.receiverGone = true := by simpa [endsSearch, last] using ends
      have closed := read past progress rest rfl gone
      have full : limit ≤ (discovered past).length := by
        simp only [isClosed, before, Bool.false_or, Bool.and_eq_true, decide_eq_true_eq] at closed
        exact closed.2
      rw [(discovered_append full _).2, (discovered_append full _).2]

end QueryProgress

/-- Leaving out one of some distinct peers costs a place just when it stands among the first ones
and there are others left to take it. -/
theorem length_others_eq_iff {found : List PeerId} (distinct : found.Nodup) (limit : Nat)
    (localPeer : PeerId) :
    let others := found.filter (· ≠ localPeer)
    ((found.take limit).filter (· ≠ localPeer)).length = min limit others.length
      ↔ localPeer ∉ found.take limit ∨ others.length < limit := by
  intro others
  have length_filter {peers : List PeerId} (distinct : peers.Nodup) :
      (peers.filter (· ≠ localPeer)).length
        = if localPeer ∈ peers then peers.length - 1 else peers.length := by
    rw [← List.length_erase, distinct.erase_eq_filter]
    congr 1
    apply List.filter_congr
    intro peer _
    by_cases own : peer = localPeer
    · simp [own]
    · simp [own]
  have first := length_filter (distinct.sublist (List.take_sublist limit found))
  have all : others.length = _ := length_filter distinct
  rw [first, all, List.length_take]
  by_cases early : localPeer ∈ found.take limit
  · have positive : 0 < (found.take limit).length := List.length_pos_of_mem early
    rw [List.length_take] at positive
    rw [if_pos early, if_pos (List.mem_of_mem_take early)]
    simp only [early, not_true_eq_false, false_or]
    omega
  · rw [if_neg early]
    simp only [early, not_false_eq_true, true_or, iff_true]
    split
    · rename_i known
      have cut : limit < found.length := by
        by_contra whole
        exact early ((List.take_of_length_le (Nat.le_of_not_lt whole)).symm ▸ known)
      omega
    · rfl

namespace Bootstrapping

/-- A bootstrap that reads what the network passes on dials the first providers, as many as the
limit says, and of these not its own peer. So it dials as many others as it may just when its own
peer is not among the first ones, or the others are fewer than the limit. It never breaks off the
search by itself. -/
theorem others_dialed_iff (localPeer : PeerId) (limit : Nat) (key : Bytes)
    (before after : List Querying.Event) (outcome : Nat → DialEnd) (announced : Except String Unit)
    (events : List Event) :
    let service := Querying.start.run before
    let stream := service.asked
    let history := Querying.newsOf service.begun stream (service.isDropped stream) after
    let served := (service.command (.findProviders key limit) (.ok ())).run after
    let found := discovered (upTo (·.isLast) history)
    let others := found.filter (· ≠ localPeer)
    let bootstrap := ((start announced).run localPeer limit outcome events).bootstrap
    (∀ progress ∈ history, progress.news.suits (.findProviders stream limit [])) →
    (∀ past progress rest, history = past ++ progress :: rest → progress.receiverGone = true →
      isClosed limit past = true) →
    yielded events = (served.sent stream).filterMap (·.peer?) →
      bootstrap.dialed = (found.take limit).filter (· ≠ localPeer) ∧ bootstrap.dialed.Nodup
      ∧ (bootstrap.searching = true ↔ ∀ how, .searchEnd how ∉ events)
      ∧ (bootstrap.dialed.length = min limit others.length
        ↔ localPeer ∉ found.take limit ∨ others.length < limit) := by
  intro service stream history served found others bootstrap suited read yields
  have numbered : service.Numbered := .run before
  obtain ⟨-, sent⟩ := numbered.tells after
    (show (Queries.ofCommand service.asked (.ok ()) (.findProviders key limit)).1 = some _ from rfl)
    suited
  have passed : (served.sent stream).filterMap (·.peer?) = found.take limit := by
    rw [show served.sent stream = _ from sent]
    exact (QueryAccount.peers_search ..).trans (discovered_upTo read)
  have distinct : found.Nodup := nodup_eraseDups _
  have wants : wanted localPeer events = (found.take limit).filter (· ≠ localPeer) := by
    rw [wanted, yields, passed]
  have room : (wanted localPeer events).length ≤ limit := by
    rw [wants]
    exact Nat.le_trans (List.length_filter_le ..) (List.length_take_le ..)
  obtain ⟨dialed, searching⟩ := search_run (start announced) events (Nat.zero_le limit)
  replace dialed : bootstrap.dialed = (found.take limit).filter (· ≠ localPeer) := by
    rw [← wants, ← List.take_of_length_le room]
    exact dialed
  refine ⟨dialed, ?_, ?_, ?_⟩
  · rw [dialed]
    exact (distinct.sublist (List.take_sublist ..)).filter _
  · exact searching.trans ⟨fun goesOn => goesOn.2.1, fun endless => ⟨rfl, endless, room⟩⟩
  · rw [dialed]
    exact length_others_eq_iff distinct limit localPeer

namespace Sample

/-- The search for providers finds those that the node knows of itself first. -/
def ownFirst : List Querying.Event := [
  .news 0 (.providers [self]) false, .news 0 (.providers [near, far]) false,
  .news 0 .noMoreProviders true]

end Sample

open Sample in
theorem others_dialed_iff_roomy :
    let events : List Event := [.found self, .found near, .found far, .searchEnd .exhausted]
    let bootstrap := ((start (.ok ())).run self 3 ends events).bootstrap
    bootstrap.dialed = [near, far] ∧ bootstrap.dialed.length = min 3 2 := by
  obtain ⟨dialed, -, -, counted⟩ := others_dialed_iff self 3 [] [] ownFirst ends (.ok ())
    [.found self, .found near, .found far, .searchEnd .exhausted] (by decide)
    (by
      intro past progress rest split gone
      have unread : ∀ heard ∈ Querying.newsOf 0 0 false ownFirst, heard.receiverGone = false := by
        decide
      have member : progress ∈ Querying.newsOf 0 0 false ownFirst :=
        split ▸ List.mem_append_right past List.mem_cons_self
      exact absurd gone (Bool.eq_false_iff.mp (unread progress member)))
    (by decide)
  exact ⟨dialed.trans (by decide), counted.mpr (.inr (by decide))⟩

open Sample in
/-- With a limit of one the node itself takes the only place: the others that were discovered are
not passed on, and nobody is dialed. -/
theorem own_announcement_takes_place :
    let served := (Querying.start.command (.findProviders [] 1) (.ok ())).run ownFirst
    let found := discovered (upTo (·.isLast) (Querying.newsOf 0 0 false ownFirst))
    let events : List Event := [.found self, .searchEnd .exhausted]
    let bootstrap := ((start (.ok ())).run self 1 ends events).bootstrap
    yielded events = (served.sent 0).filterMap (·.peer?) ∧ served.queries.get? 0 = none
      ∧ self ∈ found ∧ found.filter (· ≠ self) = [near, far]
      ∧ bootstrap.dialed.length ≠ min 1 (found.filter (· ≠ self)).length := by
  decide

end Bootstrapping

end GossipNames
