import Ipv4Router.Proofs.NeighborLookups

/-!
# The history of a neighbour cache

A neighbour cache answers as if it remembered all it was ever told: with the hardware address
learnt last for an address, if that is not too long ago.  When and how often outdated entries
were removed makes no difference.

A removal looks at nothing while a certain time that the cache keeps is recent.  The invariant
that allows this is that no entry was learnt before that time.  It is set when the first entry
comes into an empty cache, and then stays: a new entry is learnt later, and one that replaces
another is learnt later too.  A removal that looks at the entries sets it anew.
-/

namespace Ipv4Router

/-- Something that is done with a neighbour cache, or time that passes. -/
inductive CacheUse
  | learn (address : Ipv4Address) (mac : MacAddress)
  | consult (address : Ipv4Address)
  | expire
  | wait (duration : Nat)
  deriving DecidableEq

namespace NeighborHistory

/-- All that is learnt in some uses, the first of which takes place at a given time. -/
def learnt (now : Nat) : List CacheUse → List NeighborEntry
  | [] => []
  | .learn address mac :: rest => ⟨address, mac, now⟩ :: learnt now rest
  | .consult _ :: rest => learnt now rest
  | .expire :: rest => learnt now rest
  | .wait duration :: rest => learnt (now + duration) rest

/-- What was learnt last about an address. -/
def latest? (history : List NeighborEntry) (address : Ipv4Address) : Option NeighborEntry :=
  history.findRev? (fun entry => entry.address = address)

/-- Whether what was learnt last about an address is older than a lifetime. -/
def isOutdated (lifetime now : Nat) (history : List NeighborEntry) (address : Ipv4Address) :
    Bool :=
  (latest? history address).any (fun entry => lifetime < now - entry.since)

variable {history : List NeighborEntry} {entry : NeighborEntry} {address : Ipv4Address}

theorem latest?_append_self (history : List NeighborEntry) (entry : NeighborEntry) :
    latest? (history ++ [entry]) entry.address = some entry := by
  simp [latest?]

theorem latest?_append_of_ne (history : List NeighborEntry)
    (other : entry.address ≠ address) :
    latest? (history ++ [entry]) address = latest? history address := by
  simp [latest?, other]

theorem mem_of_latest? (found : latest? history address = some entry) : entry ∈ history := by
  rw [latest?, List.findRev?_eq_find?_reverse] at found
  exact List.mem_reverse.mp (List.mem_of_find?_eq_some found)

end NeighborHistory

open NeighborHistory

/-- A neighbour cache at some time. -/
structure CacheMoment where
  now : Nat
  cache : NeighborCache

namespace CacheMoment

/-- The moment at which a cache is made. -/
def start (now : Nat) : CacheMoment :=
  ⟨now, NeighborCache.empty now⟩

def use (lifetime : Nat) (moment : CacheMoment) : CacheUse → CacheMoment
  | .learn address mac => { moment with cache := moment.cache.insert moment.now address mac }
  | .consult _ => moment
  | .expire => { moment with cache := (moment.cache.expire lifetime moment.now).2 }
  | .wait duration => { moment with now := moment.now + duration }

def after (lifetime : Nat) (moment : CacheMoment) (uses : List CacheUse) : CacheMoment :=
  uses.foldl (use lifetime) moment

/-- What the cache answers at the moment. -/
def lookup (lifetime : Nat) (moment : CacheMoment) (address : Ipv4Address) :
    Option MacAddress :=
  moment.cache.lookup lifetime moment.now address

/-- What the cache answers whenever it is consulted in the course of some uses. -/
def answers (lifetime : Nat) (moment : CacheMoment) : List CacheUse → List (Option MacAddress)
  | [] => []
  | .consult address :: rest => moment.lookup lifetime address :: answers lifetime moment rest
  | .learn address mac :: rest => answers lifetime (moment.use lifetime (.learn address mac)) rest
  | .expire :: rest => answers lifetime (moment.use lifetime .expire) rest
  | .wait duration :: rest => answers lifetime (moment.use lifetime (.wait duration)) rest

end CacheMoment

/-- The addresses that a cache has entries for, outdated or not. -/
def NeighborCache.addresses (cache : NeighborCache) : List Ipv4Address :=
  cache.entries.map NeighborEntry.address

namespace NeighborCache

/-- No entry was learnt before the time that the cache keeps. -/
def OldestFirst (cache : NeighborCache) : Prop :=
  ∀ entry ∈ cache.entries, cache.oldest ≤ entry.since

variable {cache : NeighborCache} {lifetime now : Nat}

/-- Nothing is outdated while the time that the cache keeps is recent. -/
theorem OldestFirst.isLive (ordered : cache.OldestFirst)
    (recent : now ≤ cache.oldest + lifetime) :
    ∀ entry ∈ cache.entries, entry.isLive lifetime now = true := by
  intro entry member
  have later := ordered entry member
  rw [NeighborEntry.isLive, decide_eq_true_eq]
  omega

/-- The shortcut of a removal is taken only if the removal would remove nothing. -/
theorem OldestFirst.entries_expire (ordered : cache.OldestFirst) (lifetime now : Nat) :
    (cache.expire lifetime now).2.entries =
      cache.entries.filter (NeighborEntry.isLive lifetime now) := by
  unfold expire
  split
  next recent => exact (List.filter_eq_self.mpr (ordered.isLive recent)).symm
  next => rfl

theorem OldestFirst.count_expire (ordered : cache.OldestFirst) (lifetime now : Nat) :
    (cache.expire lifetime now).1 =
      (cache.entries.filter (fun entry => !entry.isLive lifetime now)).length := by
  have parts := List.length_eq_length_filter_add (l := cache.entries)
    (NeighborEntry.isLive lifetime now)
  unfold expire
  split
  next recent =>
    rw [List.filter_eq_self.mpr (ordered.isLive recent)] at parts
    simp only
    omega
  next =>
    simp only
    omega

theorem OldestFirst.expire (ordered : cache.OldestFirst) (lifetime now : Nat) :
    (cache.expire lifetime now).2.OldestFirst := by
  unfold NeighborCache.expire
  split
  · exact ordered
  · intro entry member
    have sinceMember : entry.since ∈ (cache.entries.filter
        (NeighborEntry.isLive lifetime now)).map NeighborEntry.since :=
      List.mem_map_of_mem member
    obtain ⟨least, isLeast⟩ := Option.isSome_iff_exists.mp
      (List.isSome_min?_of_mem sinceMember)
    simp only [isLeast, Option.getD_some]
    exact (List.min?_eq_some_iff.mp isLeast).2 _ sinceMember

/-- After a removal, the time that the cache keeps is recent. -/
theorem le_oldest_expire (cache : NeighborCache) (lifetime now : Nat) :
    now ≤ (cache.expire lifetime now).2.oldest + lifetime := by
  unfold NeighborCache.expire
  split
  next recent => exact recent
  next =>
    simp only
    cases least : ((cache.entries.filter (NeighborEntry.isLive lifetime now)).map
        NeighborEntry.since).min? with
    | none =>
        rw [Option.getD_none]
        exact Nat.le_add_right now lifetime
    | some since =>
        obtain ⟨entry, live, rfl⟩ := List.mem_map.mp (List.min?_mem least)
        have young : now - entry.since ≤ lifetime :=
          of_decide_eq_true (List.mem_filter.mp live).2
        rw [Option.getD_some]
        omega

/-- A second removal at the same time has nothing to do. -/
theorem expire_expire (cache : NeighborCache) (lifetime now : Nat) :
    (cache.expire lifetime now).2.expire lifetime now = (0, (cache.expire lifetime now).2) := by
  rw [NeighborCache.expire, if_pos (cache.le_oldest_expire lifetime now)]

end NeighborCache

namespace CacheMoment

/-- The cache holds nothing but what was learnt last, and what it does not hold of that is
outdated. -/
structure Recalls (lifetime : Nat) (history : List NeighborEntry) (moment : CacheMoment) :
    Prop where
  distinct : moment.cache.Distinct
  held : ∀ address entry, moment.cache.find? address = some entry →
    latest? history address = some entry
  missing : ∀ address entry, moment.cache.find? address = none →
    latest? history address = some entry → entry.isLive lifetime moment.now = false
  past : ∀ entry ∈ history, entry.since ≤ moment.now
  ordered : moment.cache.OldestFirst

variable {lifetime : Nat} {history : List NeighborEntry} {moment other : CacheMoment}

theorem recalls_start (lifetime now : Nat) : Recalls lifetime [] (start now) where
  distinct := NeighborCache.distinct_empty now
  held := by
    intro address entry found
    cases found
  missing := by
    intro address entry notFound learnt
    cases learnt
  past := by
    intro entry member
    cases member
  ordered := by
    intro entry member
    cases member

theorem Recalls.latest?_of_mem (recalls : Recalls lifetime history moment)
    {entry : NeighborEntry} (member : entry ∈ moment.cache.entries) :
    latest? history entry.address = some entry :=
  recalls.held _ _ ((find?_key_eq_some_iff recalls.distinct).mpr ⟨member, rfl⟩)

theorem Recalls.since_le (recalls : Recalls lifetime history moment) {entry : NeighborEntry}
    (member : entry ∈ moment.cache.entries) : entry.since ≤ moment.now :=
  recalls.past entry (mem_of_latest? (recalls.latest?_of_mem member))

theorem Recalls.learn (recalls : Recalls lifetime history moment) (address : Ipv4Address)
    (mac : MacAddress) :
    Recalls lifetime (history ++ [⟨address, mac, moment.now⟩])
      (moment.use lifetime (.learn address mac)) where
  distinct := recalls.distinct.insert _ _ _
  held := by
    intro wanted entry found
    simp only [use] at found
    by_cases same : wanted = address
    · subst same
      rw [NeighborCache.find?_insert_self] at found
      rw [← Option.some.inj found]
      exact latest?_append_self history ⟨wanted, mac, moment.now⟩
    · rw [NeighborCache.find?_insert_of_ne same] at found
      rw [latest?_append_of_ne history (Ne.symm same)]
      exact recalls.held wanted entry found
  missing := by
    intro wanted entry notFound learnt
    simp only [use] at notFound ⊢
    by_cases same : wanted = address
    · subst same
      rw [NeighborCache.find?_insert_self] at notFound
      cases notFound
    · rw [NeighborCache.find?_insert_of_ne same] at notFound
      rw [latest?_append_of_ne history (Ne.symm same)] at learnt
      exact recalls.missing wanted entry notFound learnt
  past := by
    intro entry member
    rcases List.mem_append.mp member with old | new
    · exact recalls.past entry old
    · rw [List.mem_singleton.mp new]
      exact Nat.le_refl moment.now
  ordered := by
    intro entry member
    simp only [use, NeighborCache.insert] at member ⊢
    cases entries : moment.cache.entries with
    | nil =>
        rw [entries] at member
        rw [List.mem_singleton.mp member]
        exact Nat.le_refl moment.now
    | cons first rest =>
        have firstMember : first ∈ moment.cache.entries := by
          rw [entries]
          exact List.mem_cons_self
        have oldestPast : moment.cache.oldest ≤ moment.now :=
          Nat.le_trans (recalls.ordered first firstMember) (recalls.since_le firstMember)
        rw [List.isEmpty_cons, if_neg Bool.false_ne_true]
        rcases List.mem_cons.mp member with rfl | kept
        · exact oldestPast
        · exact recalls.ordered entry (List.mem_filter.mp kept).1

theorem Recalls.expire (recalls : Recalls lifetime history moment) :
    Recalls lifetime history (moment.use lifetime .expire) where
  distinct := recalls.distinct.expire _ _
  held := by
    intro address entry found
    apply recalls.held address entry
    rcases NeighborCache.find?_expire recalls.distinct lifetime moment.now address with
      same | filtered
    · exact same.symm.trans found
    · exact (Option.filter_eq_some_iff.mp (filtered.symm.trans found)).1
  missing := by
    intro address entry notFound learnt
    cases before : moment.cache.find? address with
    | none => exact recalls.missing address entry before learnt
    | some held =>
        have same := recalls.held address held before
        rw [learnt] at same
        cases same
        by_contra live
        have kept := NeighborCache.find?_expire_of_live recalls.distinct before
          (eq_true_of_ne_false live)
        have impossible := kept.symm.trans notFound
        cases impossible
  past := recalls.past
  ordered := recalls.ordered.expire _ _

theorem Recalls.wait (recalls : Recalls lifetime history moment) (duration : Nat) :
    Recalls lifetime history (moment.use lifetime (.wait duration)) where
  distinct := recalls.distinct
  held := recalls.held
  missing := by
    intro address entry notFound learnt
    have outdated := recalls.missing address entry notFound learnt
    rw [NeighborEntry.isLive, decide_eq_false_iff_not] at outdated ⊢
    change ¬ moment.now + duration - entry.since ≤ lifetime
    omega
  past := fun entry member => Nat.le_trans (recalls.past entry member) (Nat.le_add_right _ _)
  ordered := recalls.ordered

/-- In the course of some uses, the cache goes on to recall what it was told. -/
theorem Recalls.after (recalls : Recalls lifetime history moment) (uses : List CacheUse) :
    Recalls lifetime (history ++ learnt moment.now uses) (moment.after lifetime uses) := by
  induction uses generalizing history moment with
  | nil =>
      rw [learnt, List.append_nil]
      exact recalls
  | cons first rest ih =>
      cases first with
      | learn address mac =>
          rw [learnt, List.append_cons]
          exact ih (recalls.learn address mac)
      | consult address => exact ih recalls
      | expire => exact ih recalls.expire
      | wait duration => exact ih (recalls.wait duration)

/-- An answer is what was learnt last, unless this is outdated. -/
theorem Recalls.lookup_eq (recalls : Recalls lifetime history moment) (address : Ipv4Address) :
    moment.lookup lifetime address =
      ((latest? history address).filter (NeighborEntry.isLive lifetime moment.now)).map
        NeighborEntry.mac := by
  rw [lookup, NeighborCache.lookup]
  cases found : moment.cache.find? address with
  | some entry => rw [recalls.held address entry found]
  | none =>
      cases learnt : latest? history address with
      | none => rfl
      | some entry =>
          rw [Option.filter_some, recalls.missing address entry found learnt]
          rfl

/-- Two caches that recall the same history answer alike, even if outdated entries are removed
from only one of them. -/
theorem answers_filter (recalls : Recalls lifetime history moment)
    (otherRecalls : Recalls lifetime history other) (sameTime : other.now = moment.now)
    (uses : List CacheUse) :
    other.answers lifetime (uses.filter (fun use => use ≠ .expire)) =
      moment.answers lifetime uses := by
  induction uses generalizing history moment other with
  | nil => rfl
  | cons first rest ih =>
      cases first with
      | learn address mac =>
          have otherLearns := otherRecalls.learn address mac
          rw [sameTime] at otherLearns
          exact ih (recalls.learn address mac) otherLearns sameTime
      | consult address =>
          have sameAnswer : other.lookup lifetime address = moment.lookup lifetime address := by
            rw [recalls.lookup_eq, otherRecalls.lookup_eq, sameTime]
          exact congrArg₂ List.cons sameAnswer (ih recalls otherRecalls sameTime)
      | expire => exact ih recalls.expire otherRecalls sameTime
      | wait duration =>
          exact ih (recalls.wait duration) (otherRecalls.wait duration)
            (congrArg (· + duration) sameTime)

theorem Recalls.isOutdated_of_mem (recalls : Recalls lifetime history moment)
    {entry : NeighborEntry} (member : entry ∈ moment.cache.entries) :
    isOutdated lifetime moment.now history entry.address = !entry.isLive lifetime moment.now := by
  rw [isOutdated, recalls.latest?_of_mem member, Option.any_some, NeighborEntry.isLive,
    Bool.eq_iff_iff]
  simp only [Bool.not_eq_true', decide_eq_true_eq, decide_eq_false_iff_not, Nat.not_le]

theorem Recalls.filter_addresses (recalls : Recalls lifetime history moment)
    (keep : Bool → Bool) :
    moment.cache.addresses.filter
        (fun address => keep (isOutdated lifetime moment.now history address)) =
      (moment.cache.entries.filter
        (fun entry => keep (!entry.isLive lifetime moment.now))).map NeighborEntry.address := by
  rw [NeighborCache.addresses, List.filter_map]
  congr 1
  apply List.filter_congr
  intro entry member
  rw [Function.comp_apply, recalls.isOutdated_of_mem member]

/-- At every moment in the use of a cache, it answers with a hardware address exactly if this
is the one learnt last for the address, not longer than the lifetime ago.  So the answers are
the same as if outdated entries were never removed.

A removal removes exactly the addresses for which the last that was learnt is older than the
lifetime, and counts them.  It passes the entries over only if there are none of these, and
repeated at once it removes nothing. -/
theorem cache_refines_history (lifetime origin : Nat) (uses : List CacheUse) :
    let moment := (start origin).after lifetime uses
    let history := learnt origin uses
    let outdated := isOutdated lifetime moment.now history
    let removal := moment.cache.expire lifetime moment.now
    (∀ address mac, moment.lookup lifetime address = some mac ↔
      ∃ since, latest? history address = some ⟨address, mac, since⟩ ∧
        since ≤ moment.now ∧ moment.now - since ≤ lifetime) ∧
    (start origin).answers lifetime (uses.filter (fun use => use ≠ .expire)) =
      (start origin).answers lifetime uses ∧
    moment.cache.addresses.Nodup ∧
    removal.1 = (moment.cache.addresses.filter outdated).length ∧
    removal.2.addresses = moment.cache.addresses.filter (fun address => !outdated address) ∧
    (moment.now ≤ moment.cache.oldest + lifetime →
      moment.cache.addresses.filter outdated = []) ∧
    removal.2.expire lifetime moment.now = (0, removal.2) := by
  intro moment history outdated removal
  have recalls : Recalls lifetime history moment := (recalls_start lifetime origin).after uses
  refine ⟨?_, answers_filter (recalls_start lifetime origin) (recalls_start lifetime origin) rfl
    uses, recalls.distinct, ?_, ?_, ?_, moment.cache.expire_expire lifetime moment.now⟩
  · intro address mac
    rw [recalls.lookup_eq]
    constructor
    · intro answered
      obtain ⟨entry, live, rfl⟩ := Option.map_eq_some_iff.mp answered
      obtain ⟨learnt, young⟩ := Option.filter_eq_some_iff.mp live
      have isAddress : entry.address = address := by
        simpa using List.find?_some ((List.findRev?_eq_find?_reverse).symm.trans learnt)
      refine ⟨entry.since, ?_, recalls.past entry (mem_of_latest? learnt),
        of_decide_eq_true young⟩
      rw [learnt, ← isAddress]
    · rintro ⟨since, learnt, -, young⟩
      rw [learnt, Option.filter_some, NeighborEntry.isLive, if_pos (decide_eq_true young)]
      rfl
  · calc
      removal.1 = (moment.cache.entries.filter
          (fun entry => !entry.isLive lifetime moment.now)).length :=
        recalls.ordered.count_expire lifetime moment.now
      _ = ((moment.cache.entries.filter
          (fun entry => !entry.isLive lifetime moment.now)).map NeighborEntry.address).length :=
        (List.length_map _).symm
      _ = (moment.cache.addresses.filter outdated).length :=
        congrArg List.length (recalls.filter_addresses id).symm
  · rw [NeighborCache.addresses, recalls.ordered.entries_expire, recalls.filter_addresses not]
    simp only [Bool.not_not]
  · intro recent
    have allLive := recalls.ordered.isLive recent
    refine (recalls.filter_addresses id).trans ?_
    rw [List.map_eq_nil_iff, List.filter_eq_nil_iff]
    intro entry member
    simp [allLive entry member]

end CacheMoment

end Ipv4Router
