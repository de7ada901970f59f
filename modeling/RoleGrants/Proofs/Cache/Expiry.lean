import Mathlib.Logic.Function.Basic
import Mathlib.Logic.Relation
import RoleGrants.Proofs.Cache.Isolation

/-! # The cache as a map that expires

Beside the cache stands a map that holds what was set last under each text and not
deleted since, and drops nothing else; reading it takes what has not expired at the clock
(`ExpiringMap.serve`).  The cache holds a part of it: what is missing has expired
(`Cache.Follows`).

A reading that finds an expired entry lets go of the lock and takes another one to remove
it (`Cache.enter`, then `Cache.evict`).  In between others may have their turn, and the
clocks of those that wait need not agree: all that is asked is that a clock is not read
behind one by which an entry has already been removed (`CacheMoment.Step`). -/

set_option autoImplicit false

namespace RoleGrants

/-! ## The two locks of a reading -/

def Cache.Peek.told : Cache.Peek → Option (Option String)
  | .absent => some none
  | .live value => some (some value)
  | .expired => none

namespace Cache

/-- The first lock of a call, and its answer, unless the call is a reading that has found an
expired entry: then it goes on to the second lock. -/
def enter (cache : Cache) (call : CacheCall) : Cache × Option CacheReply :=
  let found := (cache.peek call.now call.name.scope call.name.key).told
  match call.request with
  | .get => (cache, found.map .value)
  | .contains => (cache, found.map fun value => .present value.isSome)
  | _ => ((cache.serve call).1, some (cache.serve call).2)

def answer (cache : Cache) (call : CacheCall) : CacheReply :=
  (cache.enter call).2.getD (call.request.reply none)

theorem get_eq (cache : Cache) (now : Nat) (name : CacheName) :
    cache.get now name.scope name.key =
      match (cache.peek now name.scope name.key).told with
      | some value => (cache, value)
      | none => (cache.evict now name.scope name.key, none) := by
  rw [get]
  cases cache.peek now name.scope name.key <;> rfl

/-- A call is its first lock, followed at once by the second one if it goes on to it. -/
theorem serve_eq (cache : Cache) (call : CacheCall) :
    cache.serve call =
      match cache.enter call with
      | (after, some reply) => (after, reply)
      | (after, none) =>
          (after.evict call.now call.name.scope call.name.key, call.request.reply none) := by
  obtain ⟨now, name, request⟩ := call
  cases request with
  | get =>
      simp only [serve, enter, get_eq]
      cases (cache.peek now name.scope name.key).told <;> rfl
  | contains =>
      simp only [serve, enter, contains, get_eq]
      cases (cache.peek now name.scope name.key).told <;> rfl
  | set value lifetime => rfl
  | delete => rfl
  | take => rfl

theorem answer_eq (cache : Cache) (call : CacheCall) :
    cache.answer call = (cache.serve call).2 := by
  rw [answer, serve_eq]
  rcases cache.enter call with ⟨after, _ | reply⟩ <;> rfl

end Cache

def CacheRequest.Reads : CacheRequest → Prop
  | .get => True
  | .contains => True
  | .set _ _ => False
  | .delete => False
  | .take => True

def CacheRequest.Writes : CacheRequest → Prop
  | .get => False
  | .contains => False
  | .set _ _ => True
  | .delete => True
  | .take => True

def CacheCall.WritesAt (delimiter text : String) (call : CacheCall) : Prop :=
  call.name.filed delimiter = text ∧ call.request.Writes

/-! ## What the cache holds afterwards -/

namespace Cache

variable (cache : Cache) (now : Nat) (name : CacheName) (text : String)

theorem get?_evict :
    (cache.evict now name.scope name.key).entries.get? text =
      if text = name.filed cache.delimiter then
        (cache.entries.get? text).filter fun entry => !entry.isExpired now
      else cache.entries.get? text := by
  have filed : cache.keyOf name.scope name.key = name.filed cache.delimiter := rfl
  simp only [evict, filed]
  split
  next missing =>
    split
    next same => simp [same, missing]
    · rfl
  next entry found =>
    split
    next expired =>
      rw [Table.get?_erase]
      split
      next same => simp [same, found, Option.filter_some, expired]
      · rfl
    next live =>
      split
      next same => simp [same, found, Option.filter_some, live]
      · rfl

theorem get?_set (value : String) (lifetime : Option Nat) :
    (cache.set now name.scope name.key value lifetime).entries.get? text =
      if text = name.filed cache.delimiter then
        some ⟨value, lifetime.map fun time => now + time⟩
      else (cache.entries.get? text).filter fun entry => !entry.isExpired now := by
  have filed : cache.keyOf name.scope name.key = name.filed cache.delimiter := rfl
  simp only [set, Table.get?_insert, Table.get?_filter, filed]

theorem get?_delete :
    (cache.delete name.scope name.key).entries.get? text =
      if text = name.filed cache.delimiter then none else cache.entries.get? text := by
  have filed : cache.keyOf name.scope name.key = name.filed cache.delimiter := rfl
  simp only [delete, Table.get?_erase, filed]

@[simp] theorem delimiter_enter (call : CacheCall) :
    (cache.enter call).1.delimiter = cache.delimiter := by
  obtain ⟨now, name, request⟩ := call
  cases request <;> rfl

variable {cache now text} {entry : CacheEntry}

theorem get?_evict_of_live (held : cache.entries.get? text = some entry)
    (live : entry.isExpired now = false) :
    (cache.evict now name.scope name.key).entries.get? text = some entry := by
  rw [get?_evict, held]
  split
  · simp [Option.filter_some, live]
  · rfl

theorem get?_enter_of_live {call : CacheCall} (held : cache.entries.get? text = some entry)
    (spared : ¬ call.WritesAt cache.delimiter text) (live : entry.isExpired call.now = false) :
    (cache.enter call).1.entries.get? text = some entry := by
  obtain ⟨now, name, request⟩ := call
  have apart : request.Writes → text ≠ name.filed cache.delimiter :=
    fun writes same => spared ⟨same.symm, writes⟩
  cases request with
  | get => exact held
  | contains => exact held
  | set value lifetime =>
      refine (get?_set cache now name text value lifetime).trans ?_
      rw [if_neg (apart trivial), held, Option.filter_some]
      simpa using live
  | delete => exact (get?_delete cache name text).trans ((if_neg (apart trivial)).trans held)
  | take => exact (get?_delete cache name text).trans ((if_neg (apart trivial)).trans held)

end Cache

/-! ## The map -/

/-- What was set last under each text and not deleted since. -/
abbrev ExpiringMap := String → Option CacheEntry

namespace ExpiringMap

def live (map : ExpiringMap) (text : String) (now : Nat) : Option CacheEntry :=
  (map text).filter fun entry => !entry.isExpired now

def serve (map : ExpiringMap) (text : String) (call : CacheCall) : ExpiringMap × CacheReply :=
  let after := match call.request with
    | .get => map
    | .contains => map
    | .set value lifetime =>
        Function.update map text (some ⟨value, lifetime.map fun time => call.now + time⟩)
    | .delete => Function.update map text none
    | .take => Function.update map text none
  (after, call.request.reply (map.live text call.now))

end ExpiringMap

/-- All that the cache holds is in the map, and the cache holds all of the map that had not
expired when entries were last removed. -/
structure Cache.Follows (cache : Cache) (map : ExpiringMap) (swept : Nat) : Prop where
  held : ∀ text entry, cache.entries.get? text = some entry → map text = some entry
  lost : ∀ text entry, map text = some entry →
    cache.entries.get? text = some entry ∨ entry.isExpired swept = true

namespace Cache.Follows

variable {cache : Cache} {map : ExpiringMap} {swept now : Nat}

theorem live_eq (follows : cache.Follows map swept) (late : swept ≤ now) (text : String) :
    cache.live text now = map.live text now := by
  rw [Cache.live, ExpiringMap.live]
  cases set : map text with
  | none =>
      cases held : cache.entries.get? text with
      | none => rfl
      | some entry =>
          rw [follows.held text entry held] at set
          cases set
  | some entry =>
      rcases follows.lost text entry set with there | expired
      · rw [there]
      · have dead := CacheEntry.isExpired_of_le late expired
        cases held : cache.entries.get? text with
        | none => simp [Option.filter_some, dead]
        | some other =>
            rw [follows.held text other held] at set
            cases set
            rfl

theorem of_removed (follows : cache.Follows map swept) {after : Cache}
    (removed : ∀ text, after.entries.get? text = cache.entries.get? text ∨
      after.entries.get? text =
        (cache.entries.get? text).filter fun entry => !entry.isExpired now) :
    after.Follows map (max swept now) := by
  constructor
  · intro text entry held
    apply follows.held text entry
    rcases removed text with same | filtered
    · rwa [← same]
    · rw [filtered, Option.filter_eq_some_iff] at held
      exact held.1
  · intro text entry set
    rcases follows.lost text entry set with there | expired
    · rcases removed text with same | filtered
      · exact .inl (same.trans there)
      · cases dead : entry.isExpired now with
        | false => exact .inl (by rw [filtered, there, Option.filter_some]; simp [dead])
        | true => exact .inr (CacheEntry.isExpired_of_le (Nat.le_max_right _ _) dead)
    · exact .inr (CacheEntry.isExpired_of_le (Nat.le_max_left _ _) expired)

theorem evict (follows : cache.Follows map swept) (now : Nat) (name : CacheName) :
    (cache.evict now name.scope name.key).Follows map (max swept now) := by
  apply follows.of_removed
  intro text
  rw [Cache.get?_evict]
  split
  · exact .inr rfl
  · exact .inl rfl

theorem update (follows : cache.Follows map swept) {after : Cache} {text : String}
    {entry : Option CacheEntry} (here : after.entries.get? text = entry)
    (elsewhere : ∀ other, other ≠ text →
      after.entries.get? other = cache.entries.get? other) :
    after.Follows (Function.update map text entry) swept := by
  constructor
  · intro other found held
    by_cases same : other = text
    · rw [same] at held ⊢
      rw [Function.update_self, ← here, held]
    · rw [Function.update_of_ne same]
      rw [elsewhere other same] at held
      exact follows.held other found held
  · intro other found set
    by_cases same : other = text
    · rw [same, Function.update_self] at set
      exact .inl (by rw [same, here, set])
    · rw [Function.update_of_ne same] at set
      rw [elsewhere other same]
      exact follows.lost other found set

theorem delete (follows : cache.Follows map swept) (name : CacheName) :
    (cache.delete name.scope name.key).Follows
      (Function.update map (name.filed cache.delimiter) none) swept := by
  apply follows.update
  · rw [Cache.get?_delete, if_pos rfl]
  · intro other apart
    rw [Cache.get?_delete, if_neg apart]

theorem set (follows : cache.Follows map swept) (now : Nat) (name : CacheName) (value : String)
    (lifetime : Option Nat) :
    (cache.set now name.scope name.key value lifetime).Follows
      (Function.update map (name.filed cache.delimiter)
        (some ⟨value, lifetime.map fun time => now + time⟩)) (max swept now) := by
  -- First the sweep, then the new entry.
  let live : Cache :=
    { cache with entries := cache.entries.filter fun _ entry => !entry.isExpired now }
  have cleaned : live.Follows map (max swept now) :=
    follows.of_removed fun text => .inr (Table.get?_filter _ _ _)
  apply cleaned.update
  · rw [Cache.get?_set, if_pos rfl]
  · intro other apart
    rw [Cache.get?_set, if_neg apart, Table.get?_filter]

end Cache.Follows

/-! ## Calls in turn -/

structure CacheMoment where
  cache : Cache
  /-- The readings that wait for the second lock. -/
  waiting : List CacheCall := []
  map : ExpiringMap := fun _ => none
  /-- The latest clock by which entries may have been removed. -/
  swept : Nat := 0

namespace CacheMoment

def entered (moment : CacheMoment) (call : CacheCall) : CacheMoment where
  cache := (moment.cache.enter call).1
  waiting := if (moment.cache.enter call).2.isNone then call :: moment.waiting else moment.waiting
  map := (moment.map.serve (call.name.filed moment.cache.delimiter) call).1
  swept := match call.request with
    | .set _ _ => max moment.swept call.now
    | _ => moment.swept

def left (moment : CacheMoment) (call : CacheCall) (now : Nat) : CacheMoment where
  cache := moment.cache.evict now call.name.scope call.name.key
  waiting := moment.waiting.erase call
  map := moment.map
  swept := max moment.swept now

/-- One lock is taken and left, for a call that is among those allowed.  A reading comes with a
clock that is not behind; what is set may have been given its time long before, while it waited
for the lock. -/
inductive Step (allowed : CacheCall → Prop) (moment : CacheMoment) : CacheMoment → Prop
  | entered (call : CacheCall) (made : allowed call)
      (timely : call.request.Reads → moment.swept ≤ call.now) :
      Step allowed moment (moment.entered call)
  | left (call : CacheCall) (waits : call ∈ moment.waiting) (now : Nat) :
      Step allowed moment (moment.left call now)

def Follows (moment : CacheMoment) : Prop :=
  moment.cache.Follows moment.map moment.swept

variable {moment after start : CacheMoment} {allowed : CacheCall → Prop}

theorem Follows.entered (follows : moment.Follows) (call : CacheCall) :
    (moment.entered call).Follows := by
  obtain ⟨now, name, request⟩ := call
  cases request with
  | get => exact follows
  | contains => exact follows
  | set value lifetime => exact Cache.Follows.set follows now name value lifetime
  | delete => exact Cache.Follows.delete follows name
  | take => exact Cache.Follows.delete follows name

theorem Follows.step (follows : moment.Follows) (step : Step allowed moment after) :
    after.Follows := by
  cases step with
  | entered call _ _ => exact follows.entered call
  | left call _ now => exact Cache.Follows.evict follows now call.name

theorem Follows.of_reached (follows : start.Follows)
    (reached : Relation.ReflTransGen (Step allowed) start moment) : moment.Follows := by
  induction reached with
  | refl => exact follows
  | tail _ step ih => exact ih.step step

theorem delimiter_of_reached (reached : Relation.ReflTransGen (Step allowed) start moment) :
    moment.cache.delimiter = start.cache.delimiter := by
  induction reached with
  | refl => rfl
  | tail _ step ih =>
      cases step with
      | entered call _ _ => exact (Cache.delimiter_enter _ call).trans ih
      | left call _ now => exact (Cache.delimiter_evict _ now call.name).trans ih

def begun (delimiter : String) : CacheMoment where
  cache := { delimiter := delimiter }

theorem follows_begun (delimiter : String) : (begun delimiter).Follows := by
  constructor
  · intro text entry held
    cases held
  · intro text entry set
    cases set

/-- What does not expire stays until a call writes under its text. -/
theorem get?_of_reached {text : String} {entry : CacheEntry}
    (held : start.cache.entries.get? text = some entry) (lasts : entry.expiresAt = none)
    (reached : Relation.ReflTransGen
      (Step fun call => ¬ call.WritesAt start.cache.delimiter text) start moment) :
    moment.cache.entries.get? text = some entry := by
  have live : ∀ now, entry.isExpired now = false := by
    intro now
    rw [CacheEntry.isExpired, lasts]
  induction reached with
  | refl => exact held
  | tail reached step ih =>
      cases step with
      | entered call spared _ =>
          rw [← delimiter_of_reached reached] at spared
          exact Cache.get?_enter_of_live ih spared (live call.now)
      | left call _ now => exact Cache.get?_evict_of_live call.name ih (live now)

theorem Follows.answer (follows : moment.Follows) (call : CacheCall)
    (timely : call.request.Reads → moment.swept ≤ call.now) :
    moment.cache.answer call =
      (moment.map.serve (call.name.filed moment.cache.delimiter) call).2 := by
  rw [Cache.answer_eq, Cache.serve_reply, ExpiringMap.serve]
  cases asked : call.request with
  | set value lifetime => rfl
  | delete => rfl
  | _ =>
      rw [asked] at timely
      rw [Cache.Follows.live_eq follows (timely trivial)]

/-! ## Calls one after another -/

theorem exists_served (moment : CacheMoment) (call : CacheCall)
    (timely : moment.swept ≤ call.now) :
    ∃ served, Relation.ReflTransGen (Step fun _ => True) moment served ∧
      served.cache = (moment.cache.serve call).1 ∧
      served.map = (moment.map.serve (call.name.filed moment.cache.delimiter) call).1 ∧
      served.swept ≤ call.now := by
  have begins : Step (fun _ => True) moment (moment.entered call) :=
    .entered call trivial fun _ => timely
  have early : (moment.entered call).swept ≤ call.now := by
    rw [CacheMoment.entered]
    cases call.request with
    | set value lifetime => exact Nat.max_le.mpr ⟨timely, Nat.le_refl _⟩
    | _ => exact timely
  have whole := moment.cache.serve_eq call
  rcases first : moment.cache.enter call with ⟨cache, _ | reply⟩
  · rw [first] at whole
    have waits : call ∈ (moment.entered call).waiting := by
      rw [CacheMoment.entered, first]
      exact List.mem_cons_self
    let served := (moment.entered call).left call call.now
    have ends : Step (fun _ => True) (moment.entered call) served := .left call waits call.now
    refine ⟨served, .tail (.single begins) ends, ?_, rfl,
      Nat.max_le.mpr ⟨early, Nat.le_refl _⟩⟩
    simp only [served, whole, CacheMoment.left, CacheMoment.entered, first]
  · rw [first] at whole
    refine ⟨moment.entered call, .single begins, ?_, rfl, early⟩
    rw [whole, CacheMoment.entered, first]

end CacheMoment

def Cache.answers (cache : Cache) : List CacheCall → List CacheReply
  | [] => []
  | call :: rest => (cache.serve call).2 :: (cache.serve call).1.answers rest

def ExpiringMap.answers (delimiter : String) (map : ExpiringMap) : List CacheCall → List CacheReply
  | [] => []
  | call :: rest =>
      let (after, reply) := map.serve (call.name.filed delimiter) call
      reply :: after.answers delimiter rest

namespace CacheMoment

theorem Follows.answers {moment : CacheMoment} (follows : moment.Follows) {calls : List CacheCall}
    (timely : Timely calls) (future : ∀ call ∈ calls, moment.swept ≤ call.now) :
    moment.cache.answers calls = moment.map.answers moment.cache.delimiter calls := by
  induction calls generalizing moment with
  | nil => rfl
  | cons call rest ih =>
      obtain ⟨late, _⟩ := List.forall_mem_cons.mp future
      obtain ⟨later, timelyRest⟩ := List.pairwise_cons.mp timely
      obtain ⟨served, reached, cache, map, swept⟩ :=
        moment.exists_served call late
      have others := ih (follows.of_reached reached) timelyRest
        fun other member => Nat.le_trans swept (later other member)
      rw [delimiter_of_reached reached, cache, map] at others
      rw [Cache.answers, ExpiringMap.answers, others, ← Cache.answer_eq,
        follows.answer call fun _ => late]

end CacheMoment

open CacheMoment

/-- Calls on a cache that was empty in the beginning, also where others have their turn between
the two locks of a reading: each is answered as the map answers it, so what was set last and
not deleted since is read exactly until it expires.  No sweep and no second lock removes what
has not expired, what does not expire stays until it is replaced or taken away, and after a
sweep nothing else that has expired is left. -/
theorem cache_answers_as_an_expiring_map (delimiter : String) (moment : CacheMoment)
    (reached : Relation.ReflTransGen (CacheMoment.Step fun _ => True) (begun delimiter) moment) :
    (∀ call : CacheCall, (call.request.Reads → moment.swept ≤ call.now) →
      moment.cache.answer call = (moment.map.serve (call.name.filed delimiter) call).2) ∧
      (∀ calls, Timely calls → (∀ call ∈ calls, moment.swept ≤ call.now) →
        moment.cache.answers calls = moment.map.answers delimiter calls) ∧
      (∀ text entry, moment.cache.entries.get? text = some entry →
        (∀ call : CacheCall, ¬ call.WritesAt delimiter text → entry.isExpired call.now = false →
          (moment.cache.enter call).1.entries.get? text = some entry) ∧
        (∀ (name : CacheName) now, entry.isExpired now = false →
          (moment.cache.evict now name.scope name.key).entries.get? text = some entry) ∧
        (entry.expiresAt = none → ∀ later, Relation.ReflTransGen
          (CacheMoment.Step fun call => ¬ call.WritesAt delimiter text) moment later →
            later.cache.entries.get? text = some entry)) ∧
      ∀ now (name : CacheName) value lifetime text entry, text ≠ name.filed delimiter →
        (moment.cache.set now name.scope name.key value lifetime).entries.get? text = some entry →
          entry.isExpired now = false := by
  have follows := (follows_begun delimiter).of_reached reached
  have kept : moment.cache.delimiter = delimiter := delimiter_of_reached reached
  subst kept
  refine ⟨follows.answer, fun calls timely future => follows.answers timely future, ?_, ?_⟩
  · intro text entry held
    refine ⟨?_, ?_, ?_⟩
    · intro call spared live
      exact Cache.get?_enter_of_live held spared live
    · intro name now live
      exact Cache.get?_evict_of_live name held live
    · intro lasts later spared
      exact get?_of_reached held lasts spared
  · intro now name value lifetime text entry apart held
    rw [Cache.get?_set, if_neg apart, Option.filter_eq_some_iff] at held
    simpa using held.2

/-- A reading finds an expired entry and waits for the second lock, while another value is set
for good: this one is not removed, and is read from then on. -/
theorem entry_set_behind_a_reading_stays :
    ∃ moment, Relation.ReflTransGen (CacheMoment.Step fun _ => True) (begun ":") moment ∧
      moment.cache.answer ⟨9, ⟨"ns", "k"⟩, .get⟩ = .value (some "2") ∧
      moment.cache.answer ⟨9, ⟨"ns", "k"⟩, .get⟩ =
        (moment.map.serve "ns:k" ⟨9, ⟨"ns", "k"⟩, .get⟩).2 := by
  let reading : CacheCall := ⟨6, ⟨"ns", "k"⟩, .get⟩
  let brief := (begun ":").entered ⟨0, ⟨"ns", "k"⟩, .set "1" (some 5)⟩
  let replaced := (brief.entered reading).entered ⟨7, ⟨"ns", "k"⟩, .set "2" none⟩
  have first : Relation.ReflTransGen (CacheMoment.Step fun _ => True) (begun ":") brief :=
    .single (.entered _ trivial nofun)
  have found := first.tail (.entered reading trivial fun _ => by decide)
  have set := found.tail (.entered ⟨7, ⟨"ns", "k"⟩, .set "2" none⟩ trivial nofun)
  have reached := set.tail (.left reading (by decide) 8)
  exact ⟨replaced.left reading 8, reached, by decide,
    (cache_answers_as_an_expiring_map ":" _ reached).1 ⟨9, ⟨"ns", "k"⟩, .get⟩
      fun _ => by decide⟩

end RoleGrants
