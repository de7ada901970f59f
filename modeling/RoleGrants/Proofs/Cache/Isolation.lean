import RoleGrants.Proofs.Signal.Markers
import RoleGrants.Proofs.Store.Rows

/-! # Names in a cache

A name is a namespace and a key in it.  The cache files it under the two in a row, with
the delimiter in between, and what it answers for a name depends on nothing but what is
live under that text (`Cache.serve_reply`, `Cache.live_serve`).  So calls for a name that
is filed elsewhere are never noticed (`Cache.answersTo_eq`).

The delimiter does not keep all names apart: a namespace may hold the delimiter, and then
it may run on into what is the key of another name (`CacheName.filed_eq_iff`). -/

set_option autoImplicit false

namespace RoleGrants

/-! ## Names -/

structure CacheName where
  scope : String
  key : String
  deriving DecidableEq, Repr

def Signal.name (signal : Signal) : CacheName :=
  ⟨signal.scope, signal.key⟩

namespace CacheName

def filed (delimiter : String) (name : CacheName) : String :=
  scopedKey delimiter name.scope name.key

/-- The namespace is the beginning of the other one, whose rest the key makes up for. -/
def RunsInto (delimiter : String) (name other : CacheName) : Prop :=
  ∃ rest, rest ≠ "" ∧ other.scope = name.scope ++ rest ∧
    delimiter ++ name.key = rest ++ (delimiter ++ other.key)

theorem filed_eq_of_runsInto {delimiter : String} {name other : CacheName}
    (runs : name.RunsInto delimiter other) : name.filed delimiter = other.filed delimiter := by
  obtain ⟨rest, _, scope, key⟩ := runs
  rw [filed, filed, scopedKey, scopedKey, scope, String.append_assoc, key]
  simp only [String.append_assoc]

theorem runsInto_of_begins {delimiter : String} {name other : CacheName} {rest : List Char}
    (apart : name ≠ other) (scope : other.scope.toList = name.scope.toList ++ rest)
    (key : delimiter.toList ++ name.key.toList = rest ++ (delimiter.toList ++ other.key.toList)) :
    name.RunsInto delimiter other := by
  have scopes : other.scope = name.scope ++ String.ofList rest := by
    rw [← String.toList_inj, String.toList_append, String.toList_ofList, scope]
  have keys : delimiter ++ name.key = String.ofList rest ++ (delimiter ++ other.key) := by
    rw [← String.toList_inj]
    simpa using key
  refine ⟨String.ofList rest, ?_, scopes, keys⟩
  intro empty
  rw [empty] at scopes keys
  rw [String.append_empty] at scopes
  rw [String.empty_append, ← String.toList_inj, String.toList_append, String.toList_append,
    List.append_cancel_left_eq, String.toList_inj] at keys
  cases name
  cases other
  cases scopes
  cases keys
  exact apart rfl

theorem filed_eq_iff {delimiter : String} {name other : CacheName} (apart : name ≠ other) :
    name.filed delimiter = other.filed delimiter ↔
      name.RunsInto delimiter other ∨ other.RunsInto delimiter name := by
  constructor
  · intro same
    have characters := congrArg String.toList same
    simp only [filed, scopedKey, String.toList_append, List.append_assoc] at characters
    rcases List.append_eq_append_iff.mp characters with ⟨rest, scope, key⟩ | ⟨rest, scope, key⟩
    · exact .inl (runsInto_of_begins apart scope key)
    · exact .inr (runsInto_of_begins (Ne.symm apart) scope key)
  · rintro (runs | runs)
    · exact filed_eq_of_runsInto runs
    · exact (filed_eq_of_runsInto runs).symm

/-- A namespace that runs into another one lends it the beginning of the delimiter. -/
theorem RunsInto.mem_scope {delimiter : String} {name other : CacheName} {first : Char}
    (begins : delimiter.toList.head? = some first) (runs : name.RunsInto delimiter other) :
    first ∈ other.scope.toList := by
  obtain ⟨rest, some_, scope, key⟩ := runs
  have characters := congrArg (fun text => text.toList.head?) key
  simp only [String.toList_append, List.head?_append, begins, Option.some_or] at characters
  have nonempty : rest.toList ≠ [] := by simpa using some_
  have front : rest.toList.head? = some first := by
    cases parts : rest.toList with
    | nil => exact absurd parts nonempty
    | cons character others =>
        rw [parts] at characters
        exact characters.symm
  rw [scope, String.toList_append]
  exact List.mem_append_right _ (List.mem_of_head? front)

end CacheName

/-! ## Calls -/

inductive CacheRequest where
  | get
  | contains
  | set (value : String) (lifetime : Option Nat)
  | delete
  | take
  deriving DecidableEq, Repr

inductive CacheReply where
  | done
  | value (found : Option String)
  | present (found : Bool)
  deriving DecidableEq, Repr

structure CacheCall where
  now : Nat
  name : CacheName
  request : CacheRequest
  deriving DecidableEq, Repr

def CacheRequest.reply (live : Option CacheEntry) : CacheRequest → CacheReply
  | .get => .value (live.map CacheEntry.value)
  | .contains => .present live.isSome
  | .set _ _ => .done
  | .delete => .done
  | .take => .value (live.map CacheEntry.value)

def CacheRequest.leaves (now : Nat) (live : Option CacheEntry) : CacheRequest → Option CacheEntry
  | .get => live
  | .contains => live
  | .set value lifetime =>
      (some ⟨value, lifetime.map fun time => now + time⟩ : Option CacheEntry).filter fun entry =>
        !entry.isExpired now
  | .delete => none
  | .take => none

/-- The clock never goes back. -/
def Timely (calls : List CacheCall) : Prop :=
  calls.Pairwise fun earlier later => earlier.now ≤ later.now

instance (calls : List CacheCall) : Decidable (Timely calls) :=
  inferInstanceAs (Decidable (calls.Pairwise _))

theorem CacheEntry.isExpired_of_le {entry : CacheEntry} {now later : Nat} (le : now ≤ later)
    (expired : entry.isExpired now = true) : entry.isExpired later = true := by
  rw [isExpired] at expired ⊢
  cases limited : entry.expiresAt with
  | none =>
      rw [limited] at expired
      cases expired
  | some instant =>
      rw [limited] at expired
      simp only [decide_eq_true_eq] at expired ⊢
      exact Nat.le_trans expired le

namespace Cache

/-- The entry under a text, unless it has expired. -/
def live (cache : Cache) (text : String) (now : Nat) : Option CacheEntry :=
  (cache.entries.get? text).filter fun entry => !entry.isExpired now

def serve (cache : Cache) (call : CacheCall) : Cache × CacheReply :=
  let name := call.name
  match call.request with
  | .get =>
      let (after, value) := cache.get call.now name.scope name.key
      (after, .value value)
  | .contains =>
      let (after, found) := cache.contains call.now name.scope name.key
      (after, .present found)
  | .set value lifetime => (cache.set call.now name.scope name.key value lifetime, .done)
  | .delete => (cache.delete name.scope name.key, .done)
  | .take =>
      let (after, value) := cache.take call.now name.scope name.key
      (after, .value value)

/-- The cache after these calls. -/
def after (cache : Cache) : List CacheCall → Cache
  | [] => cache
  | call :: rest => (cache.serve call).1.after rest

/-- The answers to those of the calls that are for a name. -/
def answersTo (name : CacheName) (cache : Cache) : List CacheCall → List CacheReply
  | [] => []
  | call :: rest =>
      let (after, reply) := cache.serve call
      let others := after.answersTo name rest
      if call.name = name then reply :: others else others

variable {cache other : Cache} {delimiter : String} {text : String} {now later : Nat}

theorem live_of_le (le : now ≤ later) (cache : Cache) (text : String) :
    cache.live text later = (cache.live text now).filter fun entry => !entry.isExpired later := by
  rw [live, live, Option.filter_filter]
  congr
  funext entry
  cases dead : entry.isExpired now with
  | false => simp
  | true => simp [CacheEntry.isExpired_of_le le dead]

theorem peek_eq (cache : Cache) (now : Nat) (name : CacheName) :
    (match cache.peek now name.scope name.key with
      | .live value => some value
      | _ => none) = (cache.live (name.filed cache.delimiter) now).map CacheEntry.value := by
  have filed : cache.keyOf name.scope name.key = name.filed cache.delimiter := rfl
  rw [peek, live, filed]
  cases cache.entries.get? (name.filed cache.delimiter) with
  | none => rfl
  | some entry => cases dead : entry.isExpired now <;> simp [Option.filter_some, dead]

/-- A reading takes away at most what has expired. -/
theorem live_get (cache : Cache) (now : Nat) (name : CacheName) (text : String) :
    (cache.get now name.scope name.key).1.live text now = cache.live text now := by
  rw [get]
  split
  · rfl
  · rfl
  next dead =>
    rw [peek] at dead
    split at dead
    · cases dead
    next entry found =>
      split at dead
      next expired =>
        simp only [evict, found, expired, if_true, live, Table.get?_erase]
        split
        next same =>
          rw [same, found, Option.filter_some]
          simp [expired]
        · rfl
      · cases dead

theorem value_get (cache : Cache) (now : Nat) (name : CacheName) :
    (cache.get now name.scope name.key).2 =
      (cache.live (name.filed cache.delimiter) now).map CacheEntry.value := by
  rw [← peek_eq, get]
  split <;> simp_all

theorem live_set (cache : Cache) (now : Nat) (name : CacheName) (value : String)
    (lifetime : Option Nat) (text : String) :
    (cache.set now name.scope name.key value lifetime).live text now =
      if text = name.filed cache.delimiter then
        (some ⟨value, lifetime.map fun time => now + time⟩ : Option CacheEntry).filter
          fun entry => !entry.isExpired now
      else cache.live text now := by
  have filed : cache.keyOf name.scope name.key = name.filed cache.delimiter := rfl
  simp only [set, live, Table.get?_insert, filed, Table.get?_filter]
  split
  · rfl
  · rw [Option.filter_filter]
    simp

theorem live_delete (cache : Cache) (name : CacheName) (text : String) (now : Nat) :
    (cache.delete name.scope name.key).live text now =
      if text = name.filed cache.delimiter then none else cache.live text now := by
  have filed : cache.keyOf name.scope name.key = name.filed cache.delimiter := rfl
  simp only [delete, live, Table.get?_erase, filed]
  split <;> rfl

theorem serve_reply (cache : Cache) (call : CacheCall) :
    (cache.serve call).2 =
      call.request.reply (cache.live (call.name.filed cache.delimiter) call.now) := by
  rw [serve]
  cases call.request with
  | get => exact congrArg CacheReply.value (cache.value_get call.now call.name)
  | contains =>
      simp only [contains, value_get, CacheRequest.reply, Option.isSome_map]
  | set value lifetime => rfl
  | delete => rfl
  | take => exact congrArg CacheReply.value (cache.peek_eq call.now call.name)

/-- A call changes what is live under its own text and nowhere else. -/
theorem live_serve (cache : Cache) (call : CacheCall) (text : String) :
    (cache.serve call).1.live text call.now =
      if text = call.name.filed cache.delimiter then
        call.request.leaves call.now (cache.live text call.now)
      else cache.live text call.now := by
  rw [serve]
  cases call.request with
  | get =>
      refine (cache.live_get call.now call.name text).trans ?_
      split <;> rfl
  | contains =>
      refine (cache.live_get call.now call.name text).trans ?_
      split <;> rfl
  | set value lifetime => exact cache.live_set call.now call.name value lifetime text
  | delete => exact cache.live_delete call.name text call.now
  | take => exact cache.live_delete call.name text call.now

@[simp] theorem delimiter_evict (cache : Cache) (now : Nat) (name : CacheName) :
    (cache.evict now name.scope name.key).delimiter = cache.delimiter := by
  rw [evict]
  split
  · rfl
  · split <;> rfl

@[simp] theorem delimiter_serve (cache : Cache) (call : CacheCall) :
    (cache.serve call).1.delimiter = cache.delimiter := by
  have reading : (cache.get call.now call.name.scope call.name.key).1.delimiter =
      cache.delimiter := by
    rw [get]
    split
    · rfl
    · rfl
    · exact cache.delimiter_evict call.now call.name
  rw [serve]
  cases call.request with
  | get => exact reading
  | contains => exact reading
  | set value lifetime => rfl
  | delete => rfl
  | take => rfl

@[simp] theorem delimiter_after (cache : Cache) (calls : List CacheCall) :
    (cache.after calls).delimiter = cache.delimiter := by
  induction calls generalizing cache with
  | nil => rfl
  | cons call rest ih => rw [after, ih, delimiter_serve]

/-! ## Calls for other names -/

theorem live_serve_elsewhere {call : CacheCall} (kept : cache.delimiter = delimiter)
    (elsewhere : call.name.filed delimiter ≠ text) :
    (cache.serve call).1.live text call.now = cache.live text call.now := by
  rw [live_serve, kept, if_neg (Ne.symm elsewhere)]

theorem live_after {calls : List CacheCall} (kept : cache.delimiter = delimiter)
    (timely : Timely calls) (past : ∀ call ∈ calls, call.now ≤ now)
    (elsewhere : ∀ call ∈ calls, call.name.filed delimiter ≠ text) :
    (cache.after calls).live text now = cache.live text now := by
  induction calls generalizing cache with
  | nil => rfl
  | cons call rest ih =>
      obtain ⟨early, pastRest⟩ := List.forall_mem_cons.mp past
      obtain ⟨away, awayRest⟩ := List.forall_mem_cons.mp elsewhere
      have served : (cache.serve call).1.delimiter = delimiter := by rw [delimiter_serve, kept]
      calc (cache.after (call :: rest)).live text now
          = (cache.serve call).1.live text now :=
            ih served (List.pairwise_cons.mp timely).2 pastRest awayRest
        _ = ((cache.serve call).1.live text call.now).filter fun entry => !entry.isExpired now :=
            live_of_le early _ text
        _ = (cache.live text call.now).filter fun entry => !entry.isExpired now := by
            rw [live_serve_elsewhere kept away]
        _ = cache.live text now := (live_of_le early cache text).symm

/-- Two caches that agree on a name now give the same answers for it, also if one of them is
spared the calls for a name that is filed elsewhere. -/
theorem answersTo_eq {name foreign : CacheName} {calls : List CacheCall}
    (kept : cache.delimiter = delimiter) (keptOther : other.delimiter = delimiter)
    (elsewhere : foreign.filed delimiter ≠ name.filed delimiter)
    (agree : cache.live (name.filed delimiter) now = other.live (name.filed delimiter) now)
    (future : ∀ call ∈ calls, now ≤ call.now) (timely : Timely calls) :
    cache.answersTo name calls =
      other.answersTo name (calls.filter fun call => call.name ≠ foreign) := by
  induction calls generalizing cache other now with
  | nil => rfl
  | cons call rest ih =>
      obtain ⟨later, _⟩ := List.forall_mem_cons.mp future
      obtain ⟨futureRest, timelyRest⟩ := List.pairwise_cons.mp timely
      have agreeLater : cache.live (name.filed delimiter) call.now =
          other.live (name.filed delimiter) call.now := by
        rw [live_of_le later cache, live_of_le later other, agree]
      have served : (cache.serve call).1.delimiter = delimiter := by rw [delimiter_serve, kept]
      by_cases spared : call.name = foreign
      · have unasked : call.name ≠ name := by
          rintro asked
          exact elsewhere (by rw [← spared, asked])
        have unchanged : (cache.serve call).1.live (name.filed delimiter) call.now =
            other.live (name.filed delimiter) call.now :=
          (live_serve_elsewhere kept (by rw [spared]; exact elsewhere)).trans agreeLater
        rw [List.filter_cons_of_neg (by simpa using spared), answersTo]
        simp only [if_neg unasked]
        exact ih served keptOther unchanged futureRest timelyRest
      · have servedOther : (other.serve call).1.delimiter = delimiter := by
          rw [delimiter_serve, keptOther]
        have agreeAfter : (cache.serve call).1.live (name.filed delimiter) call.now =
            (other.serve call).1.live (name.filed delimiter) call.now := by
          rw [live_serve, live_serve, kept, keptOther, agreeLater]
        have rest := ih served servedOther agreeAfter futureRest timelyRest
        rw [List.filter_cons_of_pos (by simpa using spared), answersTo, answersTo]
        simp only [rest]
        by_cases asked : call.name = name
        · have reply : (cache.serve call).2 = (other.serve call).2 := by
            rw [serve_reply, serve_reply, kept, keptOther, asked, agreeLater]
          simp only [if_pos asked, reply]
        · simp only [if_neg asked]

/-- Whatever the cache holds, the calls for one name change no answer for the other. -/
def Isolates (delimiter : String) (foreign name : CacheName) : Prop :=
  ∀ cache : Cache, cache.delimiter = delimiter → ∀ calls, Timely calls →
    cache.answersTo name calls =
      cache.answersTo name (calls.filter fun call => call.name ≠ foreign)

theorem not_isolates_of_filed_eq {foreign name : CacheName} (apart : foreign ≠ name)
    (same : foreign.filed delimiter = name.filed delimiter) :
    ¬ Isolates delimiter foreign name := by
  intro isolates
  have answers := isolates { delimiter := delimiter } rfl
    [⟨0, foreign, .set "" none⟩, ⟨0, name, .get⟩] (by simp [Timely])
  have found : ({ delimiter := delimiter } : Cache).answersTo name
      [⟨0, foreign, .set "" none⟩, ⟨0, name, .get⟩] = [.value (some "")] := by
    have written := live_serve { delimiter := delimiter } ⟨0, foreign, .set "" none⟩
      (name.filed delimiter)
    rw [if_pos same.symm] at written
    simp only [answersTo, if_neg apart, if_true, serve_reply, delimiter_serve, written]
    rfl
  have missed : ({ delimiter := delimiter } : Cache).answersTo name [⟨0, name, .get⟩] =
      [.value none] := by
    simp only [answersTo, if_true, serve_reply]
    rfl
  rw [found, List.filter_cons_of_neg (by simp), List.filter_cons_of_pos (by simpa using apart.symm),
    List.filter_nil, missed] at answers
  cases answers

end Cache

/-! ## The signal -/

theorem Signal.read_eq (signal : Signal) (access : CacheAccess) (now : Nat) :
    (signal.read access now).2 =
      match access.refused? with
      | some error => .error (.cache error)
      | none =>
          Signal.interpret
            ((access.memory.live (signal.name.filed access.memory.delimiter) now).map
              CacheEntry.value) := by
  rw [read, CacheAccess.get, CacheAccess.call]
  cases access.refused? with
  | some error => rfl
  | none => exact congrArg interpret (access.memory.value_get now signal.name)

/-- The calls for one name are never noticed by another, exactly if the two are filed apart;
they are not if one namespace runs into the other, which takes one that holds the beginning of
the delimiter.  A signal notices no call for a name that is filed elsewhere. -/
theorem names_are_isolated_unless_one_runs_into_the_other (delimiter : String)
    (foreign name : CacheName) (apart : foreign ≠ name) :
    (Cache.Isolates delimiter foreign name ↔
      ¬ (foreign.RunsInto delimiter name ∨ name.RunsInto delimiter foreign)) ∧
      (∀ first, delimiter.toList.head? = some first → first ∉ foreign.scope.toList →
        first ∉ name.scope.toList → Cache.Isolates delimiter foreign name) ∧
      ∀ (signal : Signal) (access : CacheAccess) (calls : List CacheCall) (now : Nat),
        access.memory.delimiter = delimiter → Timely calls →
        (∀ call ∈ calls, call.now ≤ now) →
        (∀ call ∈ calls, call.name ≠ signal.name ∧
          ¬ (call.name.RunsInto delimiter signal.name ∨
            signal.name.RunsInto delimiter call.name)) →
          (signal.read { access with memory := access.memory.after calls } now).2 =
            (signal.read access now).2 := by
  have isolates : ¬ (foreign.RunsInto delimiter name ∨ name.RunsInto delimiter foreign) →
      Cache.Isolates delimiter foreign name := by
    intro separate cache kept calls timely
    have elsewhere : foreign.filed delimiter ≠ name.filed delimiter :=
      fun same => separate ((CacheName.filed_eq_iff apart).mp same)
    exact Cache.answersTo_eq kept kept elsewhere rfl (fun call _ => Nat.zero_le call.now) timely
  refine ⟨⟨?_, isolates⟩, ?_, ?_⟩
  · intro isolated runs
    exact Cache.not_isolates_of_filed_eq apart ((CacheName.filed_eq_iff apart).mpr runs) isolated
  · intro first begins clear clearName
    apply isolates
    rintro (runs | runs)
    · exact clearName (runs.mem_scope begins)
    · exact clear (runs.mem_scope begins)
  · intro signal access calls now kept timely past separate
    have elsewhere : ∀ call ∈ calls, call.name.filed delimiter ≠ signal.name.filed delimiter := by
      intro call member same
      obtain ⟨different, unmixed⟩ := separate call member
      exact unmixed ((CacheName.filed_eq_iff different).mp same)
    have unnoticed := Cache.live_after kept timely past elsewhere
    have refusals : ({ access with memory := access.memory.after calls } : CacheAccess).refused? =
        access.refused? := rfl
    rw [Signal.read_eq, Signal.read_eq, refusals]
    simp only [Cache.delimiter_after, kept, unnoticed]

/-- A namespace that holds the delimiter need not run into another. -/
theorem rooms_of_a_namespace_are_isolated :
    (⟨"role:sync", "k"⟩ : CacheName) ≠ ⟨"role", "sync:casbin"⟩ ∧
      Cache.Isolates ":" ⟨"role:sync", "k"⟩ ⟨"role", "sync:casbin"⟩ := by
  have apart : (⟨"role:sync", "k"⟩ : CacheName) ≠ ⟨"role", "sync:casbin"⟩ := by decide
  refine ⟨apart, (names_are_isolated_unless_one_runs_into_the_other ":" _ _ apart).1.mpr ?_⟩
  rw [← CacheName.filed_eq_iff apart]
  decide

/-- A namespace that ends in the beginning of the key of the signal: what is set there is read
as the marker. -/
theorem signal_reads_what_another_namespace_holds :
    (⟨"role:sync", "casbin"⟩ : CacheName) ≠ ({} : Signal).name ∧
      ¬ Cache.Isolates ":" ⟨"role:sync", "casbin"⟩ ({} : Signal).name ∧
      (({} : Signal).read {} 0).2 = .ok none ∧
      (({} : Signal).read
        { memory := Cache.after {} [⟨0, ⟨"role:sync", "casbin"⟩, .set "5" none⟩] } 0).2 =
          .ok (some 5) := by
  have apart : (⟨"role:sync", "casbin"⟩ : CacheName) ≠ ({} : Signal).name := by decide
  exact ⟨apart, Cache.not_isolates_of_filed_eq apart (by decide), rfl, rfl⟩

end RoleGrants
