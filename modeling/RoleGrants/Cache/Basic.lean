import RoleGrants.Cache.Error
import RoleGrants.Table

/-! # The cache in memory

Values under scoped keys, some of them until an instant.  Instants are counted
in milliseconds.  An entry is expired from its instant on; it is not seen any
more, and it is removed by the next read of its key or the next write of any.

A read takes two locks one after the other: `peek` looks, and `evict` removes
what `peek` found expired, unless it has been replaced in between. -/

set_option autoImplicit false

namespace RoleGrants

structure CacheEntry where
  value : String
  expiresAt : Option Nat := none
  deriving DecidableEq, Repr, Inhabited

def CacheEntry.isExpired (entry : CacheEntry) (now : Nat) : Bool :=
  match entry.expiresAt with
  | some instant => instant ≤ now
  | none => false

def scopedKey (delimiter scope key : String) : String :=
  scope ++ delimiter ++ key

structure Cache where
  delimiter : String := ":"
  entries : Table CacheEntry := Table.empty
  deriving Inhabited

namespace Cache

def keyOf (cache : Cache) (scope key : String) : String :=
  scopedKey cache.delimiter scope key

inductive Peek where
  | absent
  | live (value : String)
  | expired
  deriving DecidableEq, Repr

def peek (cache : Cache) (now : Nat) (scope key : String) : Peek :=
  match cache.entries.get? (cache.keyOf scope key) with
  | none => .absent
  | some entry => if entry.isExpired now then .expired else .live entry.value

def evict (cache : Cache) (now : Nat) (scope key : String) : Cache :=
  let entryKey := cache.keyOf scope key
  match cache.entries.get? entryKey with
  | none => cache
  | some entry =>
      if entry.isExpired now then { cache with entries := cache.entries.erase entryKey } else cache

def get (cache : Cache) (now : Nat) (scope key : String) : Cache × Option String :=
  match cache.peek now scope key with
  | .absent => (cache, none)
  | .live value => (cache, some value)
  | .expired => (cache.evict now scope key, none)

def contains (cache : Cache) (now : Nat) (scope key : String) : Cache × Bool :=
  let (after, value) := cache.get now scope key
  (after, value.isSome)

/-- Every expired entry goes, whatever its key. -/
def set (cache : Cache) (now : Nat) (scope key value : String) (lifetime : Option Nat) : Cache :=
  let entry : CacheEntry := ⟨value, lifetime.map fun time => now + time⟩
  let live := cache.entries.filter fun _ entry => !entry.isExpired now
  { cache with entries := live.insert (cache.keyOf scope key) entry }

def delete (cache : Cache) (scope key : String) : Cache :=
  { cache with entries := cache.entries.erase (cache.keyOf scope key) }

def take (cache : Cache) (now : Nat) (scope key : String) : Cache × Option String :=
  let value := match cache.peek now scope key with
    | .live value => some value
    | _ => none
  (cache.delete scope key, value)

/-- The number of entries held, expired ones among them. -/
def size (cache : Cache) : Nat :=
  cache.entries.size

end Cache

end RoleGrants
