import RoleGrants.Cache.Basic
import RoleGrants.Store.Queries

/-! # The cache as its callers see it

A cache in memory, or one in a database that cannot be reached.  A refusal that
is laid over the cache answers every call, the check of health among them. -/

set_option autoImplicit false

namespace RoleGrants

structure CacheAccess where
  memory : Cache := {}
  backend : Backend := .memory
  refusal : Option CacheError := none

namespace CacheAccess

def serverless : CacheError :=
  .unavailable DatabaseError.unreachable.message

def refused? (access : CacheAccess) : Option CacheError :=
  match access.refusal with
  | some error => some error
  | none =>
      match access.backend with
      | .memory => none
      | .postgres => some serverless

def call {α : Type} (access : CacheAccess) (action : Cache → Cache × α) :
    CacheAccess × Except CacheError α :=
  match access.refused? with
  | some error => (access, .error error)
  | none =>
      let (memory, answer) := action access.memory
      ({ access with memory := memory }, .ok answer)

def get (access : CacheAccess) (now : Nat) (scope key : String) :
    CacheAccess × Except CacheError (Option String) :=
  access.call fun cache => cache.get now scope key

def contains (access : CacheAccess) (now : Nat) (scope key : String) :
    CacheAccess × Except CacheError Bool :=
  access.call fun cache => cache.contains now scope key

def set (access : CacheAccess) (now : Nat) (scope key value : String) (lifetime : Option Nat) :
    CacheAccess × Except CacheError Unit :=
  access.call fun cache => (cache.set now scope key value lifetime, ())

def delete (access : CacheAccess) (scope key : String) : CacheAccess × Except CacheError Unit :=
  access.call fun cache => (cache.delete scope key, ())

def take (access : CacheAccess) (now : Nat) (scope key : String) :
    CacheAccess × Except CacheError (Option String) :=
  access.call fun cache => cache.take now scope key

def health (access : CacheAccess) : Except CacheError Unit :=
  match access.refused? with
  | some error => .error error
  | none => .ok ()

end CacheAccess

end RoleGrants
