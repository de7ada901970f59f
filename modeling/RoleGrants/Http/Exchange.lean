import RoleGrants.Document

/-! # Requests and responses

A request names a method and a target; a response has a status and a body, and
after a wrong method the methods that are allowed. -/

set_option autoImplicit false

namespace RoleGrants

structure HttpRequest where
  method : String
  target : String
  contentType : Option String := none
  body : String := ""
  deriving DecidableEq, Repr, Inhabited

inductive HttpBody where
  | json (document : Document)
  | text (value : String)

structure HttpResponse where
  status : Nat
  body : HttpBody
  allow : Option String := none

namespace HttpRequest

/-- The path of the target: a scheme and a host before it and a query behind it do not count. -/
def path (request : HttpRequest) : String :=
  let isPath := fun (character : Char) => character != '?' && character != '#'
  let characters := request.target.toList.takeWhile isPath
  if characters.head? = some '/' then String.ofList characters
  else
    let rec afterScheme : List Char → List Char
      | ':' :: '/' :: '/' :: rest => rest.dropWhile fun character => character != '/'
      | _ :: rest => afterScheme rest
      | [] => []
    let place := afterScheme characters
    if place.isEmpty then "/" else String.ofList place

end HttpRequest

namespace HttpResponse

def ofJson (status : Nat) (document : Document) : HttpResponse :=
  ⟨status, .json document, none⟩

def ofText (status : Nat) (text : String) : HttpResponse :=
  ⟨status, .text text, none⟩

def bodiless (response : HttpResponse) : HttpResponse :=
  { response with body := .text "" }

end HttpResponse

end RoleGrants
