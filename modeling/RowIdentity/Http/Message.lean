import RowIdentity.Json.Basic
import RowIdentity.Text.Percent

/-!
# HTTP requests and responses

* `HttpRequest` — a request: its method, its target and its body
* `HttpResponse` — a response; a request that is refused before any handler sees it is answered
  in words, which are left out
* `Target` — the path and the query of a target
* `isJsonType` — whether a content type announces JSON
-/

namespace RowIdentity

/-- A request. -/
structure HttpRequest where
  method : String
  target : String
  body : String
  contentType : Option String
deriving Repr

/-- The body of a response. -/
inductive HttpBody where
  | empty
  | json (j : Json)
  /-- A refusal in words. -/
  | words

/-- A response. -/
structure HttpResponse where
  status : Nat
  body : HttpBody

def HttpResponse.bare (status : Nat) : HttpResponse := ⟨status, .empty⟩

def HttpResponse.refusal (status : Nat) : HttpResponse := ⟨status, .words⟩

/-- The path of a target as it is written, and its query. -/
structure Target where
  path : String
  query : String
deriving DecidableEq, Repr

/-- Splits a target; a fragment is dropped. -/
def Target.parse (s : String) : Target :=
  let cs := s.toList.takeWhile (· ≠ '#')
  ⟨String.ofList (cs.takeWhile (· ≠ '?')), String.ofList (cs.dropWhile (· ≠ '?')).tail⟩

/-- The segments between the slashes of a path; the first is what stands before the first one. -/
def Target.segments (t : Target) : List String :=
  (Percent.splitAll '/' t.path.toList).map String.ofList

namespace MediaType

/-- A character of a token. -/
def isToken (c : Char) : Bool :=
  (c.isAlphanum || "!#$%&'*+-.^_|~".toList.contains c || c.toNat = 96) && c.toNat < 128

/-- Parameters behind a semicolon: names with a value, which may be quoted. -/
def parametersOk : Nat → List Char → Bool
  | 0, _ => false
  | fuel + 1, cs =>
    match cs.dropWhile (· = ' ') with
    | [] => true
    | cs =>
      let name := cs.takeWhile fun c => isToken c
      if name.isEmpty then false else
      match cs.drop name.length with
      | '=' :: '"' :: rest =>
        let value := rest.takeWhile (· ≠ '"')
        match rest.drop value.length with
        | _ :: rest =>
          if value.isEmpty then false else
          match rest.dropWhile (· = ' ') with
          | [] => true
          | ';' :: rest => parametersOk fuel rest
          | _ => false
        | [] => false
      | '=' :: rest =>
        let value := rest.takeWhile fun c => isToken c
        match rest.drop value.length with
        | [] => true
        | ';' :: rest => if value.isEmpty then false else parametersOk fuel rest
        | _ => false
      | _ => false

/-- Whether a subtype is `json` or ends in `+json`. -/
def isJsonSubtype (cs : List Char) : Bool :=
  cs = "json".toList || (5 < cs.length && cs.drop (cs.length - 5) = "+json".toList)

end MediaType

open MediaType in
/-- Whether a content type is `application/json` or `application/…+json`, in any case and with any
parameters. -/
def isJsonType (s : String) : Bool :=
  let cs := s.toList
  let kind := cs.takeWhile fun c => isToken c
  match cs.drop kind.length with
  | '/' :: rest =>
    let subtype := rest.takeWhile fun c => isToken c
    kind.map Char.toLower = "application".toList && isJsonSubtype (subtype.map Char.toLower) &&
      match rest.drop subtype.length with
      | [] => true
      | ';' :: rest => parametersOk (rest.length + 1) rest
      | _ => false
  | _ => false

end RowIdentity
