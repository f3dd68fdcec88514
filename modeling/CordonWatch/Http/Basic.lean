import CordonWatch.Http.Target

/-!
# Answering requests

A service is a list of pages. A page is found by its path alone, which must
agree to the letter; a query after it is ignored. Pages can be fetched, or
asked for without their body, and nothing else.
-/

namespace CordonWatch.Http

/-- A request: the method, and what is asked for. -/
structure Request where
  method : String
  target : String
  deriving DecidableEq, Repr, Inhabited

/-- An answer, with the headers that are told. -/
structure Response where
  status : Nat
  contentType : Option String := none
  allow : Option String := none
  body : String := ""
  deriving DecidableEq, Repr, Inhabited

/-- What is found under a path. -/
structure Page where
  path : String
  status : Nat := 200
  contentType : String := "text/plain; charset=utf-8"
  body : String
  deriving DecidableEq, Repr, Inhabited

/-- The path that is asked for. -/
def Request.path (r : Request) : String := Target.path r.target

/-- The answer to a request for a page. -/
def Page.answer (p : Page) (method : String) : Response :=
  match method with
  | "GET" => { status := p.status, contentType := some p.contentType, body := p.body }
  | "HEAD" => { status := p.status, contentType := some p.contentType }
  | _ => { status := 405, allow := some "GET,HEAD" }

/-- The answer of a service to a request. -/
def respond (pages : List Page) (r : Request) : Response :=
  match pages.find? (·.path == r.path) with
  | some page => page.answer r.method
  | none => { status := 404 }

end CordonWatch.Http
